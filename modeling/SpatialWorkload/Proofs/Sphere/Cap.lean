import Mathlib.Analysis.Convex.SpecificFunctions.Deriv
import Mathlib.Topology.Algebra.Module.ModuleTopology
import SpatialWorkload.Proofs.Sphere.Distance

/-!
# Caps of the globe on a flat map

All places within some angle of a centre make a cap.  On the map of latitude and longitude a
cap that reaches no pole is convex: how far it extends in longitude at a latitude is the angle
whose cosine is a convex function of the latitude.
-/

namespace SpatialWorkload.Sphere

/-- What a latitude contributes to a cap about a centre of a given sine. -/
noncomputable def profile (sine least latitude : ℝ) : ℝ :=
  (sine * Real.sin latitude - least) / Real.cos latitude

theorem hasDerivAt_profile (sine least : ℝ) {latitude : ℝ} (off : Real.cos latitude ≠ 0) :
    HasDerivAt (profile sine least)
      ((sine - least * Real.sin latitude) / Real.cos latitude ^ 2) latitude := by
  have above : HasDerivAt (fun x => sine * Real.sin x - least) (sine * Real.cos latitude)
      latitude := ((Real.hasDerivAt_sin latitude).const_mul sine).sub_const least
  refine (above.div (Real.hasDerivAt_cos latitude) off).congr_deriv ?_
  congr 1
  linear_combination sine * Real.sin_sq_add_cos_sq latitude

theorem hasDerivAt_profile_slope (sine least : ℝ) {latitude : ℝ} (off : Real.cos latitude ≠ 0) :
    HasDerivAt (fun x => (sine - least * Real.sin x) / Real.cos x ^ 2)
      ((2 * sine * Real.sin latitude - least * (1 + Real.sin latitude ^ 2)) /
        Real.cos latitude ^ 3) latitude := by
  have above : HasDerivAt (fun x => sine - least * Real.sin x) (-(least * Real.cos latitude))
      latitude := ((Real.hasDerivAt_sin latitude).const_mul least).const_sub sine
  have below : HasDerivAt (fun x => Real.cos x ^ 2)
      (-(2 * Real.cos latitude * Real.sin latitude)) latitude :=
    ((Real.hasDerivAt_cos latitude).pow 2).congr_deriv (by push_cast; ring)
  refine (above.div below (pow_ne_zero 2 off)).congr_deriv ?_
  rw [div_eq_div_iff (pow_ne_zero 2 (pow_ne_zero 2 off)) (pow_ne_zero 3 off)]
  linear_combination (-least * Real.cos latitude ^ 4) * Real.sin_sq_add_cos_sq latitude

/-- Off the poles a profile is concave, if the cap reaches no pole. -/
theorem concaveOn_profile {sine least : ℝ} (reach : |sine| ≤ least) :
    ConcaveOn ℝ (Set.Ioo (-(Real.pi / 2)) (Real.pi / 2)) (profile sine least) := by
  have off : ∀ latitude ∈ Set.Ioo (-(Real.pi / 2)) (Real.pi / 2), 0 < Real.cos latitude :=
    fun latitude inside => Real.cos_pos_of_mem_Ioo inside
  refine concaveOn_of_hasDerivWithinAt2_nonpos (convex_Ioo _ _)
    (fun x inside => (hasDerivAt_profile _ _ (off x inside).ne').continuousAt.continuousWithinAt)
    (fun x inside => (hasDerivAt_profile _ _ ?_).hasDerivWithinAt)
    (fun x inside => (hasDerivAt_profile_slope _ _ ?_).hasDerivWithinAt) fun x inside => ?_
  · exact (off x (interior_subset inside)).ne'
  · exact (off x (interior_subset inside)).ne'
  · have cosine := off x (interior_subset inside)
    have product : sine * Real.sin x ≤ least * |Real.sin x| :=
      calc sine * Real.sin x ≤ |sine * Real.sin x| := le_abs_self _
        _ = |sine| * |Real.sin x| := abs_mul _ _
        _ ≤ least * |Real.sin x| := mul_le_mul_of_nonneg_right reach (abs_nonneg _)
    have square := mul_nonneg ((abs_nonneg sine).trans reach) (sq_nonneg (1 - |Real.sin x|))
    rw [sub_sq, sq_abs] at square
    refine div_nonpos_of_nonpos_of_nonneg ?_ (pow_pos cosine 3).le
    linarith

theorem angleCosine_ninety (latitude longitude other : ℝ) :
    angleCosine latitude longitude 90 other = Real.sin (radians latitude) := by
  rw [angleCosine, radians_ninety, Real.sin_pi_div_two, Real.cos_pi_div_two]
  ring

theorem angleCosine_neg_ninety (latitude longitude other : ℝ) :
    angleCosine latitude longitude (-90) other = -Real.sin (radians latitude) := by
  rw [angleCosine, radians_neg, radians_ninety, Real.sin_neg, Real.cos_neg, Real.sin_pi_div_two,
    Real.cos_pi_div_two]
  ring

/-- The places off the poles and at most a quarter turn away that are within an angle. -/
def cap (latitude longitude least : ℝ) : Set (ℝ × ℝ) :=
  {place | |place.1| < 90 ∧ |place.2 - longitude| ≤ 90 ∧
    least ≤ angleCosine latitude longitude place.1 place.2}

theorem mem_Ioo_of_abs_lt {latitude : ℝ} (off : |latitude| < 90) :
    radians latitude ∈ Set.Ioo (-(Real.pi / 2)) (Real.pi / 2) := by
  rw [Set.mem_Ioo, ← abs_lt, abs_radians, ← radians_ninety, radians_lt_radians]
  exact off

theorem mem_Icc_of_abs_le {longitude : ℝ} (near : |longitude| ≤ 90) :
    radians longitude ∈ Set.Icc (-(Real.pi / 2)) (Real.pi / 2) := by
  rw [Set.mem_Icc, ← abs_le, abs_radians, ← radians_ninety, radians_le_radians]
  exact near

/-- Within an angle are the longitudes whose cosine outweighs the profile of the latitude. -/
theorem le_angleCosine_iff {latitude longitude least : ℝ} {place : ℝ × ℝ}
    (off : |place.1| < 90) :
    least ≤ angleCosine latitude longitude place.1 place.2 ↔
      0 ≤ profile (Real.sin (radians latitude)) least (radians place.1) +
        Real.cos (radians latitude) * Real.cos (radians (place.2 - longitude)) := by
  have cosine := Real.cos_pos_of_mem_Ioo (mem_Ioo_of_abs_lt off)
  have split : profile (Real.sin (radians latitude)) least (radians place.1) +
      Real.cos (radians latitude) * Real.cos (radians (place.2 - longitude)) =
        (angleCosine latitude longitude place.1 place.2 - least) / Real.cos (radians place.1) := by
    rw [profile, angleCosine]
    field_simp
    ring
  rw [split, le_div_iff₀ cosine, zero_mul, sub_nonneg]

/-- A cap that reaches no pole is convex. -/
theorem convex_cap {latitude : ℝ} (longitude : ℝ) {least : ℝ}
    (centre : 0 ≤ Real.cos (radians latitude)) (reach : |Real.sin (radians latitude)| ≤ least) :
    Convex ℝ (cap latitude longitude least) := by
  rintro first ⟨firstOff, firstNear, firstWithin⟩ second ⟨secondOff, secondNear, secondWithin⟩
    a b aNonneg bNonneg whole
  have latitudes : radians (a • first + b • second).1 =
      a • radians first.1 + b • radians second.1 := by
    simp only [Prod.fst_add, Prod.smul_fst, smul_eq_mul, radians]
    ring
  have turns : (a • first + b • second).2 - longitude =
      a • (first.2 - longitude) + b • (second.2 - longitude) := by
    simp only [Prod.snd_add, Prod.smul_snd, smul_eq_mul]
    linear_combination longitude * whole
  have longitudes : radians ((a • first + b • second).2 - longitude) =
      a • radians (first.2 - longitude) + b • radians (second.2 - longitude) := by
    rw [turns]
    simp only [smul_eq_mul, radians]
    ring
  have off : |(a • first + b • second).1| < 90 :=
    abs_lt.mpr (convex_Ioo (-90 : ℝ) 90 (abs_lt.mp firstOff) (abs_lt.mp secondOff) aNonneg
      bNonneg whole)
  refine ⟨off, ?_, ?_⟩
  · rw [turns]
    exact abs_le.mpr (convex_Icc (-90 : ℝ) 90 (abs_le.mp firstNear) (abs_le.mp secondNear)
      aNonneg bNonneg whole)
  · rw [le_angleCosine_iff firstOff] at firstWithin
    rw [le_angleCosine_iff secondOff] at secondWithin
    rw [le_angleCosine_iff off, latitudes, longitudes]
    have profiles := (concaveOn_profile reach).2 (mem_Ioo_of_abs_lt firstOff)
      (mem_Ioo_of_abs_lt secondOff) aNonneg bNonneg whole
    have cosines := strictConcaveOn_cos_Icc.concaveOn.2 (mem_Icc_of_abs_le firstNear)
      (mem_Icc_of_abs_le secondNear) aNonneg bNonneg whole
    simp only [smul_eq_mul] at profiles cosines ⊢
    have scaled := mul_le_mul_of_nonneg_left cosines centre
    have firstShare := mul_nonneg aNonneg firstWithin
    have secondShare := mul_nonneg bNonneg secondWithin
    linarith

end SpatialWorkload.Sphere
