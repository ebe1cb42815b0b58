import Mathlib.Analysis.InnerProductSpace.PiL2
import Mathlib.Analysis.SpecialFunctions.Trigonometric.Angle
import Mathlib.Analysis.SpecialFunctions.Trigonometric.Complex
import Mathlib.Geometry.Euclidean.Angle.Unoriented.TriangleInequality
import SpatialWorkload.Proofs.Sphere.Distance

/-!
# Directions from the centre of the globe

A coordinate denotes a place, and the place is a unit vector from the centre of the globe.
The central angle of two coordinates is the angle between their vectors, so distances are a
metric on places.
-/

namespace SpatialWorkload.Sphere

open InnerProductGeometry (angle)

noncomputable def direction (latitude longitude : ℝ) : EuclideanSpace ℝ (Fin 3) :=
  !₂[Real.cos (radians latitude) * Real.cos (radians longitude),
    Real.cos (radians latitude) * Real.sin (radians longitude), Real.sin (radians latitude)]

theorem inner_direction (latA lonA latB lonB : ℝ) :
    inner ℝ (direction latA lonA) (direction latB lonB) = angleCosine latA lonA latB lonB := by
  simp only [direction, PiLp.inner_apply, Fin.sum_univ_three, RCLike.inner_apply, conj_trivial,
    Matrix.cons_val]
  rw [angleCosine, radians_sub, Real.cos_sub]
  ring

theorem angleCosine_self (latitude longitude : ℝ) :
    angleCosine latitude longitude latitude longitude = 1 := by
  rw [angleCosine, sub_self, radians_zero, Real.cos_zero, mul_one, ← sq, ← sq,
    Real.sin_sq_add_cos_sq]

@[simp]
theorem norm_direction (latitude longitude : ℝ) : ‖direction latitude longitude‖ = 1 := by
  have square : ‖direction latitude longitude‖ ^ 2 = 1 := by
    rw [← real_inner_self_eq_norm_sq, inner_direction, angleCosine_self]
  exact (pow_eq_one_iff_of_nonneg (norm_nonneg _) two_ne_zero).mp square

theorem angle_direction (latA lonA latB lonB : ℝ) :
    angle (direction latA lonA) (direction latB lonB) = centralAngle latA lonA latB lonB := by
  rw [angle, inner_direction, norm_direction, norm_direction, mul_one, div_one, centralAngle]

/-- How two coordinates can denote one place. -/
inductive DenoteSamePlace (latA lonA latB lonB : ℝ) : Prop where
  /-- Whole turns apart. -/
  | turned (turns rounds : ℤ) (latitude : latB = latA + 360 * turns)
      (longitude : lonB = lonA + 360 * rounds)
  /-- The latitude of one is counted on beyond a pole. -/
  | overPole (turns rounds : ℤ) (latitude : latB = 180 - latA + 360 * turns)
      (longitude : lonB = lonA + 180 + 360 * rounds)
  /-- Every longitude meets at a pole. -/
  | atPole (halves turns : ℤ) (pole : latA = 90 + 180 * halves)
      (latitude : latB = latA + 360 * turns)

theorem radians_add_turns (degrees : ℝ) (turns : ℤ) :
    radians (degrees + 360 * turns) = radians degrees + turns * (2 * Real.pi) := by
  rw [radians_add, ← radians_mul, radians_full_turn, mul_comm]

theorem radians_injective : Function.Injective radians := by
  intro a b same
  exact le_antisymm (radians_le_radians.mp same.le) (radians_le_radians.mp same.ge)

theorem direction_eq_iff (latA lonA latB lonB : ℝ) :
    direction latA lonA = direction latB lonB ↔
      Real.cos (radians latA) * Real.cos (radians lonA) =
          Real.cos (radians latB) * Real.cos (radians lonB) ∧
        Real.cos (radians latA) * Real.sin (radians lonA) =
          Real.cos (radians latB) * Real.sin (radians lonB) ∧
        Real.sin (radians latA) = Real.sin (radians latB) := by
  rw [direction, direction, (WithLp.toLp_injective 2).eq_iff]
  simp only [Matrix.vecCons_inj, and_true]

theorem radians_add_half_turn (degrees : ℝ) :
    radians (degrees + 180) = radians degrees + Real.pi := by
  rw [radians_add, radians_half_turn]

theorem radians_supplement (degrees : ℝ) : radians (180 - degrees) = Real.pi - radians degrees := by
  rw [radians_sub, radians_half_turn]

/-- Coordinates of one cosine and one sine are whole turns apart. -/
theorem exists_turns {a b : ℝ} (cosine : Real.cos (radians a) = Real.cos (radians b))
    (sine : Real.sin (radians a) = Real.sin (radians b)) :
    ∃ turns : ℤ, b = a + 360 * turns := by
  obtain ⟨turns, apart⟩ :=
    Real.Angle.angle_eq_iff_two_pi_dvd_sub.mp (Real.Angle.cos_sin_inj cosine.symm sine.symm)
  refine ⟨turns, radians_injective ?_⟩
  rw [radians_add_turns]
  linarith

theorem exists_turns_of_sin_eq {a b : ℝ} (sine : Real.sin (radians a) = Real.sin (radians b)) :
    ∃ turns : ℤ, b = a + 360 * turns ∨ b = 180 - a + 360 * turns := by
  obtain ⟨turns, same | across⟩ := Real.sin_eq_sin_iff.mp sine
  · refine ⟨turns, Or.inl (radians_injective ?_)⟩
    rw [radians_add_turns]
    linarith
  · refine ⟨turns, Or.inr (radians_injective ?_)⟩
    rw [radians_add_turns, radians_supplement]
    linarith

theorem exists_halves_of_cos_eq_zero {latitude : ℝ} (cosine : Real.cos (radians latitude) = 0) :
    ∃ halves : ℤ, latitude = 90 + 180 * halves := by
  obtain ⟨halves, pole⟩ := Real.cos_eq_zero_iff.mp cosine
  refine ⟨halves, radians_injective ?_⟩
  rw [radians_add, radians_ninety, ← radians_mul, radians_half_turn, pole]
  ring

theorem denoteSamePlace_of_direction_eq {latA lonA latB lonB : ℝ}
    (same : direction latA lonA = direction latB lonB) :
    DenoteSamePlace latA lonA latB lonB := by
  obtain ⟨east, north, sine⟩ := (direction_eq_iff _ _ _ _).mp same
  obtain ⟨turns, latitude | latitude⟩ := exists_turns_of_sin_eq sine
  · by_cases pole : Real.cos (radians latA) = 0
    · obtain ⟨halves, half⟩ := exists_halves_of_cos_eq_zero pole
      exact .atPole halves turns half latitude
    · rw [latitude, radians_add_turns, Real.cos_add_int_mul_two_pi] at east north
      obtain ⟨rounds, longitude⟩ := exists_turns (mul_left_cancel₀ pole east)
        (mul_left_cancel₀ pole north)
      exact .turned turns rounds latitude longitude
  · by_cases pole : Real.cos (radians latA) = 0
    · obtain ⟨halves, half⟩ := exists_halves_of_cos_eq_zero pole
      refine .atPole halves (turns - halves) half ?_
      rw [latitude, half]
      push_cast
      ring
    · -- Beyond the pole the cosine of the latitude changes sign, and half a turn takes it back.
      rw [latitude, radians_add_turns, Real.cos_add_int_mul_two_pi, radians_supplement,
        Real.cos_pi_sub] at east north
      have cosine : Real.cos (radians (lonA + 180)) = Real.cos (radians lonB) := by
        rw [radians_add_half_turn, Real.cos_add_pi]
        exact mul_left_cancel₀ pole (by linarith)
      have sine : Real.sin (radians (lonA + 180)) = Real.sin (radians lonB) := by
        rw [radians_add_half_turn, Real.sin_add_pi]
        exact mul_left_cancel₀ pole (by linarith)
      obtain ⟨rounds, longitude⟩ := exists_turns cosine sine
      exact .overPole turns rounds latitude longitude

theorem cos_pole (halves : ℤ) : Real.cos (radians (90 + 180 * halves)) = 0 := by
  refine Real.cos_eq_zero_iff.mpr ⟨halves, ?_⟩
  rw [radians_add, radians_ninety, ← radians_mul, radians_half_turn]
  ring

theorem DenoteSamePlace.direction_eq {latA lonA latB lonB : ℝ}
    (same : DenoteSamePlace latA lonA latB lonB) :
    direction latA lonA = direction latB lonB := by
  rw [direction_eq_iff]
  cases same with
  | turned turns rounds latitude longitude =>
      rw [latitude, longitude, radians_add_turns, radians_add_turns]
      simp only [Real.cos_add_int_mul_two_pi, Real.sin_add_int_mul_two_pi, and_self]
  | overPole turns rounds latitude longitude =>
      rw [latitude, longitude, radians_add_turns, radians_add_turns, radians_add_half_turn,
        radians_supplement]
      simp only [Real.cos_add_int_mul_two_pi, Real.sin_add_int_mul_two_pi, Real.cos_pi_sub,
        Real.sin_pi_sub, Real.cos_add_pi, Real.sin_add_pi, neg_mul_neg, and_self]
  | atPole halves turns pole latitude =>
      rw [latitude, radians_add_turns, Real.cos_add_int_mul_two_pi, Real.sin_add_int_mul_two_pi,
        pole, cos_pole]
      simp only [zero_mul, and_self]

theorem direction_eq_iff_denoteSamePlace (latA lonA latB lonB : ℝ) :
    direction latA lonA = direction latB lonB ↔ DenoteSamePlace latA lonA latB lonB :=
  ⟨denoteSamePlace_of_direction_eq, DenoteSamePlace.direction_eq⟩

theorem direction_add_turn (latitude longitude : ℝ) :
    direction latitude (longitude + 360) = direction latitude longitude := by
  refine (DenoteSamePlace.turned 0 1 ?_ ?_).direction_eq.symm <;> norm_num

theorem distanceKm_eq_angle (latA lonA latB lonB : ℝ) :
    distanceKm latA lonA latB lonB =
      6371 * angle (direction latA lonA) (direction latB lonB) := by
  rw [distanceKm_eq, angle_direction]

theorem distanceKm_mem (latA lonA latB lonB : ℝ) :
    distanceKm latA lonA latB lonB ∈ Set.Icc 0 (6371 * Real.pi) := by
  have nonneg := centralAngle_nonneg latA lonA latB lonB
  have le_pi := centralAngle_le_pi latA lonA latB lonB
  rw [distanceKm_eq]
  constructor <;> linarith

theorem distanceKm_triangle (latA lonA latB lonB latC lonC : ℝ) :
    distanceKm latA lonA latC lonC ≤
      distanceKm latA lonA latB lonB + distanceKm latB lonB latC lonC := by
  simp only [distanceKm_eq_angle, ← mul_add]
  exact mul_le_mul_of_nonneg_left
    (InnerProductGeometry.angle_le_angle_add_angle _ _ _) (by norm_num)

theorem distanceKm_eq_zero_iff (latA lonA latB lonB : ℝ) :
    distanceKm latA lonA latB lonB = 0 ↔ direction latA lonA = direction latB lonB := by
  have cosine := (abs_le.mp (abs_angleCosine_le_one latA lonA latB lonB)).2
  have units : inner ℝ (direction latA lonA) (direction latB lonB) = 1 ↔
      direction latA lonA = direction latB lonB :=
    inner_eq_one_iff_of_norm_eq_one (norm_direction _ _) (norm_direction _ _)
  rw [distanceKm_eq, mul_eq_zero_iff_left (by norm_num), centralAngle, Real.arccos_eq_zero,
    ← units, inner_direction]
  exact ⟨fun least => le_antisymm cosine least, fun equal => equal.ge⟩

/-- The half chord is at most one in exact arithmetic, so that the clamp leaves it alone. -/
theorem min_sqrt_haversine (latA lonA latB lonB : ℝ) :
    Scalar.min (Scalar.sqrt (haversine latA lonA latB lonB)) Scalar.one =
      Scalar.sqrt (haversine latA lonA latB lonB) := by
  have cosine := (abs_le.mp (abs_angleCosine_le_one latA lonA latB lonB)).1
  have small : haversine latA lonA latB lonB ≤ 1 := by
    rw [haversine_real]
    linarith
  rw [Scalar.min_real, Scalar.one_real]
  exact min_eq_left (Real.sqrt_le_one.mpr small)

/--
For all coordinates whatever, the distance is that of the angle between their unit vectors.
So it is a metric on places: it reaches at most round half the globe, does not depend on the
order, is no longer than any detour nor changed by a turn, and is zero exactly between
coordinates of one place.
-/
theorem distance_measures_angle (latA lonA latB lonB : ℝ) :
    (‖direction latA lonA‖ = 1 ∧ ‖direction latB lonB‖ = 1) ∧
    distanceKm latA lonA latB lonB =
      6371 * Real.arccos (inner ℝ (direction latA lonA) (direction latB lonB)) ∧
    distanceKm latA lonA latB lonB ∈ Set.Icc 0 (6371 * Real.pi) ∧
    distanceKm latB lonB latA lonA = distanceKm latA lonA latB lonB ∧
    (∀ latC lonC, distanceKm latA lonA latC lonC ≤
      distanceKm latA lonA latB lonB + distanceKm latB lonB latC lonC) ∧
    (distanceKm latA (lonA + 360) latB lonB = distanceKm latA lonA latB lonB ∧
      distanceKm latA lonA latB (lonB + 360) = distanceKm latA lonA latB lonB) ∧
    (distanceKm latA lonA latB lonB = 0 ↔ direction latA lonA = direction latB lonB) ∧
    (distanceKm latA lonA latB lonB = 0 ↔ DenoteSamePlace latA lonA latB lonB) ∧
    Scalar.min (Scalar.sqrt (haversine latA lonA latB lonB)) Scalar.one =
      Scalar.sqrt (haversine latA lonA latB lonB) := by
  refine ⟨⟨norm_direction _ _, norm_direction _ _⟩, ?_, distanceKm_mem _ _ _ _, ?_,
    distanceKm_triangle latA lonA latB lonB, ⟨?_, ?_⟩, distanceKm_eq_zero_iff _ _ _ _, ?_,
    min_sqrt_haversine _ _ _ _⟩
  · rw [distanceKm_eq, centralAngle, inner_direction]
  · rw [distanceKm_eq_angle, distanceKm_eq_angle, InnerProductGeometry.angle_comm]
  · rw [distanceKm_eq_angle, direction_add_turn, ← distanceKm_eq_angle]
  · rw [distanceKm_eq_angle, direction_add_turn, ← distanceKm_eq_angle]
  · rw [distanceKm_eq_zero_iff, direction_eq_iff_denoteSamePlace]

end SpatialWorkload.Sphere
