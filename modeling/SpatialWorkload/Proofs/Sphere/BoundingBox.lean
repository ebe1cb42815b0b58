import Mathlib.Analysis.Convex.SpecificFunctions.Deriv
import Mathlib.Analysis.Real.Pi.Bounds
import SpatialWorkload.Proofs.Sphere.Distance
import SpatialWorkload.Sphere.BoundingBox
import SpatialWorkload.Store.Memory

/-!
# The box of a circle holds the circle

In exact arithmetic no point of a circle lies outside the circle's bounding box, so a scan
within a distance finds all that is within it.  The latitudes of the box follow from the
angle of the circle.  Its longitudes are those of two meridians that touch the circle; they
are bounded through the latitude farthest from the equator.
-/

namespace SpatialWorkload

namespace Sphere

/-- The sine falls behind the straight line. -/
theorem mul_sin_le_mul_sin {x y : ℝ} (nonneg : 0 ≤ x) (less : x ≤ y) (bounded : y ≤ Real.pi) :
    x * Real.sin y ≤ y * Real.sin x := by
  rcases nonneg.eq_or_lt with rfl | positive
  · simp
  · have above : 0 < y := positive.trans_le less
    have share : x / y ≤ 1 := (div_le_one above).mpr less
    have concave := strictConcaveOn_sin_Icc.concaveOn.2
      (Set.left_mem_Icc.mpr Real.pi_pos.le) (Set.mem_Icc.mpr ⟨above.le, bounded⟩)
      (sub_nonneg.mpr share) (div_nonneg nonneg above.le) (sub_add_cancel 1 (x / y))
    simp only [smul_eq_mul, Real.sin_zero, mul_zero, zero_add, div_mul_cancel₀ x above.ne']
      at concave
    rwa [div_mul_eq_mul_div, div_le_iff₀ above, mul_comm (Real.sin x)] at concave

/-- The tangent of a fraction of an angle is at most the fraction of the tangent. -/
theorem sin_mul_cos_le {share angle : ℝ} (nonneg : 0 ≤ share) (le_one : share ≤ 1)
    (angleNonneg : 0 ≤ angle) (quarter : angle ≤ Real.pi / 2) :
    Real.sin (share * angle) * Real.cos angle ≤
      share * (Real.sin angle * Real.cos (share * angle)) := by
  rcases angleNonneg.eq_or_lt with rfl | positive
  · simp
  · have less : (1 - share) * angle ≤ (1 + share) * angle := by nlinarith
    have bounded : (1 + share) * angle ≤ Real.pi := by nlinarith
    have line := mul_sin_le_mul_sin (mul_nonneg (sub_nonneg.mpr le_one) angleNonneg) less bounded
    have sum : Real.sin ((1 + share) * angle) =
        Real.sin angle * Real.cos (share * angle) + Real.cos angle * Real.sin (share * angle) := by
      rw [add_mul, one_mul, Real.sin_add]
    have difference : Real.sin ((1 - share) * angle) =
        Real.sin angle * Real.cos (share * angle) - Real.cos angle * Real.sin (share * angle) := by
      rw [sub_mul, one_mul, Real.sin_sub]
    rw [sum, difference] at line
    refine le_of_mul_le_mul_left ?_ positive
    linarith

section

variable {latitude angle : ℝ} (nonneg : 0 ≤ latitude) (angleNonneg : 0 ≤ angle)
  (away : latitude + angle < Real.pi / 2)

include nonneg angleNonneg away

theorem cos_add_pos : 0 < Real.cos (latitude + angle) :=
  Real.cos_pos_of_mem_Ioo ⟨by linarith [Real.pi_pos], away⟩

theorem cos_add_sq_le :
    Real.cos (latitude + angle) ^ 2 * Real.cos angle ^ 2 + Real.sin angle ^ 2 ≤
      Real.cos latitude ^ 2 := by
  have least := cos_add_pos nonneg angleNonneg away
  have wide : Real.cos (latitude + angle) ≤ Real.cos (latitude - angle) := by
    rw [← Real.cos_abs (latitude - angle)]
    refine Real.cos_le_cos_of_nonneg_of_le_pi (abs_nonneg _) (by linarith [Real.pi_pos]) ?_
    exact abs_le.mpr ⟨by linarith, by linarith⟩
  have product : Real.cos (latitude + angle) * Real.cos (latitude - angle) =
      Real.cos latitude ^ 2 - Real.sin angle ^ 2 := by
    rw [Real.cos_add, Real.cos_sub]
    linear_combination (Real.cos latitude ^ 2) * Real.sin_sq_add_cos_sq angle -
      (Real.sin angle ^ 2) * Real.sin_sq_add_cos_sq latitude
  have square : Real.cos (latitude + angle) ^ 2 * Real.cos angle ^ 2 ≤
      Real.cos (latitude + angle) ^ 2 :=
    mul_le_of_le_one_right (sq_nonneg _) (Real.cos_sq_le_one angle)
  have grown := mul_le_mul_of_nonneg_left wide least.le
  linarith

/-- A turn by the angle over the least cosine leaves the circle behind. -/
theorem sin_le_cos_mul_sin (quarter : angle / Real.cos (latitude + angle) ≤ Real.pi / 2) :
    Real.sin angle ≤
      Real.cos latitude * Real.sin (angle / Real.cos (latitude + angle)) := by
  have least := cos_add_pos nonneg angleNonneg away
  have room := cos_add_sq_le nonneg angleNonneg away
  have touch : 0 ≤ angle / Real.cos (latitude + angle) := div_nonneg angleNonneg least.le
  have tangent := sin_mul_cos_le least.le (Real.cos_le_one _) touch quarter
  rw [mul_div_cancel₀ angle least.ne'] at tangent
  generalize Real.cos (latitude + angle) = share at tangent touch quarter room ⊢
  generalize angle / share = reach at tangent touch quarter ⊢
  have reachSine : 0 ≤ Real.sin reach :=
    Real.sin_nonneg_of_nonneg_of_le_pi touch (by linarith [Real.pi_pos])
  have reachCosine : 0 ≤ Real.cos reach :=
    Real.cos_nonneg_of_neg_pi_div_two_le_of_le (by linarith [Real.pi_pos]) quarter
  have angleSine : 0 ≤ Real.sin angle :=
    Real.sin_nonneg_of_nonneg_of_le_pi angleNonneg (by linarith [Real.pi_pos])
  have latitudeCosine : 0 ≤ Real.cos latitude :=
    Real.cos_nonneg_of_neg_pi_div_two_le_of_le (by linarith [Real.pi_pos]) (by linarith)
  refine (abs_le_of_sq_le_sq' ?_ (mul_nonneg latitudeCosine reachSine)).2
  have tangents := pow_le_pow_left₀ (mul_nonneg angleSine reachCosine) tangent 2
  calc Real.sin angle ^ 2
      = Real.sin angle ^ 2 * Real.sin reach ^ 2 + (Real.sin angle * Real.cos reach) ^ 2 := by
        linear_combination -(Real.sin angle ^ 2) * Real.sin_sq_add_cos_sq reach
    _ ≤ Real.sin angle ^ 2 * Real.sin reach ^ 2 +
        (share * (Real.sin reach * Real.cos angle)) ^ 2 := by gcongr
    _ = (share ^ 2 * Real.cos angle ^ 2 + Real.sin angle ^ 2) * Real.sin reach ^ 2 := by ring
    _ ≤ Real.cos latitude ^ 2 * Real.sin reach ^ 2 := by gcongr
    _ = (Real.cos latitude * Real.sin reach) ^ 2 := by ring

/-- How far a circle off the pole reaches round the globe. -/
theorem mul_cos_add_le {turn : ℝ} (quarter : turn ≤ Real.pi / 2)
    (narrow : Real.cos latitude * Real.sin turn ≤ Real.sin angle) :
    turn * Real.cos (latitude + angle) ≤ angle := by
  have least := cos_add_pos nonneg angleNonneg away
  by_contra! beyond
  have before : angle / Real.cos (latitude + angle) < turn := (div_lt_iff₀ least).mpr beyond
  have left := sin_le_cos_mul_sin nonneg angleNonneg away (before.le.trans quarter)
  have touch : 0 ≤ angle / Real.cos (latitude + angle) := div_nonneg angleNonneg least.le
  have sines : Real.sin (angle / Real.cos (latitude + angle)) < Real.sin turn :=
    Real.sin_lt_sin_of_lt_of_le_pi_div_two (by linarith [Real.pi_pos]) quarter before
  have latitudeCosine : 0 < Real.cos latitude :=
    Real.cos_pos_of_mem_Ioo ⟨by linarith [Real.pi_pos], by linarith⟩
  have outside := mul_lt_mul_of_pos_left sines latitudeCosine
  linarith

end

/-- One of the three ways round the globe is at most half a turn. -/
theorem exists_turn {difference : ℝ} (west : -360 ≤ difference) (east : difference ≤ 360) :
    ∃ turn : ℝ, (turn = 0 ∨ turn = -360 ∨ turn = 360) ∧ |difference + turn| ≤ 180 := by
  rcases lt_or_ge difference (-180) with below | notBelow
  · exact ⟨360, Or.inr (Or.inr rfl), abs_le.mpr ⟨by linarith, by linarith⟩⟩
  · rcases lt_or_ge 180 difference with above | notAbove
    · exact ⟨-360, Or.inr (Or.inl rfl), abs_le.mpr ⟨by linarith, by linarith⟩⟩
    · exact ⟨0, Or.inl rfl, abs_le.mpr ⟨by linarith, by linarith⟩⟩

/-- Full turns change neither sine nor cosine. -/
theorem radians_turn {turn : ℝ} (turns : turn = 0 ∨ turn = -360 ∨ turn = 360)
    (difference : ℝ) :
    Real.sin (radians (difference + turn)) = Real.sin (radians difference) ∧
      Real.cos (radians (difference + turn)) = Real.cos (radians difference) := by
  rcases turns with rfl | rfl | rfl
  · simp
  · rw [← sub_eq_add_neg, radians_sub, radians_full_turn]
    exact ⟨Real.sin_sub_two_pi _, Real.cos_sub_two_pi _⟩
  · rw [radians_add, radians_full_turn]
    exact ⟨Real.sin_add_two_pi _, Real.cos_add_two_pi _⟩

/-- The longitudes of a circle that stays off the pole, the shorter way round. -/
theorem abs_longitude_mul_cos_le {latA lonA latB lonB turn : ℝ} (a : OnGlobe latA lonA)
    (b : OnGlobe latB lonB)
    (away : |radians latA| + centralAngle latA lonA latB lonB < Real.pi / 2)
    (turns : turn = 0 ∨ turn = -360 ∨ turn = 360) (short : |lonB - lonA + turn| ≤ 180) :
    |radians (lonB - lonA + turn)| *
        Real.cos (|radians latA| + centralAngle latA lonA latB lonB) ≤
      centralAngle latA lonA latB lonB := by
  obtain ⟨sine, cosine⟩ := radians_turn turns (lonB - lonA)
  have halfTurn : |radians (lonB - lonA + turn)| ≤ Real.pi := by
    have half : radians 180 = Real.pi := by
      unfold radians
      ring
    rw [abs_radians, ← half]
    exact radians_le_radians.mpr short
  have front := cos_longitude_pos a b away
  rw [← cosine, ← Real.cos_abs] at front
  have quarter : |radians (lonB - lonA + turn)| ≤ Real.pi / 2 := by
    by_contra! beyond
    have := Real.cos_nonpos_of_pi_div_two_le_of_le beyond.le (by linarith [Real.pi_pos])
    linarith
  refine mul_cos_add_le (abs_nonneg _) (centralAngle_nonneg _ _ _ _) away quarter ?_
  rw [← Real.abs_sin_eq_sin_abs_of_abs_le_pi halfTurn, sine, Real.cos_abs]
  exact cos_mul_abs_sin_le latA lonA latB lonB

end Sphere

namespace BoundingBox

open Sphere (radians OnGlobe centralAngle)

theorem spansLongitude_real (box : BoundingBox ℝ) (longitude : ℝ) :
    box.spansLongitude longitude = true ↔
      box.minLongitude ≤ longitude ∧ longitude ≤ box.maxLongitude := by
  simp [spansLongitude]

theorem contains_of_turn {box : BoundingBox ℝ} {latitude longitude turn : ℝ}
    (south : box.minLatitude ≤ latitude) (north : latitude ≤ box.maxLatitude)
    (turns : turn = 0 ∨ turn = -360 ∨ turn = 360)
    (west : box.minLongitude ≤ longitude + turn) (east : longitude + turn ≤ box.maxLongitude) :
    box.contains latitude longitude = true := by
  have spans := (box.spansLongitude_real (longitude + turn)).mpr ⟨west, east⟩
  have inside : ¬((Scalar.lt latitude box.minLatitude || Scalar.lt box.maxLatitude latitude) =
      true) := by
    simp [south, north]
  unfold contains
  rw [if_neg inside]
  rcases turns with rfl | rfl | rfl
  · rw [add_zero] at spans
    simp [spans]
  · have back : longitude - Scalar.ofNat 360 = longitude + -360 := sub_eq_add_neg _ _
    simp [back, spans]
  · have forth : longitude + Scalar.ofNat 360 = longitude + 360 := rfl
    simp [forth, spans]

noncomputable def latitudeSpan (km : ℝ) : ℝ :=
  Sphere.latitudeDegrees km * Scalar.decimal 101 2

theorem latitudeSpan_eq (km : ℝ) : latitudeSpan km = km / 111.32 * 1.01 := by
  unfold latitudeSpan Sphere.latitudeDegrees Sphere.kmPerDegree
  rw [Scalar.decimal_real, Scalar.decimal_real]
  norm_num

/-- Degrees of the box reach farther than the angle of its circle. -/
theorem le_radians_latitudeSpan {angle km : ℝ} (nonneg : 0 ≤ angle)
    (within : 6371 * angle ≤ km) : angle ≤ radians (latitudeSpan km) := by
  have pi_large := Real.pi_gt_d2
  rw [latitudeSpan_eq, radians]
  have scaled : angle * (6371 * 1.01 * Real.pi) ≤ km * (1.01 * Real.pi) := by
    nlinarith
  have margin : angle * (111.32 * 180) ≤ angle * (6371 * 1.01 * Real.pi) :=
    mul_le_mul_of_nonneg_left (by linarith) nonneg
  rw [div_mul_eq_mul_div, div_mul_div_comm, le_div_iff₀ (by norm_num)]
  linarith

theorem around_cases (latitude longitude km : ℝ) :
    let low := max (latitude - latitudeSpan km) (-90)
    let high := min (latitude + latitudeSpan km) 90
    let reach := latitudeSpan km / Real.cos (radians (max |low| |high|))
    around latitude longitude km = ⟨low, high, -180, 180⟩ ∨
      max |low| |high| < 89.9 ∧
        around latitude longitude km = ⟨low, high, longitude - reach, longitude + reach⟩ := by
  intro low high reach
  have south : Scalar.max (latitude - latitudeSpan km) (-(Scalar.ofNat 90)) = low :=
    Scalar.max_real _ _
  have north : Scalar.min (latitude + latitudeSpan km) (Scalar.ofNat 90) = high :=
    Scalar.min_real _ _
  have widest : Scalar.max (Scalar.abs low) (Scalar.abs high) = max |low| |high| :=
    Scalar.max_real _ _
  have steepest : (Sphere.steepestLatitude : ℝ) = 89.9 := by
    rw [Sphere.steepestLatitude, Scalar.decimal_real]
    norm_num
  have shape : around latitude longitude km =
      if Scalar.le Sphere.steepestLatitude (Scalar.max (Scalar.abs low) (Scalar.abs high)) then
        ⟨low, high, -180, 180⟩
      else if Scalar.le (Scalar.ofNat 180) (Sphere.longitudeDegrees km
          (Scalar.max (Scalar.abs low) (Scalar.abs high)) * Scalar.decimal 101 2) then
        ⟨low, high, -180, 180⟩
      else
        ⟨low, high,
          longitude - Sphere.longitudeDegrees km
            (Scalar.max (Scalar.abs low) (Scalar.abs high)) * Scalar.decimal 101 2,
          longitude + Sphere.longitudeDegrees km
            (Scalar.max (Scalar.abs low) (Scalar.abs high)) * Scalar.decimal 101 2⟩ := by
    rw [← south, ← north]
    rfl
  rw [widest, steepest] at shape
  split at shape
  · exact Or.inl shape
  · rename_i off
    have below : max |low| |high| < 89.9 :=
      not_le.mp fun reaches => off ((Scalar.le_real _ _).mpr reaches)
    have span : Sphere.longitudeDegrees km (max |low| |high|) * Scalar.decimal 101 2 = reach := by
      have bounded : Scalar.clamp (max |low| |high|) (-Sphere.steepestLatitude)
          Sphere.steepestLatitude = max |low| |high| := by
        rw [steepest]
        refine Scalar.clamp_real_of_mem _ ?_ below.le
        exact (by norm_num : (-89.9 : ℝ) ≤ 0).trans (le_max_of_le_left (abs_nonneg low))
      unfold Sphere.longitudeDegrees
      rw [bounded]
      change km / (Sphere.kmPerDegree * Real.cos (radians (max |low| |high|))) *
        Scalar.decimal 101 2 = km / Sphere.kmPerDegree * Scalar.decimal 101 2 /
          Real.cos (radians (max |low| |high|))
      rw [div_mul_eq_div_div]
      ring
    rw [span] at shape
    split at shape
    · exact Or.inl shape
    · exact Or.inr ⟨below, shape⟩

/-- A box that stays off the poles is not cut off there. -/
theorem widest_eq {latitude span : ℝ} (nonneg : 0 ≤ span)
    (below : max |max (latitude - span) (-90)| |min (latitude + span) 90| < 90) :
    max |max (latitude - span) (-90)| |min (latitude + span) 90| = |latitude| + span := by
  obtain ⟨lowBelow, highBelow⟩ := max_lt_iff.mp below
  have low : max (latitude - span) (-90) = latitude - span := by
    rcases lt_max_iff.mp (abs_lt.mp lowBelow).1 with above | impossible
    · exact max_eq_left above.le
    · exact absurd impossible (lt_irrefl _)
  have high : min (latitude + span) 90 = latitude + span := by
    rcases min_lt_iff.mp (abs_lt.mp highBelow).2 with inside | impossible
    · exact min_eq_left inside.le
    · exact absurd impossible (lt_irrefl _)
  rw [low, high]
  refine le_antisymm (max_le ?_ ?_) ?_
  · exact (abs_sub latitude span).trans_eq (by rw [abs_of_nonneg nonneg])
  · exact (abs_add_le latitude span).trans_eq (by rw [abs_of_nonneg nonneg])
  · rcases le_total 0 latitude with north | south
    · rw [abs_of_nonneg north]
      exact le_max_of_le_right (le_abs_self _)
    · rw [abs_of_nonpos south]
      exact le_max_of_le_left (by linarith [neg_le_abs (latitude - span)])

/-- No point of a circle lies outside the circle's box. -/
theorem contains_around {latA lonA latB lonB km : ℝ} (a : OnGlobe latA lonA)
    (b : OnGlobe latB lonB) (within : Sphere.distanceKm latA lonA latB lonB ≤ km) :
    (around latA lonA km).contains latB lonB = true := by
  rw [Sphere.distanceKm_real a b] at within
  have nonneg := Sphere.centralAngle_nonneg latA lonA latB lonB
  have span := le_radians_latitudeSpan nonneg within
  have latitudes := (Sphere.abs_latitude_sub_le a b).trans span
  rw [Sphere.abs_radians, Sphere.radians_le_radians] at latitudes
  obtain ⟨southern, northern⟩ := abs_le.mp latitudes
  have south : max (latA - latitudeSpan km) (-90) ≤ latB := max_le (by linarith) b.south
  have north : latB ≤ min (latA + latitudeSpan km) 90 := le_min (by linarith) b.north
  rcases around_cases latA lonA km with whole | ⟨below, narrow⟩
  · rw [whole]
    exact contains_of_turn south north (Or.inl rfl) ((add_zero lonB).symm ▸ b.west)
      ((add_zero lonB).symm ▸ b.east)
  · have wide := widest_eq ((abs_nonneg _).trans latitudes) (below.trans (by norm_num))
    rw [wide] at below narrow
    have sum : |radians latA| + radians (latitudeSpan km) =
        radians (|latA| + latitudeSpan km) := by
      rw [Sphere.abs_radians, Sphere.radians_add]
    have offPole : radians (|latA| + latitudeSpan km) < Real.pi / 2 := by
      rw [← Sphere.radians_ninety, Sphere.radians_lt_radians]
      linarith
    have away : |radians latA| + centralAngle latA lonA latB lonB < Real.pi / 2 := by linarith
    obtain ⟨turn, turns, short⟩ := @Sphere.exists_turn (lonB - lonA)
      (by linarith [a.east, b.west]) (by linarith [a.west, b.east])
    have touches := Sphere.abs_longitude_mul_cos_le a b away turns short
    have least : 0 < Real.cos (radians (|latA| + latitudeSpan km)) :=
      Real.cos_pos_of_mem_Ioo ⟨by linarith [abs_nonneg (radians latA), Real.pi_pos], offPole⟩
    have smaller : Real.cos (radians (|latA| + latitudeSpan km)) ≤
        Real.cos (|radians latA| + centralAngle latA lonA latB lonB) :=
      Real.cos_le_cos_of_nonneg_of_le_pi (add_nonneg (abs_nonneg _) nonneg)
        (by linarith [Real.pi_pos]) (by linarith)
    have bound : |lonB - lonA + turn| ≤
        latitudeSpan km / Real.cos (radians (|latA| + latitudeSpan km)) := by
      rw [le_div_iff₀ least, ← Sphere.radians_le_radians, ← Sphere.radians_mul,
        ← Sphere.abs_radians]
      calc |radians (lonB - lonA + turn)| * Real.cos (radians (|latA| + latitudeSpan km))
          ≤ |radians (lonB - lonA + turn)| *
              Real.cos (|radians latA| + centralAngle latA lonA latB lonB) := by gcongr
        _ ≤ centralAngle latA lonA latB lonB := touches
        _ ≤ radians (latitudeSpan km) := span
    obtain ⟨west, east⟩ := abs_le.mp bound
    rw [narrow]
    refine contains_of_turn south north turns ?_ ?_
    · linarith
    · linarith

end BoundingBox

theorem Table.within_real {positions : List (Position ℝ)} {latitude longitude : ℝ}
    (centre : Sphere.OnGlobe latitude longitude)
    (onGlobe : ∀ position ∈ positions, Sphere.OnGlobe position.latitude position.longitude)
    (km : ℝ) :
    within positions latitude longitude km =
      positions.filter fun position => decide
        (Sphere.distanceKm latitude longitude position.latitude position.longitude ≤ km) := by
  refine List.filter_congr fun position member => ?_
  have same : Sphere.isWithinKm latitude longitude km position = decide
      (Sphere.distanceKm latitude longitude position.latitude position.longitude ≤ km) :=
    rfl
  rw [same]
  by_cases near :
      Sphere.distanceKm latitude longitude position.latitude position.longitude ≤ km
  · rw [BoundingBox.contains_around centre (onGlobe position member) near]
    rfl
  · rw [decide_eq_false near, Bool.and_false]

namespace MemoryStore

/--
In exact arithmetic a scan within a distance finds exactly the stored positions that are
no farther away, in the order of their insertion, wherever the circle lies and however
large it is.
-/
theorem scan_within (store : MemoryStore ℝ) (name : String) {latitude longitude : ℝ}
    (centre : Sphere.OnGlobe latitude longitude)
    (onGlobe : ∀ position ∈ store.positions name,
      Sphere.OnGlobe position.latitude position.longitude)
    (km : ℝ) :
    store.scan name (.within latitude longitude km) =
      (store.positions name).filter fun position => decide
        (Sphere.distanceKm latitude longitude position.latitude position.longitude ≤ km) := by
  unfold positions at onGlobe ⊢
  unfold scan
  cases found : store.table? name with
  | none => rfl
  | some table =>
      rw [found] at onGlobe
      exact Table.within_real centre onGlobe km

def sole (name : String) (position : Position ℝ) : MemoryStore ℝ :=
  ⟨[(name, ⟨#[position], ∅⟩)]⟩

theorem positions_sole (name : String) (position : Position ℝ) :
    (sole name position).positions name = [position] := by
  simp [positions, table?, sole]

/-- A scan at the antimeridian, counted from the east, finds what stands there in the west. -/
theorem scan_within_antimeridian :
    Sphere.OnGlobe 10 180 ∧ Sphere.OnGlobe 10 (-180) ∧
      (sole "positions" ⟨"west", 10, -180, .epoch⟩).scan "positions" (.within 10 180 1) =
        [⟨"west", 10, -180, .epoch⟩] := by
  have centre : Sphere.OnGlobe 10 180 := by
    constructor <;> norm_num
  have place : Sphere.OnGlobe 10 (-180) := by
    constructor <;> norm_num
  have onGlobe : ∀ position ∈
      (sole "positions" ⟨"west", 10, -180, .epoch⟩).positions "positions",
        Sphere.OnGlobe position.latitude position.longitude := by
    intro position member
    rw [positions_sole, List.mem_singleton] at member
    exact member ▸ place
  refine ⟨centre, place, ?_⟩
  rw [scan_within _ "positions" centre onGlobe 1, positions_sole]
  have near : Sphere.distanceKm (10 : ℝ) 180 10 (-180) ≤ 1 := by
    have turn : Sphere.radians (-180 - 180) = -(2 * Real.pi) := by
      unfold Sphere.radians
      ring
    have same : Sphere.angleCosine 10 180 10 (-180) = 1 := by
      rw [Sphere.angleCosine, turn, Real.cos_neg, Real.cos_two_pi, mul_one]
      linear_combination Real.sin_sq_add_cos_sq (Sphere.radians 10)
    rw [Sphere.distanceKm_real centre place, Sphere.centralAngle, same, Real.arccos_one]
    norm_num
  exact List.filter_cons_of_pos (decide_eq_true near)

end MemoryStore

end SpatialWorkload
