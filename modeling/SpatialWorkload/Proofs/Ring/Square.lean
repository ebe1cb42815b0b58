import Mathlib.Analysis.SpecialFunctions.Trigonometric.Bounds
import SpatialWorkload.Proofs.Ring.Centre
import SpatialWorkload.Proofs.Ring.Circle

/-!
# Squares are rings of a region

A square of a workload keeps its centre, and its circle reaches no pole as long as twice its
half side does not.
-/

namespace SpatialWorkload

namespace Sphere

/-- The chord of twice an angle is longer than two turns of the angle along their parallels. -/
theorem cos_two_mul_le {angle : ℝ} (nonneg : 0 ≤ angle) (quarter : angle ≤ Real.pi / 4) :
    Real.cos (2 * angle) ≤ Real.cos angle * (1 - angle ^ 2) := by
  have small : angle ≤ 1 := by linarith [Real.pi_le_four]
  have expansion := (abs_le.mp (Real.cos_bound (abs_le.mpr ⟨by linarith, small⟩))).2
  have positive : 0 ≤ Real.cos angle :=
    Real.cos_nonneg_of_neg_pi_div_two_le_of_le (by linarith [Real.pi_pos])
      (by linarith [Real.pi_pos])
  have square : angle ^ 2 ≤ 1 := pow_le_one₀ nonneg small
  have fall : 0.44 * angle ^ 2 ≤ 1 - Real.cos angle := by
    rw [abs_of_nonneg nonneg] at expansion
    nlinarith [sq_nonneg (angle ^ 2)]
  have grown := mul_le_mul_of_nonneg_left fall (by linarith : 0 ≤ 1 + 2 * Real.cos angle)
  have share := mul_le_of_le_one_left (sq_nonneg angle) (Real.cos_le_one angle)
  rw [Real.cos_two_mul]
  linarith [sq_nonneg angle]

section

variable {latitude corner span : ℝ} (positive : 0 < span)
  (room : |latitude| + 2 * span < Real.pi / 2)
  (offset : corner = latitude + span ∨ corner = latitude - span)

include positive room offset

theorem cos_corner_pos : 0 < Real.cos corner := by
  obtain ⟨low, high⟩ := abs_le.mp (le_refl |latitude|)
  refine Real.cos_pos_of_mem_Ioo ?_
  rcases offset with rfl | rfl <;> exact ⟨by linarith, by linarith⟩

/-- A parallel is at most half as far from the pole as the one twice as far away. -/
theorem cos_le_two_mul_cos_corner :
    Real.cos latitude ≤ 2 * Real.cos span * Real.cos corner := by
  obtain ⟨low, high⟩ := abs_le.mp (le_refl |latitude|)
  rcases offset with rfl | rfl
  · have beyond : 0 ≤ Real.cos (latitude + 2 * span) :=
      Real.cos_nonneg_of_neg_pi_div_two_le_of_le (by linarith) (by linarith)
    have sum : Real.cos (latitude + 2 * span) + Real.cos latitude =
        2 * Real.cos span * Real.cos (latitude + span) := by
      rw [Real.cos_add, Real.cos_add, Real.cos_two_mul, Real.sin_two_mul]
      ring
    linarith
  · have beyond : 0 ≤ Real.cos (latitude - 2 * span) :=
      Real.cos_nonneg_of_neg_pi_div_two_le_of_le (by linarith) (by linarith)
    have sum : Real.cos (latitude - 2 * span) + Real.cos latitude =
        2 * Real.cos span * Real.cos (latitude - span) := by
      rw [Real.cos_sub, Real.cos_sub, Real.cos_two_mul, Real.sin_two_mul]
      ring
    linarith

/-- A corner is nearer to the centre than the poles are. -/
theorem abs_sin_lt_corner {turn : ℝ} (width : (Real.cos corner * turn) ^ 2 = span ^ 2) :
    |Real.sin latitude| < Real.sin latitude * Real.sin corner +
      Real.cos latitude * Real.cos corner * Real.cos turn := by
  have cosine := cos_corner_pos positive room offset
  have parallels := cos_le_two_mul_cos_corner positive room offset
  have latitudeCosine : 0 ≤ Real.cos latitude := by
    obtain ⟨low, high⟩ := abs_le.mp (le_refl |latitude|)
    exact Real.cos_nonneg_of_neg_pi_div_two_le_of_le (by linarith) (by linarith)
  have pole : |Real.sin latitude| < Real.cos (2 * span) := by
    rw [Real.abs_sin_eq_sin_abs_of_abs_le_pi (by linarith [Real.pi_pos]),
      ← Real.sin_pi_div_two_sub]
    exact Real.sin_lt_sin_of_lt_of_le_pi_div_two (by linarith [abs_nonneg latitude])
      (by linarith) (by linarith)
  have side : Real.sin latitude * Real.sin corner + Real.cos latitude * Real.cos corner =
      Real.cos span := by
    have difference : latitude - corner = -span ∨ latitude - corner = span := by
      rcases offset with rfl | rfl
      · exact Or.inl (sub_add_cancel_left _ _)
      · exact Or.inr (sub_sub_cancel _ _)
    rw [add_comm, ← Real.cos_sub]
    rcases difference with west | east
    · rw [west, Real.cos_neg]
    · rw [east]
  have turned : Real.cos latitude * Real.cos corner * turn ^ 2 ≤ 2 * Real.cos span * span ^ 2 := by
    refine le_of_mul_le_mul_right ?_ cosine
    calc Real.cos latitude * Real.cos corner * turn ^ 2 * Real.cos corner
        = Real.cos latitude * (Real.cos corner * turn) ^ 2 := by ring
      _ = Real.cos latitude * span ^ 2 := by rw [width]
      _ ≤ 2 * Real.cos span * Real.cos corner * span ^ 2 :=
          mul_le_mul_of_nonneg_right parallels (sq_nonneg span)
      _ = 2 * Real.cos span * span ^ 2 * Real.cos corner := by ring
  have chord := mul_le_mul_of_nonneg_left (@Real.one_sub_sq_div_two_le_cos turn)
    (mul_nonneg latitudeCosine cosine.le)
  have doubled := cos_two_mul_le positive.le (by linarith [abs_nonneg latitude])
  linarith

end

end Sphere

namespace Ring

open Sphere (latitudeDegrees radians)

/-- The square keeps off the poles, by half its side. -/
structure IsSmall (reference : Position ℝ) (km : ℝ) : Prop where
  positive : 0 < km
  room : |reference.latitude| + 2 * latitudeDegrees km ≤ 89.9

noncomputable def corners (reference : Position ℝ) (km : ℝ) : Ring ℝ :=
  let span := latitudeDegrees km
  let reach (latitude : ℝ) : ℝ := span / Real.cos (radians latitude)
  let south := reference.latitude - span
  let north := reference.latitude + span
  [.vertex south (reference.longitude - reach south),
    .vertex south (reference.longitude + reach south),
    .vertex north (reference.longitude + reach north),
    .vertex north (reference.longitude - reach north)]

variable {reference : Position ℝ} {km : ℝ}

theorem IsSmall.span_pos (small : IsSmall reference km) : 0 < latitudeDegrees km :=
  Sphere.latitudeDegrees_pos small.positive

theorem IsSmall.radians_span_pos (small : IsSmall reference km) :
    0 < radians (latitudeDegrees km) :=
  mul_pos small.span_pos (by positivity)

theorem IsSmall.abs_corner_le (small : IsSmall reference km) {corner : ℝ}
    (offset : corner = reference.latitude + latitudeDegrees km ∨
      corner = reference.latitude - latitudeDegrees km) :
    |corner| ≤ |reference.latitude| + latitudeDegrees km := by
  have span := small.span_pos
  rcases offset with rfl | rfl
  · exact (abs_add_le _ _).trans_eq (by rw [abs_of_pos span])
  · exact (abs_sub _ _).trans_eq (by rw [abs_of_pos span])

theorem square_eq (small : IsSmall reference km) :
    square reference km =
      corners reference km ++ (corners reference km).head?.toList := by
  have span := small.span_pos
  have room := small.room
  have off (corner : ℝ) (offset : corner = reference.latitude + latitudeDegrees km ∨
      corner = reference.latitude - latitudeDegrees km) : |corner| ≤ 89.9 := by
    have := small.abs_corner_le offset
    linarith
  have north := off _ (Or.inl rfl)
  have south := off _ (Or.inr rfl)
  unfold square corner corners
  dsimp only
  rw [Scalar.max_real, Scalar.min_real, Sphere.steepestLatitude_real,
    max_eq_left (abs_le.mp south).1, min_eq_left (abs_le.mp north).2,
    Sphere.longitudeDegrees_real km north, Sphere.longitudeDegrees_real km south]
  rfl

theorem openRing_square (small : IsSmall reference km) :
    openRing (square reference km) = corners reference km := by
  have itself (vertex : Position ℝ) : vertex.sameCoordinate vertex = true := by
    simp [Position.sameCoordinate, Scalar.same]
  rw [square_eq small]
  exact if_pos (itself _)

/-- The first corner and the last stand on different parallels. -/
theorem openRing_corners (small : IsSmall reference km) :
    openRing (corners reference km) = corners reference km := by
  have span := small.span_pos
  refine if_neg fun same => ?_
  have latitudes := (Bool.and_eq_true_iff.mp (Bool.and_eq_true_iff.mp same).1).2
  have north := (Scalar.le_real _ _).mp latitudes
  change reference.latitude + latitudeDegrees km ≤ reference.latitude - latitudeDegrees km at north
  linarith

/-- A corner stands off the parallel of the centre and off its meridian by the same distance. -/
structure IsCorner (reference : Position ℝ) (km : ℝ) (vertex : Position ℝ) : Prop where
  offset : vertex.latitude = reference.latitude + latitudeDegrees km ∨
    vertex.latitude = reference.latitude - latitudeDegrees km
  width : Real.cos (radians vertex.latitude) * |vertex.longitude - reference.longitude| =
    latitudeDegrees km

/-- The room that a square leaves to the pole, as an angle. -/
theorem IsSmall.radians_room (small : IsSmall reference km) :
    |radians reference.latitude| + 2 * radians (latitudeDegrees km) < Real.pi / 2 := by
  have room : |reference.latitude| + 2 * latitudeDegrees km < 90 :=
    small.room.trans_lt (by norm_num)
  rw [← Sphere.radians_lt_radians, Sphere.radians_add, Sphere.radians_ninety] at room
  rw [Sphere.abs_radians, mul_comm, Sphere.radians_mul, mul_comm]
  exact room

theorem radians_offset {corner : ℝ}
    (offset : corner = reference.latitude + latitudeDegrees km ∨
      corner = reference.latitude - latitudeDegrees km) :
    radians corner = radians reference.latitude + radians (latitudeDegrees km) ∨
      radians corner = radians reference.latitude - radians (latitudeDegrees km) := by
  rcases offset with rfl | rfl
  · exact Or.inl (Sphere.radians_add _ _)
  · exact Or.inr (Sphere.radians_sub _ _)

section

variable {corner : ℝ} (small : IsSmall reference km)
  (offset : corner = reference.latitude + latitudeDegrees km ∨
    corner = reference.latitude - latitudeDegrees km)

include small offset

theorem IsSmall.cos_corner_pos : 0 < Real.cos (radians corner) := by
  exact Sphere.cos_corner_pos small.radians_span_pos small.radians_room (radians_offset offset)

theorem isCorner_vertex {longitude : ℝ}
    (reached : longitude = reference.longitude + latitudeDegrees km / Real.cos (radians corner) ∨
      longitude = reference.longitude - latitudeDegrees km / Real.cos (radians corner)) :
    IsCorner reference km (Position.vertex corner longitude) := by
  have cosine := small.cos_corner_pos offset
  have reach : 0 < latitudeDegrees km / Real.cos (radians corner) :=
    div_pos small.span_pos cosine
  refine ⟨offset, ?_⟩
  have away : |longitude - reference.longitude| =
      latitudeDegrees km / Real.cos (radians corner) := by
    rcases reached with rfl | rfl
    · rw [add_sub_cancel_left, abs_of_pos reach]
    · rw [sub_sub_cancel_left, abs_neg, abs_of_pos reach]
  exact (congrArg (Real.cos (radians corner) * ·) away).trans (mul_div_cancel₀ _ cosine.ne')

end

theorem contains_square (small : IsSmall reference km) :
    contains (square reference km) reference.latitude reference.longitude = true := by
  have span := small.span_pos
  have room := small.room
  obtain ⟨south, north⟩ := abs_lt.mp (by linarith : |reference.latitude| < 89.9)
  exact (contains_centre_iff small.positive).mpr ⟨south.le, north⟩

theorem isCorner_of_mem (small : IsSmall reference km) :
    ∀ vertex ∈ corners reference km, IsCorner reference km vertex := by
  intro vertex member
  simp only [corners, List.mem_cons, List.not_mem_nil, or_false] at member
  rcases member with rfl | rfl | rfl | rfl
  · exact isCorner_vertex small (Or.inr rfl) (Or.inr rfl)
  · exact isCorner_vertex small (Or.inr rfl) (Or.inl rfl)
  · exact isCorner_vertex small (Or.inl rfl) (Or.inl rfl)
  · exact isCorner_vertex small (Or.inl rfl) (Or.inr rfl)

theorem isCorner_of_mem_square (small : IsSmall reference km) :
    ∀ vertex ∈ square reference km, IsCorner reference km vertex := by
  intro vertex member
  rw [square_eq small] at member
  rcases List.mem_append.mp member with corner | closing
  · exact isCorner_of_mem small vertex corner
  · exact isCorner_of_mem small vertex (List.mem_of_mem_head? (Option.mem_toList.mp closing))

/-- No corner is more than a quarter turn away from the meridian of the centre. -/
theorem IsCorner.abs_longitude_sub_le {vertex : Position ℝ}
    (isCorner : IsCorner reference km vertex) (small : IsSmall reference km) :
    |vertex.longitude - reference.longitude| ≤ 90 := by
  have cosine := small.cos_corner_pos isCorner.offset
  have room := small.radians_room
  have near := small.abs_corner_le isCorner.offset
  rw [← Sphere.radians_le_radians, Sphere.radians_add, ← Sphere.abs_radians,
    ← Sphere.abs_radians] at near
  have span := small.radians_span_pos
  have wide : latitudeDegrees km ≤ 90 * Real.cos (radians vertex.latitude) := by
    have line := Real.mul_le_sin span.le (by linarith [abs_nonneg (radians reference.latitude)])
    have parallel : Real.sin (radians (latitudeDegrees km)) ≤
        Real.cos (radians vertex.latitude) := by
      rw [← Real.cos_pi_div_two_sub, ← Real.cos_abs (radians vertex.latitude)]
      exact Real.cos_le_cos_of_nonneg_of_le_pi (abs_nonneg _) (by linarith [Real.pi_pos])
        (by linarith)
    have share : 2 / Real.pi * radians (latitudeDegrees km) = latitudeDegrees km / 90 := by
      unfold radians
      field_simp
      ring
    linarith
  refine le_of_mul_le_mul_left ?_ cosine
  rw [isCorner.width]
  linarith

theorem IsCorner.abs_sin_lt {vertex : Position ℝ} (isCorner : IsCorner reference km vertex)
    (small : IsSmall reference km) :
    |Real.sin (radians reference.latitude)| <
      Sphere.angleCosine reference.latitude reference.longitude vertex.latitude
        vertex.longitude := by
  refine Sphere.abs_sin_lt_corner small.radians_span_pos small.radians_room
    (radians_offset isCorner.offset) ?_
  rw [mul_pow, ← sq_abs (radians (vertex.longitude - reference.longitude)), ← mul_pow,
    Sphere.abs_radians, mul_comm, Sphere.radians_mul, mul_comm, isCorner.width]

/-- Every ring of corners of a small square is that of a region. -/
theorem isRegional_of_isCorner (small : IsSmall reference km) {ring : Ring ℝ}
    {circle : Circle ℝ} (latitude : circle.latitude = reference.latitude)
    (longitude : circle.longitude = reference.longitude)
    (cornered : ∀ vertex ∈ ring, IsCorner reference km vertex) : IsRegional ring circle where
  latitudes vertex member := by
    have near := small.abs_corner_le (cornered vertex member).offset
    have span := small.span_pos
    have room := small.room
    exact abs_le.mp (by linarith)
  narrow first firstMember second secondMember := by
    have firstNear := abs_le.mp ((cornered first firstMember).abs_longitude_sub_le small)
    have secondNear := abs_le.mp ((cornered second secondMember).abs_longitude_sub_le small)
    linarith [firstNear.1, secondNear.2]
  offPoles vertex member pole isPole := by
    obtain ⟨south, north⟩ := abs_lt.mp ((cornered vertex member).abs_sin_lt small)
    rw [Sphere.distanceKm_lt_iff, latitude, longitude]
    rcases isPole with rfl | rfl
    · rw [Sphere.angleCosine_ninety]
      exact north
    · rw [Sphere.angleCosine_neg_ninety]
      linarith

theorem mean_four (a b c d : ℝ) : mean [a, b, c, d] = (a + b + c + d) / 4 := by
  have four : (Scalar.ofNat 4 : ℝ) = 4 := Nat.cast_ofNat
  change (Scalar.zero + a + b + c + d) / Scalar.ofNat 4 = _
  rw [Scalar.zero_real, four, zero_add]

/-- The circle about a square is that about its corners. -/
theorem enclosingCircle_square (small : IsSmall reference km) :
    enclosingCircle (openRing (square reference km)) = enclosingCircle (square reference km) := by
  unfold enclosingCircle
  rw [openRing_square small, openRing_corners small]

/-- A square that keeps off the poles is the ring of a region. -/
theorem isRegional_square (small : IsSmall reference km) {circle : Circle ℝ}
    (drawn : enclosingCircle (square reference km) = some circle) :
    IsRegional (square reference km) circle := by
  obtain ⟨-, latitude, longitude, -⟩ := isDrawn_of_enclosingCircle drawn
  rw [openRing_square small] at latitude longitude
  refine isRegional_of_isCorner small ?_ ?_ fun vertex member => ?_
  · rw [latitude]
    exact (mean_four _ _ _ _).trans (by simp only [Position.vertex]; ring)
  · rw [longitude]
    exact (mean_four _ _ _ _).trans (by simp only [Position.vertex]; ring)
  · exact isCorner_of_mem_square small vertex member

end Ring

end SpatialWorkload
