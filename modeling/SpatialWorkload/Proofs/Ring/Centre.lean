import SpatialWorkload.Proofs.Ring.Hull
import SpatialWorkload.Proofs.Ring.Trapezoid
import SpatialWorkload.Proofs.Sphere.BoundingBox
import SpatialWorkload.Ring.Square

/-!
# The centre of a square

A square is a trapezoid whose meridian is that of its centre.  Its corners keep off the poles
and its centre does not have to, so in exact arithmetic the centre lies between its parallels
only where it keeps off the poles itself.
-/

namespace SpatialWorkload

namespace Sphere

theorem steepestLatitude_real : (steepestLatitude : ℝ) = 89.9 := by
  rw [steepestLatitude, Scalar.decimal_real]
  norm_num

theorem latitudeDegrees_pos {km : ℝ} (positive : 0 < km) : 0 < latitudeDegrees km := by
  unfold latitudeDegrees kmPerDegree
  rw [Scalar.decimal_real]
  positivity

/-- No latitude is so near to a pole that its parallel has no length. -/
theorem longitudeDegrees_pos {km : ℝ} (positive : 0 < km) (latitude : ℝ) :
    0 < longitudeDegrees km latitude := by
  have ordered : -(steepestLatitude : ℝ) ≤ steepestLatitude := by
    rw [steepestLatitude_real]
    norm_num
  obtain ⟨low, high⟩ := Scalar.clamp_real_mem latitude ordered
  have cosine : 0 < Real.cos (radians (Scalar.clamp latitude (-steepestLatitude)
      steepestLatitude)) := by
    rw [steepestLatitude_real] at low high ⊢
    refine Real.cos_pos_of_mem_Ioo ⟨?_, ?_⟩
    · rw [← radians_ninety, ← radians_neg, radians_lt_radians]
      linarith
    · rw [← radians_ninety, radians_lt_radians]
      linarith
  have degree : (0 : ℝ) < kmPerDegree := by
    rw [kmPerDegree, Scalar.decimal_real]
    positivity
  exact div_pos positive (mul_pos degree cosine)

/-- Off the poles a degree of longitude is as much shorter as its parallel is. -/
theorem longitudeDegrees_real {latitude : ℝ} (km : ℝ) (off : |latitude| ≤ 89.9) :
    longitudeDegrees km latitude = latitudeDegrees km / Real.cos (radians latitude) := by
  have bounded : Scalar.clamp latitude (-steepestLatitude) steepestLatitude = latitude := by
    rw [steepestLatitude_real]
    exact Scalar.clamp_real_of_mem _ (abs_le.mp off).1 (abs_le.mp off).2
  unfold longitudeDegrees
  rw [bounded]
  exact div_mul_eq_div_div _ _ _

end Sphere

namespace Ring

open Sphere (latitudeDegrees longitudeDegrees steepestLatitude)

noncomputable def squareTrapezoid (reference : Position ℝ) {km : ℝ} (positive : 0 < km) :
    Trapezoid ℝ where
  meridian := reference.longitude
  south := Scalar.max (reference.latitude - latitudeDegrees km) (-steepestLatitude)
  north := Scalar.min (reference.latitude + latitudeDegrees km) steepestLatitude
  southReach := longitudeDegrees km
    (Scalar.max (reference.latitude - latitudeDegrees km) (-steepestLatitude))
  northReach := longitudeDegrees km
    (Scalar.min (reference.latitude + latitudeDegrees km) steepestLatitude)
  southReach_pos := Sphere.longitudeDegrees_pos positive _
  northReach_pos := Sphere.longitudeDegrees_pos positive _

variable (reference : Position ℝ) {km : ℝ} (positive : 0 < km)

theorem squareTrapezoid_south :
    (squareTrapezoid reference positive).south =
      max (reference.latitude - latitudeDegrees km) (-89.9) := by
  rw [← Sphere.steepestLatitude_real]
  exact Scalar.max_real _ _

theorem squareTrapezoid_north :
    (squareTrapezoid reference positive).north =
      min (reference.latitude + latitudeDegrees km) 89.9 := by
  rw [← Sphere.steepestLatitude_real]
  exact Scalar.min_real _ _

variable {reference}

/-- A square is its trapezoid, closed by the south-west corner. -/
theorem openRing_square_eq_trapezoid :
    openRing (square reference km) = (squareTrapezoid reference positive).ring := by
  have itself (vertex : Position ℝ) : vertex.sameCoordinate vertex = true := by
    simp [Position.sameCoordinate, Scalar.same]
  exact if_pos (itself _)

theorem contains_square_eq (latitude longitude : ℝ) :
    contains (square reference km) latitude longitude =
      contains (squareTrapezoid reference positive).ring latitude longitude := by
  rw [← openRing_square_eq_trapezoid positive, contains_openRing_real]

include positive in
/-- A square contains its centre exactly where the centre keeps off the poles as the corners do. -/
theorem contains_centre_iff :
    contains (square reference km) reference.latitude reference.longitude = true ↔
      -89.9 ≤ reference.latitude ∧ reference.latitude < 89.9 := by
  have span := Sphere.latitudeDegrees_pos positive
  have south := squareTrapezoid_south reference positive
  have north := squareTrapezoid_north reference positive
  rw [contains_square_eq positive, Scalar.real_eq_exact]
  by_cases inside : -89.9 ≤ reference.latitude ∧ reference.latitude < 89.9
  · have above : (squareTrapezoid reference positive).south ≤ reference.latitude :=
      south ▸ max_le (by linarith) inside.1
    have below : reference.latitude < (squareTrapezoid reference positive).north :=
      north ▸ lt_min (by linarith) inside.2
    refine iff_of_true ?_ inside
    exact (@Trapezoid.contains_ring_meridian ℝ _ _ _ (squareTrapezoid reference positive) _
      Scalar.realFunctions (above.trans_lt below)).mpr ⟨above, below⟩
  · -- Beyond the northern limit both parallels are below the centre, else both are above it.
    refine iff_of_false (Bool.eq_false_iff.mp ?_) inside
    refine @Trapezoid.contains_ring_of_beside ℝ _ _ _ (squareTrapezoid reference positive) _ _
      Scalar.realFunctions ?_
    rw [south, north, max_le_iff, min_le_iff]
    constructor
    · exact fun above => .inr (not_lt.mp fun less => inside ⟨above.2, less⟩)
    · rintro (above | above)
      · linarith
      · exact ⟨by linarith, by linarith⟩

/--
In exact arithmetic a square contains its centre, and a scan of the square finds the position
stored there, exactly where the centre is no farther north or south than corners are allowed
to be, the northern limit itself left out.
-/
theorem square_finds_centre (reference : Position ℝ) {km : ℝ} (positive : 0 < km) :
    (contains (square reference km) reference.latitude reference.longitude = true ↔
      -89.9 ≤ reference.latitude ∧ reference.latitude < 89.9) ∧
    ∀ (store : MemoryStore ℝ) (name : String), reference ∈ store.positions name →
      (reference ∈ store.scan name (.inside (square reference km)) ↔
        -89.9 ≤ reference.latitude ∧ reference.latitude < 89.9) := by
  refine ⟨contains_centre_iff positive, fun store name stored => ?_⟩
  rw [MemoryStore.mem_scan_inside, contains_centre_iff positive]
  exact and_iff_right stored

/-- At the southern limit, and on the antimeridian, a square finds its centre. -/
theorem square_finds_centre_southmost :
    (0 : ℝ) < 100 ∧ contains (square (.vertex (-89.9) 180) (100 : ℝ)) (-89.9) 180 = true ∧
      .vertex (-89.9) 180 ∈ (MemoryStore.sole "places" (.vertex (-89.9) 180)).scan "places"
        (.inside (square (.vertex (-89.9) 180) 100)) := by
  have positive : (0 : ℝ) < 100 := by norm_num
  have limits : (-89.9 : ℝ) ≤ -89.9 ∧ (-89.9 : ℝ) < 89.9 := by norm_num
  have stored : Position.vertex (-89.9) 180 ∈
      (MemoryStore.sole "places" (.vertex (-89.9) 180)).positions "places" := by
    rw [MemoryStore.positions_sole]
    exact List.mem_singleton_self _
  obtain ⟨inside, found⟩ := square_finds_centre (.vertex (-89.9) 180) positive
  exact ⟨positive, inside.mpr limits, (found _ _ stored).mpr limits⟩

/-- Nearer to the pole than corners are allowed to be, the centre is outside its square. -/
theorem square_misses_centre_near_pole :
    Sphere.OnGlobe 89.95 0 ∧ (0 : ℝ) < 100 ∧
      contains (square (.vertex 89.95 0) (100 : ℝ)) 89.95 0 = false ∧
      .vertex 89.95 0 ∉ (MemoryStore.sole "places" (.vertex 89.95 0)).scan "places"
        (.inside (square (.vertex 89.95 0) 100)) := by
  have globe : Sphere.OnGlobe 89.95 0 := by
    constructor <;> norm_num
  have positive : (0 : ℝ) < 100 := by norm_num
  have outside : contains (square (.vertex 89.95 0) (100 : ℝ)) 89.95 0 ≠ true := by
    intro inside
    have below := ((contains_centre_iff positive).mp inside).2
    norm_num [Position.vertex] at below
  refine ⟨globe, positive, Bool.eq_false_iff.mpr outside, fun found => outside ?_⟩
  rw [MemoryStore.mem_scan_inside] at found
  exact found.2

end Ring

end SpatialWorkload
