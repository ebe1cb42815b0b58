import SpatialWorkload.Proofs.Ring.Centre
import SpatialWorkload.Proofs.Sphere.BoundingBox

/-!
# Squares at the antimeridian

The longitudes of a square run past 180 degrees where it reaches over the antimeridian.  A
bounding box takes a position in after a turn of the globe, and so does a scan of a circle,
but a ring contains it only as it stands.  So in exact arithmetic a scan of a square misses
what lies beyond the antimeridian, and only a square that does not reach over it finds all
that it would contain after a turn.
-/

namespace SpatialWorkload

namespace Sphere

section

variable {km latitude : ℝ} (positive : 0 < km)
include positive

/-- No parallel has longer degrees than a meridian. -/
theorem latitudeDegrees_le_longitudeDegrees (off : |latitude| ≤ 89.9) :
    latitudeDegrees km ≤ longitudeDegrees km latitude := by
  have cosine : 0 < Real.cos (radians latitude) := by
    refine Real.cos_pos_of_mem_Ioo ?_
    rw [← radians_ninety, ← radians_neg, Set.mem_Ioo, radians_lt_radians, radians_lt_radians]
    exact abs_lt.mp (off.trans_lt (by norm_num))
  rw [longitudeDegrees_real km off]
  exact le_div_self (latitudeDegrees_pos positive).le cosine (Real.cos_le_one _)

/-- As far as the sixtieth parallel they are at most half as long. -/
theorem longitudeDegrees_le_two_mul (off : |latitude| ≤ 60) :
    longitudeDegrees km latitude ≤ 2 * latitudeDegrees km := by
  have third : radians 60 = Real.pi / 3 := by
    unfold radians
    ring
  have half : 1 / 2 ≤ Real.cos (radians latitude) := by
    rw [← Real.cos_pi_div_three, ← third, ← Real.cos_abs (radians latitude), abs_radians]
    refine Real.cos_le_cos_of_nonneg_of_le_pi ?_ ?_ (radians_le_radians.mpr off)
    · exact abs_radians latitude ▸ abs_nonneg _
    · rw [third]
      linarith [Real.pi_pos]
  have span := latitudeDegrees_pos positive
  rw [longitudeDegrees_real km (off.trans (by norm_num)), div_le_iff₀ (by linarith)]
  nlinarith

end

end Sphere

namespace Ring

open Sphere (OnGlobe kmPerDegree latitudeDegrees longitudeDegrees)

/-- The ring contains the place as it stands or after a turn of the globe. -/
def ContainsTurned (ring : Ring ℝ) (latitude longitude : ℝ) : Prop :=
  contains ring latitude longitude = true ∨ contains ring latitude (longitude - 360) = true ∨
    contains ring latitude (longitude + 360) = true

section

variable {ring : Ring ℝ} {latitude longitude meridian : ℝ}

/-- A ring near a meridian contains only places near it. -/
theorem abs_longitude_sub_lt (near : ∀ vertex ∈ ring, |vertex.longitude - meridian| < 180)
    (inside : contains ring latitude longitude = true) : |longitude - meridian| < 180 := by
  rw [Scalar.real_eq_exact] at inside
  have hull := @inHull_of_contains ℝ _ _ _ latitude longitude ring Scalar.realFunctions inside
  obtain ⟨west, westMember, notWest⟩ := hull.exists_west
  obtain ⟨east, eastMember, notEast⟩ := hull.exists_east
  obtain ⟨low, -⟩ := abs_lt.mp (near west westMember)
  obtain ⟨-, high⟩ := abs_lt.mp (near east eastMember)
  exact abs_lt.mpr ⟨by linarith, by linarith⟩

/-- Of a place and its turns such a ring contains at most one. -/
theorem not_contains_turned (near : ∀ vertex ∈ ring, |vertex.longitude - meridian| < 180)
    (inside : contains ring latitude longitude = true) :
    contains ring latitude (longitude - 360) = false ∧
      contains ring latitude (longitude + 360) = false := by
  obtain ⟨low, high⟩ := abs_lt.mp (abs_longitude_sub_lt near inside)
  constructor
  · refine Bool.eq_false_iff.mpr fun turned => ?_
    have west := (abs_lt.mp (abs_longitude_sub_lt near turned)).1
    linarith
  · refine Bool.eq_false_iff.mpr fun turned => ?_
    have east := (abs_lt.mp (abs_longitude_sub_lt near turned)).2
    linarith

/-- A scan finds exactly those stored positions that the ring contains after some turn. -/
def ScansTurned (ring : Ring ℝ) : Prop :=
  ∀ (store : MemoryStore ℝ) (name : String), ∀ position ∈ store.positions name,
    OnGlobe position.latitude position.longitude →
      (position ∈ store.scan name (.inside ring) ↔
        ContainsTurned ring position.latitude position.longitude)

/-- A place that the ring contains only after a turn is stored and not found. -/
theorem not_scansTurned {other : ℝ} (globe : OnGlobe latitude other)
    (turned : ContainsTurned ring latitude other) (outside : contains ring latitude other = false) :
    ¬ScansTurned ring := by
  intro scans
  have stored : Position.vertex latitude other ∈
      (MemoryStore.sole "places" (.vertex latitude other)).positions "places" := by
    rw [MemoryStore.positions_sole]
    exact List.mem_singleton_self _
  have found := (scans _ _ _ stored globe).mpr turned
  rw [MemoryStore.mem_scan_inside] at found
  exact Bool.eq_false_iff.mp outside found.2

/-- Such scans are those of rings that stay between the two sides of the antimeridian. -/
theorem scansTurned_iff (near : ∀ vertex ∈ ring, |vertex.longitude - meridian| < 180)
    (west : -180 ≤ meridian) (east : meridian ≤ 180)
    (latitudes : ∀ latitude longitude, contains ring latitude longitude = true →
      -90 ≤ latitude ∧ latitude ≤ 90) :
    ScansTurned ring ↔ ∀ latitude longitude, contains ring latitude longitude = true →
      -180 < longitude ∧ longitude < 180 := by
  constructor
  · intro scans latitude longitude inside
    obtain ⟨south, north⟩ := latitudes latitude longitude inside
    obtain ⟨low, high⟩ := abs_lt.mp (abs_longitude_sub_lt near inside)
    obtain ⟨before, after⟩ := not_contains_turned near inside
    constructor
    · by_contra! beyond
      refine not_scansTurned ⟨south, north, by linarith, by linarith⟩
        (.inr (.inl ?_)) after scans
      rwa [add_sub_cancel_right]
    · by_contra! beyond
      refine not_scansTurned ⟨south, north, by linarith, by linarith⟩
        (.inr (.inr ?_)) before scans
      rwa [sub_add_cancel]
  · intro stays store name position stored globe
    rw [MemoryStore.mem_scan_inside, and_iff_right stored]
    constructor
    · exact .inl
    · rintro (inside | turned | turned)
      · exact inside
      · linarith [globe.east, (stays _ _ turned).1]
      · linarith [globe.west, (stays _ _ turned).2]

end

/-- A corner is as far from the meridian of the centre as its parallel says. -/
theorem abs_corner_longitude_sub {km : ℝ} (positive : 0 < km) (longitude latitude : ℝ)
    (east : Bool) :
    |(corner longitude km latitude east).longitude - longitude| =
      longitudeDegrees km latitude := by
  have reach := Sphere.longitudeDegrees_pos positive latitude
  cases east with
  | false =>
    refine (congrArg abs (sub_sub_cancel_left _ _)).trans ?_
    exact (abs_neg _).trans (abs_of_pos reach)
  | true => exact (congrArg abs (add_sub_cancel_left _ _)).trans (abs_of_pos reach)

/-- A square on the globe with no corner held back from a pole or half a turn away. -/
structure IsFree (reference : Position ℝ) (km : ℝ) : Prop where
  onGlobe : OnGlobe reference.latitude reference.longitude
  positive : 0 < km
  south : -89.9 ≤ reference.latitude - latitudeDegrees km
  north : reference.latitude + latitudeDegrees km ≤ 89.9
  narrow : ∀ vertex ∈ square reference km, |vertex.longitude - reference.longitude| < 180

namespace IsFree

variable {reference : Position ℝ} {km latitude longitude : ℝ}

/-- A square between the sixtieth parallels is free. -/
theorem of_temperate (onGlobe : OnGlobe reference.latitude reference.longitude)
    (positive : 0 < km) (temperate : |reference.latitude| + latitudeDegrees km ≤ 60) :
    IsFree reference km := by
  have span := Sphere.latitudeDegrees_pos positive
  obtain ⟨low, high⟩ := abs_le.mp (by linarith : |reference.latitude| ≤ 60 - latitudeDegrees km)
  have south : -89.9 ≤ reference.latitude - latitudeDegrees km := by linarith
  have north : reference.latitude + latitudeDegrees km ≤ 89.9 := by linarith
  refine ⟨onGlobe, positive, south, north, fun vertex member => ?_⟩
  have reach {latitude : ℝ} (near : |latitude| ≤ 60) : longitudeDegrees km latitude < 180 := by
    have twice := Sphere.longitudeDegrees_le_two_mul positive near
    linarith [abs_nonneg reference.latitude]
  have southNear : |(squareTrapezoid reference positive).south| ≤ 60 := by
    rw [squareTrapezoid_south, max_eq_left south]
    exact abs_le.mpr ⟨by linarith, by linarith⟩
  have northNear : |(squareTrapezoid reference positive).north| ≤ 60 := by
    rw [squareTrapezoid_north, min_eq_left north]
    exact abs_le.mpr ⟨by linarith, by linarith⟩
  simp only [square, List.mem_cons, List.not_mem_nil, or_false] at member
  rcases member with rfl | rfl | rfl | rfl | rfl
  all_goals rw [abs_corner_longitude_sub positive]
  · exact reach southNear
  · exact reach southNear
  · exact reach northNear
  · exact reach northNear
  · exact reach southNear

noncomputable abbrev trapezoid (free : IsFree reference km) : Trapezoid ℝ :=
  squareTrapezoid reference free.positive

variable (free : IsFree reference km)

theorem south_eq : free.trapezoid.south = reference.latitude - latitudeDegrees km := by
  rw [squareTrapezoid_south, max_eq_left free.south]

theorem north_eq : free.trapezoid.north = reference.latitude + latitudeDegrees km := by
  rw [squareTrapezoid_north, min_eq_left free.north]

theorem southReach_eq : free.trapezoid.southReach =
    longitudeDegrees km (reference.latitude - latitudeDegrees km) :=
  congrArg (longitudeDegrees km) free.south_eq

theorem northReach_eq : free.trapezoid.northReach =
    longitudeDegrees km (reference.latitude + latitudeDegrees km) :=
  congrArg (longitudeDegrees km) free.north_eq

theorem rises : free.trapezoid.south < free.trapezoid.north := by
  have span := Sphere.latitudeDegrees_pos free.positive
  rw [free.south_eq, free.north_eq]
  linarith

theorem contains_iff :
    contains (square reference km) latitude longitude = true ↔
      free.trapezoid.south ≤ latitude ∧ latitude < free.trapezoid.north ∧
        -free.trapezoid.breadth latitude ≤
            (free.trapezoid.north - free.trapezoid.south) * (longitude - reference.longitude) ∧
          (free.trapezoid.north - free.trapezoid.south) * (longitude - reference.longitude) <
            free.trapezoid.breadth latitude := by
  rw [contains_square_eq free.positive, Scalar.real_eq_exact]
  exact @Trapezoid.contains_ring_iff ℝ _ _ _ free.trapezoid _ _ Scalar.realFunctions free.rises

include free in
theorem latitude_mem (inside : contains (square reference km) latitude longitude = true) :
    -90 ≤ latitude ∧ latitude ≤ 90 := by
  obtain ⟨above, below, -⟩ := free.contains_iff.mp inside
  rw [free.south_eq] at above
  rw [free.north_eq] at below
  exact ⟨by linarith [free.south], by linarith [free.north]⟩

/-- On every parallel of a square that stays on the near side, its west side does. -/
theorem breadth_lt_of_stays
    (stays : ∀ latitude longitude, contains (square reference km) latitude longitude = true →
      -180 < longitude) (above : free.trapezoid.south ≤ latitude)
    (below : latitude < free.trapezoid.north) :
    free.trapezoid.breadth latitude <
      (free.trapezoid.north - free.trapezoid.south) * (180 + reference.longitude) := by
  have height := sub_pos.mpr free.rises
  have broad := Trapezoid.breadth_pos above below
  have side : (free.trapezoid.north - free.trapezoid.south) *
      (reference.longitude - free.trapezoid.breadth latitude /
        (free.trapezoid.north - free.trapezoid.south) - reference.longitude) =
      -free.trapezoid.breadth latitude := by
    field_simp
    ring
  have west := stays latitude _ (free.contains_iff.mpr
    ⟨above, below, side.ge, side.trans_lt (by linarith)⟩)
  have reach : free.trapezoid.breadth latitude /
      (free.trapezoid.north - free.trapezoid.south) < 180 + reference.longitude := by
    linarith
  rw [div_lt_iff₀ height] at reach
  linarith

/-- And so does its east side, which it may touch. -/
theorem breadth_le_of_stays
    (stays : ∀ latitude longitude, contains (square reference km) latitude longitude = true →
      longitude < 180) (above : free.trapezoid.south ≤ latitude)
    (below : latitude < free.trapezoid.north) :
    free.trapezoid.breadth latitude ≤
      (free.trapezoid.north - free.trapezoid.south) * (180 - reference.longitude) := by
  have height := sub_pos.mpr free.rises
  have broad := Trapezoid.breadth_pos above below
  have room := mul_nonneg height.le (sub_nonneg.mpr free.onGlobe.east)
  by_contra! beyond
  have east := stays latitude 180 (free.contains_iff.mpr ⟨above, below, by linarith, beyond⟩)
  exact lt_irrefl _ east

/-- A square stays between the sides of the antimeridian if its corners do, but for its edges. -/
theorem stays_iff :
    (∀ latitude longitude, contains (square reference km) latitude longitude = true →
      -180 < longitude ∧ longitude < 180) ↔
    (-180 < reference.longitude - free.trapezoid.southReach ∧
      -180 ≤ reference.longitude - free.trapezoid.northReach) ∧
    reference.longitude + free.trapezoid.southReach ≤ 180 ∧
      reference.longitude + free.trapezoid.northReach ≤ 180 := by
  have height := sub_pos.mpr free.rises
  constructor
  · intro stays
    have west {latitude : ℝ} (above : free.trapezoid.south ≤ latitude) :=
      free.breadth_lt_of_stays (fun latitude longitude inside =>
        (stays latitude longitude inside).1) above
    have east {latitude : ℝ} (above : free.trapezoid.south ≤ latitude) :=
      free.breadth_le_of_stays (fun latitude longitude inside =>
        (stays latitude longitude inside).2) above
    have southWest := west le_rfl free.rises
    have southEast := east le_rfl free.rises
    rw [Trapezoid.breadth_south, mul_lt_mul_iff_of_pos_left height] at southWest
    rw [Trapezoid.breadth_south, mul_le_mul_iff_of_pos_left height] at southEast
    have northWest := Trapezoid.northReach_le free.rises fun latitude above below =>
      (west above below).le
    have northEast := Trapezoid.northReach_le free.rises fun latitude above below =>
      east above below
    exact ⟨⟨by linarith, by linarith⟩, by linarith, by linarith⟩
  · rintro ⟨⟨southWest, northWest⟩, southEast, northEast⟩ latitude longitude inside
    obtain ⟨above, below, west, east⟩ := free.contains_iff.mp inside
    have westBreadth : free.trapezoid.breadth latitude < (free.trapezoid.north -
        free.trapezoid.south) * (180 + reference.longitude) :=
      Trapezoid.breadth_lt above below (by linarith) (by linarith)
    have eastBreadth : free.trapezoid.breadth latitude ≤ (free.trapezoid.north -
        free.trapezoid.south) * (180 - reference.longitude) :=
      Trapezoid.breadth_le above below (by linarith) (by linarith)
    constructor
    · have less := lt_of_mul_lt_mul_left (by linarith : (free.trapezoid.north -
        free.trapezoid.south) * (reference.longitude - longitude) <
          (free.trapezoid.north - free.trapezoid.south) * (180 + reference.longitude)) height.le
      linarith
    · have less := lt_of_mul_lt_mul_left (east.trans_le eastBreadth) height.le
      linarith

end IsFree

/--
In exact arithmetic a scan of a square finds the stored positions that the square contains as
they stand.  Of a place and its turns round the globe it contains at most one, so the scan
finds what the square contains after some turn only if no corner lies beyond the antimeridian,
nor the south-west corner on it, which belongs to the square; then it finds all of that.
-/
theorem square_ends_at_antimeridian {reference : Position ℝ} {km : ℝ}
    (free : IsFree reference km) :
    (∀ (store : MemoryStore ℝ) (name : String), ∀ position ∈ store.positions name,
      (position ∈ store.scan name (.inside (square reference km)) ↔
        contains (square reference km) position.latitude position.longitude = true)) ∧
    (∀ latitude longitude, contains (square reference km) latitude longitude = true →
      contains (square reference km) latitude (longitude - 360) = false ∧
        contains (square reference km) latitude (longitude + 360) = false) ∧
    (ScansTurned (square reference km) ↔
      let southReach := longitudeDegrees km (reference.latitude - latitudeDegrees km)
      let northReach := longitudeDegrees km (reference.latitude + latitudeDegrees km)
      (-180 < reference.longitude - southReach ∧ -180 ≤ reference.longitude - northReach) ∧
        reference.longitude + southReach ≤ 180 ∧ reference.longitude + northReach ≤ 180) := by
  refine ⟨fun store name position stored => ?_, fun latitude longitude inside => ?_, ?_⟩
  · rw [MemoryStore.mem_scan_inside]
    exact and_iff_right stored
  · exact not_contains_turned free.narrow inside
  · rw [scansTurned_iff free.narrow free.onGlobe.west free.onGlobe.east
      fun latitude longitude => free.latitude_mem, free.stays_iff, free.southReach_eq,
      free.northReach_eq]

theorem latitudeDegrees_kmPerDegree : latitudeDegrees (kmPerDegree : ℝ) = 1 := by
  refine div_self ?_
  rw [kmPerDegree, Scalar.decimal_real]
  norm_num

section

variable {longitude : ℝ}

/-- A square of one degree about a place on the equator is free. -/
theorem isFree_equator (west : -180 ≤ longitude) (east : longitude ≤ 180) :
    IsFree (.vertex 0 longitude) kmPerDegree := by
  have positive : (0 : ℝ) < kmPerDegree := by
    rw [kmPerDegree, Scalar.decimal_real]
    norm_num
  refine .of_temperate ⟨?_, ?_, west, east⟩ positive ?_
  all_goals norm_num [Position.vertex, latitudeDegrees_kmPerDegree]

variable (free : IsFree (.vertex 0 longitude) kmPerDegree)

/-- At its corners it is at least as far to the east and west. -/
theorem one_le_reach_equator :
    1 ≤ free.trapezoid.southReach ∧ 1 ≤ free.trapezoid.northReach := by
  rw [free.southReach_eq, free.northReach_eq, ← latitudeDegrees_kmPerDegree]
  constructor
  all_goals refine Sphere.latitudeDegrees_le_longitudeDegrees free.positive ?_
  all_goals norm_num [Position.vertex, latitudeDegrees_kmPerDegree]

/-- And at most twice as far. -/
theorem reach_equator_le_two :
    free.trapezoid.southReach ≤ 2 ∧ free.trapezoid.northReach ≤ 2 := by
  have twice : 2 * latitudeDegrees (kmPerDegree : ℝ) = 2 := by
    rw [latitudeDegrees_kmPerDegree, mul_one]
  rw [free.southReach_eq, free.northReach_eq, ← twice]
  constructor
  all_goals refine Sphere.longitudeDegrees_le_two_mul free.positive ?_
  all_goals norm_num [Position.vertex, latitudeDegrees_kmPerDegree]

end

/-- Two degrees off the antimeridian such a square does not reach over it. -/
theorem square_short_of_antimeridian :
    IsFree (.vertex 0 178) kmPerDegree ∧ ScansTurned (square (.vertex 0 178) kmPerDegree) := by
  have free : IsFree (.vertex 0 178) kmPerDegree := isFree_equator (by norm_num) (by norm_num)
  obtain ⟨south, north⟩ := reach_equator_le_two free
  rw [free.southReach_eq] at south
  rw [free.northReach_eq] at north
  refine ⟨free, (square_ends_at_antimeridian free).2.2.mpr ?_⟩
  simp only [Position.vertex] at south north ⊢
  exact ⟨⟨by linarith, by linarith⟩, by linarith, by linarith⟩

/-- Half a degree off it the square reaches over it and misses what is stored there. -/
theorem square_misses_beyond_antimeridian :
    IsFree (.vertex 0 179.5) kmPerDegree ∧ OnGlobe 0 (-179.9) ∧
      ContainsTurned (square (.vertex 0 179.5) kmPerDegree) 0 (-179.9) ∧
      .vertex 0 (-179.9) ∉ (MemoryStore.sole "places" (.vertex 0 (-179.9))).scan "places"
        (.inside (square (.vertex 0 179.5) kmPerDegree)) := by
  have free : IsFree (.vertex 0 179.5) kmPerDegree := isFree_equator (by norm_num) (by norm_num)
  have globe : OnGlobe 0 (-179.9) := by
    constructor <;> norm_num
  have turn : (180.1 : ℝ) = -179.9 + 360 := by norm_num
  obtain ⟨south, north⟩ := one_le_reach_equator free
  have inside : contains (square (.vertex 0 179.5) kmPerDegree) 0 (180.1 : ℝ) = true := by
    rw [free.contains_iff, Trapezoid.breadth, free.south_eq, free.north_eq,
      latitudeDegrees_kmPerDegree]
    generalize free.trapezoid.southReach = southReach at south
    generalize free.trapezoid.northReach = northReach at north
    norm_num [Position.vertex]
    exact ⟨by linarith, by linarith⟩
  have outside : contains (square (.vertex 0 179.5) kmPerDegree) 0 (-179.9 : ℝ) = false := by
    have before := (not_contains_turned free.narrow inside).1
    rwa [turn, add_sub_cancel_right] at before
  refine ⟨free, globe, .inr (.inr (turn ▸ inside)), fun found => ?_⟩
  rw [MemoryStore.mem_scan_inside] at found
  exact Bool.eq_false_iff.mp outside found.2

end Ring

end SpatialWorkload
