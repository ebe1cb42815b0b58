import SpatialWorkload.Proofs.GeoSet.Widened
import SpatialWorkload.Proofs.Ring.Square

/-!
# Polygons by enclosing circles

A key server knows no polygons, so a session searches the circle about a ring and keeps what
the ring contains.  It finds what a table in memory finds wherever the circle covers the ring,
as it does for the ring of a region and for every square of a workload off the poles.  A ring
that goes more than half way round the globe contains points that its circle does not reach.
-/

namespace SpatialWorkload.GeoSet

open SpatialWorkload.Ring (IsRegional IsSmall contains enclosingCircle openRing square)
open Sphere (OnGlobe distanceKm widenRadiusKm)

namespace Service

variable {σ : Type} {serve : Service σ} {server : σ} {keys : Keys} {stored : List (Position ℝ)}

/-- The positions that a server finds within the widened radius of a circle. -/
noncomputable def isReached (circle : Ring.Circle ℝ) (position : Position ℝ) : Bool :=
  decide (Session.nativeRadiusKm *
    Sphere.centralAngle circle.latitude circle.longitude position.latitude position.longitude ≤
      widenRadiusKm circle.radiusKm Session.nativeRadiusKm)

theorem isReached_of_distanceKm_le {circle : Ring.Circle ℝ} {position : Position ℝ}
    (near : distanceKm circle.latitude circle.longitude position.latitude position.longitude ≤
      circle.radiusKm) : isReached circle position = true := by
  rw [Sphere.distanceKm_eq] at near
  exact decide_eq_true
    (Sphere.mul_le_widenRadiusKm (Sphere.centralAngle_nonneg _ _ _ _) near _)

/-- A scan of a polygon gives what its circle reaches of what the ring contains. -/
theorem Holds.run_inside (holds : serve.Holds server keys stored) {table : String}
    (named : Keys.ofTable table = .ok keys) {ring : Ring ℝ} {circle : Ring.Circle ℝ}
    (enough : ¬(openRing ring).length < 3)
    (drawn : enclosingCircle (openRing ring) = some circle) :
    ∃ answer, (Session.scan table (.inside ring)).run serve server = (.ok answer, server) ∧
      answer.Perm ((stored.filter (isReached circle)).filter fun position =>
        contains ring position.latitude position.longitude) := by
  obtain ⟨found, finds, searched⟩ := holds.search circle.longitude circle.latitude
    (widenRadiusKm circle.radiusKm Session.nativeRadiusKm)
  have chosen : ((found.map Hit.ofPosition).filter fun hit =>
      contains (openRing ring) hit.latitude hit.longitude) =
        (found.filter fun position =>
          contains ring position.latitude position.longitude).map Hit.ofPosition := by
    rw [List.filter_map]
    refine congrArg _ (List.filter_congr fun position member => ?_)
    exact Ring.contains_openRing_real ring position.latitude position.longitude
  have known : (found.filter fun position =>
      contains ring position.latitude position.longitude) ⊆ stored := fun position member =>
    List.mem_of_mem_filter (finds.mem_iff.mp (List.mem_of_mem_filter member))
  refine ⟨_, ?_, finds.filter _⟩
  have stamped := holds.run_withStamps known
  simp only [Session.scan, named, drawn, if_neg enough]
  change ((Exchange.send (.search keys circle.longitude circle.latitude _ none)).bind _).run
    serve server = _
  rw [Exchange.run_bind]
  simp only [Exchange.send, Exchange.run, searched]
  rw [chosen]
  exact stamped

/--
A scan of a polygon always comes back, with what its circle reaches of what a table in memory
finds.
-/
theorem Holds.run_polygon (holds : serve.Holds server keys stored) {table : String}
    (named : Keys.ofTable table = .ok keys) {ring : Ring ℝ} {circle : Ring.Circle ℝ}
    (drawn : enclosingCircle (openRing ring) = some circle) :
    ∃ answer, (Session.scan table (.inside ring)).run serve server = (.ok answer, server) ∧
      answer.Perm ((Table.inside stored ring).filter (isReached circle)) := by
  rw [Table.inside_real]
  by_cases few : (openRing ring).length < 3
  · have nothing : (stored.filter fun position =>
        contains ring position.latitude position.longitude) = [] := by
      refine List.filter_eq_nil_iff.mpr fun position member inside => ?_
      rw [← Ring.contains_openRing_real, contains, Bool.and_eq_true, decide_eq_true_iff] at inside
      exact absurd inside.1 (Nat.not_le_of_lt few)
    refine ⟨[], ?_, ?_⟩
    · simp only [Session.scan, if_pos few]
      rfl
    · rw [nothing]
      exact List.Perm.refl _
  · obtain ⟨answer, ran, kept⟩ := holds.run_inside named few drawn
    exact ⟨answer, ran, kept.trans (List.Perm.of_eq (List.filter_comm _ _ _))⟩

/-- In the ring of a region the circle reaches all that the ring contains. -/
theorem filter_isReached {ring : Ring ℝ} {circle : Ring.Circle ℝ}
    (drawn : enclosingCircle (openRing ring) = some circle) (regional : IsRegional ring circle)
    (stored : List (Position ℝ)) :
    (Table.inside stored ring).filter (isReached circle) = Table.inside stored ring := by
  rw [Table.inside_real]
  refine List.filter_eq_self.mpr fun position member => ?_
  have inside := List.of_mem_filter member
  rw [← Ring.contains_openRing_real] at inside
  exact isReached_of_distanceKm_le ((regional.of_subset (Ring.openRing_subset ring)).distanceKm_le
    (Ring.isDrawn_of_enclosingCircle drawn) inside)

end Service

/--
In exact arithmetic a ring contains nothing outside the convex hull of its vertices on the map.
It has an enclosing circle, which covers the vertices, and covers what the ring contains if the
ring is that of a region, as is every square off the poles.  A scan of the ring comes back from a
key server with an exact search, with what the widened circle reaches of what a table in memory
finds; for the ring of a region, and for such squares, that is all of it.
-/
theorem regions_are_covered {σ : Type} {serve : Service σ} {server : σ} {keys : Keys}
    {stored : List (Position ℝ)} (holds : serve.Holds server keys stored) {table : String}
    (named : Keys.ofTable table = .ok keys) (ring : Ring ℝ) (three : 3 ≤ ring.length) :
    (∀ latitude longitude, contains ring latitude longitude = true →
      (latitude, longitude) ∈ convexHull ℝ (Ring.points ring)) ∧
    (∃ circle, enclosingCircle ring = some circle ∧
      (∀ vertex ∈ openRing ring, distanceKm circle.latitude circle.longitude vertex.latitude
        vertex.longitude ≤ circle.radiusKm) ∧
      (IsRegional ring circle → ∀ latitude longitude, contains ring latitude longitude = true →
        distanceKm circle.latitude circle.longitude latitude longitude ≤ circle.radiusKm) ∧
      ∀ reference km, IsSmall reference km → ring = square reference km →
        IsRegional ring circle) ∧
    ∃ circle answer, enclosingCircle (openRing ring) = some circle ∧
      (Session.scan table (.inside ring)).run serve server = (.ok answer, server) ∧
      answer.Perm ((Table.inside stored ring).filter (Service.isReached circle)) ∧
      (IsRegional ring circle → answer.Perm (Table.inside stored ring)) ∧
      ∀ reference km, IsSmall reference km → ring = square reference km →
        answer.Perm (Table.inside stored ring) := by
  have nonempty : ring ≠ [] := fun empty => by
    rw [empty] at three
    exact absurd three (by decide)
  refine ⟨fun _ _ => Ring.mem_convexHull_of_contains, ?_, ?_⟩
  · obtain ⟨circle, drawn⟩ := Ring.exists_enclosingCircle nonempty
    have isDrawn := Ring.isDrawn_of_enclosingCircle drawn
    refine ⟨circle, drawn, fun vertex member => ?_,
      fun regional _ _ => regional.distanceKm_le isDrawn, ?_⟩
    · exact (Ring.distanceKm_le_farthestKm circle member).trans isDrawn.farthestKm_le
    · rintro reference km small rfl
      exact Ring.isRegional_square small drawn
  · obtain ⟨circle, drawn⟩ := Ring.exists_enclosingCircle (Ring.openRing_ne_nil nonempty)
    obtain ⟨answer, ran, reached⟩ := holds.run_polygon named drawn
    have whole (regional : IsRegional ring circle) : answer.Perm (Table.inside stored ring) :=
      Service.filter_isReached drawn regional stored ▸ reached
    refine ⟨circle, answer, drawn, ran, reached, whole, ?_⟩
    rintro reference km small rfl
    rw [Ring.enclosingCircle_square small] at drawn
    exact whole (Ring.isRegional_square small drawn)

theorem isSmall_equatorial (longitude : ℝ) : IsSmall (equatorial longitude) 20 := by
  refine ⟨by norm_num, ?_⟩
  rw [equatorial, Sphere.latitudeDegrees, Sphere.kmPerDegree, Scalar.decimal_real]
  norm_num

/-- A scan of a square about the only position that is stored. -/
theorem regions_are_covered_one_square :
    IsSmall (equatorial 0) 20 ∧
      (Session.scan "t" (.inside (square (equatorial 0) 20))).run
        (Service.holding [equatorial 0]) () = (.ok [equatorial 0], ()) := by
  have small := isSmall_equatorial 0
  have inside : Table.inside [equatorial 0] (square (equatorial 0) 20) = [equatorial 0] := by
    rw [Table.inside_real]
    refine List.filter_eq_self.mpr fun position member => ?_
    rw [List.mem_singleton.mp member]
    exact Ring.contains_square small
  have named : Keys.ofTable "t" = .ok ⟨"t:location", "t:time"⟩ := rfl
  have five : (square (equatorial 0) 20).length = 5 := rfl
  obtain ⟨-, -, circle, answer, -, ran, -, -, exact⟩ :=
    regions_are_covered (Service.holds_holding_equatorial 0 _) named (square (equatorial 0) 20)
      (by rw [five]; decide)
  have same := exact (equatorial 0) 20 small rfl
  rw [inside] at same
  rw [List.perm_singleton.mp same] at ran
  exact ⟨small, ran⟩

/-- A ring that goes more than half way round the globe. -/
noncomputable def wideRing : Ring ℝ :=
  [.vertex (-60) (-120), .vertex (-60) 120, .vertex 60 120, .vertex 60 (-120)]

theorem contains_wideRing : contains wideRing 0 115 = true := by
  have once : Ring.winding 0 115 wideRing = 1 := by
    simp only [wideRing, Ring.winding, Ring.pathWinding, Ring.crossing, Ring.sideOf,
      Position.vertex, Scalar.zero_real, Scalar.le_real, Scalar.lt_real, Bool.and_eq_true]
    norm_num
  rw [contains, once]
  rfl

theorem cos_five_eighths_le : Real.cos (5 * Real.pi / 8) ≤ -1 / 4 := by
  have split : 5 * Real.pi / 8 = Real.pi / 8 + Real.pi / 2 := by ring
  have root : √2 ≤ 7 / 4 := Real.sqrt_le_iff.mpr ⟨by norm_num, by norm_num⟩
  have half : 1 / 2 ≤ √(2 - √2) := Real.le_sqrt_of_sq_le (by linarith)
  rw [split, Real.cos_add_pi_div_two, Real.sin_pi_div_eight]
  linarith

/-- The corners are at most five sixteenths of a turn away from the origin. -/
theorem centralAngle_wideRing : ∀ vertex ∈ wideRing,
    Sphere.centralAngle 0 0 vertex.latitude vertex.longitude ≤ 5 * Real.pi / 8 := by
  intro vertex member
  have cosine : Sphere.angleCosine 0 0 vertex.latitude vertex.longitude = -1 / 4 := by
    have third : Sphere.radians 60 = Real.pi / 3 := by
      unfold Sphere.radians
      ring
    have rest : Sphere.radians 120 = Real.pi - Real.pi / 3 := by
      unfold Sphere.radians
      ring
    simp only [wideRing, List.mem_cons, List.not_mem_nil, or_false] at member
    rcases member with rfl | rfl | rfl | rfl <;>
      simp [Sphere.angleCosine, Position.vertex, Sphere.radians_neg, third, rest] <;> norm_num
  have angle := Real.arccos_le_arccos (cos_five_eighths_le.trans_eq cosine.symm)
  rwa [Real.arccos_cos (by positivity) (by linarith [Real.pi_pos])] at angle

theorem openRing_wideRing : openRing wideRing = wideRing :=
  if_neg (by simp [Position.sameCoordinate, Scalar.same, Position.vertex])

theorem radiusKm_wideRing {circle : Ring.Circle ℝ}
    (drawn : enclosingCircle wideRing = some circle) :
    circle.latitude = 0 ∧ circle.longitude = 0 ∧
      circle.radiusKm ≤ 6371 * (5 * Real.pi / 8) * 1.01 := by
  obtain ⟨-, latitude, longitude, radius⟩ := Ring.isDrawn_of_enclosingCircle drawn
  have origin : circle.latitude = 0 ∧ circle.longitude = 0 := by
    rw [openRing_wideRing] at latitude longitude
    refine ⟨latitude.trans ((Ring.mean_four _ _ _ _).trans ?_),
      longitude.trans ((Ring.mean_four _ _ _ _).trans ?_)⟩ <;> norm_num [Position.vertex]
  refine ⟨origin.1, origin.2, ?_⟩
  rw [radius]
  refine mul_le_mul_of_nonneg_right ?_ (by norm_num)
  refine Ring.farthestKm_le_iff.mpr ⟨by positivity, fun vertex member => ?_⟩
  rw [origin.1, origin.2, Sphere.distanceKm_eq]
  exact mul_le_mul_of_nonneg_left
    (centralAngle_wideRing vertex (Ring.openRing_subset wideRing member)) (by norm_num)

theorem centralAngle_eastern :
    Sphere.centralAngle 0 0 0 115 = 115 * (Real.pi / 180) :=
  Sphere.centralAngle_equator (by norm_num) (by norm_num)

/-- The widened radius does not make up for it. -/
theorem not_isReached_eastern {circle : Ring.Circle ℝ}
    (drawn : enclosingCircle wideRing = some circle) :
    Service.isReached circle (equatorial 115) = false := by
  obtain ⟨latitude, longitude, radius⟩ := radiusKm_wideRing drawn
  have native : (Session.nativeRadiusKm : ℝ) = 6372797560856 / 10 ^ 9 :=
    Scalar.decimal_real _ _
  have pi := Real.pi_pos
  refine decide_eq_false (not_le.mpr ?_)
  rw [latitude, longitude, equatorial, centralAngle_eastern, native, Sphere.widenRadiusKm_real,
    max_eq_left (by norm_num : (1 : ℝ) ≤ 6372797560856 / 10 ^ 9 / 6371)]
  linarith

/--
The circle about a ring that goes more than half way round the globe does not reach all that
the ring contains: a position inside it is found by a table in memory and not by a session
with a key server.
-/
theorem circle_misses_wide_ring :
    (∀ vertex ∈ wideRing, OnGlobe vertex.latitude vertex.longitude) ∧
    OnGlobe 0 115 ∧
    contains wideRing 0 115 = true ∧
    (∃ circle, enclosingCircle wideRing = some circle ∧
      circle.radiusKm < distanceKm circle.latitude circle.longitude 0 115) ∧
    Table.inside [equatorial 115] wideRing = [equatorial 115] ∧
    (Session.scan "t" (.inside wideRing)).run (Service.holding [equatorial 115]) () =
      (.ok [], ()) := by
  have onGlobe : OnGlobe 0 115 := by
    constructor <;> norm_num
  have nonempty : wideRing ≠ [] := List.cons_ne_nil _ _
  obtain ⟨circle, drawn⟩ := Ring.exists_enclosingCircle nonempty
  obtain ⟨latitude, longitude, radius⟩ := radiusKm_wideRing drawn
  have pi := Real.pi_pos
  have far : circle.radiusKm < distanceKm circle.latitude circle.longitude 0 115 := by
    rw [latitude, longitude, Sphere.distanceKm_eq, centralAngle_eastern]
    linarith
  refine ⟨?_, onGlobe, contains_wideRing, ⟨circle, drawn, far⟩, ?_, ?_⟩
  · intro vertex member
    simp only [wideRing, List.mem_cons, List.not_mem_nil, or_false] at member
    rcases member with rfl | rfl | rfl | rfl <;> constructor <;> norm_num [Position.vertex]
  · rw [Table.inside_real]
    refine List.filter_eq_self.mpr fun position member => ?_
    rw [List.mem_singleton.mp member]
    exact contains_wideRing
  · have holds := Service.holds_holding_equatorial 115 ⟨"t:location", "t:time"⟩
    have named : Keys.ofTable "t" = .ok ⟨"t:location", "t:time"⟩ := rfl
    have enough : ¬(openRing wideRing).length < 3 := by
      rw [openRing_wideRing]
      decide
    obtain ⟨answer, ran, kept⟩ := holds.run_inside named enough (openRing_wideRing.symm ▸ drawn)
    rw [List.filter_cons_of_neg (by rw [not_isReached_eastern drawn]; decide)] at kept
    rw [List.perm_nil.mp kept] at ran
    exact ran

end SpatialWorkload.GeoSet
