import SpatialWorkload.Proofs.Ring.Hull
import SpatialWorkload.Proofs.Sphere.Cap

/-!
# The circle about a ring

The circle reaches the farthest vertex, while a ring contains what lies between vertices on
the flat map.  Where no vertex is as far from the centre as a pole, and no two vertices are
more than half a turn apart, the circle is a convex cap of the map and covers the ring.
-/

namespace SpatialWorkload.Ring

open Sphere (angleCosine cap centralAngle distanceKm radians)

theorem openRing_subset {α : Type} [Scalar α] (ring : Ring α) : openRing ring ⊆ ring := by
  unfold openRing
  split
  · split
    · exact List.dropLast_subset _
    · exact List.Subset.refl _
  · exact List.Subset.refl _

theorem mean_mem_Icc {values : List ℝ} {low high : ℝ} (nonempty : values ≠ [])
    (bounded : ∀ value ∈ values, value ∈ Set.Icc low high) : mean values ∈ Set.Icc low high := by
  have length : (0 : ℝ) < values.length := Nat.cast_pos.mpr (List.length_pos_iff.mpr nonempty)
  have total : mean values = values.sum / values.length := by
    rw [mean, List.sum_eq_foldl]
    exact congrArg (fun zero : ℝ => values.foldl (· + ·) zero / values.length) Scalar.zero_real
  have above := List.sum_le_card_nsmul values high fun value member => (bounded value member).2
  have below := List.card_nsmul_le_sum values low fun value member => (bounded value member).1
  rw [nsmul_eq_mul] at above below
  rw [total, Set.mem_Icc, le_div_iff₀ length, div_le_iff₀ length, mul_comm low, mul_comm high]
  exact ⟨below, above⟩

theorem foldl_max_le_iff (values : List ℝ) (start bound : ℝ) :
    values.foldl Scalar.max start ≤ bound ↔ start ≤ bound ∧ ∀ value ∈ values, value ≤ bound := by
  induction values generalizing start with
  | nil => simp
  | cons first rest ih => rw [List.foldl_cons, ih, Scalar.max_real, max_le_iff, and_assoc,
      List.forall_mem_cons]

theorem foldl_max_lt_iff (values : List ℝ) (start bound : ℝ) :
    values.foldl Scalar.max start < bound ↔ start < bound ∧ ∀ value ∈ values, value < bound := by
  induction values generalizing start with
  | nil => simp
  | cons first rest ih => rw [List.foldl_cons, ih, Scalar.max_real, max_lt_iff, and_assoc,
      List.forall_mem_cons]

/-- The distance of the farthest vertex, before the margin is added. -/
noncomputable def farthestKm (circle : Circle ℝ) (ring : Ring ℝ) : ℝ :=
  ((openRing ring).map fun vertex => distanceKm circle.latitude circle.longitude vertex.latitude
    vertex.longitude).foldl Scalar.max Scalar.zero

theorem farthestKm_le_iff {circle : Circle ℝ} {ring : Ring ℝ} {bound : ℝ} :
    farthestKm circle ring ≤ bound ↔ 0 ≤ bound ∧ ∀ vertex ∈ openRing ring,
      distanceKm circle.latitude circle.longitude vertex.latitude vertex.longitude ≤ bound := by
  rw [farthestKm, foldl_max_le_iff, Scalar.zero_real, List.forall_mem_map]

theorem farthestKm_lt_iff {circle : Circle ℝ} {ring : Ring ℝ} {bound : ℝ} :
    farthestKm circle ring < bound ↔ 0 < bound ∧ ∀ vertex ∈ openRing ring,
      distanceKm circle.latitude circle.longitude vertex.latitude vertex.longitude < bound := by
  rw [farthestKm, foldl_max_lt_iff, Scalar.zero_real, List.forall_mem_map]

/-- A circle that is drawn about a ring has the mean of its vertices for a centre. -/
structure IsDrawn (ring : Ring ℝ) (circle : Circle ℝ) : Prop where
  nonempty : openRing ring ≠ []
  latitude : circle.latitude = mean ((openRing ring).map Position.latitude)
  longitude : circle.longitude = mean ((openRing ring).map Position.longitude)
  radiusKm : circle.radiusKm = farthestKm circle ring * 1.01

theorem isDrawn_of_enclosingCircle {ring : Ring ℝ} {circle : Circle ℝ}
    (drawn : enclosingCircle ring = some circle) : IsDrawn ring circle := by
  unfold enclosingCircle at drawn
  dsimp only at drawn
  split at drawn
  · cases drawn
  · rename_i vertices
    cases drawn
    refine ⟨fun empty => vertices (List.isEmpty_iff.mpr empty), rfl, rfl, ?_⟩
    have margin : (Scalar.decimal 101 2 : ℝ) = 1.01 := by
      rw [Scalar.decimal_real]
      norm_num
    rw [← margin]
    rfl

/-- A circle is drawn about every ring that has a vertex. -/
theorem exists_enclosingCircle {α : Type} [Scalar α] {ring : Ring α} (nonempty : ring ≠ []) :
    ∃ circle, enclosingCircle ring = some circle :=
  ⟨_, if_neg fun empty => openRing_ne_nil nonempty (List.isEmpty_iff.mp empty)⟩

/--
The ring of a region: less than half way round the globe, and with every vertex nearer to the
centre of its circle than the poles are.
-/
structure IsRegional (ring : Ring ℝ) (circle : Circle ℝ) : Prop where
  latitudes : ∀ vertex ∈ ring, -90 ≤ vertex.latitude ∧ vertex.latitude ≤ 90
  narrow : ∀ first ∈ ring, ∀ second ∈ ring, second.longitude - first.longitude ≤ 180
  offPoles : ∀ vertex ∈ ring, ∀ pole ∈ ({90, -90} : Set ℝ),
    distanceKm circle.latitude circle.longitude vertex.latitude vertex.longitude <
      distanceKm circle.latitude circle.longitude pole circle.longitude

variable {ring : Ring ℝ} {circle : Circle ℝ}

theorem IsRegional.of_subset (regional : IsRegional ring circle) {part : Ring ℝ}
    (subset : part ⊆ ring) : IsRegional part circle where
  latitudes vertex member := regional.latitudes vertex (subset member)
  narrow first member second other := regional.narrow first (subset member) second (subset other)
  offPoles vertex member := regional.offPoles vertex (subset member)

theorem IsDrawn.latitude_mem (drawn : IsDrawn ring circle) (regional : IsRegional ring circle) :
    circle.latitude ∈ Set.Icc (-90) 90 := by
  rw [drawn.latitude]
  refine mean_mem_Icc (mt List.map_eq_nil_iff.mp drawn.nonempty) fun value member => ?_
  obtain ⟨vertex, inside, rfl⟩ := List.mem_map.mp member
  exact regional.latitudes vertex (openRing_subset ring inside)

theorem IsDrawn.abs_longitude_sub_le (drawn : IsDrawn ring circle)
    (regional : IsRegional ring circle) {vertex : Position ℝ} (member : vertex ∈ ring) :
    |vertex.longitude - circle.longitude| ≤ 180 := by
  have between : circle.longitude ∈
      Set.Icc (vertex.longitude - 180) (vertex.longitude + 180) := by
    rw [drawn.longitude]
    refine mean_mem_Icc (mt List.map_eq_nil_iff.mp drawn.nonempty) fun value mapped => ?_
    obtain ⟨other, inside, rfl⟩ := List.mem_map.mp mapped
    have west := regional.narrow other (openRing_subset ring inside) vertex member
    have east := regional.narrow vertex member other (openRing_subset ring inside)
    exact ⟨by linarith, by linarith⟩
  rw [abs_le]
  exact ⟨by linarith [between.2], by linarith [between.1]⟩

/-- What is nearer to the centre than a pole has a greater cosine than the pole. -/
theorem IsRegional.sin_lt (regional : IsRegional ring circle) {vertex : Position ℝ}
    (member : vertex ∈ ring) :
    |Real.sin (radians circle.latitude)| <
      angleCosine circle.latitude circle.longitude vertex.latitude vertex.longitude := by
  have north := Sphere.distanceKm_lt_iff.mp
    (regional.offPoles vertex member 90 (Set.mem_insert _ _))
  have south := Sphere.distanceKm_lt_iff.mp
    (regional.offPoles vertex member (-90) (Set.mem_insert_of_mem _ rfl))
  rw [Sphere.angleCosine_ninety] at north
  rw [Sphere.angleCosine_neg_ninety] at south
  exact abs_lt.mpr ⟨by linarith, north⟩

theorem IsRegional.abs_latitude_lt (regional : IsRegional ring circle) {vertex : Position ℝ}
    (member : vertex ∈ ring) : |vertex.latitude| < 90 := by
  have sine := regional.sin_lt member
  refine lt_of_le_of_ne (abs_le.mpr (regional.latitudes vertex member)) fun atPole => ?_
  rcases (abs_eq (by norm_num)).mp atPole with north | south
  · rw [north, Sphere.angleCosine_ninety] at sine
    exact absurd sine (not_lt.mpr (le_abs_self _))
  · rw [south, Sphere.angleCosine_neg_ninety] at sine
    exact absurd sine (not_lt.mpr (neg_le_abs _))

theorem abs_le_ninety_of_cos_pos {difference : ℝ} (half : |difference| ≤ 180)
    (front : 0 < Real.cos (radians difference)) : |difference| ≤ 90 := by
  by_contra! beyond
  rw [← Real.cos_abs, Sphere.abs_radians] at front
  refine absurd front (not_lt.mpr (Real.cos_nonpos_of_pi_div_two_le_of_le ?_ ?_))
  · rw [← Sphere.radians_ninety, Sphere.radians_le_radians]
    exact beyond.le
  · rw [← Sphere.radians_le_radians, Sphere.radians_half_turn] at half
    linarith [Real.pi_pos]

theorem IsRegional.abs_longitude_le (regional : IsRegional ring circle)
    (drawn : IsDrawn ring circle) {vertex : Position ℝ} (member : vertex ∈ ring) :
    |vertex.longitude - circle.longitude| ≤ 90 := by
  refine abs_le_ninety_of_cos_pos (drawn.abs_longitude_sub_le regional member) ?_
  have sine := regional.sin_lt member
  obtain ⟨south, north⟩ := regional.latitudes vertex member
  have product : 0 ≤ Real.cos (radians circle.latitude) * Real.cos (radians vertex.latitude) :=
    mul_nonneg (Sphere.cos_latitude_nonneg (abs_le.mpr (drawn.latitude_mem regional)))
      (Sphere.cos_latitude_nonneg (abs_le.mpr ⟨south, north⟩))
  have sines := Sphere.sin_mul_sin_le (radians circle.latitude) (radians vertex.latitude)
  rw [angleCosine] at sine
  by_contra! behind
  have := mul_nonpos_of_nonneg_of_nonpos product behind
  linarith

noncomputable def reach (ring : Ring ℝ) (circle : Circle ℝ) : ℝ :=
  farthestKm circle ring / 6371

theorem distanceKm_le_farthestKm (circle : Circle ℝ) {vertex : Position ℝ}
    (member : vertex ∈ openRing ring) :
    distanceKm circle.latitude circle.longitude vertex.latitude vertex.longitude ≤
      farthestKm circle ring :=
  (farthestKm_le_iff.mp le_rfl).2 vertex member

theorem farthestKm_nonneg (circle : Circle ℝ) (ring : Ring ℝ) : 0 ≤ farthestKm circle ring :=
  (farthestKm_le_iff.mp le_rfl).1

theorem IsDrawn.farthestKm_le (drawn : IsDrawn ring circle) :
    farthestKm circle ring ≤ circle.radiusKm := by
  rw [drawn.radiusKm]
  exact le_mul_of_one_le_right (farthestKm_nonneg circle ring) (by norm_num)

theorem reach_mem_Icc (ring : Ring ℝ) (circle : Circle ℝ) :
    reach ring circle ∈ Set.Icc 0 Real.pi := by
  have low := farthestKm_nonneg circle ring
  have high : farthestKm circle ring ≤ 6371 * Real.pi := by
    refine farthestKm_le_iff.mpr ⟨by positivity, fun vertex member => ?_⟩
    rw [Sphere.distanceKm_eq]
    exact mul_le_mul_of_nonneg_left (Sphere.centralAngle_le_pi _ _ _ _) (by norm_num)
  rw [reach, Set.mem_Icc, le_div_iff₀ (by norm_num), div_le_iff₀ (by norm_num)]
  exact ⟨by linarith, by linarith⟩

/-- A pole is farther away than the farthest vertex. -/
theorem IsRegional.cos_pole_lt (regional : IsRegional ring circle) (drawn : IsDrawn ring circle)
    {pole : ℝ} (isPole : pole ∈ ({90, -90} : Set ℝ)) :
    angleCosine circle.latitude circle.longitude pole circle.longitude <
      Real.cos (reach ring circle) := by
  have farther : farthestKm circle ring <
      distanceKm circle.latitude circle.longitude pole circle.longitude := by
    have nearer (vertex : Position ℝ) (member : vertex ∈ openRing ring) :=
      regional.offPoles vertex (openRing_subset ring member) pole isPole
    refine farthestKm_lt_iff.mpr ⟨?_, nearer⟩
    obtain ⟨vertex, member⟩ := List.exists_mem_of_ne_nil _ drawn.nonempty
    refine lt_of_le_of_lt ?_ (nearer vertex member)
    rw [Sphere.distanceKm_eq]
    exact mul_nonneg (by norm_num) (Sphere.centralAngle_nonneg _ _ _ _)
  rw [Sphere.distanceKm_eq] at farther
  rw [← Sphere.cos_centralAngle]
  refine Real.cos_lt_cos_of_nonneg_of_le_pi (reach_mem_Icc ring circle).1
    (Sphere.centralAngle_le_pi _ _ _ _) ?_
  rw [reach, div_lt_iff₀ (by norm_num)]
  linarith

/-- The circle stays off the poles. -/
theorem IsRegional.sin_le_cos_reach (regional : IsRegional ring circle)
    (drawn : IsDrawn ring circle) :
    |Real.sin (radians circle.latitude)| ≤ Real.cos (reach ring circle) := by
  have north := regional.cos_pole_lt drawn (Set.mem_insert 90 {-90})
  have south := regional.cos_pole_lt drawn (Set.mem_insert_of_mem 90 rfl)
  rw [Sphere.angleCosine_ninety] at north
  rw [Sphere.angleCosine_neg_ninety] at south
  exact abs_le.mpr ⟨by linarith, north.le⟩

/-- Every vertex lies in the cap of the circle. -/
theorem IsRegional.points_subset_cap (regional : IsRegional ring circle)
    (drawn : IsDrawn ring circle) :
    points (openRing ring) ⊆
      cap circle.latitude circle.longitude (Real.cos (reach ring circle)) := by
  rintro _ ⟨vertex, member, rfl⟩
  have known := openRing_subset ring member
  refine ⟨regional.abs_latitude_lt known, regional.abs_longitude_le drawn known, ?_⟩
  rw [← Sphere.cos_centralAngle]
  refine Real.cos_le_cos_of_nonneg_of_le_pi (Sphere.centralAngle_nonneg _ _ _ _)
    (reach_mem_Icc ring circle).2 ?_
  have near := distanceKm_le_farthestKm circle member
  rw [Sphere.distanceKm_eq] at near
  rw [reach, le_div_iff₀ (by norm_num)]
  linarith

/-- In exact arithmetic the circle about the ring of a region covers what the ring contains. -/
theorem IsRegional.distanceKm_le (regional : IsRegional ring circle)
    (drawn : IsDrawn ring circle) {latitude longitude : ℝ}
    (inside : contains ring latitude longitude = true) :
    distanceKm circle.latitude circle.longitude latitude longitude ≤ circle.radiusKm := by
  obtain ⟨low, high⟩ := reach_mem_Icc ring circle
  have convex := Sphere.convex_cap circle.longitude
    (Sphere.cos_latitude_nonneg (abs_le.mpr (drawn.latitude_mem regional)))
    (regional.sin_le_cos_reach drawn)
  rw [← contains_openRing_real] at inside
  obtain ⟨-, -, within⟩ := convexHull_min (regional.points_subset_cap drawn) convex
    (mem_convexHull_of_contains inside)
  have angle := Real.arccos_le_arccos within
  rw [Real.arccos_cos low high] at angle
  rw [Sphere.distanceKm_eq]
  calc 6371 * centralAngle circle.latitude circle.longitude latitude longitude
      ≤ 6371 * reach ring circle := mul_le_mul_of_nonneg_left angle (by norm_num)
    _ = farthestKm circle ring := mul_div_cancel₀ _ (by norm_num)
    _ ≤ circle.radiusKm := drawn.farthestKm_le

end SpatialWorkload.Ring
