import SpatialWorkload.Proofs.Ring.Redrawn
import SpatialWorkload.Ring.Basic
import SpatialWorkload.Store.Memory

/-!
# The bounds of a ring hold what it contains

In exact arithmetic a ring winds round no point outside its bounds, because each side of the
box lies on a line with the whole ring beyond it.  Nor does it matter whether the first vertex
is repeated at the end.  So a scan of a polygon finds all that the
ring contains, however it is given.
-/

namespace SpatialWorkload

namespace BoundingBox

variable {α : Type} [Field α] [LinearOrder α] [ElementaryFunctions α] {box : BoundingBox α}
  {vertex : Position α}

/-- The box holds a vertex, without any turn of the globe. -/
structure Covers (box : BoundingBox α) (vertex : Position α) : Prop where
  south : box.minLatitude ≤ vertex.latitude
  north : vertex.latitude ≤ box.maxLatitude
  west : box.minLongitude ≤ vertex.longitude
  east : vertex.longitude ≤ box.maxLongitude

theorem extend_exact (box : BoundingBox α) (vertex : Position α) :
    box.extend vertex =
      ⟨min box.minLatitude vertex.latitude, max box.maxLatitude vertex.latitude,
        min box.minLongitude vertex.longitude, max box.maxLongitude vertex.longitude⟩ := by
  simp only [extend, Scalar.min_exact, Scalar.max_exact]

theorem covers_extend (box : BoundingBox α) (vertex : Position α) :
    (box.extend vertex).Covers vertex := by
  rw [extend_exact]
  exact ⟨min_le_right _ _, le_max_right _ _, min_le_right _ _, le_max_right _ _⟩

theorem Covers.extend (covers : box.Covers vertex) (other : Position α) :
    (box.extend other).Covers vertex := by
  rw [extend_exact]
  exact ⟨min_le_of_left_le covers.south, le_max_of_le_left covers.north,
    min_le_of_left_le covers.west, le_max_of_le_left covers.east⟩

theorem Covers.foldl_extend (covers : box.Covers vertex) (ring : Ring α) :
    (ring.foldl BoundingBox.extend box).Covers vertex := by
  induction ring generalizing box with
  | nil => exact covers
  | cons next rest ih => exact ih (covers.extend next)

theorem covers_foldl_extend (ring : Ring α) (box : BoundingBox α) :
    ∀ vertex ∈ ring, (ring.foldl extend box).Covers vertex := by
  induction ring generalizing box with
  | nil => exact fun vertex member => absurd member List.not_mem_nil
  | cons next rest ih =>
      refine List.forall_mem_cons.mpr ⟨?_, ih (box.extend next)⟩
      exact (box.covers_extend next).foldl_extend rest

/-- What the box does not hold lies beyond one of its sides. -/
theorem outside_of_contains_eq_false {latitude longitude : α}
    (outside : box.contains latitude longitude = false) :
    latitude < box.minLatitude ∨ box.maxLatitude < latitude ∨
      longitude < box.minLongitude ∨ box.maxLongitude < longitude := by
  by_contra! inside
  obtain ⟨south, north, west, east⟩ := inside
  have spans : box.spansLongitude longitude = true := by
    rw [spansLongitude, Bool.and_eq_true, Scalar.le_exact, Scalar.le_exact]
    exact ⟨west, east⟩
  have between : ¬(Scalar.lt latitude box.minLatitude || Scalar.lt box.maxLatitude latitude) =
      true := by
    rw [Bool.or_eq_true, Scalar.lt_exact, Scalar.lt_exact]
    exact not_or.mpr ⟨not_lt.mpr south, not_lt.mpr north⟩
  rw [contains, if_neg between, spans] at outside
  cases outside

end BoundingBox

namespace Ring

theorem openRing_ne_nil {α : Type} [Scalar α] {ring : Ring α} (nonempty : ring ≠ []) :
    openRing ring ≠ [] := by
  unfold openRing
  split
  · split <;> exact List.cons_ne_nil _ _
  · exact nonempty

variable {α : Type} [Field α] [LinearOrder α] [ElementaryFunctions α]

theorem covers_of_bounds {ring : Ring α} {box : BoundingBox α} (found : bounds ring = some box) :
    ∀ vertex ∈ ring, box.Covers vertex := by
  cases ring with
  | nil => cases found
  | cons first rest =>
      injection found with equal
      rw [← equal]
      exact BoundingBox.covers_foldl_extend (first :: rest) _

variable [IsStrictOrderedRing α] {latitude longitude : α}

/-- A closed ring winds round no point outside its bounds. -/
theorem winding_eq_zero_of_outside {ring : Ring α} {box : BoundingBox α}
    (found : bounds ring = some box) (outside : box.contains latitude longitude = false) :
    winding latitude longitude ring = 0 := by
  have covers := covers_of_bounds found
  rcases BoundingBox.outside_of_contains_eq_false outside with below | above | left | right
  · refine winding_eq_zero_of_beyond 1 0 fun vertex member => ?_
    simpa [IsBeyond] using below.trans_le (covers vertex member).south
  · refine winding_eq_zero_of_beyond (-1) 0 fun vertex member => ?_
    simpa [IsBeyond] using (covers vertex member).north.trans_lt above
  · refine winding_eq_zero_of_beyond 0 1 fun vertex member => ?_
    simpa [IsBeyond] using left.trans_le (covers vertex member).west
  · refine winding_eq_zero_of_beyond 0 (-1) fun vertex member => ?_
    simpa [IsBeyond] using (covers vertex member).east.trans_lt right

omit [IsStrictOrderedRing α] in
theorem sameCoordinate_iff (first second : Position α) :
    first.sameCoordinate second = true ↔
      first.latitude = second.latitude ∧ first.longitude = second.longitude := by
  rw [Position.sameCoordinate, Bool.and_eq_true, Scalar.same_exact, Scalar.same_exact]

omit [IsStrictOrderedRing α] in
/-- A ring is as it was, or its last vertex, which repeats the first one, is gone. -/
theorem openRing_cases (ring : Ring α) :
    openRing ring = ring ∨
      ∃ first middle last, ring = first :: (middle ++ [last]) ∧
        openRing ring = first :: middle ∧
        first.latitude = last.latitude ∧ first.longitude = last.longitude := by
  rcases ring with _ | ⟨first, _ | ⟨second, rest⟩⟩
  · exact Or.inl rfl
  · exact Or.inl rfl
  · by_cases closes : first.sameCoordinate ((second :: rest).getLastD second) = true
    · refine Or.inr ⟨first, (second :: rest).dropLast,
        (second :: rest).getLast (List.cons_ne_nil _ _), ?_, if_pos closes, ?_⟩
      · rw [List.dropLast_concat_getLast]
      · rw [List.getLastD_eq_getLast?, List.getLast?_eq_some_getLast (List.cons_ne_nil _ _),
          Option.getD_some] at closes
        exact (sameCoordinate_iff _ _).mp closes
    · exact Or.inl (if_neg closes)

/-- The vertex that closes a ring adds nothing to what the first vertex closes. -/
theorem winding_concat {ring : Ring α} {first last : Position α} (atHead : ring.head? = some first)
    (closes : first.latitude = last.latitude ∧ first.longitude = last.longitude) :
    winding latitude longitude (ring ++ [last]) = winding latitude longitude ring := by
  rcases List.eq_nil_or_concat ring with rfl | ⟨before, start, rfl⟩
  · cases atHead
  · rw [List.concat_eq_append, List.append_assoc]
    rw [List.concat_eq_append] at atHead
    have on : IsOnSegment start first last.latitude last.longitude :=
      (IsOnSegment.at_start closes.1.symm closes.2.symm).symm
    exact winding_insert before [] atHead on

/-- A ring contains the same points with and without its closing vertex. -/
theorem contains_openRing (ring : Ring α) (latitude longitude : α) :
    contains (openRing ring) latitude longitude = contains ring latitude longitude := by
  rcases openRing_cases ring with same | ⟨first, middle, last, rfl, opened, closes⟩
  · rw [same]
  · rw [opened, contains_exact, contains_exact, ← List.cons_append, winding_concat rfl closes]

end Ring

theorem Table.inside_exact {α : Type} [Field α] [LinearOrder α] [IsStrictOrderedRing α]
    [ElementaryFunctions α] (positions : List (Position α)) (ring : Ring α) :
    inside positions ring =
      positions.filter fun position => Ring.contains ring position.latitude position.longitude := by
  unfold inside
  dsimp only
  split
  · rename_i unbounded
    have vertices : Ring.openRing ring = [] := by
      cases opened : Ring.openRing ring with
      | nil => rfl
      | cons first rest =>
          rw [opened] at unbounded
          cases unbounded
    refine (List.filter_eq_nil_iff.mpr fun position member inside => ?_).symm
    rw [← Ring.contains_openRing, vertices] at inside
    cases inside
  · rename_i box found
    refine List.filter_congr fun position member => ?_
    rw [← Ring.contains_openRing ring]
    cases held : box.contains position.latitude position.longitude with
    | true => exact Bool.true_and _
    | false =>
        rw [Ring.contains, Ring.winding_eq_zero_of_outside found held, bne_self_eq_false,
          Bool.and_false, Bool.and_false]

namespace MemoryStore

/--
Over the rational numbers a scan of a polygon finds exactly the stored positions that the
ring contains, in the order of their insertion, whatever the shape of the ring and whether
or not it repeats its first vertex.
-/
theorem scan_inside [ElementaryFunctions ℚ] (store : MemoryStore ℚ) (name : String)
    (ring : Ring ℚ) :
    store.scan name (.inside ring) =
      (store.positions name).filter fun position =>
        Ring.contains ring position.latitude position.longitude := by
  unfold scan positions
  cases store.table? name with
  | none => rfl
  | some table => exact Table.inside_exact table.positions.toList ring

end MemoryStore

end SpatialWorkload
