import SpatialWorkload.Proofs.Ring.Bounds
import SpatialWorkload.Proofs.Scalar.Signed

/-!
# The vertex that closes a ring

Every reader of a ring opens or closes it in a way of its own.  A ring of finite coordinates
that does not repeat its first vertex means the same to all of them with that vertex repeated
at the end, and both texts of a ring spell out one closed list of vertices.
-/

namespace SpatialWorkload

namespace BoundingBox

variable {box : BoundingBox Float} {vertex : Position Float}

/-- The box of doubles reaches as far as a vertex, which has numbers for coordinates. -/
structure Reaches (box : BoundingBox Float) (vertex : Position Float) : Prop where
  south : box.minLatitude ≤ vertex.latitude
  north : vertex.latitude ≤ box.maxLatitude
  west : box.minLongitude ≤ vertex.longitude
  east : vertex.longitude ≤ box.maxLongitude

theorem Reaches.extend (reaches : box.Reaches vertex) (other : Position Float) :
    (box.extend other).Reaches vertex :=
  ⟨Double.min_le_of_left_le reaches.south, Double.le_max_of_le_left reaches.north,
    Double.min_le_of_left_le reaches.west, Double.le_max_of_le_left reaches.east⟩

theorem Reaches.foldl_extend (reaches : box.Reaches vertex) (ring : Ring Float) :
    (ring.foldl BoundingBox.extend box).Reaches vertex := by
  induction ring generalizing box with
  | nil => exact reaches
  | cons next rest ih => exact ih (reaches.extend next)

/-- A box does not grow for a vertex that it reaches already. -/
theorem Reaches.extend_eq (reaches : box.Reaches vertex) : box.extend vertex = box := by
  rw [BoundingBox.extend, Double.min_eq_left reaches.south, Double.max_eq_left reaches.north,
    Double.min_eq_left reaches.west, Double.max_eq_left reaches.east]

end BoundingBox

namespace Ring

section

variable {α : Type}

def close (ring : Ring α) : Ring α :=
  ring ++ ring.head?.toList

theorem append_head?_map {β : Type} (read : Position α → β) (ring : Ring α) :
    ring.map read ++ (ring.map read).head?.toList = (close ring).map read := by
  rw [close, List.map_append, List.head?_map]
  cases ring.head? <;> rfl

theorem head?_close (ring : Ring α) : (close ring).head? = ring.head? := by
  cases ring <;> rfl

theorem getLast?_close (ring : Ring α) : (close ring).getLast? = ring.head? := by
  cases ring with
  | nil => rfl
  | cons first rest => exact List.getLast?_concat

theorem length_close {ring : Ring α} (nonempty : ring ≠ []) :
    (close ring).length = ring.length + 1 := by
  cases ring with
  | nil => exact absurd rfl nonempty
  | cons first rest => simp [close]

variable [Scalar α]

/-- A ring of one vertex, or one whose last vertex stands elsewhere than its first. -/
def IsOpen (ring : Ring α) : Prop :=
  ring.length = 1 ∨
    ∃ first last, ring.head? = some first ∧ ring.getLast? = some last ∧
      first.sameCoordinate last = false

theorem openRing_of_isOpen {ring : Ring α} (isOpen : IsOpen ring) : openRing ring = ring := by
  rcases ring with _ | ⟨first, _ | ⟨second, rest⟩⟩
  · rfl
  · rfl
  · rcases isOpen with single | ⟨first, last, atHead, atEnd, apart⟩
    · cases single
    · cases atHead
      rw [List.getLast?_cons_cons, List.getLast?_eq_some_getLast (List.cons_ne_nil _ _)] at atEnd
      cases atEnd
      refine if_neg ?_
      rw [List.getLastD_eq_getLast?, List.getLast?_eq_some_getLast (List.cons_ne_nil _ _),
        Option.getD_some, apart]
      exact Bool.false_ne_true

/-- Opening a ring leaves out the vertex that closes it. -/
theorem openRing_close {ring : Ring α}
    (comparable : ∀ first, ring.head? = some first → first.sameCoordinate first = true) :
    openRing (close ring) = ring := by
  rcases ring with _ | ⟨first, _ | ⟨second, rest⟩⟩
  · rfl
  · exact if_pos (comparable first rfl)
  · have closes : first.sameCoordinate ((second :: (rest ++ [first])).getLastD second) = true := by
      rw [← List.cons_append, List.getLastD_concat]
      exact comparable first rfl
    refine (if_pos closes).trans ?_
    change ((first :: second :: rest) ++ [first]).dropLast = first :: second :: rest
    rw [List.dropLast_concat]

/-- The coordinates are those of the ring that was opened and closed again. -/
theorem closedCoordinates_eq (ring : Ring α) :
    closedCoordinates ring =
      (close (openRing ring)).map fun vertex => (vertex.longitude, vertex.latitude) :=
  append_head?_map _ _

theorem closedCoordinates_ends {ring : Ring α} (nonempty : ring ≠ []) :
    ∃ pair, (closedCoordinates ring).head? = some pair ∧
      (closedCoordinates ring).getLast? = some pair := by
  rw [closedCoordinates_eq, List.head?_map, List.getLast?_map, head?_close, getLast?_close,
    List.head?_eq_some_head (openRing_ne_nil nonempty)]
  exact ⟨_, rfl, rfl⟩

theorem length_closedCoordinates {ring : Ring α} (nonempty : ring ≠ []) :
    (closedCoordinates ring).length = (openRing ring).length + 1 := by
  rw [closedCoordinates_eq, List.length_map, length_close (openRing_ne_nil nonempty)]

/-- The text spells out the closed coordinates. -/
theorem wellKnownText_eq (write : α → String) (ring : Ring α) :
    wellKnownText write ring =
      "POLYGON((" ++ ", ".intercalate ((closedCoordinates ring).map fun pair =>
        write pair.1 ++ " " ++ write pair.2) ++ "))" := by
  rw [wellKnownText, append_head?_map, closedCoordinates_eq, List.map_map]
  rfl

end

theorem sameCoordinate_self {vertex : Position Float}
    (numbers : Double.IsNumber vertex.latitude ∧ Double.IsNumber vertex.longitude) :
    vertex.sameCoordinate vertex = true := by
  have latitude := (Double.isNumber_double _).mpr numbers.1
  have longitude := (Double.isNumber_double _).mpr numbers.2
  rw [Scalar.isNumber] at latitude longitude
  rw [Position.sameCoordinate, Scalar.same, Scalar.same, latitude, longitude]
  rfl

/-- The box of a ring reaches its first vertex, whatever stands at the others. -/
theorem bounds_close {ring : Ring Float}
    (numbers : ∀ first, ring.head? = some first →
      Double.IsNumber first.latitude ∧ Double.IsNumber first.longitude) :
    bounds (close ring) = bounds ring := by
  cases ring with
  | nil => rfl
  | cons first rest =>
      obtain ⟨latitude, longitude⟩ := numbers first rfl
      rw [← Double.le_self_iff] at latitude longitude
      have reaches : (BoundingBox.ofPosition first).Reaches first :=
        ⟨latitude, latitude, longitude, longitude⟩
      refine congrArg some ?_
      change ((first :: rest) ++ [first]).foldl BoundingBox.extend _ = _
      rw [List.foldl_concat]
      exact (reaches.foldl_extend (first :: rest)).extend_eq

section

variable {α : Type} [Field α] [LinearOrder α] [IsStrictOrderedRing α] [ElementaryFunctions α]

theorem contains_close (ring : Ring α) (latitude longitude : α) :
    contains (close ring) latitude longitude = contains ring latitude longitude := by
  have opened : openRing (close ring) = ring :=
    openRing_close fun first _ => (sameCoordinate_iff first first).mpr ⟨rfl, rfl⟩
  rw [← contains_openRing (close ring), opened]

theorem inside_close (positions : List (Position α)) (ring : Ring α) :
    Table.inside positions (close ring) = Table.inside positions ring := by
  rw [Table.inside_exact, Table.inside_exact]
  simp only [contains_close]

end

theorem scan_inside_congr {α : Type} [Scalar α] {ring other : Ring α}
    (inside : ∀ positions, Table.inside positions ring = Table.inside positions other)
    (store : MemoryStore α) (table : String) :
    store.scan table (.inside ring) = store.scan table (.inside other) := by
  unfold MemoryStore.scan
  cases store.table? table with
  | none => rfl
  | some found => exact inside found.positions.toList

/--
An open ring of finite coordinates has the same texts, bounds and circle with its first vertex
repeated at the end, and a scan of it the same answer.  In exact arithmetic any ring contains
the same points with it.  What both texts of a ring spell out begins and ends with the same
vertex, and is one longer than the ring without its closing vertex.
-/
theorem closing_changes_nothing {α : Type} [Field α] [LinearOrder α] [IsStrictOrderedRing α]
    [ElementaryFunctions α] :
    (∀ ring : Ring Float, IsOpen ring →
      (∀ vertex ∈ ring, vertex.latitude.isFinite = true ∧ vertex.longitude.isFinite = true) →
        (∀ write, wellKnownText write (close ring) = wellKnownText write ring) ∧
        closedCoordinates (close ring) = closedCoordinates ring ∧
        bounds (close ring) = bounds ring ∧
        enclosingCircle (close ring) = enclosingCircle ring ∧
        ∀ (store : MemoryStore Float) table,
          store.scan table (.inside (close ring)) = store.scan table (.inside ring)) ∧
    (∀ ring : Ring α,
      (∀ latitude longitude,
        contains (close ring) latitude longitude = contains ring latitude longitude) ∧
      ∀ (store : MemoryStore α) table,
        store.scan table (.inside (close ring)) = store.scan table (.inside ring)) ∧
    (∀ ring : Ring Float, ring ≠ [] →
      (∃ pair, (closedCoordinates ring).head? = some pair ∧
        (closedCoordinates ring).getLast? = some pair) ∧
      (closedCoordinates ring).length = (openRing ring).length + 1 ∧
      ∀ write, wellKnownText write ring =
        "POLYGON((" ++ ", ".intercalate ((closedCoordinates ring).map fun pair =>
          write pair.1 ++ " " ++ write pair.2) ++ "))") := by
  refine ⟨fun ring isOpen finite => ?_, fun ring => ?_, fun ring nonempty => ?_⟩
  · have numbers : ∀ first, ring.head? = some first →
        Double.IsNumber first.latitude ∧ Double.IsNumber first.longitude := by
      intro first atHead
      obtain ⟨latitude, longitude⟩ := finite first (List.mem_of_mem_head? atHead)
      exact ⟨Double.isNumber_of_isFinite latitude, Double.isNumber_of_isFinite longitude⟩
    have opened : openRing (close ring) = openRing ring := by
      rw [openRing_of_isOpen isOpen]
      exact openRing_close fun first atHead => sameCoordinate_self (numbers first atHead)
    refine ⟨fun write => ?_, ?_, bounds_close numbers, ?_, scan_inside_congr fun positions => ?_⟩
    · rw [wellKnownText, wellKnownText, opened]
    · rw [closedCoordinates, closedCoordinates, opened]
    · rw [enclosingCircle, enclosingCircle, opened]
    · rw [Table.inside, Table.inside, opened]
  · exact ⟨contains_close ring, scan_inside_congr fun positions => inside_close positions ring⟩
  · exact ⟨closedCoordinates_ends nonempty, length_closedCoordinates nonempty,
      fun write => wellKnownText_eq write ring⟩

/-- A triangle of doubles, which is open. -/
theorem closing_changes_nothing_triangle :
    IsOpen [.vertex (0 : Float) 0, .vertex 0 1, .vertex 1 1] ∧
      bounds [.vertex (0 : Float) 0, .vertex 0 1, .vertex 1 1, .vertex 0 0] =
        bounds [.vertex (0 : Float) 0, .vertex 0 1, .vertex 1 1] := by
  have isOpen : IsOpen [.vertex (0 : Float) 0, .vertex 0 1, .vertex 1 1] :=
    .inr ⟨_, _, rfl, rfl, by decide +kernel⟩
  have finite : ∀ vertex ∈ ([.vertex 0 0, .vertex 0 1, .vertex 1 1] : Ring Float),
      vertex.latitude.isFinite = true ∧ vertex.longitude.isFinite = true := by
    decide +kernel
  obtain ⟨doubles, -, -⟩ := @closing_changes_nothing ℚ _ _ _ _
  exact ⟨isOpen, (doubles _ isOpen finite).2.2.1⟩

end Ring

end SpatialWorkload
