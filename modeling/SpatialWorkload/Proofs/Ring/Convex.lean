import Mathlib.Tactic.FieldSimp
import SpatialWorkload.Proofs.Ring.Redrawn

/-!
# Rings and half-planes

In exact arithmetic a ring contains only points of the convex hull of its vertices, which is
what every half-plane about the vertices has in common.  It contains all points on the left
of every edge, because a ring that turns round a point the same way all along does not stay
on one side of it.  On a convex ring the two meet but for the points on its edges.
-/

namespace SpatialWorkload.Ring

section

variable {α : Type} [Field α] [LinearOrder α]

/-- Every half-plane that holds all vertices holds the point. -/
def InHull (ring : Ring α) (latitude longitude : α) : Prop :=
  ∀ a b c, (∀ vertex ∈ ring, a * vertex.longitude + b * vertex.latitude ≤ c) →
    a * longitude + b * latitude ≤ c

/-- How far a vertex lies beyond the line through a point, in units of its normal. -/
def depth (p q latitude longitude : α) (vertex : Position α) : α :=
  p * (vertex.latitude - latitude) + q * (vertex.longitude - longitude)

theorem InHull.reverse {ring : Ring α} {latitude longitude : α}
    (hull : InHull ring latitude longitude) : InHull ring.reverse latitude longitude :=
  fun a b c holds => hull a b c fun vertex member => holds vertex (List.mem_reverse.mpr member)

variable [ElementaryFunctions α] {latitude longitude : α} {start finish : Position α}

/-- No vertex lies on the right of an edge, or none on the left of one. -/
def IsConvex (ring : Ring α) : Prop :=
  (∀ edge ∈ edges ring, ∀ vertex ∈ ring,
    0 ≤ sideOf edge.1 edge.2 vertex.latitude vertex.longitude) ∨
  ∀ edge ∈ edges ring, ∀ vertex ∈ ring,
    sideOf edge.1 edge.2 vertex.latitude vertex.longitude ≤ 0

theorem IsOnSegment.sideOf_eq_zero (on : IsOnSegment start finish latitude longitude) :
    sideOf start finish latitude longitude = 0 := by
  obtain ⟨part, -, -, vertical, horizontal⟩ := on
  rw [sideOf_exact, vertical, horizontal]
  ring

theorem crossing_nonneg (left : 0 ≤ sideOf start finish latitude longitude) :
    0 ≤ crossing latitude longitude start finish := by
  rw [crossing_exact]
  split
  · split <;> decide
  · rw [if_neg fun both => absurd left (not_le.mpr both.2)]

/-- The side of an edge, measured by what lies beyond a line and by what lies along it. -/
theorem mul_sideOf_eq (p q latitude longitude : α) (start finish : Position α) :
    (p * p + q * q) * sideOf start finish latitude longitude =
      depth p q latitude longitude start * depth q (-p) latitude longitude finish -
        depth q (-p) latitude longitude start * depth p q latitude longitude finish := by
  rw [sideOf_exact, depth, depth, depth, depth]
  ring

end

variable {α : Type} [Field α] [LinearOrder α] [IsStrictOrderedRing α] {latitude longitude : α}
  {start finish : Position α} {ring : Ring α}

/-- Finitely many numbers below a bound stay below a lower one. -/
theorem exists_lower_bound {quantity : Position α → α} {bound : α}
    (below : ∀ vertex ∈ ring, quantity vertex < bound) :
    ∃ lower < bound, ∀ vertex ∈ ring, quantity vertex ≤ lower := by
  induction ring with
  | nil => exact ⟨bound - 1, sub_one_lt bound, fun vertex member => absurd member List.not_mem_nil⟩
  | cons first rest ih =>
      obtain ⟨atFirst, further⟩ := List.forall_mem_cons.mp below
      obtain ⟨lower, less, holds⟩ := ih further
      refine ⟨max (quantity first) lower, max_lt atFirst less, List.forall_mem_cons.mpr ⟨?_, ?_⟩⟩
      · exact le_max_left _ _
      · exact fun vertex member => (holds vertex member).trans (le_max_right _ _)

theorem depth_pos {p q : α} {vertex : Position α} :
    0 < depth p q latitude longitude vertex ↔ IsBeyond p q latitude longitude vertex := by
  rw [IsBeyond, depth, ← sub_pos (b := p * latitude + q * longitude)]
  exact iff_of_eq (congrArg (0 < ·) (by ring))

/-- A point is in the hull when no line through it has the whole ring beyond it. -/
theorem inHull_iff :
    InHull ring latitude longitude ↔
      ∀ p q, ∃ vertex ∈ ring, ¬IsBeyond p q latitude longitude vertex := by
  constructor
  · intro hull p q
    by_contra! beyond
    have below : ∀ vertex ∈ ring,
        -q * vertex.longitude + -p * vertex.latitude < -q * longitude + -p * latitude := by
      intro vertex member
      have far := beyond vertex member
      rw [IsBeyond] at far
      linarith
    obtain ⟨lower, less, holds⟩ := exists_lower_bound below
    exact absurd (hull (-q) (-p) lower holds) (not_le.mpr less)
  · intro near a b c holds
    obtain ⟨vertex, member, notBeyond⟩ := near (-b) (-a)
    have within := holds vertex member
    rw [IsBeyond, not_lt] at notBeyond
    linarith

namespace InHull

variable (hull : InHull ring latitude longitude)
include hull

theorem exists_south : ∃ vertex ∈ ring, vertex.latitude ≤ latitude := by
  simpa [IsBeyond] using inHull_iff.mp hull 1 0

theorem exists_north : ∃ vertex ∈ ring, latitude ≤ vertex.latitude := by
  simpa [IsBeyond] using inHull_iff.mp hull (-1) 0

theorem exists_west : ∃ vertex ∈ ring, vertex.longitude ≤ longitude := by
  simpa [IsBeyond] using inHull_iff.mp hull 0 1

theorem exists_east : ∃ vertex ∈ ring, longitude ≤ vertex.longitude := by
  simpa [IsBeyond] using inHull_iff.mp hull 0 (-1)

end InHull

/-- A point between two vertices, each with a weight, lies on the segment. -/
theorem IsOnSegment.of_weights {first second : α} (firstNonneg : 0 ≤ first)
    (secondNonneg : 0 ≤ second) (some : 0 < first + second)
    (vertical : first * (start.latitude - latitude) + second * (finish.latitude - latitude) = 0)
    (horizontal :
      first * (start.longitude - longitude) + second * (finish.longitude - longitude) = 0) :
    IsOnSegment start finish latitude longitude := by
  have total : first + second ≠ 0 := some.ne'
  refine ⟨second / (first + second), div_nonneg secondNonneg some.le,
    (div_le_one some).mpr (le_add_of_nonneg_left firstNonneg), ?_, ?_⟩
  · field_simp
    linarith
  · field_simp
    linarith

/-- On the point's latitude an edge from the east of it to the west passes through it. -/
theorem IsOnSegment.of_level (startLevel : start.latitude = latitude)
    (finishLevel : finish.latitude = latitude) (startEast : longitude ≤ start.longitude)
    (finishWest : finish.longitude ≤ longitude) (apart : finish.longitude < start.longitude) :
    IsOnSegment start finish latitude longitude := by
  refine .of_weights (sub_nonneg.mpr finishWest) (sub_nonneg.mpr startEast) ?_ ?_ ?_
  · linarith
  · rw [startLevel, finishLevel]
    ring
  · ring

variable [ElementaryFunctions α]

/-- A rising edge with the point neither on it nor on its right has it on its left. -/
theorem sideOf_pos_of_rise (startBelow : start.latitude ≤ latitude)
    (finishAbove : latitude < finish.latitude)
    (left : 0 ≤ sideOf start finish latitude longitude)
    (off : ¬IsOnSegment start finish latitude longitude) :
    0 < sideOf start finish latitude longitude := by
  refine left.lt_of_ne fun straight => off ?_
  rw [sideOf_exact] at straight
  refine .of_weights (sub_nonneg.mpr finishAbove.le) (sub_nonneg.mpr startBelow) ?_ ?_ ?_
  · linarith
  · ring
  · linarith

/-- From the east of the point an edge to its left that does not rise leads to the east. -/
theorem east_of_edge (left : 0 ≤ sideOf start finish latitude longitude)
    (off : ¬IsOnSegment start finish latitude longitude) (level : finish.latitude ≤ latitude)
    (east : start.latitude = latitude ∧ longitude < start.longitude) :
    finish.latitude = latitude ∧ longitude < finish.longitude := by
  have falls : 0 ≤ (start.longitude - longitude) * (finish.latitude - latitude) := by
    rw [sideOf_exact, east.1] at left
    linarith
  have stays : finish.latitude = latitude :=
    le_antisymm level (sub_nonneg.mp (nonneg_of_mul_nonneg_right falls (sub_pos.mpr east.2)))
  refine ⟨stays, not_le.mp fun west => off ?_⟩
  exact .of_level east.1 stays east.2.le west (west.trans_lt east.2)

/-- To the west of the point such an edge leads only from the west. -/
theorem west_of_edge (left : 0 ≤ sideOf start finish latitude longitude)
    (off : ¬IsOnSegment start finish latitude longitude) (level : start.latitude ≤ latitude)
    (west : finish.latitude = latitude ∧ finish.longitude < longitude) :
    start.latitude = latitude ∧ start.longitude < longitude := by
  have rises : 0 ≤ (longitude - finish.longitude) * (start.latitude - latitude) := by
    rw [sideOf_exact, west.1] at left
    linarith
  have stays : start.latitude = latitude :=
    le_antisymm level (sub_nonneg.mp (nonneg_of_mul_nonneg_right rises (sub_pos.mpr west.2)))
  refine ⟨stays, not_le.mp fun east => off ?_⟩
  exact .of_level stays west.1 east west.2.le (west.2.trans_le east)

/-- With no edge on its right or through it, a point of the hull has no vertex beside it. -/
theorem latitude_ne (hull : InHull ring latitude longitude)
    (left : ∀ edge ∈ edges ring, 0 ≤ sideOf edge.1 edge.2 latitude longitude)
    (off : ∀ edge ∈ edges ring, ¬IsOnSegment edge.1 edge.2 latitude longitude)
    (low : ∀ vertex ∈ ring, vertex.latitude ≤ latitude) {vertex : Position α}
    (member : vertex ∈ ring) : vertex.latitude ≠ latitude := by
  intro level
  rcases lt_trichotomy vertex.longitude longitude with west | same | east
  · -- A vertex that is not west of the point leads to none that is.
    obtain ⟨other, otherMember, notWest⟩ := hull.exists_east
    have nowhere : ∀ vertex ∈ ring,
        ¬(vertex.latitude = latitude ∧ vertex.longitude < longitude) := by
      refine forall_of_edges (fun edge inRing notHere there => notHere ?_) otherMember
        fun both => not_lt.mpr notWest both.2
      exact west_of_edge (left edge inRing) (off edge inRing)
        (low edge.1 (fst_mem_of_edge inRing)) there
    exact nowhere vertex member ⟨level, west⟩
  · obtain ⟨finish, edge⟩ := exists_edge_from member
    exact off _ edge (.at_start level.symm same.symm)
  · obtain ⟨other, otherMember, notEast⟩ := hull.exists_west
    have everywhere : ∀ vertex ∈ ring,
        vertex.latitude = latitude ∧ longitude < vertex.longitude := by
      refine forall_of_edges (fun edge inRing => ?_) member ⟨level, east⟩
      exact east_of_edge (left edge inRing) (off edge inRing)
        (low edge.2 (snd_mem_of_edge inRing))
    exact absurd (everywhere other otherMember).2 (not_lt.mpr notEast)

/-- Round a point of the hull with no edge on its right or through it, some edge rises. -/
theorem exists_rising_edge (hull : InHull ring latitude longitude)
    (left : ∀ edge ∈ edges ring, 0 ≤ sideOf edge.1 edge.2 latitude longitude)
    (off : ∀ edge ∈ edges ring, ¬IsOnSegment edge.1 edge.2 latitude longitude) :
    ∃ edge ∈ edges ring, edge.1.latitude ≤ latitude ∧ latitude < edge.2.latitude := by
  by_contra! flat
  obtain ⟨south, southMember, notAbove⟩ := hull.exists_south
  obtain ⟨north, northMember, notBelow⟩ := hull.exists_north
  have low : ∀ vertex ∈ ring, vertex.latitude ≤ latitude :=
    forall_of_edges flat southMember notAbove
  exact latitude_ne hull left off low northMember (le_antisymm (low north northMember) notBelow)

/-- A ring with no edge on the right of a point of its hull or through it winds round it. -/
theorem winding_pos (hull : InHull ring latitude longitude)
    (left : ∀ edge ∈ edges ring, 0 ≤ sideOf edge.1 edge.2 latitude longitude)
    (off : ∀ edge ∈ edges ring, ¬IsOnSegment edge.1 edge.2 latitude longitude) :
    0 < winding latitude longitude ring := by
  obtain ⟨edge, member, startBelow, finishAbove⟩ := exists_rising_edge hull left off
  have one : crossing latitude longitude edge.1 edge.2 = 1 := by
    rw [crossing_of_rise startBelow finishAbove, if_pos]
    exact sideOf_pos_of_rise startBelow finishAbove (left edge member) (off edge member)
  have nonneg : ∀ part ∈ (edges ring).map fun edge => crossing latitude longitude edge.1 edge.2,
      0 ≤ part := by
    rw [List.forall_mem_map]
    exact fun edge member => crossing_nonneg (left edge member)
  have least := List.single_le_sum nonneg _ (List.mem_map_of_mem member)
  rw [one, ← winding_eq_sum] at least
  exact Int.lt_of_lt_of_le Int.one_pos least

/-- With no edge on its left it winds round the point the other way. -/
theorem winding_neg (hull : InHull ring latitude longitude)
    (right : ∀ edge ∈ edges ring, sideOf edge.1 edge.2 latitude longitude ≤ 0)
    (off : ∀ edge ∈ edges ring, ¬IsOnSegment edge.1 edge.2 latitude longitude) :
    winding latitude longitude ring < 0 := by
  have positive : 0 < winding latitude longitude ring.reverse := by
    refine winding_pos hull.reverse (fun edge member => ?_) fun edge member on => ?_
    · rw [sideOf_swap]
      exact neg_nonneg.mpr (right _ (mem_edges_reverse.mp member))
    · exact off _ (mem_edges_reverse.mp member) on.symm
  rw [winding_reverse] at positive
  exact Int.neg_pos.mp positive

theorem contains_of_inHull (hull : InHull ring latitude longitude)
    (side : (∀ edge ∈ edges ring, 0 ≤ sideOf edge.1 edge.2 latitude longitude) ∨
      ∀ edge ∈ edges ring, sideOf edge.1 edge.2 latitude longitude ≤ 0)
    (off : ∀ edge ∈ edges ring, ¬IsOnSegment edge.1 edge.2 latitude longitude) :
    contains ring latitude longitude = true := by
  rw [contains_exact, bne_iff_ne]
  rcases side with left | right
  · exact (winding_pos hull left off).ne'
  · exact (winding_neg hull right off).ne

theorem inHull_of_contains (inside : contains ring latitude longitude = true) :
    InHull ring latitude longitude := by
  rw [inHull_iff]
  intro p q
  by_contra! beyond
  rw [contains_exact, winding_eq_zero_of_beyond p q beyond] at inside
  cases inside

/-- A ring with a point on the left of every edge does not stay on one side of it. -/
theorem inHull_of_left (nonempty : ring ≠ [])
    (left : ∀ edge ∈ edges ring, 0 < sideOf edge.1 edge.2 latitude longitude) :
    InHull ring latitude longitude := by
  rw [inHull_iff]
  intro p q
  by_contra! beyond
  -- Beyond the line every edge leads further along it, by a rising quotient.
  obtain ⟨edge, member, backward⟩ := exists_edge_le nonempty fun vertex =>
    depth q (-p) latitude longitude vertex / depth p q latitude longitude vertex
  have startDeep := depth_pos.mpr (beyond edge.1 (fst_mem_of_edge member))
  have finishDeep := depth_pos.mpr (beyond edge.2 (snd_mem_of_edge member))
  rw [div_le_div_iff₀ finishDeep startDeep] at backward
  have turn := mul_sideOf_eq p q latitude longitude edge.1 edge.2
  have flat : p * p + q * q ≤ 0 :=
    nonpos_of_mul_nonpos_left (by linarith) (left edge member)
  have nonneg := add_nonneg (mul_self_nonneg p) (mul_self_nonneg q)
  obtain ⟨rfl, rfl⟩ := mul_self_add_mul_self_eq_zero.mp (le_antisymm flat nonneg)
  rw [depth, zero_mul, zero_mul, add_zero] at startDeep
  exact lt_irrefl _ startDeep

theorem inHull_of_right (nonempty : ring ≠ [])
    (right : ∀ edge ∈ edges ring, sideOf edge.1 edge.2 latitude longitude < 0) :
    InHull ring latitude longitude := by
  rw [← ring.reverse_reverse]
  refine (inHull_of_left (List.reverse_ne_nil_iff.mpr nonempty) fun edge member => ?_).reverse
  rw [sideOf_swap]
  exact neg_pos.mpr (right _ (mem_edges_reverse.mp member))

/-- A ring contains each point that it passes on the same side all along. -/
theorem contains_of_side (long : 3 ≤ ring.length)
    (side : (∀ edge ∈ edges ring, 0 < sideOf edge.1 edge.2 latitude longitude) ∨
      ∀ edge ∈ edges ring, sideOf edge.1 edge.2 latitude longitude < 0) :
    contains ring latitude longitude = true := by
  have nonempty : ring ≠ [] := List.ne_nil_of_length_pos (Nat.zero_lt_of_lt long)
  rcases side with left | right
  · exact contains_of_inHull (inHull_of_left nonempty left)
      (.inl fun edge member => (left edge member).le)
      fun edge member on => (left edge member).ne' on.sideOf_eq_zero
  · exact contains_of_inHull (inHull_of_right nonempty right)
      (.inr fun edge member => (right edge member).le)
      fun edge member on => (right edge member).ne on.sideOf_eq_zero

/-- What has no vertex on its right has no point of the hull there. -/
theorem InHull.sideOf_nonneg (hull : InHull ring latitude longitude)
    (left : ∀ vertex ∈ ring, 0 ≤ sideOf start finish vertex.latitude vertex.longitude) :
    0 ≤ sideOf start finish latitude longitude := by
  have within := hull (finish.latitude - start.latitude) (start.longitude - finish.longitude)
    ((finish.latitude - start.latitude) * start.longitude +
      (start.longitude - finish.longitude) * start.latitude) fun vertex member => by
    have side := left vertex member
    rw [sideOf_exact] at side
    linarith
  rw [sideOf_exact]
  linarith

theorem IsConvex.side (convex : IsConvex ring) (hull : InHull ring latitude longitude) :
    (∀ edge ∈ edges ring, 0 ≤ sideOf edge.1 edge.2 latitude longitude) ∨
      ∀ edge ∈ edges ring, sideOf edge.1 edge.2 latitude longitude ≤ 0 := by
  rcases convex with left | right
  · exact .inl fun edge member => hull.sideOf_nonneg (left edge member)
  · refine .inr fun edge member => neg_nonneg.mp ?_
    rw [← sideOf_swap]
    refine hull.sideOf_nonneg fun vertex inRing => ?_
    rw [sideOf_swap]
    exact neg_nonneg.mpr (right edge member vertex inRing)

/--
In exact arithmetic a ring contains only points of its hull, and all that it passes on the
same side with every edge.  A convex ring contains exactly its hull, apart from the points
on its edges.
-/
theorem contains_hull (ring : Ring α) (latitude longitude : α) :
    (contains ring latitude longitude = true → InHull ring latitude longitude) ∧
    (3 ≤ ring.length →
      ((∀ edge ∈ edges ring, 0 < sideOf edge.1 edge.2 latitude longitude) ∨
        ∀ edge ∈ edges ring, sideOf edge.1 edge.2 latitude longitude < 0) →
          contains ring latitude longitude = true) ∧
    (IsConvex ring → (∀ edge ∈ edges ring, ¬IsOnSegment edge.1 edge.2 latitude longitude) →
      (contains ring latitude longitude = true ↔ InHull ring latitude longitude)) := by
  refine ⟨inHull_of_contains, contains_of_side, fun convex off => ?_⟩
  exact ⟨inHull_of_contains, fun hull => contains_of_inHull hull (convex.side hull) off⟩

/-- The centre of a square, on the left of every edge. -/
theorem contains_hull_square :
    IsConvex [.vertex (0 : ℚ) 0, .vertex 0 1, .vertex 1 1, .vertex 1 0] ∧
      contains [.vertex (0 : ℚ) 0, .vertex 0 1, .vertex 1 1, .vertex 1 0] (1 / 2) (1 / 2) = true ∧
      InHull [.vertex (0 : ℚ) 0, .vertex 0 1, .vertex 1 1, .vertex 1 0] (1 / 2) (1 / 2) := by
  have convex : IsConvex [.vertex (0 : ℚ) 0, .vertex 0 1, .vertex 1 1, .vertex 1 0] := by
    refine .inl ?_
    decide +kernel
  have left : ∀ edge ∈ edges [.vertex (0 : ℚ) 0, .vertex 0 1, .vertex 1 1, .vertex 1 0],
      0 < sideOf edge.1 edge.2 (1 / 2) (1 / 2) := by
    decide +kernel
  obtain ⟨-, sides, exact⟩ := contains_hull
    [.vertex (0 : ℚ) 0, .vertex 0 1, .vertex 1 1, .vertex 1 0] (1 / 2) (1 / 2)
  have inside := sides (by decide) (.inl left)
  refine ⟨convex, inside, (exact convex fun edge member on => ?_).mp inside⟩
  exact (left edge member).ne' on.sideOf_eq_zero

end SpatialWorkload.Ring
