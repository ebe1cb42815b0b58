import Mathlib.Algebra.BigOperators.Group.List.Basic
import SpatialWorkload.Proofs.Ring.Edges

/-!
# Rings drawn in another way

In exact arithmetic a ring contains the same points wherever it begins and whichever way
round it runs, and also when a vertex is repeated or another one is put on an edge: turned
round, an edge takes back what it added, and a vertex on it parts it into two edges that add
what it added.  The point may lie on the ring itself, and the ring may be too short to
contain anything.
-/

namespace SpatialWorkload.Ring

variable {α : Type} [Field α] [LinearOrder α]

def IsOnSegment (start finish : Position α) (latitude longitude : α) : Prop :=
  ∃ part, 0 ≤ part ∧ part ≤ 1 ∧
    latitude = start.latitude + part * (finish.latitude - start.latitude) ∧
    longitude = start.longitude + part * (finish.longitude - start.longitude)

variable [IsStrictOrderedRing α]

namespace IsOnSegment

variable {start finish : Position α} {latitude longitude bound : α}

theorem symm (on : IsOnSegment start finish latitude longitude) :
    IsOnSegment finish start latitude longitude := by
  obtain ⟨part, low, high, vertical, horizontal⟩ := on
  refine ⟨1 - part, sub_nonneg.mpr high, sub_le_self 1 low, ?_, ?_⟩
  · rw [vertical]
    ring
  · rw [horizontal]
    ring

theorem at_start (sameLatitude : latitude = start.latitude)
    (sameLongitude : longitude = start.longitude) :
    IsOnSegment start finish latitude longitude :=
  ⟨0, le_rfl, zero_le_one, by rw [sameLatitude]; ring, by rw [sameLongitude]; ring⟩

theorem latitude_le (on : IsOnSegment start finish latitude longitude)
    (startBelow : start.latitude ≤ bound) (finishBelow : finish.latitude ≤ bound) :
    latitude ≤ bound := by
  obtain ⟨part, low, high, vertical, -⟩ := on
  have first := mul_nonneg (sub_nonneg.mpr high) (sub_nonneg.mpr startBelow)
  have second := mul_nonneg low (sub_nonneg.mpr finishBelow)
  rw [vertical]
  linarith

theorem lt_latitude (on : IsOnSegment start finish latitude longitude)
    (startAbove : bound < start.latitude) (finishAbove : bound < finish.latitude) :
    bound < latitude := by
  obtain ⟨part, low, high, vertical, -⟩ := on
  rw [vertical]
  rcases low.eq_or_lt with none | some
  · rw [← none]
    linarith
  · have first := mul_nonneg (sub_nonneg.mpr high) (sub_pos.mpr startAbove).le
    have second := mul_pos some (sub_pos.mpr finishAbove)
    linarith

end IsOnSegment

variable [ElementaryFunctions α] {latitude longitude : α} {start finish vertex : Position α}

omit [IsStrictOrderedRing α] in
theorem crossing_of_rise (startBelow : start.latitude ≤ latitude)
    (finishAbove : latitude < finish.latitude) :
    crossing latitude longitude start finish =
      if 0 < sideOf start finish latitude longitude then 1 else 0 := by
  rw [crossing_exact, if_pos startBelow]
  simp only [finishAbove, true_and]

/-- A vertex on a rising edge parts it into two that add what it added. -/
theorem crossing_split_of_rise (on : IsOnSegment start finish vertex.latitude vertex.longitude)
    (startBelow : start.latitude ≤ latitude) (finishAbove : latitude < finish.latitude) :
    crossing latitude longitude start vertex + crossing latitude longitude vertex finish =
      crossing latitude longitude start finish := by
  obtain ⟨part, low, high, vertical, horizontal⟩ := on
  have lower : sideOf start vertex latitude longitude =
      part * sideOf start finish latitude longitude := by
    rw [sideOf_exact, sideOf_exact, vertical, horizontal]
    ring
  have upper : sideOf vertex finish latitude longitude =
      (1 - part) * sideOf start finish latitude longitude := by
    rw [sideOf_exact, sideOf_exact, vertical, horizontal]
    ring
  rcases le_or_gt vertex.latitude latitude with below | above
  · have remains : 0 < 1 - part := by
      refine lt_of_le_of_ne (sub_nonneg.mpr high) fun whole => ?_
      have atFinish : vertex.latitude = finish.latitude := by
        rw [vertical, ← sub_eq_zero.mp whole.symm]
        ring
      exact absurd (atFinish ▸ below) (not_le.mpr finishAbove)
    rw [crossing_of_above startBelow below, crossing_of_rise below finishAbove,
      crossing_of_rise startBelow finishAbove, upper, zero_add]
    simp only [mul_pos_iff_of_pos_left remains]
  · have some : 0 < part := by
      refine lt_of_le_of_ne low fun none => ?_
      have atStart : vertex.latitude = start.latitude := by
        rw [vertical, ← none]
        ring
      exact absurd startBelow (not_le.mpr (atStart ▸ above))
    rw [crossing_of_below above finishAbove, crossing_of_rise startBelow above,
      crossing_of_rise startBelow finishAbove, lower, add_zero]
    simp only [mul_pos_iff_of_pos_left some]

/-- A vertex on an edge parts it into two that add what it added. -/
theorem crossing_split (on : IsOnSegment start finish vertex.latitude vertex.longitude) :
    crossing latitude longitude start vertex + crossing latitude longitude vertex finish =
      crossing latitude longitude start finish := by
  rcases le_or_gt start.latitude latitude with startBelow | startAbove
  · rcases le_or_gt finish.latitude latitude with finishBelow | finishAbove
    · have below := on.latitude_le startBelow finishBelow
      rw [crossing_of_above startBelow below, crossing_of_above below finishBelow,
        crossing_of_above startBelow finishBelow, add_zero]
    · exact crossing_split_of_rise on startBelow finishAbove
  · rcases le_or_gt finish.latitude latitude with finishBelow | finishAbove
    · rw [crossing_swap _ _ vertex start, crossing_swap _ _ finish vertex,
        crossing_swap _ _ finish start, ← crossing_split_of_rise on.symm finishBelow startAbove]
      ring
    · have above := on.lt_latitude startAbove finishAbove
      rw [crossing_of_below startAbove above, crossing_of_below above finishAbove,
        crossing_of_below startAbove finishAbove, add_zero]

theorem winding_reverse (latitude longitude : α) (ring : Ring α) :
    winding latitude longitude ring.reverse = -winding latitude longitude ring := by
  rw [winding_eq_sum, winding_eq_sum, ((perm_edges_reverse ring).map _).sum_eq, List.map_map,
    List.sum_neg, List.map_map]
  refine congrArg List.sum (List.map_congr_left fun edge _ => ?_)
  exact crossing_swap latitude longitude edge.1 edge.2

/-- A ring too short to contain anything does not wind round anything either. -/
theorem contains_exact (ring : Ring α) (latitude longitude : α) :
    contains ring latitude longitude = (winding latitude longitude ring != 0) := by
  rcases ring with _ | ⟨first, _ | ⟨second, _ | ⟨third, rest⟩⟩⟩
  · rfl
  · have still : winding latitude longitude [first] = 0 := crossing_self latitude longitude first
    rw [contains, still]
    rfl
  · rw [contains, winding_pair]
    rfl
  · have long : 3 ≤ (first :: second :: third :: rest).length := by simp
    rw [contains, decide_eq_true long, Bool.true_and]

theorem winding_insert_after_first (rest : Ring α)
    (next : (rest ++ [start]).head? = some finish)
    (on : IsOnSegment start finish vertex.latitude vertex.longitude) :
    winding latitude longitude (start :: vertex :: rest) =
      winding latitude longitude (start :: rest) := by
  cases rest with
  | nil =>
      cases next
      exact crossing_split on
  | cons second rest =>
      cases next
      change crossing latitude longitude start vertex +
        (crossing latitude longitude vertex finish +
          pathWinding latitude longitude start finish rest) =
        crossing latitude longitude start finish +
          pathWinding latitude longitude start finish rest
      rw [← add_assoc, crossing_split on]

/-- A vertex put on the edge that begins at another one changes no winding number. -/
theorem winding_insert (before after : Ring α)
    (next : (after ++ (before ++ [start])).head? = some finish)
    (on : IsOnSegment start finish vertex.latitude vertex.longitude) :
    winding latitude longitude (before ++ start :: vertex :: after) =
      winding latitude longitude (before ++ start :: after) := by
  rw [← winding_rotate latitude longitude _ before.length,
    ← winding_rotate latitude longitude (before ++ start :: after) before.length,
    List.rotate_append_length_eq, List.rotate_append_length_eq]
  rw [← List.append_assoc] at next
  exact winding_insert_after_first (after ++ before) next on

/--
In exact arithmetic a ring contains the same points wherever it begins, whichever way round
it runs, with any vertex repeated in its place, and with another vertex on any edge, the one
from the last vertex to the first included.
-/
theorem contains_redrawn (ring : Ring α) (latitude longitude : α) :
    (∀ places, contains (ring.rotate places) latitude longitude =
      contains ring latitude longitude) ∧
    contains ring.reverse latitude longitude = contains ring latitude longitude ∧
    (∀ before vertex again after, ring = before ++ vertex :: after →
      again.latitude = vertex.latitude → again.longitude = vertex.longitude →
        contains (before ++ vertex :: again :: after) latitude longitude =
          contains ring latitude longitude) ∧
    (∀ before start after finish vertex, ring = before ++ start :: after →
      (after ++ (before ++ [start])).head? = some finish →
        IsOnSegment start finish vertex.latitude vertex.longitude →
          contains (before ++ start :: vertex :: after) latitude longitude =
            contains ring latitude longitude) := by
  refine ⟨fun places => ?_, ?_, ?_, ?_⟩
  · rw [contains_exact, contains_exact, winding_rotate]
  · rw [contains_exact, contains_exact, winding_reverse, Bool.eq_iff_iff, bne_iff_ne, bne_iff_ne,
      neg_ne_zero]
  · rintro before vertex again after rfl sameLatitude sameLongitude
    obtain ⟨finish, next⟩ : ∃ finish, (after ++ (before ++ [vertex])).head? = some finish :=
      Option.isSome_iff_exists.mp (by simp)
    rw [contains_exact, contains_exact,
      winding_insert before after next (.at_start sameLatitude sameLongitude)]
  · rintro before start after finish vertex rfl next on
    rw [contains_exact, contains_exact, winding_insert before after next on]

/-- The middle of the south edge of a square, on the ring and among its vertices. -/
theorem contains_redrawn_square :
    IsOnSegment (.vertex (0 : ℚ) 0) (.vertex 0 1) 0 (1 / 2) ∧
      contains [.vertex 0 0, .vertex 0 (1 / 2), .vertex 0 1, .vertex 1 1, .vertex 1 0]
        (0 : ℚ) (1 / 2) = true := by
  have on : IsOnSegment (.vertex (0 : ℚ) 0) (.vertex 0 1) 0 (1 / 2) :=
    ⟨1 / 2, by norm_num, by norm_num, by norm_num [Position.vertex], by norm_num [Position.vertex]⟩
  obtain ⟨-, -, -, inserted⟩ :=
    contains_redrawn [.vertex 0 0, .vertex 0 1, .vertex 1 1, .vertex 1 0] (0 : ℚ) (1 / 2)
  refine ⟨on, (inserted [] _ _ (.vertex 0 1) (.vertex 0 (1 / 2)) rfl rfl on).trans ?_⟩
  decide +kernel

end SpatialWorkload.Ring
