import Mathlib.Tactic.Linarith
import Mathlib.Tactic.Ring
import SpatialWorkload.Proofs.Scalar.Exact
import SpatialWorkload.Ring.Winding

/-!
# Winding numbers in exact arithmetic

What an edge adds to the winding number, depending on where the point lies.  Going back
along an edge takes back what it added.  Where both ends of an edge lie beyond a line through
the point, its contribution is a difference of heights.
-/

namespace SpatialWorkload.Ring

section

variable {α : Type} [Field α] [LinearOrder α]

/-- The vertex lies beyond the line through a point, in the direction of its normal. -/
def IsBeyond (p q latitude longitude : α) (vertex : Position α) : Prop :=
  p * latitude + q * longitude < p * vertex.latitude + q * vertex.longitude

/-- One above the latitude, where beyond the line is east of the point; else zero. -/
def height (q latitude : α) (vertex : Position α) : Int :=
  if 0 < q ∧ latitude < vertex.latitude then 1 else 0

theorem height_of_le {q latitude : α} {vertex : Position α} (below : vertex.latitude ≤ latitude) :
    height q latitude vertex = 0 :=
  if_neg fun both => not_lt.mpr below both.2

end

variable {α : Type} [Field α] [LinearOrder α] [ElementaryFunctions α]
  {latitude longitude : α} {start finish : Position α}

section

variable (start finish latitude longitude)

theorem sideOf_exact :
    sideOf start finish latitude longitude =
      (finish.longitude - start.longitude) * (latitude - start.latitude) -
        (longitude - start.longitude) * (finish.latitude - start.latitude) :=
  rfl

theorem sideOf_swap :
    sideOf finish start latitude longitude = -sideOf start finish latitude longitude := by
  rw [sideOf_exact, sideOf_exact]
  ring

theorem crossing_exact :
    crossing latitude longitude start finish =
      if start.latitude ≤ latitude then
        if latitude < finish.latitude ∧ 0 < sideOf start finish latitude longitude then 1 else 0
      else if finish.latitude ≤ latitude ∧ sideOf start finish latitude longitude < 0 then -1
      else 0 := by
  simp only [crossing, Bool.and_eq_true, Scalar.le_exact, Scalar.lt_exact, Scalar.zero_exact]

end

theorem crossing_of_above (startBelow : start.latitude ≤ latitude)
    (finishBelow : finish.latitude ≤ latitude) :
    crossing latitude longitude start finish = 0 := by
  rw [crossing_exact, if_pos startBelow, if_neg]
  rintro ⟨rises, -⟩
  exact absurd finishBelow (not_le.mpr rises)

theorem crossing_of_below (startAbove : latitude < start.latitude)
    (finishAbove : latitude < finish.latitude) :
    crossing latitude longitude start finish = 0 := by
  rw [crossing_exact, if_neg (not_le.mpr startAbove), if_neg]
  rintro ⟨falls, -⟩
  exact absurd falls (not_le.mpr finishAbove)

section

variable [IsStrictOrderedRing α]

/-- The way back along an edge takes back what the way there added. -/
theorem crossing_swap (latitude longitude : α) (start finish : Position α) :
    crossing latitude longitude finish start = -crossing latitude longitude start finish := by
  rcases le_or_gt start.latitude latitude with startBelow | startAbove
  · rcases le_or_gt finish.latitude latitude with finishBelow | finishAbove
    · rw [crossing_of_above startBelow finishBelow, crossing_of_above finishBelow startBelow,
        neg_zero]
    · rw [crossing_exact, crossing_exact, sideOf_swap, if_neg (not_le.mpr finishAbove),
        if_pos startBelow]
      by_cases left : 0 < sideOf start finish latitude longitude
      · rw [if_pos ⟨startBelow, neg_lt_zero.mpr left⟩, if_pos ⟨finishAbove, left⟩]
      · rw [if_neg fun both => left (neg_lt_zero.mp both.2), if_neg fun both => left both.2,
          neg_zero]
  · rcases le_or_gt finish.latitude latitude with finishBelow | finishAbove
    · rw [crossing_exact, crossing_exact, sideOf_swap, if_pos finishBelow,
        if_neg (not_le.mpr startAbove)]
      by_cases right : sideOf start finish latitude longitude < 0
      · rw [if_pos ⟨startAbove, neg_pos.mpr right⟩, if_pos ⟨finishBelow, right⟩, neg_neg]
      · rw [if_neg fun both => right (neg_pos.mp both.2), if_neg fun both => right both.2,
          neg_zero]
    · rw [crossing_of_below startAbove finishAbove, crossing_of_below finishAbove startAbove,
        neg_zero]

theorem crossing_self (latitude longitude : α) (vertex : Position α) :
    crossing latitude longitude vertex vertex = 0 := by
  have back := crossing_swap latitude longitude vertex vertex
  omega

/-- There and back again makes no turn. -/
theorem winding_pair (latitude longitude : α) (first second : Position α) :
    winding latitude longitude [first, second] = 0 := by
  change crossing latitude longitude first second + crossing latitude longitude second first = 0
  rw [crossing_swap latitude longitude first second]
  exact Int.add_right_neg _

variable {p q : α}

/-- On which side of a rising edge the point lies follows from the line. -/
theorem mul_sideOf_pos (startBeyond : IsBeyond p q latitude longitude start)
    (finishBeyond : IsBeyond p q latitude longitude finish)
    (startBelow : start.latitude ≤ latitude) (finishAbove : latitude < finish.latitude) :
    0 < q * sideOf start finish latitude longitude := by
  have upward := mul_pos (sub_pos.mpr finishAbove) (sub_pos.mpr startBeyond)
  have downward := mul_nonneg (sub_nonneg.mpr startBelow) (sub_pos.mpr finishBeyond).le
  rw [sideOf_exact]
  linarith

theorem crossing_of_rising (startBeyond : IsBeyond p q latitude longitude start)
    (finishBeyond : IsBeyond p q latitude longitude finish)
    (startBelow : start.latitude ≤ latitude) (finishAbove : latitude < finish.latitude) :
    crossing latitude longitude start finish = height q latitude finish := by
  have side := mul_sideOf_pos startBeyond finishBeyond startBelow finishAbove
  rw [crossing_exact, if_pos startBelow, height]
  by_cases left : 0 < q
  · rw [if_pos ⟨finishAbove, pos_of_mul_pos_right side left.le⟩, if_pos ⟨left, finishAbove⟩]
  · have behind : ¬0 < sideOf start finish latitude longitude := fun positive =>
      left (pos_of_mul_pos_left side positive.le)
    rw [if_neg fun both => behind both.2, if_neg fun both => left both.1]

/-- Beyond a line only the ends of an edge count, and only by their heights. -/
theorem crossing_of_beyond (startBeyond : IsBeyond p q latitude longitude start)
    (finishBeyond : IsBeyond p q latitude longitude finish) :
    crossing latitude longitude start finish =
      height q latitude finish - height q latitude start := by
  rcases le_or_gt start.latitude latitude with startBelow | startAbove
  · rcases le_or_gt finish.latitude latitude with finishBelow | finishAbove
    · rw [crossing_of_above startBelow finishBelow, height_of_le startBelow,
        height_of_le finishBelow, sub_zero]
    · rw [crossing_of_rising startBeyond finishBeyond startBelow finishAbove,
        height_of_le startBelow, sub_zero]
  · rcases le_or_gt finish.latitude latitude with finishBelow | finishAbove
    · rw [crossing_swap, crossing_of_rising finishBeyond startBeyond finishBelow startAbove,
        height_of_le finishBelow, zero_sub]
    · rw [crossing_of_below startAbove finishAbove, height, height]
      simp only [startAbove, finishAbove, and_true, sub_self]

end

end SpatialWorkload.Ring
