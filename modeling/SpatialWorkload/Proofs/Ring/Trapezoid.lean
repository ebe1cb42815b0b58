import Mathlib.Tactic.FieldSimp
import SpatialWorkload.Proofs.Ring.Redrawn

/-!
# Trapezoids

Rings of two parallels, each of which reaches equally far to both sides of one meridian.  In
exact arithmetic such a ring contains what lies between its parallels and between its slanting
sides; the south and the west side belong to it, the north and the east side do not.  It
contains no point that both parallels lie on the same side of.
-/

namespace SpatialWorkload.Ring

structure Trapezoid (α : Type) [Field α] [LinearOrder α] where
  meridian : α
  south : α
  north : α
  southReach : α
  northReach : α
  southReach_pos : 0 < southReach
  northReach_pos : 0 < northReach

section

variable {α : Type} [Field α] [LinearOrder α] [ElementaryFunctions α] {latitude longitude : α}
  {start finish : Position α}

/-- Along a parallel nothing is crossed. -/
theorem crossing_of_level (level : start.latitude = finish.latitude) :
    crossing latitude longitude start finish = 0 := by
  rcases le_or_gt start.latitude latitude with below | above
  · exact crossing_of_above below (level ▸ below)
  · exact crossing_of_below above (level ▸ above)

end

/-- What stays below every short enough stretch of a slope is not positive. -/
theorem nonpos_of_forall_le_mul {α : Type} [Field α] [LinearOrder α] [IsStrictOrderedRing α]
    {rise reach : α} (slope : α) (positive : 0 < reach)
    (below : ∀ step, 0 < step → step ≤ reach → rise ≤ step * slope) : rise ≤ 0 := by
  by_contra! some
  have steep : 0 < slope :=
    pos_of_mul_pos_right (some.trans_le (below reach positive le_rfl)) positive.le
  have half : 0 < rise / (2 * slope) := div_pos some (mul_pos two_pos steep)
  have near := below (min reach (rise / (2 * slope))) (lt_min positive half) (min_le_left _ _)
  have short := mul_le_mul_of_nonneg_right (min_le_right reach (rise / (2 * slope))) steep.le
  have halved : rise / (2 * slope) * slope = rise / 2 := by
    field_simp
  linarith

namespace Trapezoid

section

variable {α : Type} [Field α] [LinearOrder α] (trapezoid : Trapezoid α)

def southWest : Position α := .vertex trapezoid.south (trapezoid.meridian - trapezoid.southReach)

def southEast : Position α := .vertex trapezoid.south (trapezoid.meridian + trapezoid.southReach)

def northEast : Position α := .vertex trapezoid.north (trapezoid.meridian + trapezoid.northReach)

def northWest : Position α := .vertex trapezoid.north (trapezoid.meridian - trapezoid.northReach)

def ring : Ring α :=
  [trapezoid.southWest, trapezoid.southEast, trapezoid.northEast, trapezoid.northWest]

/-- How far the sides are from the meridian at a latitude, times the height. -/
def breadth (latitude : α) : α :=
  trapezoid.southReach * (trapezoid.north - latitude) +
    trapezoid.northReach * (latitude - trapezoid.south)

end

variable {α : Type} [Field α] [LinearOrder α] [IsStrictOrderedRing α] {trapezoid : Trapezoid α}
  {latitude longitude : α}

theorem breadth_pos (above : trapezoid.south ≤ latitude) (below : latitude < trapezoid.north) :
    0 < trapezoid.breadth latitude := by
  have lower := mul_pos trapezoid.southReach_pos (sub_pos.mpr below)
  have upper := mul_nonneg trapezoid.northReach_pos.le (sub_nonneg.mpr above)
  exact add_pos_of_pos_of_nonneg lower upper

omit [IsStrictOrderedRing α] in
theorem breadth_south :
    trapezoid.breadth trapezoid.south =
      (trapezoid.north - trapezoid.south) * trapezoid.southReach := by
  rw [breadth]
  ring

variable {bound : α}

/-- Between the parallels the sides stay as near to the meridian as on the parallels. -/
theorem breadth_le (above : trapezoid.south ≤ latitude) (below : latitude < trapezoid.north)
    (south : trapezoid.southReach ≤ bound) (north : trapezoid.northReach ≤ bound) :
    trapezoid.breadth latitude ≤ (trapezoid.north - trapezoid.south) * bound := by
  have lower := mul_le_mul_of_nonneg_right south (sub_pos.mpr below).le
  have upper := mul_le_mul_of_nonneg_right north (sub_nonneg.mpr above)
  rw [breadth]
  linarith

theorem breadth_lt (above : trapezoid.south ≤ latitude) (below : latitude < trapezoid.north)
    (south : trapezoid.southReach < bound) (north : trapezoid.northReach ≤ bound) :
    trapezoid.breadth latitude < (trapezoid.north - trapezoid.south) * bound := by
  have lower := mul_lt_mul_of_pos_right south (sub_pos.mpr below)
  have upper := mul_le_mul_of_nonneg_right north (sub_nonneg.mpr above)
  rw [breadth]
  linarith

/-- The northern reach is what the sides come near to, though the ring ends short of it. -/
theorem northReach_le (rises : trapezoid.south < trapezoid.north)
    (narrow : ∀ latitude, trapezoid.south ≤ latitude → latitude < trapezoid.north →
      trapezoid.breadth latitude ≤ (trapezoid.north - trapezoid.south) * bound) :
    trapezoid.northReach ≤ bound := by
  have height := sub_pos.mpr rises
  refine sub_nonpos.mp (nonpos_of_mul_nonpos_right ?_ height)
  refine nonpos_of_forall_le_mul (trapezoid.northReach - trapezoid.southReach) height
    fun step some least => ?_
  have near := narrow (trapezoid.north - step) (by linarith) (by linarith)
  have stepped : trapezoid.breadth (trapezoid.north - step) =
      (trapezoid.north - trapezoid.south) * trapezoid.northReach -
        step * (trapezoid.northReach - trapezoid.southReach) := by
    rw [breadth]
    ring
  rw [stepped] at near
  linarith

variable [ElementaryFunctions α]

omit [IsStrictOrderedRing α] in
theorem sideOf_east :
    sideOf trapezoid.southEast trapezoid.northEast latitude longitude =
      trapezoid.breadth latitude -
        (trapezoid.north - trapezoid.south) * (longitude - trapezoid.meridian) := by
  rw [sideOf_exact, breadth]
  simp only [southEast, northEast, Position.vertex]
  ring

omit [IsStrictOrderedRing α] in
theorem sideOf_west :
    sideOf trapezoid.southWest trapezoid.northWest latitude longitude =
      -trapezoid.breadth latitude -
        (trapezoid.north - trapezoid.south) * (longitude - trapezoid.meridian) := by
  rw [sideOf_exact, breadth]
  simp only [southWest, northWest, Position.vertex]
  ring

/-- Only the slanting sides count, and the western one runs from the north. -/
theorem winding_ring :
    winding latitude longitude trapezoid.ring =
      crossing latitude longitude trapezoid.southEast trapezoid.northEast -
        crossing latitude longitude trapezoid.southWest trapezoid.northWest := by
  have south : crossing latitude longitude trapezoid.southWest trapezoid.southEast = 0 :=
    crossing_of_level rfl
  have north : crossing latitude longitude trapezoid.northEast trapezoid.northWest = 0 :=
    crossing_of_level rfl
  change crossing latitude longitude trapezoid.southWest trapezoid.southEast +
    (crossing latitude longitude trapezoid.southEast trapezoid.northEast +
      (crossing latitude longitude trapezoid.northEast trapezoid.northWest +
        crossing latitude longitude trapezoid.northWest trapezoid.southWest)) = _
  rw [south, north, crossing_swap _ _ trapezoid.southWest trapezoid.northWest]
  ring

/-- A point that both parallels lie on the same side of is not contained. -/
theorem contains_ring_of_beside (beside : trapezoid.south ≤ latitude ↔ trapezoid.north ≤ latitude) :
    contains trapezoid.ring latitude longitude = false := by
  have still (start finish : Position α) (south : start.latitude = trapezoid.south)
      (north : finish.latitude = trapezoid.north) :
      crossing latitude longitude start finish = 0 := by
    by_cases above : trapezoid.south ≤ latitude
    · exact crossing_of_above (south ▸ above) (north ▸ beside.mp above)
    · exact crossing_of_below (south ▸ not_le.mp above) (north ▸ not_le.mp (mt beside.mpr above))
  rw [contains_exact, winding_ring, still trapezoid.southEast trapezoid.northEast rfl rfl,
    still trapezoid.southWest trapezoid.northWest rfl rfl]
  rfl

theorem contains_ring_of_between (above : trapezoid.south ≤ latitude)
    (below : latitude < trapezoid.north) :
    contains trapezoid.ring latitude longitude = true ↔
      -trapezoid.breadth latitude ≤
          (trapezoid.north - trapezoid.south) * (longitude - trapezoid.meridian) ∧
        (trapezoid.north - trapezoid.south) * (longitude - trapezoid.meridian) <
          trapezoid.breadth latitude := by
  have broad := breadth_pos above below
  rw [contains_exact, bne_iff_ne, winding_ring, crossing_of_rise above below,
    crossing_of_rise above below]
  simp only [sideOf_east, sideOf_west, sub_pos]
  generalize (trapezoid.north - trapezoid.south) * (longitude - trapezoid.meridian) = offset
  rcases lt_or_ge offset (-trapezoid.breadth latitude) with west | inside
  · -- West of both sides their crossings cancel.
    rw [if_pos west, if_pos (by linarith)]
    exact iff_of_false (fun some => some rfl) fun both => not_lt.mpr both.1 west
  · rw [if_neg (not_lt.mpr inside), sub_zero]
    by_cases east : offset < trapezoid.breadth latitude
    · rw [if_pos east]
      exact iff_of_true Int.one_ne_zero ⟨inside, east⟩
    · rw [if_neg east]
      exact iff_of_false (fun some => some rfl) fun both => east both.2

/-- With the north above the south, the half-open region between the four sides. -/
theorem contains_ring_iff (rises : trapezoid.south < trapezoid.north) :
    contains trapezoid.ring latitude longitude = true ↔
      trapezoid.south ≤ latitude ∧ latitude < trapezoid.north ∧
        -trapezoid.breadth latitude ≤
            (trapezoid.north - trapezoid.south) * (longitude - trapezoid.meridian) ∧
          (trapezoid.north - trapezoid.south) * (longitude - trapezoid.meridian) <
            trapezoid.breadth latitude := by
  by_cases between : trapezoid.south ≤ latitude ∧ latitude < trapezoid.north
  · rw [contains_ring_of_between between.1 between.2]
    exact ⟨fun both => ⟨between.1, between.2, both⟩, fun all => all.2.2⟩
  · have outside : contains trapezoid.ring latitude longitude = false := by
      refine contains_ring_of_beside ⟨fun above => ?_, rises.le.trans⟩
      exact not_lt.mp fun below => between ⟨above, below⟩
    rw [outside]
    exact iff_of_false Bool.false_ne_true fun all => between ⟨all.1, all.2.1⟩

/-- The meridian of a trapezoid runs through it, from the south side to below the north one. -/
theorem contains_ring_meridian (rises : trapezoid.south < trapezoid.north) :
    contains trapezoid.ring latitude trapezoid.meridian = true ↔
      trapezoid.south ≤ latitude ∧ latitude < trapezoid.north := by
  rw [contains_ring_iff rises, sub_self, mul_zero, neg_nonpos]
  constructor
  · exact fun all => ⟨all.1, all.2.1⟩
  · exact fun ⟨above, below⟩ =>
      ⟨above, below, (breadth_pos above below).le, breadth_pos above below⟩

end Trapezoid

end SpatialWorkload.Ring
