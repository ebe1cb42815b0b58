import Mathlib.Data.List.Basic
import SpatialWorkload.Store.Memory

/-!
# The nearest positions

A scan for the nearest positions answers with as many as were asked for, or all, in order of
their distances, and leaves out none that is nearer than one it names.  It rests on no more
of the selection than that nothing gets lost and that the place of the index parts what
ranks lower from what ranks higher; what stands in either part, and in which order, is the
selection's own affair.
-/

namespace SpatialWorkload

structure IsRanking {β : Type} (le : β → β → Bool) : Prop where
  trans : ∀ a b c, le a b = true → le b c = true → le a c = true
  total : ∀ a b, (le a b || le b a) = true

namespace Elementary

theorem rank_injective {first second : Float} (same : rank first = rank second) :
    first = second := by
  have sign : Decimal.Binary.signBit = 9223372036854775808 := rfl
  have bits : first.toBits.toNat = second.toBits.toNat := by
    unfold rank at same
    rw [sign] at same
    dsimp only at same
    split at same <;> split at same <;> omega
  obtain ⟨⟨firstBits, _⟩⟩ := first
  obtain ⟨⟨secondBits, _⟩⟩ := second
  cases (UInt64.toNat_inj.mp bits : firstBits = secondBits)
  rfl

end Elementary

namespace Scalar

theorem isRanking_ranked : IsRanking (ranked : Float → Float → Bool) where
  trans _ _ _ first second :=
    decide_eq_true (Int.le_trans (of_decide_eq_true first) (of_decide_eq_true second))
  total first second := by
    rw [Bool.or_eq_true]
    rcases Int.le_total (Elementary.rank first) (Elementary.rank second) with below | above
    · exact Or.inl (decide_eq_true below)
    · exact Or.inr (decide_eq_true above)

/-- Doubles that rank alike are the same. -/
theorem ranked_antisymm {first second : Float} (below : ranked first second = true)
    (above : ranked second first = true) : first = second :=
  Elementary.rank_injective (Int.le_antisymm (of_decide_eq_true below) (of_decide_eq_true above))

end Scalar

/--
What a selection is relied on for: within a list nothing gets lost, and the element at the
index ranks no lower than those before it and no higher than those after it.
-/
structure Selects {β : Type} (le : β → β → Bool) (select : Nat → List β → List β) : Prop where
  perm : ∀ index list, index < list.length → (select index list).Perm list
  parts : ∀ index list pivot, index < list.length → (select index list)[index]? = some pivot →
    (∀ low ∈ (select index list).take index, le low pivot = true) ∧
      ∀ high ∈ (select index list).drop (index + 1), le pivot high = true

/-- The lowest `count` elements of a list, and what is left of it. -/
structure IsLowest {β : Type} (le : β → β → Bool) (count : Nat) (list chosen left : List β) :
    Prop where
  length : chosen.length = min count list.length
  perm : (chosen ++ left).Perm list
  below : ∀ near ∈ chosen, ∀ far ∈ left, le near far = true

section

variable {β : Type} {le : β → β → Bool} {count : Nat} {list chosen left : List β}

/-- What stands up to the index ranks no higher than what stands beyond it. -/
theorem Selects.isLowest {select : Nat → List β → List β} (selects : Selects le select)
    (ranking : IsRanking le) {index : Nat} (inside : index < list.length) :
    IsLowest le (index + 1) list ((select index list).take (index + 1))
      ((select index list).drop (index + 1)) := by
  have kept := selects.perm index list inside
  have within : index < (select index list).length := kept.length_eq ▸ inside
  obtain ⟨lows, highs⟩ := selects.parts index list _ inside (List.getElem?_eq_getElem within)
  refine ⟨?_, ?_, fun near isNear far isFar => ?_⟩
  · rw [List.length_take, kept.length_eq]
  · rw [List.take_append_drop]
    exact kept
  · rw [List.take_add_one, List.getElem?_eq_getElem within, Option.toList_some, List.mem_append,
      List.mem_singleton] at isNear
    rcases isNear with low | atIndex
    · exact ranking.trans _ _ _ (lows near low) (highs far isFar)
    · rw [atIndex]
      exact highs far isFar

/-- A list that is not longer than asked for is chosen as a whole. -/
theorem isLowest_all (le : β → β → Bool) (short : list.length ≤ count) :
    IsLowest le count list list [] :=
  ⟨(Nat.min_eq_right short).symm, by rw [List.append_nil],
    fun _ _ _ isFar => absurd isFar List.not_mem_nil⟩

theorem isLowest_none (le : β → β → Bool) (list : List β) : IsLowest le 0 list [] list :=
  ⟨(Nat.zero_min _).symm, List.Perm.refl _, fun _ isNear => absurd isNear List.not_mem_nil⟩

/-- What is chosen may stand in any order. -/
theorem IsLowest.of_perm (lowest : IsLowest le count list chosen left) {ordered : List β}
    (perm : ordered.Perm chosen) : IsLowest le count list ordered left :=
  ⟨perm.length_eq.trans lowest.length, (perm.append_right left).trans lowest.perm,
    fun near isNear => lowest.below near (perm.mem_iff.mp isNear)⟩

/-- Sorting the rest as well sorts the whole list. -/
theorem IsLowest.eq_take (lowest : IsLowest le count list chosen left) (ranking : IsRanking le)
    (antisymm : ∀ a b, le a b = true → le b a = true → a = b)
    (ordered : chosen.Pairwise fun a b => le a b = true) :
    chosen = (list.mergeSort le).take (min count list.length) := by
  have whole : (chosen ++ left.mergeSort le).Pairwise fun a b => le a b = true := by
    refine List.pairwise_append.mpr
      ⟨ordered, List.pairwise_mergeSort ranking.trans ranking.total left, ?_⟩
    exact fun near isNear far isFar => lowest.below near isNear far (List.mem_mergeSort.mp isFar)
  have same : (chosen ++ left.mergeSort le).Perm (list.mergeSort le) :=
    ((List.mergeSort_perm left le).append_left chosen).trans
      (lowest.perm.trans (List.mergeSort_perm list le).symm)
  have sorted := List.pairwise_mergeSort ranking.trans ranking.total list
  rw [← same.eq_of_pairwise (fun a b _ _ => antisymm a b) whole sorted, ← lowest.length,
    List.take_left]

end

namespace Table

/-- Sorting the whole list is a selection. -/
theorem selects_inOrder {α : Type} [Scalar α] (ranking : IsRanking (@ranks α _)) :
    Selects (@ranks α _) selectInOrder where
  perm _ list _ := List.mergeSort_perm list ranks
  parts index list pivot _ found := by
    have sorted := List.pairwise_mergeSort ranking.trans ranking.total list
    obtain ⟨inside, value⟩ := List.getElem?_eq_some_iff.mp found
    have split : selectInOrder index list =
        (selectInOrder index list).take index ++
          pivot :: (selectInOrder index list).drop (index + 1) := by
      rw [← value, List.getElem_cons_drop, List.take_append_drop]
    change (selectInOrder index list).Pairwise _ at sorted
    rw [split, List.pairwise_append, List.pairwise_cons] at sorted
    obtain ⟨-, ⟨above, -⟩, below⟩ := sorted
    exact ⟨fun low isLow => below low isLow pivot List.mem_cons_self, above⟩

theorem isRanking_ranks : IsRanking (@ranks Float _) where
  trans _ _ _ := Scalar.isRanking_ranked.trans _ _ _
  total _ _ := Scalar.isRanking_ranked.total _ _

end Table

def Position.distanceFrom (latitude longitude : Float) (position : Position Float) : Float :=
  Sphere.distanceKm latitude longitude position.latitude position.longitude

/-- The positions nearest to a centre, at most `count`, in order, and with none left out. -/
structure IsNearest (latitude longitude : Float) (count : Nat)
    (positions found : List (Position Float)) : Prop where
  length : found.length = min count positions.length
  ordered : (found.map (Position.distanceFrom latitude longitude)).Pairwise fun first second =>
    Scalar.ranked first second = true
  left : ∃ left, (found ++ left).Perm positions ∧
    ∀ near ∈ found, ∀ far ∈ left, Scalar.ranked (near.distanceFrom latitude longitude)
      (far.distanceFrom latitude longitude) = true
  distances : found.map (Position.distanceFrom latitude longitude) =
    ((positions.map (Position.distanceFrom latitude longitude)).mergeSort Scalar.ranked).take
      (min count positions.length)

namespace Table

variable {latitude longitude : Float} {count : Nat} {positions : List (Position Float)}

def measure (latitude longitude : Float) (position : Position Float) : Measured Float :=
  (position.distanceFrom latitude longitude, position)

theorem map_snd_measure (positions : List (Position Float)) :
    (positions.map (measure latitude longitude)).map Prod.snd = positions := by
  rw [List.map_map]
  exact List.map_id positions

/-- What is measured keeps its distance. -/
theorem fst_of_mem {measured : Measured Float}
    (member : measured ∈ positions.map (measure latitude longitude)) :
    measured.2.distanceFrom latitude longitude = measured.1 := by
  obtain ⟨position, -, rfl⟩ := List.mem_map.mp member
  rfl

/-- The lowest of the measured positions, in order, are the nearest. -/
theorem isNearest_of_isLowest {chosen left : List (Measured Float)}
    (lowest : IsLowest ranks count (positions.map (measure latitude longitude)) chosen left) :
    IsNearest latitude longitude count positions ((chosen.mergeSort ranks).map Prod.snd) := by
  have ordered := lowest.of_perm (List.mergeSort_perm chosen ranks)
  have sorted := List.pairwise_mergeSort isRanking_ranks.trans isRanking_ranks.total chosen
  generalize chosen.mergeSort ranks = found at ordered sorted ⊢
  have measured : ∀ entry ∈ found ++ left, entry.2.distanceFrom latitude longitude = entry.1 :=
    fun entry member => fst_of_mem (ordered.perm.mem_iff.mp member)
  have distances : (found.map Prod.snd).map (Position.distanceFrom latitude longitude) =
      found.map Prod.fst := by
    rw [List.map_map]
    exact List.map_congr_left fun entry member => measured entry (List.mem_append_left _ member)
  have pairs : (found.map Prod.fst).Pairwise fun first second =>
      Scalar.ranked first second = true := List.pairwise_map.mpr sorted
  have lowestDistances : IsLowest Scalar.ranked count
      (positions.map (Position.distanceFrom latitude longitude)) (found.map Prod.fst)
      (left.map Prod.fst) := by
    refine ⟨?_, ?_, ?_⟩
    · rw [List.length_map, ordered.length, List.length_map, List.length_map]
    · have mapped := ordered.perm.map Prod.fst
      rwa [List.map_append, List.map_map] at mapped
    · intro near isNear far isFar
      obtain ⟨nearEntry, nearMember, rfl⟩ := List.mem_map.mp isNear
      obtain ⟨farEntry, farMember, rfl⟩ := List.mem_map.mp isFar
      exact ordered.below nearEntry nearMember farEntry farMember
  refine ⟨?_, distances ▸ pairs, ⟨left.map Prod.snd, ?_, ?_⟩, ?_⟩
  · rw [List.length_map, ordered.length, List.length_map]
  · have mapped := ordered.perm.map Prod.snd
    rwa [List.map_append, map_snd_measure] at mapped
  · intro near isNear far isFar
    obtain ⟨nearEntry, nearMember, rfl⟩ := List.mem_map.mp isNear
    obtain ⟨farEntry, farMember, rfl⟩ := List.mem_map.mp isFar
    rw [measured nearEntry (List.mem_append_left _ nearMember),
      measured farEntry (List.mem_append_right _ farMember)]
    exact ordered.below nearEntry nearMember farEntry farMember
  · rw [distances, lowestDistances.eq_take Scalar.isRanking_ranked
      (fun _ _ => Scalar.ranked_antisymm) pairs, List.length_map]

theorem isNearest_nearestBy {select : Nat → List (Measured Float) → List (Measured Float)}
    (selects : Selects ranks select) (positions : List (Position Float))
    (latitude longitude : Float) (count : Nat) :
    IsNearest latitude longitude count positions
      (nearestBy select positions latitude longitude count) := by
  unfold nearestBy
  split
  · rename_i none
    rw [none]
    have nothing := isNearest_of_isLowest
      (isLowest_none ranks (positions.map (measure latitude longitude)))
    rwa [List.mergeSort_nil, List.map_nil] at nothing
  · rename_i some
    dsimp only
    split
    · rename_i more
      have chosen := selects.isLowest isRanking_ranks
        (Nat.lt_of_le_of_lt (Nat.sub_le count 1) more)
      rw [Nat.sub_add_cancel (Nat.one_le_iff_ne_zero.mpr some)] at chosen
      exact isNearest_of_isLowest chosen
    · rename_i noMore
      exact isNearest_of_isLowest (isLowest_all ranks (Nat.le_of_not_lt noMore))

end Table

namespace MemoryStore

/--
A scan for the nearest positions names as many of a table's positions as were asked for, or
all, each once and in order of their distances, and none that it leaves out is nearer than
one it names; so its distances are the first of all distances in order.  The same holds
whatever selection brings the nearest to the front.
-/
theorem scan_nearest (store : MemoryStore Float) (name : String) (latitude longitude : Float)
    (count : Nat) :
    IsNearest latitude longitude count (store.positions name)
      (store.scan name (.nearest latitude longitude count)) ∧
    ∀ select, Selects Table.ranks select →
      IsNearest latitude longitude count (store.positions name)
        (Table.nearestBy select (store.positions name) latitude longitude count) := by
  refine ⟨?_, fun select selects => Table.isNearest_nearestBy selects _ latitude longitude count⟩
  have named := Table.isNearest_nearestBy (Table.selects_inOrder Table.isRanking_ranks)
    (store.positions name) latitude longitude count
  unfold scan positions at *
  cases found : store.table? name with
  | none =>
      rw [found] at named
      have empty := List.length_eq_zero_iff.mp (named.length.trans (Nat.min_zero count))
      rwa [empty] at named
  | some table =>
      rw [found] at named
      exact named

end MemoryStore

end SpatialWorkload
