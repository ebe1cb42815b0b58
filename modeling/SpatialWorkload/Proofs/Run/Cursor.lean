import Mathlib.Data.List.Nodup
import Mathlib.Data.List.Range
import Mathlib.Data.List.ReduceOption
import SpatialWorkload.Proofs.Word
import SpatialWorkload.Run.Cursor

/-!
# Answers of the insert cursor

The cursor is one word, which every call counts up, whether it gets an index or not.  Until
the word comes round, the calls get the indices of the range one after another and then
nothing more; the call after the last word starts over at zero.
-/

namespace SpatialWorkload.Cursor

def answers : Nat → Cursor → List (Option UInt64)
  | 0, _ => []
  | calls + 1, cursor => cursor.take.1 :: answers calls cursor.take.2

/-- The indices of a range in their order, each once, and nothing after the first refusal. -/
structure HandsOut (start count : UInt64) (answers : List (Option UInt64)) : Prop where
  inOrder : answers.reduceOption.map UInt64.toNat =
    List.range' start.toNat answers.reduceOption.length
  inside : ∀ index, some index ∈ answers →
    start ≤ index ∧ index.toNat < start.toNat + count.toNat
  stays : answers.Pairwise fun earlier later => earlier = none → later = none

/-- Where a range ends: the last word itself is never handed out. -/
def finishOf (start count : UInt64) : Nat :=
  min (start.toNat + count.toNat) (UInt64.size - 1)

theorem toNat_finish (start count : UInt64) :
    (ofRange start count).finish.toNat = finishOf start count :=
  Word.toNat_ofNat_min _

theorem toNat_finish_of_fits {start count : UInt64}
    (fits : start.toNat + count.toNat < UInt64.size) :
    (ofRange start count).finish.toNat = start.toNat + count.toNat :=
  (toNat_finish start count).trans (Nat.min_eq_left (Nat.le_sub_one_of_lt fits))

theorem iterate_take (cursor : Cursor) (count : Nat) :
    (fun before : Cursor => before.take.2)^[count] cursor =
      { cursor with next := cursor.next + UInt64.ofNat count } := by
  induction count with
  | zero => simp
  | succ count ih =>
      rw [Function.iterate_succ_apply', ih, UInt64.ofNat_add, ← UInt64.add_assoc]
      rfl

/-- After as many calls as there are words the cursor is back where it was. -/
theorem iterate_take_size (cursor : Cursor) :
    (fun before : Cursor => before.take.2)^[UInt64.size] cursor = cursor := by
  rw [iterate_take]
  have round : UInt64.ofNat UInt64.size = 0 := rfl
  rw [round, UInt64.add_zero]

theorem answers_add (first second : Nat) (cursor : Cursor) :
    answers (first + second) cursor = answers first cursor ++
      answers second ((fun before : Cursor => before.take.2)^[first] cursor) := by
  induction first generalizing cursor with
  | zero => rw [Nat.zero_add, answers, List.nil_append, Function.iterate_zero_apply]
  | succ first ih =>
      rw [Nat.succ_add, answers, ih, answers, List.cons_append, Function.iterate_succ_apply]

/-- A call that starts from a word below the end of the range gets it. -/
theorem take_of_lt {cursor : Cursor} (below : cursor.next < cursor.finish) :
    cursor.take.1 = some cursor.next :=
  if_pos below

theorem take_of_le {cursor : Cursor} (beyond : cursor.finish ≤ cursor.next) :
    cursor.take.1 = none :=
  if_neg (UInt64.not_lt.mpr beyond)

/-- Whoever gets an index gets the word, which lies below the end of the range. -/
theorem of_take {cursor : Cursor} {index : UInt64} (taken : cursor.take.1 = some index) :
    cursor.next = index ∧ index < cursor.finish := by
  rcases UInt64.lt_or_le cursor.next cursor.finish with below | beyond
  · rw [take_of_lt below] at taken
    cases taken
    exact ⟨rfl, below⟩
  · rw [take_of_le beyond] at taken
    cases taken

theorem toNat_next {cursor : Cursor} (fits : cursor.next.toNat + 1 < UInt64.size) :
    cursor.take.2.next.toNat = cursor.next.toNat + 1 :=
  Word.toNat_add fits

/-- Up to the end of the range every call gets the next index. -/
theorem answers_of_le {cursor : Cursor} {calls : Nat}
    (within : calls ≤ cursor.finish.toNat - cursor.next.toNat) :
    answers calls cursor =
      (List.range' cursor.next.toNat calls).map fun index => some (UInt64.ofNat index) := by
  induction calls generalizing cursor with
  | zero => rfl
  | succ calls ih =>
      have last := cursor.finish.toNat_lt
      change _ < UInt64.size at last
      have below : cursor.next < cursor.finish := UInt64.lt_iff_toNat_lt.mpr (by omega)
      have next : cursor.take.2.next.toNat = cursor.next.toNat + 1 := toNat_next (by omega)
      have later : calls ≤ cursor.take.2.finish.toNat - cursor.take.2.next.toNat := by
        rw [next]
        change calls ≤ cursor.finish.toNat - _
        omega
      rw [answers, take_of_lt below, ih later, next, List.range'_succ, List.map_cons,
        UInt64.ofNat_toNat]

/-- From the end of the range on no call gets anything, until the word comes round. -/
theorem answers_of_ge {cursor : Cursor} {calls : Nat} (beyond : cursor.finish ≤ cursor.next)
    (fits : cursor.next.toNat + calls ≤ UInt64.size) :
    answers calls cursor = List.replicate calls none := by
  induction calls generalizing cursor with
  | zero => rfl
  | succ calls ih =>
      rw [answers, take_of_le beyond, List.replicate_succ]
      congr 1
      rcases Nat.eq_zero_or_pos calls with none | some
      · rw [none]
        rfl
      · have next : cursor.take.2.next.toNat = cursor.next.toNat + 1 := toNat_next (by omega)
        refine ih ?_ (by rw [next]; omega)
        rw [UInt64.le_iff_toNat_le, next]
        exact Nat.le_succ_of_le (UInt64.le_iff_toNat_le.mp beyond)

/-- Before the word comes round there are first indices, and then refusals. -/
theorem answers_ofRange {start count : UInt64} {calls : Nat}
    (fits : start.toNat + calls ≤ UInt64.size) :
    answers calls (ofRange start count) =
      (List.range' start.toNat (min calls (finishOf start count - start.toNat))).map
        (fun index => some (UInt64.ofNat index)) ++
      List.replicate (calls - (finishOf start count - start.toNat)) none := by
  have finish := toNat_finish start count
  generalize rangeSize : finishOf start count - start.toNat = size
  obtain ⟨served, rest, split, servedEq, restEq⟩ : ∃ served rest, calls = served + rest ∧
      served = min calls size ∧ rest = calls - size :=
    ⟨min calls size, calls - size, by omega, rfl, rfl⟩
  have startWord := start.toNat_lt
  have atMost : finishOf start count ≤ UInt64.size - 1 := Nat.min_le_right _ _
  rw [← servedEq, ← restEq, split, answers_add, iterate_take]
  congr 1
  · refine answers_of_le ?_
    rw [finish]
    change served ≤ _ - start.toNat
    omega
  · rcases Nat.eq_zero_or_pos rest with none | some
    · rw [none]
      rfl
    · have there : (start + UInt64.ofNat served).toNat = start.toNat + served :=
        Word.toNat_add_ofNat (by omega)
      refine answers_of_ge ?_ ?_
      · rw [UInt64.le_iff_toNat_le]
        change (ofRange start count).finish.toNat ≤ (start + UInt64.ofNat served).toNat
        rw [finish, there]
        omega
      · change (start + UInt64.ofNat served).toNat + rest ≤ _
        rw [there]
        omega

theorem reduceOption_answers {start count : UInt64} {calls : Nat}
    (fits : start.toNat + calls ≤ UInt64.size) :
    (answers calls (ofRange start count)).reduceOption =
      (List.range' start.toNat (min calls (finishOf start count - start.toNat))).map
        UInt64.ofNat := by
  rw [answers_ofRange fits, List.reduceOption_append, List.reduceOption_replicate_none,
    List.append_nil, List.reduceOption, List.filterMap_map]
  exact congrFun List.filterMap_eq_map _

theorem handsOut_of_fits {start count : UInt64} {calls : Nat}
    (fits : start.toNat + calls ≤ UInt64.size) :
    HandsOut start count (answers calls (ofRange start count)) := by
  have atMost : finishOf start count ≤ start.toNat + count.toNat := Nat.min_le_left _ _
  have word {index : Nat}
      (member : index ∈ List.range' start.toNat
        (min calls (finishOf start count - start.toNat))) :
      (UInt64.ofNat index).toNat = index ∧ start.toNat ≤ index ∧
        index < start.toNat + count.toNat := by
    obtain ⟨low, high⟩ := List.mem_range'_1.mp member
    exact ⟨UInt64.toNat_ofNat_of_lt' (by omega), low, by omega⟩
  refine ⟨?_, fun index member => ?_, ?_⟩
  · rw [reduceOption_answers fits, List.length_map, List.length_range', List.map_map]
    calc
      _ = (List.range' start.toNat (min calls (finishOf start count - start.toNat))).map id :=
        List.map_congr_left fun index member => (word member).1
      _ = _ := List.map_id _
  · rw [answers_ofRange fits] at member
    rcases List.mem_append.mp member with served | refused
    · obtain ⟨place, inside, same⟩ := List.mem_map.mp served
      obtain ⟨value, low, high⟩ := word inside
      cases same
      rw [UInt64.le_iff_toNat_le, value]
      exact ⟨low, high⟩
    · cases List.eq_of_mem_replicate refused
  · rw [answers_ofRange fits, List.pairwise_append, List.pairwise_map]
    refine ⟨List.pairwise_of_forall fun _ _ => nofun,
      List.pairwise_replicate.mpr (Or.inr fun _ => rfl), ?_⟩
    intro earlier _ later refused _
    exact List.eq_of_mem_replicate refused

/-- An empty range at the lowest word is the only one that ends there. -/
theorem answers_of_nothing (calls : Nat) (cursor : Cursor) (nothing : cursor.finish = 0) :
    answers calls cursor = List.replicate calls none := by
  induction calls generalizing cursor with
  | zero => rfl
  | succ calls ih =>
      have refused : cursor.take.1 = none := take_of_le (nothing ▸ UInt64.zero_le)
      rw [answers, refused, ih cursor.take.2 nothing, List.replicate_succ]

/-- The call after the one on the last word gets the index zero. -/
theorem exists_answers_eq {start count : UInt64} {calls : Nat}
    (round : UInt64.size < start.toNat + calls) (some : 0 < start.toNat + count.toNat) :
    ∃ rest, answers calls (ofRange start count) =
      answers (UInt64.size - start.toNat) (ofRange start count) ++ Option.some 0 :: rest := by
  have startWord := start.toNat_lt
  change _ < UInt64.size at startWord
  have below : (0 : UInt64) < (ofRange start count).finish := by
    rw [UInt64.lt_iff_toNat_lt, toNat_finish]
    exact Nat.lt_min.mpr ⟨some, by decide⟩
  obtain ⟨later, split⟩ : ∃ later, calls = UInt64.size - start.toNat + (later + 1) :=
    ⟨calls - (UInt64.size - start.toNat) - 1, by omega⟩
  have next : (ofRange start count).next = start := rfl
  refine ⟨answers later { ofRange start count with next := 0 + 1 }, ?_⟩
  rw [split, answers_add, iterate_take, next, Word.add_ofNat_size_sub, answers]
  exact congrArg (fun answer => _ ++ answer :: _) (take_of_lt below)

theorem HandsOut.nodup {start count : UInt64} {answers : List (Option UInt64)}
    (handsOut : HandsOut start count answers) : answers.reduceOption.Nodup := by
  refine List.Nodup.of_map UInt64.toNat ?_
  rw [handsOut.inOrder]
  exact List.nodup_range'

theorem not_handsOut_of_round {start count : UInt64} {calls : Nat}
    (round : UInt64.size < start.toNat + calls) (some : 0 < start.toNat + count.toNat) :
    ¬HandsOut start count (answers calls (ofRange start count)) := by
  intro handsOut
  obtain ⟨rest, split⟩ := exists_answers_eq round some
  have low := (handsOut.inside 0 (split ▸ List.mem_append_right _ List.mem_cons_self)).1
  have zero : start = 0 := UInt64.le_antisymm low UInt64.zero_le
  -- A range that begins at zero has handed out zero by its first call already.
  subst zero
  have below : (ofRange 0 count).next < (ofRange 0 count).finish := by
    rw [UInt64.lt_iff_toNat_lt, toNat_finish]
    exact Nat.lt_min.mpr ⟨some, (by decide : 0 < UInt64.size - 1)⟩
  have begun : answers UInt64.size (ofRange 0 count) =
      Option.some 0 :: answers (UInt64.size - 1) (ofRange 0 count).take.2 :=
    congrArg (· :: _) (take_of_lt below)
  have twice := handsOut.nodup
  change answers calls (ofRange 0 count) =
    answers UInt64.size (ofRange 0 count) ++ Option.some 0 :: rest at split
  rw [split, begun, List.reduceOption_append, List.reduceOption_cons_of_some,
    List.reduceOption_cons_of_some] at twice
  exact (List.nodup_append.mp twice).2.2 0 List.mem_cons_self 0 List.mem_cons_self rfl

/--
The cursor hands out its range as long as it has not come round, and no longer, unless the
range is the empty one at zero.  By then it has handed out as many indices as there are
calls or as the range holds, the last word left out.
-/
theorem hands_out_until_round (start count : UInt64) (calls : Nat) :
    (HandsOut start count (answers calls (ofRange start count)) ↔
      start.toNat + calls ≤ UInt64.size ∨ start.toNat + count.toNat = 0) ∧
    (start.toNat + calls ≤ UInt64.size →
      (answers calls (ofRange start count)).reduceOption.length =
        min calls (min (start.toNat + count.toNat) (UInt64.size - 1) - start.toNat)) := by
  refine ⟨⟨fun handsOut => ?_, ?_⟩, fun fits => ?_⟩
  · by_contra neither
    obtain ⟨round, some⟩ := not_or.mp neither
    exact not_handsOut_of_round (Nat.lt_of_not_le round) (Nat.pos_of_ne_zero some) handsOut
  · rintro (fits | nothing)
    · exact handsOut_of_fits fits
    · have finish : (ofRange start count).finish = 0 := by
        rw [← UInt64.toNat_inj, toNat_finish, finishOf, nothing]
        rfl
      rw [answers_of_nothing calls _ finish]
      refine ⟨?_, fun index member => ?_, List.pairwise_replicate.mpr (Or.inr fun _ => rfl)⟩
      · rw [List.reduceOption_replicate_none]
        rfl
      · cases List.eq_of_mem_replicate member
  · rw [reduceOption_answers fits, List.length_map, List.length_range']
    rfl

/-- A range of one index just below the last word is handed out, and the last word is not. -/
theorem hands_out_until_round_last_words :
    HandsOut 18446744073709551614 1 (answers 2 (ofRange 18446744073709551614 1)) ∧
      (answers 2 (ofRange 18446744073709551614 1)).reduceOption.length = 1 := by
  obtain ⟨handsOut, number⟩ := hands_out_until_round 18446744073709551614 1 2
  exact ⟨handsOut.mpr (Or.inl (by decide)), number (by decide)⟩

/-- The next call of that cursor gets an index again, and one that is not in the range. -/
theorem hands_out_zero_after_refusal :
    answers 3 (ofRange 18446744073709551614 1) = [some 18446744073709551614, none, some 0] ∧
      ¬HandsOut 18446744073709551614 1 (answers 3 (ofRange 18446744073709551614 1)) := by
  have got : answers 3 (ofRange 18446744073709551614 1) =
      [some 18446744073709551614, none, some 0] := by
    decide
  refine ⟨got, fun handsOut => ?_⟩
  rw [got] at handsOut
  exact absurd (handsOut.inside 0 (by decide)).1 (by decide)

end SpatialWorkload.Cursor
