import Mathlib.Data.Finset.Card
import Mathlib.Data.Set.Insert
import SpatialWorkload.Proofs.Word
import SpatialWorkload.Run.Watermark

/-!
# What a watermark knows

A watermark stands for the set of indices acknowledged so far: its frontier is the first
one missing from its start on, and what waits is the part of the set above the frontier.
One acknowledgement adds one index to the set, so the state after any sequence of them
depends on the set alone.
-/

namespace SpatialWorkload

namespace Watermark

def acknowledgeAll (mark : Watermark) (indices : List UInt64) : Watermark :=
  indices.foldl acknowledge mark

/-- The largest word; every index below it has a successor. -/
abbrev lastWord : UInt64 := 0xFFFFFFFFFFFFFFFF

theorem lt_succ_of_lt_lastWord {index : UInt64} (below : index < lastWord) :
    index < index + 1 := by
  grind

structure IsFirstMissing (start : UInt64) (seen : Set UInt64) (missing : UInt64) : Prop where
  start_le : start ≤ missing
  covered : ∀ index, start ≤ index → index < missing → index ∈ seen
  notMem : missing ∉ seen

theorem IsFirstMissing.eq {start first second : UInt64} {seen : Set UInt64}
    (left : IsFirstMissing start seen first) (right : IsFirstMissing start seen second) :
    first = second := by
  rcases UInt64.lt_or_le first second with less | notLess
  · exact absurd (right.covered first left.start_le less) left.notMem
  · rcases UInt64.lt_or_le second first with greater | notGreater
    · exact absurd (left.covered second right.start_le greater) right.notMem
    · exact UInt64.le_antisymm notGreater notLess

/-- The watermark stands for the set of acknowledged indices. -/
structure Tracks (mark : Watermark) (start : UInt64) (seen : Set UInt64) : Prop where
  start_eq : mark.start = start
  frontier : IsFirstMissing start seen mark.frontier
  ascending : mark.waiting.Pairwise (· < ·)
  mem_waiting : ∀ index, index ∈ mark.waiting ↔ index ∈ seen ∧ mark.frontier < index

theorem mem_addWaiting (index other : UInt64) (waiting : List UInt64) :
    other ∈ addWaiting index waiting ↔ other = index ∨ other ∈ waiting := by
  induction waiting with
  | nil => simp [addWaiting]
  | cons first rest ih =>
      unfold addWaiting
      split
      · simp
      · split
        · rename_i equal
          simp [equal]
        · rw [List.mem_cons, ih, List.mem_cons]
          exact or_left_comm

theorem addWaiting_ascending (index : UInt64) {waiting : List UInt64}
    (ascending : waiting.Pairwise (· < ·)) :
    (addWaiting index waiting).Pairwise (· < ·) := by
  induction waiting with
  | nil => simp [addWaiting]
  | cons first rest ih =>
      obtain ⟨above, restAscending⟩ := List.pairwise_cons.mp ascending
      unfold addWaiting
      split
      · rename_i less
        refine List.pairwise_cons.mpr ⟨?_, ascending⟩
        intro other member
        rcases List.mem_cons.mp member with equal | later
        · exact equal ▸ less
        · exact UInt64.lt_trans less (above other later)
      · split
        · exact ascending
        · refine List.pairwise_cons.mpr ⟨?_, ih restAscending⟩
          intro other member
          rcases (mem_addWaiting index other rest).mp member with equal | later
          · subst equal
            grind
          · exact above other later

/--
Draining stops at the first index that does not wait.  What it passes was waiting, and
what it leaves is exactly what waits beyond the stop.
-/
theorem drain_spec (frontier : UInt64) {waiting : List UInt64}
    (ascending : waiting.Pairwise (· < ·)) (above : ∀ index ∈ waiting, frontier ≤ index)
    (bounded : ∀ index ∈ waiting, index < lastWord) :
    IsFirstMissing frontier {index | index ∈ waiting} (drain frontier waiting).1 ∧
    (drain frontier waiting).2.Pairwise (· < ·) ∧
    ∀ index, index ∈ (drain frontier waiting).2 ↔
      index ∈ waiting ∧ (drain frontier waiting).1 < index := by
  induction waiting generalizing frontier with
  | nil =>
      refine ⟨⟨UInt64.le_refl _, ?_, ?_⟩, List.Pairwise.nil, ?_⟩
      · intro index low high
        exact absurd high (UInt64.not_lt.mpr low)
      · simp
      · simp [drain]
  | cons first rest ih =>
      obtain ⟨least, restAscending⟩ := List.pairwise_cons.mp ascending
      by_cases waits : first = frontier
      · subst waits
        have next := lt_succ_of_lt_lastWord (bounded first List.mem_cons_self)
        have restAbove : ∀ index ∈ rest, first + 1 ≤ index := by
          intro index member
          have := least index member
          grind
        have restBounded : ∀ index ∈ rest, index < lastWord := fun index member =>
          bounded index (List.mem_cons_of_mem first member)
        obtain ⟨stop, leftAscending, mem_left⟩ := ih (first + 1) restAscending restAbove restBounded
        simp only [drain, if_true]
        have passed : first < (drain (first + 1) rest).1 :=
          UInt64.lt_of_lt_of_le next stop.start_le
        refine ⟨⟨UInt64.le_of_lt passed, ?_, ?_⟩, leftAscending, ?_⟩
        · intro index low high
          by_cases equal : index = first
          · exact equal ▸ List.mem_cons_self
          · have later : first + 1 ≤ index := by grind
            exact List.mem_cons_of_mem first (stop.covered index later high)
        · intro member
          rcases List.mem_cons.mp member with equal | later
          · rw [equal] at passed
            exact UInt64.lt_irrefl _ passed
          · exact stop.notMem later
        · intro index
          rw [mem_left index, List.mem_cons]
          constructor
          · rintro ⟨member, beyond⟩
            exact ⟨Or.inr member, beyond⟩
          · rintro ⟨equal | member, beyond⟩
            · subst equal
              exact absurd beyond (UInt64.not_lt.mpr (UInt64.le_of_lt passed))
            · exact ⟨member, beyond⟩
      · have gap : frontier < first := by
          have := above first List.mem_cons_self
          grind
        simp only [drain, if_neg waits]
        have allAbove : ∀ index ∈ first :: rest, frontier < index := by
          intro index member
          rcases List.mem_cons.mp member with equal | later
          · exact equal ▸ gap
          · exact UInt64.lt_trans gap (least index later)
        refine ⟨⟨UInt64.le_refl _, ?_, ?_⟩, ascending, ?_⟩
        · intro index low high
          exact absurd high (UInt64.not_lt.mpr low)
        · intro member
          exact UInt64.lt_irrefl _ (allAbove frontier member)
        · intro index
          exact ⟨fun member => ⟨member, allAbove index member⟩, And.left⟩

theorem tracks_ofStart (start : UInt64) : Tracks (ofStart start) start ∅ := by
  refine ⟨rfl, ⟨UInt64.le_refl _, ?_, Set.notMem_empty _⟩, List.Pairwise.nil, ?_⟩
  · intro index low high
    exact absurd high (UInt64.not_lt.mpr low)
  · simp [ofStart]

theorem tracks_preloaded (start count : UInt64)
    (fits : start.toNat + count.toNat < UInt64.size) :
    Tracks (preloaded start count) start
      {index | start ≤ index ∧ index.toNat < start.toNat + count.toNat} := by
  have finish : (start + count).toNat = start.toNat + count.toNat := Word.toNat_add fits
  refine ⟨rfl, ⟨?_, ?_, ?_⟩, List.Pairwise.nil, ?_⟩
  · rw [UInt64.le_iff_toNat_le]
    change start.toNat ≤ (start + count).toNat
    omega
  · intro index low high
    have := UInt64.lt_iff_toNat_lt.mp high
    change index.toNat < (start + count).toNat at this
    exact ⟨low, by omega⟩
  · rintro ⟨-, below⟩
    change (start + count).toNat < _ at below
    omega
  · intro index
    constructor
    · intro member
      exact absurd member List.not_mem_nil
    · rintro ⟨⟨-, below⟩, beyond⟩
      have := UInt64.lt_iff_toNat_lt.mp beyond
      change (start + count).toNat < index.toNat at this
      omega

namespace Tracks

variable {mark other : Watermark} {start index : UInt64} {seen : Set UInt64}

/-- Two watermarks with the same start that stand for the same set are the same. -/
theorem eq (left : Tracks mark start seen) (right : Tracks other start seen) : mark = other := by
  obtain ⟨markStart, markFrontier, markWaiting⟩ := mark
  obtain ⟨otherStart, otherFrontier, otherWaiting⟩ := other
  have starts : markStart = otherStart := left.start_eq.trans right.start_eq.symm
  have frontiers : markFrontier = otherFrontier := left.frontier.eq right.frontier
  subst starts frontiers
  have members : ∀ i, i ∈ markWaiting ↔ i ∈ otherWaiting := fun i =>
    (left.mem_waiting i).trans (right.mem_waiting i).symm
  have distinct {waiting : List UInt64} (ascending : waiting.Pairwise (· < ·)) :
      waiting.Nodup := ascending.imp fun less => UInt64.ne_of_lt less
  have permuted : markWaiting.Perm otherWaiting :=
    (List.perm_ext_iff_of_nodup (distinct left.ascending) (distinct right.ascending)).mpr members
  have same : markWaiting = otherWaiting :=
    permuted.eq_of_pairwise
      (fun a b _ _ below above => absurd (UInt64.lt_trans below above) (UInt64.lt_irrefl a))
      left.ascending right.ascending
  rw [same]

/-- One acknowledgement adds one index to the set. -/
theorem acknowledge (tracks : Tracks mark start seen) (known : ∀ i ∈ seen, i < lastWord)
    (below : index < lastWord) : Tracks (mark.acknowledge index) start (insert index seen) := by
  unfold Watermark.acknowledge
  split
  · -- The index lies behind the frontier: it was seen, or it lies before the start.
    rename_i behind
    refine ⟨tracks.start_eq, ⟨tracks.frontier.start_le, ?_, ?_⟩, tracks.ascending, ?_⟩
    · intro i low high
      exact Set.mem_insert_of_mem index (tracks.frontier.covered i low high)
    · rintro (equal | member)
      · rw [equal] at behind
        exact UInt64.lt_irrefl _ behind
      · exact tracks.frontier.notMem member
    · intro i
      rw [tracks.mem_waiting i]
      constructor
      · rintro ⟨member, beyond⟩
        exact ⟨Set.mem_insert_of_mem index member, beyond⟩
      · rintro ⟨equal | member, beyond⟩
        · rw [equal] at beyond
          exact absurd beyond (UInt64.not_lt.mpr (UInt64.le_of_lt behind))
        · exact ⟨member, beyond⟩
  · split
    · rename_i beyond
      refine ⟨tracks.start_eq, ⟨tracks.frontier.start_le, ?_, ?_⟩,
        addWaiting_ascending index tracks.ascending, ?_⟩
      · intro i low high
        exact Set.mem_insert_of_mem index (tracks.frontier.covered i low high)
      · rintro (equal | member)
        · have equal : mark.frontier = index := equal
          rw [equal] at beyond
          exact UInt64.lt_irrefl _ beyond
        · exact tracks.frontier.notMem member
      · intro i
        rw [mem_addWaiting, tracks.mem_waiting i]
        constructor
        · rintro (equal | ⟨member, above⟩)
          · exact ⟨Or.inl equal, equal ▸ beyond⟩
          · exact ⟨Or.inr member, above⟩
        · rintro ⟨equal | member, above⟩
          · exact Or.inl equal
          · exact Or.inr ⟨member, above⟩
    · -- The index stands at the frontier, and what waited directly behind it is released.
      rename_i notBehind notBeyond
      have atFrontier : index = mark.frontier := by grind
      subst atFrontier
      have next := lt_succ_of_lt_lastWord below
      have waitsAbove : ∀ i ∈ mark.waiting, mark.frontier + 1 ≤ i := by
        intro i member
        have above := ((tracks.mem_waiting i).mp member).2
        grind
      have waitsBelow : ∀ i ∈ mark.waiting, i < lastWord := fun i member =>
        known i ((tracks.mem_waiting i).mp member).1
      obtain ⟨stop, ascending, mem_left⟩ :=
        drain_spec (mark.frontier + 1) tracks.ascending waitsAbove waitsBelow
      have passed : mark.frontier < (drain (mark.frontier + 1) mark.waiting).1 :=
        UInt64.lt_of_lt_of_le next stop.start_le
      refine ⟨tracks.start_eq, ⟨?_, ?_, ?_⟩, ascending, ?_⟩
      · exact UInt64.le_trans tracks.frontier.start_le (UInt64.le_of_lt passed)
      · intro i low high
        rcases UInt64.lt_or_le i mark.frontier with behind | notBehind
        · exact Or.inr (tracks.frontier.covered i low behind)
        · rcases UInt64.lt_or_eq_of_le notBehind with above | equal
          · have later : mark.frontier + 1 ≤ i := by grind
            exact Or.inr ((tracks.mem_waiting i).mp (stop.covered i later high)).1
          · exact Or.inl equal.symm
      · rintro (equal | member)
        · exact UInt64.ne_of_lt passed equal.symm
        · exact stop.notMem ((tracks.mem_waiting _).mpr ⟨member, passed⟩)
      · intro i
        rw [mem_left i, tracks.mem_waiting i]
        constructor
        · rintro ⟨⟨member, -⟩, beyond⟩
          exact ⟨Or.inr member, beyond⟩
        · rintro ⟨equal | member, beyond⟩
          · rw [equal] at beyond
            exact absurd (UInt64.lt_trans passed beyond) (UInt64.lt_irrefl _)
          · exact ⟨⟨member, UInt64.lt_trans passed beyond⟩, beyond⟩

/-- A sequence of acknowledgements adds its indices, in whatever order they come. -/
theorem acknowledgeAll (indices : List UInt64) (tracks : Tracks mark start seen)
    (known : ∀ i ∈ seen, i < lastWord) (bounded : ∀ i ∈ indices, i < lastWord) :
    Tracks (mark.acknowledgeAll indices) start (seen ∪ {i | i ∈ indices}) := by
  induction indices generalizing mark seen with
  | nil => simpa [Watermark.acknowledgeAll] using tracks
  | cons first rest ih =>
      have firstBelow := bounded first List.mem_cons_self
      have step := tracks.acknowledge known firstBelow
      have stepKnown : ∀ i ∈ insert first seen, i < lastWord := by
        rintro i (equal | member)
        · exact equal ▸ firstBelow
        · exact known i member
      have whole := ih step stepKnown fun i member => bounded i (List.mem_cons_of_mem first member)
      have sets : insert first seen ∪ {i | i ∈ rest} = seen ∪ {i | i ∈ first :: rest} := by
        ext i
        simp only [Set.mem_union, Set.mem_insert_iff, Set.mem_ofPred_eq, List.mem_cons]
        tauto
      rw [sets] at whole
      exact whole

/-- The last index of the unbroken run is the one before the first missing index. -/
theorem last?_eq_some_iff (tracks : Tracks mark start seen) (known : ∀ i ∈ seen, i < lastWord)
    (last : UInt64) :
    mark.last? = some last ↔
      start ≤ last ∧ (∀ i, start ≤ i → i ≤ last → i ∈ seen) ∧ last + 1 ∉ seen := by
  unfold last?
  rw [tracks.start_eq]
  constructor
  · intro found
    split at found
    · rename_i begun
      have equal : mark.frontier - 1 = last := Option.some.inj found
      have next : last + 1 = mark.frontier := by grind
      refine ⟨by grind, ?_, next ▸ tracks.frontier.notMem⟩
      intro i low high
      exact tracks.frontier.covered i low (by grind)
    · cases found
  · rintro ⟨low, run, ended⟩
    have lastBelow := known last (run last low (UInt64.le_refl last))
    have frontier : IsFirstMissing start seen (last + 1) := by
      refine ⟨by grind, ?_, ended⟩
      intro i from_start up
      exact run i from_start (by grind)
    have equal := tracks.frontier.eq frontier
    rw [if_pos (by grind), equal]
    congr 1
    grind

theorem last?_eq_none_iff (tracks : Tracks mark start seen) :
    mark.last? = none ↔ start ∉ seen := by
  unfold last?
  rw [tracks.start_eq]
  constructor
  · intro nothing
    split at nothing
    · cases nothing
    · rename_i notBegun
      have equal : mark.frontier = start :=
        UInt64.le_antisymm (UInt64.not_lt.mp notBegun) tracks.frontier.start_le
      exact equal ▸ tracks.frontier.notMem
  · intro missing
    refine if_neg fun begun => missing ?_
    exact tracks.frontier.covered start (UInt64.le_refl start) begun

/-- What waits is the part of the set above the first missing index. -/
theorem pending_eq_card {indices : List UInt64} (tracks : Tracks mark start {i | i ∈ indices}) :
    mark.pending = (indices.toFinset.filter (mark.frontier < ·)).card := by
  have distinct : mark.waiting.Nodup := tracks.ascending.imp fun less => UInt64.ne_of_lt less
  have sets : mark.waiting.toFinset = indices.toFinset.filter (mark.frontier < ·) := by
    ext i
    rw [List.mem_toFinset, Finset.mem_filter, List.mem_toFinset]
    exact tracks.mem_waiting i
  rw [← sets, List.toFinset_card_of_nodup distinct]
  rfl

/-- A larger set has a frontier at least as far. -/
theorem frontier_mono {more : Set UInt64} (first : Tracks mark start seen)
    (second : Tracks other start more) (subset : seen ⊆ more) : mark.frontier ≤ other.frontier := by
  rcases UInt64.lt_or_le other.frontier mark.frontier with less | notLess
  · have member := first.frontier.covered _ second.frontier.start_le less
    exact absurd (subset member) second.frontier.notMem
  · exact notLess

end Tracks

theorem last?_mono {mark other : Watermark} {last : UInt64} (starts : mark.start = other.start)
    (frontiers : mark.frontier ≤ other.frontier) (found : mark.last? = some last) :
    ∃ after, other.last? = some after ∧ last ≤ after := by
  unfold last? at found ⊢
  split at found
  · rename_i begun
    have equal : mark.frontier - 1 = last := Option.some.inj found
    rw [starts] at begun
    have begunToo := UInt64.lt_of_lt_of_le begun frontiers
    refine ⟨other.frontier - 1, if_pos begunToo, ?_⟩
    grind
  · cases found

theorem tracks_acknowledgeAll (start : UInt64) {indices : List UInt64}
    (bounded : ∀ i ∈ indices, i < lastWord) :
    Tracks ((ofStart start).acknowledgeAll indices) start {i | i ∈ indices} := by
  have tracks := (tracks_ofStart start).acknowledgeAll indices
    (fun i member => absurd member (Set.notMem_empty i)) bounded
  rwa [Set.empty_union] at tracks

theorem acknowledgeAll_append (mark : Watermark) (first second : List UInt64) :
    mark.acknowledgeAll (first ++ second) =
      (mark.acknowledgeAll first).acknowledgeAll second :=
  List.foldl_append

/-- The watermark of a loaded range is that of a range acknowledged index by index. -/
theorem preloaded_eq_acknowledgeAll {start count : UInt64} {range : List UInt64}
    (fits : start.toNat + count.toNat < UInt64.size)
    (mem_range : ∀ i, i ∈ range ↔ start ≤ i ∧ i.toNat < start.toNat + count.toNat) :
    preloaded start count = (ofStart start).acknowledgeAll range := by
  have bounded : ∀ i ∈ range, i < lastWord := by
    intro i member
    obtain ⟨-, below⟩ := (mem_range i).mp member
    rw [UInt64.lt_iff_toNat_lt]
    change i.toNat < UInt64.size - 1
    omega
  have loaded := tracks_preloaded start count fits
  have sets : {i | start ≤ i ∧ i.toNat < start.toNat + count.toNat} = {i | i ∈ range} := by
    ext i
    exact (mem_range i).symm
  rw [sets] at loaded
  exact loaded.eq (tracks_acknowledgeAll start bounded)

/--
After any sequence of acknowledgements, repeated or early ones and those before the start
included, the last value is the end of the unbroken run of acknowledged indices, and what
is pending is the part of them above the first missing one.  The state is a function of
the set of acknowledged indices, the last value never falls, and a preloaded watermark
goes on exactly as one whose range was acknowledged index by index.
-/
theorem acknowledgeAll_ofStart (start : UInt64) (indices : List UInt64)
    (bounded : ∀ i ∈ indices, i < lastWord) :
    (∀ last, ((ofStart start).acknowledgeAll indices).last? = some last ↔
      start ≤ last ∧ (∀ i, start ≤ i → i ≤ last → i ∈ indices) ∧ last + 1 ∉ indices) ∧
    (((ofStart start).acknowledgeAll indices).last? = none ↔ start ∉ indices) ∧
    (∃ missing, IsFirstMissing start {i | i ∈ indices} missing ∧
      ((ofStart start).acknowledgeAll indices).pending =
        (indices.toFinset.filter (missing < ·)).card) ∧
    (∀ others : List UInt64, (∀ i, i ∈ others ↔ i ∈ indices) →
      (ofStart start).acknowledgeAll others = (ofStart start).acknowledgeAll indices) ∧
    (∀ later : List UInt64, (∀ i ∈ later, i < lastWord) →
      ∀ last, ((ofStart start).acknowledgeAll indices).last? = some last →
        ∃ after, ((ofStart start).acknowledgeAll (indices ++ later)).last? = some after ∧
          last ≤ after) ∧
    (∀ (count : UInt64) (range : List UInt64), start.toNat + count.toNat < UInt64.size →
      (∀ i, i ∈ range ↔ start ≤ i ∧ i.toNat < start.toNat + count.toNat) →
      (preloaded start count).acknowledgeAll indices =
        (ofStart start).acknowledgeAll (range ++ indices)) := by
  have tracks := tracks_acknowledgeAll start bounded
  refine ⟨tracks.last?_eq_some_iff bounded, tracks.last?_eq_none_iff,
    ⟨_, tracks.frontier, tracks.pending_eq_card⟩, ?_, ?_, ?_⟩
  · intro others same
    have sets : {i | i ∈ others} = {i | i ∈ indices} := by
      ext i
      exact same i
    have othersTracks := tracks_acknowledgeAll start fun i member =>
      bounded i ((same i).mp member)
    rw [sets] at othersTracks
    exact othersTracks.eq tracks
  · intro later laterBounded last found
    have laterTracks := tracks.acknowledgeAll later bounded laterBounded
    rw [acknowledgeAll_append]
    refine last?_mono (tracks.start_eq.trans laterTracks.start_eq.symm) ?_ found
    exact tracks.frontier_mono laterTracks Set.subset_union_left
  · intro count range fits mem_range
    rw [acknowledgeAll_append, ← preloaded_eq_acknowledgeAll fits mem_range]

/-- Out of order, with a repeat and an index before the start: 12, 11, 10, 11 and 3 from 10 on. -/
theorem acknowledgeAll_ofStart_out_of_order :
    (∀ i ∈ [12, 11, 10, 11, 3, 15], i < lastWord) ∧
    ((ofStart 10).acknowledgeAll [12, 11, 10, 11, 3, 15]).last? = some 12 := by
  have bounded : ∀ i ∈ [12, 11, 10, 11, 3, 15], i < lastWord := by
    simp [lastWord]
  refine ⟨bounded, ((acknowledgeAll_ofStart 10 _ bounded).1 12).mpr ⟨by decide, ?_, by decide⟩⟩
  intro i low high
  have cases : i = 10 ∨ i = 11 ∨ i = 12 := by grind
  rcases cases with rfl | rfl | rfl <;> decide

end Watermark

end SpatialWorkload
