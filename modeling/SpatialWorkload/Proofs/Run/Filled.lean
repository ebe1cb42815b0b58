import SpatialWorkload.Proofs.Run.Report

/-!
# A loaded table

On a store in memory, and with identities that tell the records of the dataset apart, no
insert of a load is refused: an index is tried by one worker only, and its record is not in
the table before.  So whatever the tables held, however many workers there are and whoever
moves when, the load ends with the records of the range in its table and nowhere else.
-/

namespace SpatialWorkload

namespace Workload

def records (workload : Workload) : List (Position Float) :=
  (workload.dataset.positions.toList.drop workload.insertStart.toNat).take
    workload.insertCount.toNat

def HasDistinctIds (workload : Workload) : Prop :=
  (workload.dataset.positions.toList.map Position.id).Nodup

theorem get?_eq (workload : Workload) (index : UInt64) :
    workload.dataset.get? index = workload.dataset.positions.toList[index.toNat]? := by
  simp [Dataset.get?]

/-- Two indices whose records carry one identity are the same. -/
theorem HasDistinctIds.index_eq {workload : Workload} (distinct : workload.HasDistinctIds)
    {first second : UInt64} {left right : Position Float}
    (foundLeft : workload.dataset.get? first = some left)
    (foundRight : workload.dataset.get? second = some right) (same : left.id = right.id) :
    first = second := by
  rw [get?_eq] at foundLeft foundRight
  have inside := (List.getElem?_eq_some_iff.mp foundLeft).1
  refine UInt64.toNat_inj.mp ((List.getElem?_inj (by rwa [List.length_map]) distinct).mp ?_)
  rw [List.getElem?_map, List.getElem?_map, foundLeft, foundRight]
  exact congrArg some same

theorem filterMap_firstIndices {workload : Workload} (prepared : workload.IsPrepared) (count : Nat)
    (within : count ≤ workload.insertCount.toNat) :
    (workload.firstIndices count).filterMap workload.dataset.get? =
      (workload.dataset.positions.toList.drop workload.insertStart.toNat).take count := by
  induction count with
  | zero => rfl
  | succ count ih =>
      have fits := prepared.fits
      unfold insertFinish at fits
      rw [firstIndices_succ, List.filterMap_append, ih (by omega), List.take_add_one,
        List.getElem?_drop]
      congr 1
      rw [← toNat_index (by omega), ← get?_eq]
      cases found : workload.dataset.get? (workload.insertStart + UInt64.ofNat count) <;>
        simp [found]

theorem mem_firstIndices {workload : Workload} (prepared : workload.IsPrepared) (index : UInt64) :
    index ∈ workload.firstIndices workload.insertCount.toNat ↔
      workload.insertStart ≤ index ∧ index.toNat < workload.insertFinish := by
  have fits := prepared.fits
  unfold insertFinish at fits ⊢
  rw [firstIndices, List.mem_map, UInt64.le_iff_toNat_le]
  constructor
  · rintro ⟨place, inside, rfl⟩
    rw [List.mem_range] at inside
    rw [toNat_index (by omega)]
    omega
  · rintro ⟨low, high⟩
    refine ⟨index.toNat - workload.insertStart.toNat, List.mem_range.mpr (by omega), ?_⟩
    refine UInt64.toNat_inj.mp ?_
    rw [toNat_index (by omega)]
    omega

/-- The watermark of a range that was acknowledged, in whatever order. -/
theorem acknowledgeAll_range {workload : Workload} (prepared : workload.IsPrepared)
    {indices : List UInt64}
    (all : ∀ index, index ∈ indices ↔
      workload.insertStart ≤ index ∧ index.toNat < workload.insertFinish) :
    workload.initialShared.acknowledged.acknowledgeAll indices =
      Watermark.preloaded workload.insertStart workload.insertCount := by
  have loaded := Watermark.tracks_preloaded workload.insertStart workload.insertCount prepared.fits
  have range : {index | workload.insertStart ≤ index ∧
      index.toNat < workload.insertStart.toNat + workload.insertCount.toNat} =
        {index | index ∈ indices} := by
    ext index
    exact (all index).symm
  rw [range] at loaded
  have bounded : ∀ index ∈ indices, index < Watermark.lastWord := fun index member =>
    lt_lastWord prepared ((all index).mp member).2
  refine Watermark.Tracks.eq ?_ loaded
  unfold initialShared
  dsimp only
  split
  · have again := loaded.acknowledgeAll indices bounded bounded
    rwa [Set.union_self] at again
  · exact Watermark.tracks_acknowledgeAll workload.insertStart bounded

end Workload

def Stage.Tries (workload : Workload) (stage : Stage) : Prop :=
  ∀ index position failed, stage = .attempt index position failed →
    workload.dataset.get? index = some position

namespace Worker.Stride

variable {workload : Workload} {world next : MemoryWorld} {words : Words} {stage : Stage}
  {after : Worker}

/-- A step on a store in memory, when the insert it may ask for is taken. -/
theorem memory_cases (stride : Stride workload memoryBackend world words stage next after)
    (intact : world.shared.gate.bar ≠ .broken)
    (taken : ∀ index position failed, stage = .attempt index position failed →
      (world.store.insert workload.config.table position.id position).1 = .ok ()) :
    after.stage ≠ .aborted ∧ next.shared.gate.bar ≠ .broken ∧
    next.shared.tally.insert.failure = world.shared.tally.insert.failure ∧
    ((stage = .gate ∧ world.shared.gate.bar = .closed ∧
        next.store = world.store.reset workload.config.table) ∨
      (∃ index position failed, stage = .attempt index position failed ∧
        after.stage = .acknowledge index ∧ next.shared.gate.bar = world.shared.gate.bar ∧
        next.store = (world.store.insert workload.config.table position.id position).2) ∨
      ((∀ index position failed, stage ≠ .attempt index position failed) ∧
        next.shared.gate.bar = world.shared.gate.bar ∧ next.store = world.store)) := by
  have accepted {index : UInt64} {position : Position Float} {failed : Nat}
      {cause : Stop StoreError} {store : MemoryStore Float}
      (same : stage = .attempt index position failed)
      (asked : memoryBackend.insert workload.config.table position.id position world.store =
        (.error cause, store)) : False := by
    have answered : (memoryBackend.insert workload.config.table position.id position
        world.store).1 = .ok () := congrArg orStop (taken index position failed same)
    rw [asked] at answered
    cases answered
  cases stride with
  | barred broken => exact absurd broken intact
  | resets closed asked back =>
      exact ⟨nofun, nofun, rfl, Or.inl ⟨rfl, closed, (congrArg Prod.snd asked).symm⟩⟩
  | resetLost closed asked => cases congrArg Prod.fst asked
  | inserts asked =>
      rename_i index position failed store
      exact ⟨nofun, intact, rfl, Or.inr (Or.inl ⟨index, position, failed, rfl, rfl, rfl,
        (congrArg Prod.snd asked).symm⟩)⟩
  | insertLost asked | abandons asked | retries asked | pauseLost asked =>
      exact (accepted rfl asked).elim
  | scans drawn asked =>
      refine ⟨nofun, intact, ?_, Or.inr (Or.inr
        ⟨fun _ _ _ => Stage.noConfusion, rfl, (congrArg Prod.snd asked).symm⟩)⟩
      exact congrArg (fun account => account.insert.failure) (account_record_scan world.shared _ _)
  | scanRefused drawn asked | scanLost drawn asked => cases congrArg Prod.fst asked
  | _ => exact ⟨nofun, intact, rfl, Or.inr (Or.inr ⟨fun _ _ _ => Stage.noConfusion, rfl, rfl⟩)⟩

theorem tries (stride : Stride workload memoryBackend world words stage next after)
    (before : stage.Tries workload) : after.stage.Tries workload := by
  intro index position failed tried
  cases stride with
  | fetches taken found =>
      cases tried
      exact found
  | retries =>
      cases tried
      exact before _ _ _ rfl
  | _ => cases tried

end Worker.Stride

theorem Stage.eq_attempt_of_standing {stage : Stage} {waiting : Bool} {index : UInt64}
    {failed : Nat} (trying : stage.standing waiting = .trying index failed waiting) :
    ∃ position, stage = .attempt index position failed := by
  cases stage with
  | attempt =>
      cases trying
      exact ⟨_, rfl⟩
  | _ => cases trying

/-- What waits to be acknowledged does not wait for an answer. -/
theorem Stage.toAcknowledge_standing (stage : Stage) (first second : Bool) :
    (stage.standing first).toAcknowledge = (stage.standing second).toAcknowledge := by
  cases stage <;> rfl

namespace Floor

variable {workload : Workload} {initial : MemoryStore Float}
  {floor next : Floor (MemoryStore Float)} {move : Move (MemoryStore Float)}

/-- The indices whose records have gone into the table. -/
def stored (floor : Floor (MemoryStore Float)) : Multiset UInt64 :=
  floor.acknowledged + floor.due Standing.toAcknowledge

/-- Nothing goes wrong, and the table holds what has gone into it, in some order. -/
structure Fills (workload : Workload) (initial : MemoryStore Float)
    (floor : Floor (MemoryStore Float)) : Prop where
  intact : floor.world.shared.gate.bar ≠ .broken
  unbroken : AllBusy (fun _ worker => worker.stage ≠ .aborted) floor.posts
  unfailed : floor.world.shared.tally.insert.failure = 0
  others : ∀ other, other ≠ workload.config.table →
    floor.world.store.table? other = initial.table? other
  tries : AllBusy (fun _ worker => worker.stage.Tries workload) floor.posts
  unopened : floor.world.shared.gate.bar ≠ .lifted → floor.stored = 0
  table : floor.world.shared.gate.bar = .lifted →
    floor.world.store.IsSoundAt workload.config.table ∧
    ∃ order : List UInt64, (order : Multiset UInt64) = floor.stored ∧
      floor.world.store.positions workload.config.table =
        order.filterMap workload.dataset.get?

theorem mem_due {weight : Standing → Multiset UInt64} {post : Post} {index : UInt64}
    (member : post ∈ floor.posts) (has : index ∈ weight post.standing) :
    index ∈ floor.due weight :=
  Multiset.mem_of_le (List.le_sum_of_mem (List.mem_map_of_mem member)) has

/-- A deed puts an index among the stored ones where it inserts, and nowhere else. -/
theorem stored_of_moves {account : Account} {before after : Standing} {news : List Event}
    (deed : Deed workload floor.world.shared.account before account after news)
    (moves : Moves floor next before after news) :
    (∃ index failed, before = .trying index failed true ∧ after = .inserted index ∧
      next.stored = floor.stored + {index}) ∨
    ((∀ index failed, before = .trying index failed true → after ≠ .inserted index) ∧
      next.stored = floor.stored) := by
  have acknowledge := moves.due Standing.toAcknowledge
  have acknowledged := moves.acknowledged
  unfold stored
  cases deed with
  | inserts =>
      rename_i index failed
      have more : next.due Standing.toAcknowledge =
          floor.due Standing.toAcknowledge + {index} :=
        (add_zero _).symm.trans acknowledge
      have kept : next.acknowledged = floor.acknowledged := acknowledged.trans (List.append_nil _)
      refine Or.inl ⟨index, failed, rfl, rfl, ?_⟩
      rw [kept, more, add_assoc]
  | acknowledges =>
      rename_i id index
      have less : next.due Standing.toAcknowledge + {index} =
          floor.due Standing.toAcknowledge :=
        acknowledge.trans (add_zero _)
      have grown : next.acknowledged = floor.acknowledged ++ [index] := acknowledged
      refine Or.inr ⟨nofun, ?_⟩
      rw [grown, ← less, ← Multiset.coe_add, add_assoc, add_comm (↑[index] : Multiset UInt64)]
      rfl
  | _ =>
      have kept : next.acknowledged = floor.acknowledged := acknowledged.trans (List.append_nil _)
      refine Or.inr ⟨fun index failed tried inserted => ?_, ?_⟩
      · cases tried <;> cases inserted
      · rw [kept, add_right_cancel acknowledge]

/-- Where no index changes hands, nothing goes into the table. -/
theorem stored_set {id : Nat} {old : Post} (new : Post) (event : Event) (world : MemoryWorld)
    (found : floor.posts[id]? = some old)
    (same : new.standing.toAcknowledge = old.standing.toAcknowledge)
    (quiet : event.acknowledged? = none) :
    stored ⟨world, floor.posts.set id new, event :: floor.history⟩ = floor.stored := by
  have moved := sum_set_add found new fun post => post.standing.toAcknowledge
  rw [same] at moved
  unfold stored acknowledged
  rw [List.filterMap_cons_none quiet]
  exact congrArg _ (add_right_cancel moved)

/-- The record of an index that a worker tries is not in the table yet. -/
theorem Fills.insert_ok (fills : floor.Fills workload initial) (gated : floor.Gated)
    (distinct : workload.HasDistinctIds) {given : Multiset UInt64} (settled : floor.Settled given)
    (once : floor.taken.Nodup) {id : Nat} {call : Call} {worker : Worker} {waiting : Bool}
    (busy : floor.posts[id]? = some (.busy call worker waiting)) {index : UInt64}
    {position : Position Float} {failed : Nat}
    (stage : worker.stage = .attempt index position failed) :
    (floor.world.store.insert workload.config.table position.id position).1 = .ok () := by
  have lifted := (gated.placed.get busy).past (by rw [stage]; rfl)
  obtain ⟨sound, order, all, positions⟩ := fills.table lifted
  refine MemoryStore.insert_of_absent sound (fun carried => ?_) position
  rw [positions] at carried
  obtain ⟨other, inside, same⟩ := List.mem_map.mp carried
  obtain ⟨there, member, found⟩ := List.mem_filterMap.mp inside
  have equal := distinct.index_eq found (fills.tries.get busy index position failed stage) same
  subst equal
  -- The index would be stored and still be tried, but it was handed out once.
  have stored : there ∈ floor.stored := all ▸ Multiset.mem_coe.mpr member
  have tried : there ∈ floor.due Standing.toInsert := by
    refine mem_due (List.mem_of_getElem? busy) ?_
    rw [Post.standing, stage]
    exact Multiset.mem_singleton_self there
  have twice := Multiset.coe_nodup.mpr once
  rw [settled.taken] at twice
  have apart := (Multiset.nodup_add.mp (Multiset.nodup_add.mp twice).1).2.2
  exact Multiset.disjoint_left.mp apart stored tried

namespace Fills

/-- The table is as it was. -/
theorem stays (fills : floor.Fills workload initial)
    (unbroken : AllBusy (fun _ worker => worker.stage ≠ .aborted) next.posts)
    (tries : AllBusy (fun _ worker => worker.stage.Tries workload) next.posts)
    (unfailed : next.world.shared.tally.insert.failure = floor.world.shared.tally.insert.failure)
    (bar : next.world.shared.gate.bar = floor.world.shared.gate.bar)
    (store : next.world.store = floor.world.store) (stored : next.stored = floor.stored) :
    next.Fills workload initial := by
  refine ⟨bar ▸ fills.intact, unbroken, unfailed.trans fills.unfailed, ?_, tries, ?_, ?_⟩
  · rw [store]
    exact fills.others
  · rw [stored, bar]
    exact fills.unopened
  · rw [stored, bar, store]
    exact fills.table

/-- The table is emptied, at the gate. -/
theorem resets (fills : floor.Fills workload initial)
    (unbroken : AllBusy (fun _ worker => worker.stage ≠ .aborted) next.posts)
    (tries : AllBusy (fun _ worker => worker.stage.Tries workload) next.posts)
    (unfailed : next.world.shared.tally.insert.failure = floor.world.shared.tally.insert.failure)
    (closed : floor.world.shared.gate.bar = .closed) (intact : next.world.shared.gate.bar ≠ .broken)
    (store : next.world.store = floor.world.store.reset workload.config.table)
    (stored : next.stored = floor.stored) : next.Fills workload initial := by
  have nothing : next.stored = 0 :=
    stored.trans (fills.unopened (by rw [closed]; exact Bar.noConfusion))
  refine ⟨intact, unbroken, unfailed.trans fills.unfailed, fun other differs => ?_, tries,
    fun _ => nothing, fun _ => ⟨?_, [], nothing.symm, ?_⟩⟩
  · rw [store, MemoryStore.reset, MemoryStore.table?_set, if_neg differs]
    exact fills.others other differs
  · rw [store]
    exact MemoryStore.isSoundAt_reset _ _
  · rw [store, MemoryStore.positions_reset]
    rfl

/-- The record of an index goes into the table, behind the gate. -/
theorem inserts (fills : floor.Fills workload initial)
    (unbroken : AllBusy (fun _ worker => worker.stage ≠ .aborted) next.posts)
    (tries : AllBusy (fun _ worker => worker.stage.Tries workload) next.posts)
    (unfailed : next.world.shared.tally.insert.failure = floor.world.shared.tally.insert.failure)
    (lifted : floor.world.shared.gate.bar = .lifted)
    (bar : next.world.shared.gate.bar = floor.world.shared.gate.bar) {index : UInt64}
    {position : Position Float} (found : workload.dataset.get? index = some position)
    (taken : (floor.world.store.insert workload.config.table position.id position).1 = .ok ())
    (store : next.world.store =
      (floor.world.store.insert workload.config.table position.id position).2)
    (stored : next.stored = floor.stored + {index}) : next.Fills workload initial := by
  obtain ⟨sound, order, all, positions⟩ := fills.table lifted
  rcases MemoryStore.insert_cases sound position.id position with
    ⟨-, stillSound, appended⟩ | ⟨error, refused⟩
  · refine ⟨bar ▸ fills.intact, unbroken, unfailed.trans fills.unfailed, fun other differs => ?_,
      tries, fun shut => absurd (bar.trans lifted) shut, fun _ => ⟨?_, order ++ [index], ?_, ?_⟩⟩
    · rw [store, MemoryStore.table?_insert_of_ne differs]
      exact fills.others other differs
    · rw [store]
      exact stillSound
    · rw [stored, ← all]
      rfl
    · rw [store, appended, positions, List.filterMap_append, List.filterMap_cons_some found]
      rfl
  · rw [refused] at taken
    cases taken

theorem take (fills : floor.Fills workload initial) (gated : floor.Gated)
    (fits : floor.Fits) (distinct : workload.HasDistinctIds) {given : Multiset UInt64}
    (settled : floor.Settled given) (once : floor.taken.Nodup) {id : Nat} {call : Call}
    {worker after : Worker} {waiting : Bool} {world : MemoryWorld}
    (busy : floor.posts[id]? = some (.busy call worker waiting))
    (ready : waiting = (worker.request? workload floor.world.shared.gate).isSome)
    (stride : Worker.Stride workload memoryBackend floor.world worker.words worker.stage world
      after) :
    Fills workload initial ⟨world, floor.posts.set id (.settle call after),
      Event.shown id call worker.stage after.stage ++
        Event.heard id memoryBackend floor.world.store
          (worker.request? workload floor.world.shared.gate) ++ floor.history⟩ := by
  have accepted (index : UInt64) (position : Position Float) (failed : Nat)
      (stage : worker.stage = .attempt index position failed) :=
    fills.insert_ok gated distinct settled once busy stage
  obtain ⟨back, intact, unfailed, cases⟩ := stride.memory_cases fills.intact accepted
  obtain ⟨news, deed, moves⟩ := deed_of_take fits busy ready stride fun _ => back
  have tries := fills.tries.get busy
  rcases cases with ⟨atGate, closed, store⟩ |
    ⟨index, position, failed, stage, inserted, bar, store⟩ | ⟨elsewhere, bar, store⟩
  · rcases stored_of_moves deed moves with ⟨index, failed, trying, -, -⟩ | ⟨-, same⟩
    · rw [atGate] at trying
      cases trying
    · exact fills.resets (fills.unbroken.set_settle back)
        (fills.tries.set_settle (stride.tries tries)) unfailed closed intact store same
  · rcases stored_of_moves deed moves with ⟨there, failures, trying, goesIn, grown⟩ | ⟨none, -⟩
    · rw [inserted] at goesIn
      cases goesIn
      exact fills.inserts (fills.unbroken.set_settle back)
        (fills.tries.set_settle (stride.tries tries)) unfailed
        ((gated.placed.get busy).past (by rw [stage]; rfl)) bar
        (tries index position failed stage) (accepted index position failed stage) store grown
    · rw [stage, inserted] at none
      exact absurd rfl (none index failed rfl)
  · rcases stored_of_moves deed moves with ⟨index, failed, trying, -, -⟩ | ⟨-, same⟩
    · obtain ⟨position, stage⟩ := Stage.eq_attempt_of_standing trying
      exact absurd stage (elsewhere index position failed)
    · exact fills.stays (fills.unbroken.set_settle back)
        (fills.tries.set_settle (stride.tries tries)) unfailed bar store same

/-- Every move of a phase of inserts goes on filling the table. -/
theorem turn (fills : floor.Fills workload initial) (gated : floor.Gated)
    (fits : floor.Fits) (distinct : workload.HasDistinctIds) {given : Multiset UInt64}
    (settled : floor.Settled given) (once : floor.taken.Nodup)
    (follows : move.Follows memoryBackend .insert)
    (turn : Turn workload memoryBackend floor move next) : next.Fills workload initial := by
  cases turn with
  | calls free =>
      rename_i id call words
      refine fills.stays (fills.unbroken.set_busy ?_) (fills.tries.set_busy ?_) rfl rfl rfl
        (stored_set _ (.called id call) floor.world free ?_ rfl)
      · cases call <;> exact Stage.noConfusion
      · cases call <;> exact fun _ _ _ => Stage.noConfusion
      · cases call <;> rfl
  | asks busy asks admitted =>
      rename_i id call worker request
      exact fills.stays (fills.unbroken.set_busy (fills.unbroken.get busy))
        (fills.tries.set_busy (fills.tries.get busy)) rfl rfl rfl
        (stored_set _ (.asked id request) floor.world busy
          (Stage.toAcknowledge_standing worker.stage true false) rfl)
  | takes busy ready stride => exact fills.take gated fits distinct settled once busy ready stride
  | outside => exact fills.stays fills.unbroken fills.tries rfl rfl (follows floor.world.store) rfl

end Fills

theorem Fills.ofOpening (workload : Workload) (initial : MemoryStore Float) (crew : Nat) :
    (opening workload initial crew).Fills workload initial where
  intact := Bar.noConfusion
  unbroken := .replicate_idle crew
  unfailed := rfl
  others _ _ := rfl
  tries := .replicate_idle crew
  unopened _ := by
    rw [stored, due_eq_zero _ (standing_opening workload initial crew) rfl]
    rfl
  table lifted := nomatch lifted

/-- Whoever moves when, inserts fill the table until the cursor comes round. -/
theorem fills_run (prepared : workload.IsPrepared) (distinct : workload.HasDistinctIds)
    (initial : MemoryStore Float) (crew : Nat) {moves : List (Move (MemoryStore Float))}
    (follows : ∀ move ∈ moves, move.Follows memoryBackend .insert)
    (ran : run workload memoryBackend moves (opening workload initial crew) = floor)
    (fits : workload.insertStart.toNat + floor.calls .insert ≤ UInt64.size) :
    floor.Fills workload initial := by
  subst ran
  let invariant (floor : Floor (MemoryStore Float)) : Prop :=
    floor.Fits ∧ floor.Gated ∧
      (workload.insertStart.toNat + floor.calls .insert ≤ UInt64.size →
        floor.Booked workload ∧ floor.Fills workload initial)
  have kept (floor : Floor (MemoryStore Float)) (move : Move (MemoryStore Float))
      (next : Floor (MemoryStore Float)) (follow : move.Follows memoryBackend .insert)
      (holds : invariant floor) (turn : Turn workload memoryBackend floor move next) :
      invariant next := by
    obtain ⟨placed, gated, filled⟩ := holds
    refine ⟨placed.turn turn, gated.turn turn, fun within => ?_⟩
    -- Calls only grow in number, so that the bound held before the move as well.
    have before : workload.insertStart.toNat + floor.calls .insert ≤ UInt64.size :=
      Nat.le_trans (Nat.add_le_add_left (turn.calls_le .insert) _) within
    obtain ⟨booked, fills⟩ := filled before
    obtain ⟨given, settled⟩ := booked.settled
    have later := fills.turn gated placed distinct settled (booked.nodup_taken prepared before)
      follow turn
    exact ⟨booked.turn prepared placed (later.unbroken.imp fun _ _ back _ => back) turn, later⟩
  have first : invariant (opening workload initial crew) :=
    ⟨.replicate_idle crew, .ofOpening workload initial crew, fun _ =>
      ⟨.ofOpening prepared initial crew, .ofOpening workload initial crew⟩⟩
  exact (run_keeps _ invariant kept moves follows first).2.2 fits |>.2

/-- Where every index was handed out and nothing has failed, every index is acknowledged. -/
theorem Fills.perm_acknowledged (fills : floor.Fills workload initial)
    (balanced : floor.IsBalanced workload)
    (all : floor.calls .insert = workload.insertCount.toNat) :
    floor.acknowledged.Perm (workload.firstIndices workload.insertCount.toNat) := by
  have served : floor.served workload = workload.insertCount.toNat := by
    rw [Floor.served, all, Nat.min_self]
  have settled := balanced.settled
  rw [fills.unfailed, balanced.acknowledged, served] at settled
  have taken := balanced.taken
  rw [served] at taken
  rw [← taken]
  refine (List.subperm_of_subset balanced.once balanced.own).perm_of_length_le ?_
  rw [taken, Workload.length_firstIndices]
  exact Nat.le_of_eq settled.symm

end Floor

/-- The records of the range are in the table, all are acknowledged, and nothing else is. -/
structure Workload.IsFilled (workload : Workload) (initial : MemoryStore Float)
    (world : MemoryWorld) : Prop where
  records : (world.store.positions workload.config.table).Perm workload.records
  sound : world.store.IsSoundAt workload.config.table
  others : ∀ other, other ≠ workload.config.table →
    world.store.table? other = initial.table? other
  last : world.shared.acknowledged.last? =
    some (workload.insertStart + workload.insertCount - 1)
  pending : world.shared.acknowledged.pending = 0

theorem Watermark.last?_preloaded {workload : Workload} (prepared : workload.IsPrepared) :
    (preloaded workload.insertStart workload.insertCount).last? =
      some (workload.insertStart + workload.insertCount - 1) := by
  have fits := prepared.fits
  have some := Word.toNat_pos prepared.nonempty
  unfold Workload.insertFinish at fits
  refine if_pos (UInt64.lt_iff_toNat_lt.mpr ?_)
  change workload.insertStart.toNat < (workload.insertStart + workload.insertCount).toNat
  rw [Word.toNat_add fits]
  omega

/-- When all inserts are back, one for every index of the range, the table is filled. -/
theorem Floor.Fills.isFilled {workload : Workload} {initial : MemoryStore Float}
    {floor : Floor (MemoryStore Float)} (fills : floor.Fills workload initial)
    (prepared : workload.IsPrepared) (balanced : floor.IsBalanced workload)
    (idle : ∀ post ∈ floor.posts, post.standing = .aside)
    (all : floor.calls .insert = workload.insertCount.toNat) :
    workload.IsFilled initial floor.world := by
  have perm := fills.perm_acknowledged balanced all
  have stored : floor.stored = floor.acknowledged := by
    rw [Floor.stored, due_eq_zero _ idle rfl, add_zero]
  have lifted : floor.world.shared.gate.bar = .lifted := by
    by_contra shut
    have none := stored.symm.trans (fills.unopened shut)
    have length := perm.length_eq
    rw [(Multiset.coe_eq_zero _).mp none, Workload.length_firstIndices] at length
    exact prepared.nonempty (UInt64.toNat_inj.mp length.symm)
  obtain ⟨sound, order, same, positions⟩ := fills.table lifted
  have mark : floor.world.shared.acknowledged =
      .preloaded workload.insertStart workload.insertCount := by
    rw [balanced.mark]
    exact Workload.acknowledgeAll_range prepared fun index =>
      perm.mem_iff.trans (Workload.mem_firstIndices prepared index)
  refine ⟨?_, sound, fills.others, ?_, ?_⟩
  · rw [positions, Workload.records, ← Workload.filterMap_firstIndices prepared _ (Nat.le_refl _)]
    exact ((Multiset.coe_eq_coe.mp (same.trans stored)).trans perm).filterMap _
  · rw [mark]
    exact Watermark.last?_preloaded prepared
  · rw [mark]
    rfl

end SpatialWorkload
