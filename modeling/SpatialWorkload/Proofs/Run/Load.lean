import SpatialWorkload.Proofs.Run.Filled

/-!
# Loading a store in memory

No phase of inserts on a store in memory fails, and each comes to an end.  What it leaves
behind and what it reports is the same for every number of workers and every schedule.
-/

namespace SpatialWorkload

namespace Floor

variable {workload : Workload} {initial : MemoryStore Float}
  {floor : Floor (MemoryStore Float)}

/-- Inserts that are all back, one for every index of the range, have filled the table. -/
theorem isFilled_run (prepared : workload.IsPrepared) (distinct : workload.HasDistinctIds)
    (crew : Nat) {moves : List (Move (MemoryStore Float))}
    (follows : ∀ move ∈ moves, move.Follows memoryBackend .insert)
    (ran : run workload memoryBackend moves (opening workload initial crew) = floor)
    (back : floor.InsertsAreBack) (all : floor.calls .insert = workload.insertCount.toNat) :
    workload.IsFilled initial floor.world ∧
      floor.returns .insert true = workload.insertCount.toNat := by
  have within : workload.insertStart.toNat + floor.calls .insert ≤ UInt64.size :=
    all ▸ Nat.le_of_lt prepared.fits
  have fills := fills_run prepared distinct initial crew follows ran within
  have balanced := isBalanced_run prepared memoryBackend initial crew moves ran back within
  have placed : floor.Fits := ran ▸ (booked_run prepared memoryBackend initial crew moves).1
  refine ⟨fills.isFilled prepared balanced (back.standing placed) all, ?_⟩
  have length := (fills.perm_acknowledged balanced all).length_eq
  rw [Workload.length_firstIndices] at length
  rw [← balanced.returned, balanced.acknowledged, length]

/-- Nothing makes a phase of inserts on a store in memory fail. -/
theorem not_mayFail (prepared : workload.IsPrepared) (distinct : workload.HasDistinctIds)
    (initial : MemoryStore Float) (crew : Nat) :
    ¬Progress.MayFail workload memoryBackend .insert workload.insertCount.toNat
      (opening workload initial crew) := by
  rintro (⟨store, refused⟩ | ⟨moves, follows, few, words, aborted⟩)
  · exact refused rfl
  · have within := Nat.le_trans (Nat.add_le_add_left few workload.insertStart.toNat)
      (Nat.le_of_lt prepared.fits)
    have fills := fills_run prepared distinct initial crew follows rfl within
    exact fills.unbroken .insert ⟨.aborted, words⟩ false aborted rfl

end Floor

namespace Runner

variable {workload : Workload} {store : MemoryStore Float} {workers : Nat} {words : Nat → Words}
  {schedule : List Nat} {loaded : Progress (MemoryStore Float)}

/-- Under every schedule, no session of a load is refused and no worker aborts. -/
theorem isSound_of_load (prepared : workload.IsPrepared) (distinct : workload.HasDistinctIds)
    (ran : Progress.run workload memoryBackend .insert schedule
      ((ofWorkers workers).start workload.insertCount.toNat ⟨workload.initialShared, store, []⟩
        words) = loaded) : loaded.IsSound := by
  rcases isMirrored (ofWorkers_pos workers) workload memoryBackend .insert
    ⟨workload.initialShared, store, []⟩ words schedule with ⟨-, sound⟩ | ⟨-, fails⟩
  · exact ran ▸ sound
  · exact absurd fails (Floor.not_mayFail prepared distinct store _)

/-- Under every schedule, a load that has come to a standstill has filled the table. -/
theorem isFilled_of_isStill (prepared : workload.IsPrepared) (distinct : workload.HasDistinctIds)
    (ran : Progress.run workload memoryBackend .insert schedule
      ((ofWorkers workers).start workload.insertCount.toNat ⟨workload.initialShared, store, []⟩
        words) = loaded)
    (still : loaded.IsStill workload memoryBackend .insert) :
    loaded.result? = some (.ok ⟨workload.insertCount.toNat, 0⟩) ∧
      workload.IsFilled store loaded.world := by
  have sound := isSound_of_load prepared distinct ran
  obtain ⟨moves, follows, floor, reached, world, result, calls, all, idle⟩ :=
    result_of_isSound (ofWorkers_pos workers) ran still sound
  obtain ⟨filled, returned⟩ := Floor.isFilled_run prepared distinct _ follows reached
    (Floor.insertsAreBack_of_idle idle) calls
  rw [returned] at result all
  have none : floor.returns .insert false = 0 := by omega
  rw [none] at result
  exact ⟨result, world ▸ filled⟩

/--
A load whose records carry different identities, on a store in memory that may hold
anything: whoever moves when, it can be brought to a standstill, and then the table holds
the records of the range and nothing else, all of them are acknowledged, no other table has
changed and every insert is reported as succeeded.  The load that the runner executes ends
so, and so do inserts that overlap, one for every index of the range.
-/
theorem load_fills (config : Config) (dataset : Dataset) (workload : Workload)
    (made : Workload.prepare config dataset = .ok workload)
    (distinct : (dataset.positions.toList.map Position.id).Nodup) (store : MemoryStore Float) :
    (∀ (workers : Nat) (words : Nat → Words),
      let crew := (ofWorkers workers).crew workload.insertCount.toNat
      let start := (ofWorkers workers).start workload.insertCount.toNat
        ⟨workload.initialShared, store, []⟩ words
      (∀ schedule : List Nat,
        let loaded := Progress.run workload memoryBackend .insert schedule start
        (∃ rest : List Nat, rest.length ≤ enoughSteps workload crew workload.insertCount.toNat ∧
          (Progress.run workload memoryBackend .insert (schedule ++ rest) start).IsStill
            workload memoryBackend .insert) ∧
        (loaded.IsStill workload memoryBackend .insert →
          loaded.result? = some (.ok ⟨workload.insertCount.toNat, 0⟩) ∧
            workload.IsFilled store loaded.world)) ∧
      let executed := (ofWorkers workers).execute .load workload.insertCount.toNat workload
        memoryBackend ⟨workload.initialShared, store, []⟩ words
      executed.1 = some (.ok ⟨.load, crew, workload.insertCount.toNat, 0⟩) ∧
        workload.IsFilled store executed.2.2) ∧
    ∀ (crew : Nat) (moves : List (Move (MemoryStore Float))),
      (∀ move ∈ moves, move.Follows memoryBackend .insert) →
        let floor := Floor.run workload memoryBackend moves (Floor.opening workload store crew)
        floor.InsertsAreBack → floor.calls .insert = workload.insertCount.toNat →
          workload.IsFilled store floor.world ∧
            floor.returns .insert true = workload.insertCount.toNat := by
  obtain ⟨prepared, -, rfl⟩ := Workload.isPrepared_of_prepare made
  have apart : workload.HasDistinctIds := distinct
  constructor
  · intro workers words crew start
    have someone : 0 < crew := crew_pos (ofWorkers_pos workers) _
    refine ⟨fun schedule => ⟨?_, isFilled_of_isStill prepared apart rfl⟩, ?_⟩
    · exact exists_isStill (ofWorkers workers) _ _ words workload memoryBackend .insert someone
        schedule
    · intro executed
      obtain ⟨schedule, ended, ran, still, same⟩ := execute_spec (ofWorkers workers)
        workload.insertCount.toNat ⟨workload.initialShared, store, []⟩ words .load workload
        memoryBackend someone
      obtain ⟨result, filled⟩ := isFilled_of_isStill prepared apart ran still
      change executed = _ at same
      rw [same, result]
      exact ⟨rfl, filled⟩
  · intro crew moves follows floor back all
    exact Floor.isFilled_run prepared apart crew follows rfl back all

/-- Two workers load two records over a table that held another one. -/
theorem load_fills_two_records :
    let store := (MemoryStore.empty.insert "positions" "stale" Floor.onePosition).2
    let executed := (ofWorkers 2).execute .load 2 Floor.twoRecordsWorkload memoryBackend
      ⟨Floor.twoRecordsWorkload.initialShared, store, []⟩ fun _ => .ofSeed 0
    Workload.prepare Floor.oneRecordConfig Floor.twoRecords = .ok Floor.twoRecordsWorkload ∧
      (Floor.twoRecords.positions.toList.map Position.id).Nodup ∧
      executed.1 = some (.ok ⟨.load, 2, 2, 0⟩) ∧
      (executed.2.2.store.positions "positions").Perm Floor.twoRecords.positions.toList ∧
      executed.2.2.shared.acknowledged.last? = some 1 := by
  intro store executed
  have distinct : (Floor.twoRecords.positions.toList.map Position.id).Nodup := by decide
  have ⟨reported, filled⟩ := ((load_fills _ _ _ Floor.prepare_twoRecords distinct store).1 2
    fun _ => .ofSeed 0).2
  exact ⟨Floor.prepare_twoRecords, distinct, reported, filled.records, filled.last⟩

end Runner

end SpatialWorkload
