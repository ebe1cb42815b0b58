import SpatialWorkload.Proofs.Run.Ledger
import SpatialWorkload.Proofs.Run.Loaded
import SpatialWorkload.Proofs.Run.Mirror

/-!
# Reports

The report of a phase against the counters of its workload: loading reports the inserts
that were counted, and a run that follows reports the scans that were.
-/

namespace SpatialWorkload

namespace Count

theorem record_add (first second : Count) (status : Status) :
    (first.record status).add second = (first.add second).record status := by
  cases status <;> simp [record, Status.isOk, add] <;> ac_rfl

theorem add_record (first second : Count) (status : Status) :
    first.add (second.record status) = (first.add second).record status := by
  cases status <;> simp [record, Status.isOk, add] <;> ac_rfl

end Count

theorem Tally.scans_record (tally : Tally) (kind : ScanKind) (status : Status) :
    (tally.record (.scan kind) status).scans = tally.scans.record status := by
  cases kind <;> simp only [record, scans, Count.record_add, Count.add_record]

namespace Worker.Stride

variable {σ : Type} {workload : Workload} {backend : Backend σ} {world next : World σ}
  {words : Words} {stage : Stage} {after : Worker}

/-- A step counts a scan, and ends its transaction so, or it counts none and ends none well. -/
theorem scans_cases (stride : Stride workload backend world words stage next after) {call : Call}
    (fits : stage.fits call = true) :
    (call = .transaction ∧ ∃ status : Status, after.stage = .returned status.isOk ∧
      next.shared.tally.scans = world.shared.tally.scans.record status) ∨
    (next.shared.tally.scans = world.shared.tally.scans ∧
      (call == .transaction && after.stage.isReturned true) = false) := by
  cases stride with
  | scans =>
      cases call with
      | insert => cases fits
      | transaction => exact Or.inl ⟨rfl, .success, rfl, Tally.scans_record _ _ _⟩
  | scanRefused =>
      rename_i error _ _ _
      cases call with
      | insert => cases fits
      | transaction =>
          refine Or.inl ⟨rfl, Status.ofError error, ?_, Tally.scans_record _ _ _⟩
          rw [Status.isOk_ofError]
  | acknowledges =>
      cases call with
      | insert => exact Or.inr ⟨rfl, rfl⟩
      | transaction => cases fits
  | _ => exact Or.inr ⟨rfl, Bool.and_false _⟩

end Worker.Stride

namespace Floor

variable {σ : Type} {workload : Workload} {backend : Backend σ} {floor next : Floor σ}
  {move : Move σ} {before : Count}

/-- Beyond what was counted before, the scans counted are transactions that came back. -/
structure Scanned (before : Count) (floor : Floor σ) : Prop where
  success : floor.world.shared.tally.scans.success =
    before.success + UInt64.ofNat (floor.returns .transaction true)
  failure : ∃ failed, failed ≤ floor.returns .transaction false ∧
    floor.world.shared.tally.scans.failure = before.failure + UInt64.ofNat failed

theorem returns_take {id : Nat} {call : Call} {worker after : Worker} {world : World σ}
    {posts : List Post} (other : Call) (success : Bool) (store : σ) (request : Option Request) :
    returns ⟨world, posts, Event.shown id call worker.stage after.stage ++
      Event.heard id backend store request ++ floor.history⟩ other success =
      floor.returns other success + (call == other && after.stage.isReturned success).toNat := by
  unfold returns
  rw [List.countP_append, List.countP_append, Event.countP_returns_shown,
    Event.countP_heard _ fun _ _ _ => rfl, Nat.add_zero, Nat.add_comm]

theorem Scanned.turn (scanned : floor.Scanned before) (fits : floor.Fits)
    (turn : Turn workload backend floor move next) : next.Scanned before := by
  obtain ⟨success, failed, within, failure⟩ := scanned
  cases turn with
  | calls | asks | outside => exact ⟨success, failed, within, failure⟩
  | takes busy ready stride =>
      rename_i id call worker waiting world after
      rcases stride.scans_cases (fits.get busy) with ⟨rfl, status, ended, counted⟩ | ⟨same, none⟩
      · unfold Count.record at counted
        cases good : status.isOk with
        | true =>
            rw [good] at counted ended
            refine ⟨?_, failed, ?_, (congrArg Count.failure counted).trans failure⟩
            · rw [returns_take, counted, ended]
              change _ + 1 = _ + UInt64.ofNat (_ + 1)
              rw [success, UInt64.ofNat_add, UInt64.add_assoc]
              rfl
            · rw [returns_take, ended]
              exact within
        | false =>
            rw [good] at counted ended
            refine ⟨?_, failed + 1, ?_, ?_⟩
            · rw [returns_take, ended]
              exact (congrArg Count.success counted).trans success
            · rw [returns_take, ended]
              exact Nat.succ_le_succ within
            · rw [counted, UInt64.ofNat_add, ← UInt64.add_assoc, ← failure]
              rfl
      · refine ⟨?_, failed, ?_, by rw [same, failure]⟩
        · rw [returns_take, same, none]
          exact success
        · rw [returns_take]
          exact Nat.le_add_right_of_le within

theorem scanned_run {world : World σ} {crew : Nat} {moves : List (Move σ)}
    (ran : run workload backend moves (resting world crew) = floor) :
    floor.Scanned world.shared.tally.scans := by
  subst ran
  refine And.right <| run_keeps (fun _ => True)
    (fun floor => floor.Fits ∧ floor.Scanned world.shared.tally.scans) ?_ moves
    (fun _ _ => trivial) ⟨.replicate_idle crew, ?_⟩
  · rintro floor move next - ⟨fits, scanned⟩ turn
    exact ⟨fits.turn turn, scanned.turn fits turn⟩
  · exact ⟨(UInt64.add_zero _).symm, 0, Nat.zero_le _, (UInt64.add_zero _).symm⟩

/-- In a phase no calls return but its own. -/
theorem returns_other {call other : Call} (differs : call ≠ other) {world : World σ} {crew : Nat}
    {moves : List (Move σ)} (follows : ∀ move ∈ moves, move.Follows backend call)
    (ran : run workload backend moves (resting world crew) = floor) (success : Bool) :
    floor.returns other success = 0 := by
  subst ran
  refine And.right <| run_keeps (Move.Follows backend call)
    (fun floor => AllBusy (fun busy _ => busy = call) floor.posts ∧
      floor.returns other success = 0) ?_ moves follows ⟨.replicate_idle crew, rfl⟩
  rintro floor move next follow ⟨alike, none⟩ turn
  cases turn with
  | calls free => exact ⟨alike.set_busy follow, none⟩
  | asks busy => exact ⟨alike.set_busy (alike.get busy), none⟩
  | takes busy ready stride =>
      rename_i id busyCall worker waiting world after
      have same := alike.get busy
      refine ⟨alike.set_settle same, ?_⟩
      have apart : (busyCall == other) = false := beq_eq_false_iff_ne.mpr (same ▸ differs)
      rw [returns_take, none, apart]
      rfl
  | outside => exact ⟨alike, none⟩

end Floor

theorem Floor.insertsAreBack_of_idle {σ : Type} {floor : Floor σ}
    (idle : ∀ post ∈ floor.posts, post = .idle) : floor.InsertsAreBack := by
  intro call worker waiting member
  cases idle _ member

namespace Runner

variable {σ : Type} {workload : Workload} {backend : Backend σ} {workers : Nat}
  {words : Nat → Words} {schedule : List Nat}

/-- Loading reports the inserts that were counted, and counts no scan. -/
theorem load_reports (prepared : workload.IsPrepared) {store : σ} {loaded : Progress σ}
    (ran : Progress.run workload backend .insert schedule
      ((ofWorkers workers).start workload.insertCount.toNat ⟨workload.initialShared, store, []⟩
        words) = loaded)
    (still : loaded.IsStill workload backend .insert) (sound : loaded.IsSound) :
    loaded.result? = some (.ok ⟨loaded.world.shared.tally.insert.success.toNat,
      loaded.world.shared.tally.insert.failure.toNat⟩) ∧
    loaded.world.shared.tally.scans = .zero := by
  obtain ⟨moves, follows, floor, reached, world, result, calls, all, idle⟩ :=
    result_of_isSound (ofWorkers_pos workers) ran still sound
  rw [← world]
  constructor
  · have within : workload.insertStart.toNat + floor.calls .insert ≤ UInt64.size :=
      calls ▸ Nat.le_of_lt prepared.fits
    have balanced := Floor.isBalanced_run prepared backend store _ moves reached
      (Floor.insertsAreBack_of_idle idle) within
    have returned := balanced.returned
    have settled := balanced.settled
    rw [Floor.served, calls, Nat.min_self] at settled
    have failed : floor.world.shared.tally.insert.failure.toNat = floor.returns .insert false := by
      omega
    rw [result, returned, failed]
  · have none (success : Bool) : floor.returns .transaction success = 0 :=
      Floor.returns_other (by decide) follows reached success
    obtain ⟨success, failed, within, failure⟩ := Floor.scanned_run reached
    rw [none true] at success
    rw [none false, Nat.le_zero] at within
    rw [within] at failure
    exact congrArg₂ Count.mk success failure

/-- The first run after loading reports the scans that were counted. -/
theorem run_reports {world : World σ} (fresh : world.shared.tally.scans = .zero)
    {operations : UInt64} {ended : Progress σ}
    (ran : Progress.run workload backend .transaction schedule
      ((ofWorkers workers).start operations.toNat world words) = ended)
    (still : ended.IsStill workload backend .transaction) (sound : ended.IsSound) :
    ∃ failed, ended.world.shared.tally.scans.failure.toNat ≤ failed ∧
      ended.result? = some (.ok ⟨ended.world.shared.tally.scans.success.toNat, failed⟩) := by
  obtain ⟨moves, follows, floor, reached, same, result, calls, all, idle⟩ :=
    result_of_isSound (ofWorkers_pos workers) ran still sound
  obtain ⟨success, failed, within, failure⟩ := Floor.scanned_run reached
  rw [fresh] at success failure
  have small := operations.toNat_lt
  have counted (count : Nat) (few : count ≤ operations.toNat) :
      ((0 : UInt64) + UInt64.ofNat count).toNat = count := by
    rw [UInt64.zero_add]
    exact UInt64.toNat_ofNat_of_lt' (Nat.lt_of_le_of_lt few small)
  refine ⟨floor.returns .transaction false, ?_, ?_⟩
  · rw [← same, failure]
    exact Nat.le_trans (Nat.le_of_eq (counted failed (by omega))) within
  · have whole : floor.world.shared.tally.scans.success.toNat =
        floor.returns .transaction true := by
      rw [success]
      exact counted _ (by omega)
    rw [result, ← same, whole]

/--
Whatever sessions answer, how many workers there are and who moves when: once all insert
calls have returned, the counters of the inserts say what happened, as long as the cursor
has not come round.  A first load can always be brought to a standstill, and if no session
was refused and no worker aborted by then, it reports the inserts that were counted; and one
run after it reports the scans that were.
-/
theorem counters_balance (config : Config) (dataset : Dataset) (workload : Workload)
    (made : Workload.prepare config dataset = .ok workload) (backend : Backend σ) (store : σ) :
    (∀ (crew : Nat) (moves : List (Move σ)),
      let floor := Floor.run workload backend moves (Floor.opening workload store crew)
      floor.InsertsAreBack →
        workload.insertStart.toNat + floor.calls .insert ≤ UInt64.size →
          floor.IsBalanced workload) ∧
    ∀ (workers : Nat) (words : Nat → Words) (schedule : List Nat),
      let start := (ofWorkers workers).start workload.insertCount.toNat
        ⟨workload.initialShared, store, []⟩ words
      let loaded := Progress.run workload backend .insert schedule start
      (∃ rest, (Progress.run workload backend .insert (schedule ++ rest) start).IsStill
        workload backend .insert) ∧
      (loaded.IsStill workload backend .insert → loaded.IsSound →
        loaded.result? = some (.ok ⟨loaded.world.shared.tally.insert.success.toNat,
          loaded.world.shared.tally.insert.failure.toNat⟩) ∧
        ∀ (others : Nat) (operations : UInt64) (more : Nat → Words) (later : List Nat),
          let ended := Progress.run workload backend .transaction later
            ((ofWorkers others).start operations.toNat loaded.world more)
          ended.IsStill workload backend .transaction → ended.IsSound →
            ∃ failed, ended.world.shared.tally.scans.failure.toNat ≤ failed ∧
              ended.result? =
                some (.ok ⟨ended.world.shared.tally.scans.success.toNat, failed⟩)) := by
  obtain ⟨prepared, -, -⟩ := Workload.isPrepared_of_prepare made
  refine ⟨fun crew moves => Floor.isBalanced_run prepared backend store crew moves rfl, ?_⟩
  intro workers words schedule start loaded
  constructor
  · obtain ⟨rest, -, still⟩ := exists_isStill (ofWorkers workers) workload.insertCount.toNat
      ⟨workload.initialShared, store, []⟩ words workload backend .insert
      (crew_pos (ofWorkers_pos workers) _) schedule
    exact ⟨rest, still⟩
  · intro still sound
    obtain ⟨result, fresh⟩ := load_reports prepared rfl still sound
    exact ⟨result, fun others operations more later => run_reports fresh rfl⟩

def retryingWorkload : Workload :=
  { Floor.twoRecordsWorkload with config := { Floor.oneRecordConfig with retryLimit := 1 } }

/-- The first record is refused once, the second one as often as it is tried. -/
def refusals : List Bool := [false, false, true, false]

/-- Two workers insert at the same time; each retries, and one gives up. -/
def twoInserts : List (Move (List Bool)) :=
  [.call 0 .insert (.ofSeed 0), .call 1 .insert (.ofSeed 1), .ask 0, .take 0, .take 1, .take 0,
    .take 0, .take 1, .ask 1, .ask 0, .take 0, .take 1, .ask 0, .take 0, .ask 1, .take 1, .take 0]

def retryingLoad : Progress (List Bool) :=
  Progress.run retryingWorkload .hesitant .insert [0, 1, 1, 0, 0, 0, 0, 1, 1, 0, 1, 0, 1, 0]
    ((ofWorkers 2).start retryingWorkload.insertCount.toNat
      ⟨retryingWorkload.initialShared, refusals, []⟩ fun _ => .ofSeed 0)

def runAfterLoad : Progress (List Bool) :=
  Progress.run retryingWorkload .hesitant .transaction [0, 1, 1, 0, 0, 0, 1, 1, 1, 0, 1, 0]
    ((ofWorkers 3).start (2 : UInt64).toNat retryingLoad.world fun _ => .ofSeed 1)

/--
Two workers insert two records with a retry each, and one record is given up; a load of such
inserts reports this, and the run that follows reports its scans.
-/
theorem counters_balance_two_workers :
    Workload.prepare retryingWorkload.config Floor.twoRecords = .ok retryingWorkload ∧
    (let floor := Floor.run retryingWorkload .hesitant twoInserts
      (Floor.opening retryingWorkload refusals 2)
    floor.InsertsAreBack ∧ floor.calls .insert = 2 ∧
      floor.world.shared.tally = ⟨⟨1, 1⟩, .zero, .zero, .zero, 1, 2, 1⟩ ∧
      floor.IsBalanced retryingWorkload) ∧
    (retryingLoad.IsStill retryingWorkload .hesitant .insert ∧ retryingLoad.IsSound ∧
      retryingLoad.result? = some (.ok ⟨1, 1⟩)) ∧
    runAfterLoad.IsStill retryingWorkload .hesitant .transaction ∧ runAfterLoad.IsSound ∧
      ∃ failed, runAfterLoad.result? = some (.ok ⟨2, failed⟩) := by
  have made : Workload.prepare retryingWorkload.config Floor.twoRecords =
      .ok retryingWorkload := rfl
  obtain ⟨balance, reports⟩ := counters_balance _ _ _ made .hesitant refusals
  have back : (Floor.run retryingWorkload .hesitant twoInserts
      (Floor.opening retryingWorkload refusals 2)).InsertsAreBack := by decide +kernel
  have calls : (Floor.run retryingWorkload .hesitant twoInserts
      (Floor.opening retryingWorkload refusals 2)).calls .insert = 2 := by decide +kernel
  have ⟨still, sound⟩ : retryingLoad.IsStill retryingWorkload .hesitant .insert ∧
      retryingLoad.IsSound := Progress.isStill_of_finished (by decide +kernel)
  have ⟨rests, calm⟩ : runAfterLoad.IsStill retryingWorkload .hesitant .transaction ∧
      runAfterLoad.IsSound := Progress.isStill_of_finished (by decide +kernel)
  have inserts : retryingLoad.world.shared.tally.insert = ⟨1, 1⟩ := by decide +kernel
  have scans : runAfterLoad.world.shared.tally.scans = ⟨2, 0⟩ := by decide +kernel
  have loads := (reports 2 (fun _ => .ofSeed 0) [0, 1, 1, 0, 0, 0, 0, 1, 1, 0, 1, 0, 1, 0]).2
  dsimp only at loads
  rw [← retryingLoad] at loads
  obtain ⟨loaded, later⟩ := loads still sound
  have runs := later 3 2 (fun _ => .ofSeed 1) [0, 1, 1, 0, 0, 0, 1, 1, 1, 0, 1, 0]
  rw [← runAfterLoad] at runs
  obtain ⟨failed, -, ran⟩ := runs rests calm
  rw [inserts] at loaded
  rw [scans] at ran
  refine ⟨made, ⟨back, calls, by decide +kernel, balance 2 twoInserts back ?_⟩,
    ⟨still, sound, loaded⟩, rests, calm, failed, ran⟩
  rw [calls]
  decide

end Runner

end SpatialWorkload
