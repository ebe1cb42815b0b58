import SpatialWorkload.Proofs.Draw.Choice
import SpatialWorkload.Proofs.Run.Range
import SpatialWorkload.Proofs.Run.Report

/-!
# Transactions that all go through

Where some scan is enabled and the watermark stands on a record of the range, a transaction
on a store in memory cannot fail: a scan is picked, a key is drawn up to the watermark, its
record is in the dataset, and the store answers.  A phase of them changes nothing but the
counts of scans.
-/

namespace SpatialWorkload

namespace Tally

/-- All scans that went through, added up without coming round. -/
def scansSucceeded (tally : Tally) : Nat :=
  (tally.get (.scan .knn)).success.toNat + (tally.get (.scan .distance)).success.toNat +
    (tally.get (.scan .polygon)).success.toNat

/-- Beyond what was counted before, so many scans went through, and nothing else. -/
structure AddsScans (before after : Tally) (count : Nat) : Prop where
  others : { after with
    knn := before.knn, distance := before.distance, polygon := before.polygon } = before
  failure : ∀ kind, (after.get (.scan kind)).failure = (before.get (.scan kind)).failure
  success : before.scansSucceeded + count < UInt64.size →
    after.scansSucceeded = before.scansSucceeded + count

theorem AddsScans.refl (tally : Tally) : tally.AddsScans tally 0 :=
  ⟨rfl, fun _ => rfl, fun _ => rfl⟩

theorem scansSucceeded_record {tally : Tally} (kind : ScanKind)
    (fits : tally.scansSucceeded + 1 < UInt64.size) :
    (tally.record (.scan kind) .success).scansSucceeded = tally.scansSucceeded + 1 := by
  have counted (other : ScanKind) :
      ((tally.record (.scan kind) .success).get (.scan other)).success.toNat =
        (tally.get (.scan other)).success.toNat + if other = kind then 1 else 0 := by
    have part : (tally.get (.scan other)).success.toNat ≤ tally.scansSucceeded := by
      unfold scansSucceeded
      cases other <;> omega
    by_cases same : other = kind
    · subst same
      rw [get_record, if_pos rfl, if_pos rfl]
      change ((tally.get (.scan other)).success + 1).toNat = _
      exact Word.toNat_add (Nat.lt_of_le_of_lt (Nat.succ_le_succ part) fits)
    · rw [get_record, if_neg fun equal => same (Operation.scan.inj equal), if_neg same]
      rfl
  unfold scansSucceeded
  rw [counted, counted, counted]
  cases kind <;> simp <;> omega

theorem AddsScans.record {before after : Tally} {count : Nat}
    (adds : before.AddsScans after count) (kind : ScanKind) :
    before.AddsScans (after.record (.scan kind) .success) (count + 1) := by
  refine ⟨?_, fun other => ?_, fun fits => ?_⟩
  · cases kind <;> exact adds.others
  · rw [get_record, ← adds.failure other]
    split
    · rename_i same
      rw [same]
      rfl
    · rfl
  · have sum := adds.success (by omega)
    rw [scansSucceeded_record kind (by omega), sum]
    rfl

/-- Scans that went through, from a tally without scans on, and their sum in words. -/
theorem AddsScans.scans {before after : Tally} {count : UInt64}
    (adds : before.AddsScans after count.toNat) (fresh : ∀ kind, before.get (.scan kind) = .zero) :
    after.scansSucceeded = count.toNat ∧ after.scans = ⟨count, 0⟩ ∧
      ∀ kind, (after.get (.scan kind)).failure = 0 := by
  have none : before.scansSucceeded = 0 := by
    rw [scansSucceeded, fresh, fresh, fresh]
    rfl
  have success := adds.success (by rw [none, Nat.zero_add]; exact count.toNat_lt)
  rw [none, Nat.zero_add] at success
  have failure (kind : ScanKind) : (after.get (.scan kind)).failure = 0 := by
    rw [adds.failure kind, fresh kind]
    rfl
  refine ⟨success, ?_⟩
  have failures : after.scans.failure = 0 := by
    change (after.get (.scan .knn)).failure + (after.get (.scan .distance)).failure +
      (after.get (.scan .polygon)).failure = 0
    rw [failure, failure, failure]
    rfl
  have successes : after.scans.success = count := by
    change (after.get (.scan .knn)).success + (after.get (.scan .distance)).success +
      (after.get (.scan .polygon)).success = count
    rw [← UInt64.toNat_inj, UInt64.toNat_add, UInt64.toNat_add, Nat.mod_add_mod]
    unfold scansSucceeded at success
    rw [success]
    exact Nat.mod_eq_of_lt count.toNat_lt
  exact ⟨congrArg₂ Count.mk successes failures, failure⟩

end Tally

/-- Whatever the words are, a scan is picked, and a record is found up to `last`. -/
structure Workload.Supplies (workload : Workload) (last : UInt64) : Prop where
  picks : ∀ words, ∃ kind, (workload.chooser.choose words).1 = some kind
  finds : ∀ words, ∃ key reference, (workload.keys.next (some last) words).1 = some key ∧
    workload.dataset.get? key = some reference

def Stage.Serves (last : UInt64) : Stage → Prop
  | .choose => True
  | .readMark _ => True
  | .drawKey _ acknowledged => acknowledged = some last
  | .scan .. => True
  | .returned success => success = true
  | _ => False

namespace Worker.Stride

variable {workload : Workload} {world next : MemoryWorld} {words : Words} {stage : Stage}
  {after : Worker} {last : UInt64}

/-- A step of such a transaction counts its scan and ends it well, or it changes nothing. -/
theorem serves_cases (stride : Stride workload memoryBackend world words stage next after)
    (supplies : workload.Supplies last) (marked : world.shared.acknowledged.last? = some last)
    (serves : stage.Serves last) :
    (∃ kind, after.stage = .returned true ∧
      next = { world with shared := record world.shared (.scan kind) .success }) ∨
    (after.stage.isOver = false ∧ after.stage.Serves last ∧ next = world) := by
  cases stride with
  | choosesNone chosen =>
      obtain ⟨kind, picked⟩ := supplies.picks words
      rw [chosen] at picked
      cases picked
  | chooses => exact Or.inr ⟨rfl, trivial, rfl⟩
  | readsMark => exact Or.inr ⟨rfl, marked, rfl⟩
  | drawsNone nothing =>
      cases serves
      obtain ⟨key, reference, drawn, found⟩ := supplies.finds words
      cases (nothing key drawn).symm.trans found
  | draws => exact Or.inr ⟨rfl, trivial, rfl⟩
  | scans drawn asked =>
      rename_i kind reference query rest found store
      have kept : world.store = store := congrArg Prod.snd asked
      subst kept
      exact Or.inl ⟨kind, rfl, rfl⟩
  | scanRefused drawn asked | scanLost drawn asked => cases congrArg Prod.fst asked
  | _ => cases serves

end Worker.Stride

namespace Floor

variable {workload : Workload} {before : MemoryWorld} {last : UInt64}
  {floor next : Floor (MemoryStore Float)} {move : Move (MemoryStore Float)}

/-- No transaction has failed, and only the counts of scans have changed. -/
structure Serves (before : MemoryWorld) (last : UInt64) (floor : Floor (MemoryStore Float)) :
    Prop where
  busy : AllBusy (fun call worker => call = .transaction ∧ worker.stage.Serves last) floor.posts
  unfailed : floor.returns .transaction false = 0
  world : floor.world =
    { before with shared := { before.shared with tally := floor.world.shared.tally } }
  counted : before.shared.tally.AddsScans floor.world.shared.tally
    (floor.returns .transaction true)

theorem Serves.turn (serves : floor.Serves before last) (supplies : workload.Supplies last)
    (marked : before.shared.acknowledged.last? = some last)
    (follows : move.Follows memoryBackend .transaction)
    (turn : Turn workload memoryBackend floor move next) : next.Serves before last := by
  obtain ⟨busy, unfailed, same, counted⟩ := serves
  cases turn with
  | calls free =>
      cases follows
      exact ⟨busy.set_busy ⟨rfl, trivial⟩, unfailed, same, counted⟩
  | asks found => exact ⟨busy.set_busy (busy.get found), unfailed, same, counted⟩
  | takes found ready stride =>
      rename_i id call worker waiting world after
      obtain ⟨rfl, served⟩ := busy.get found
      have here : floor.world.shared.acknowledged.last? = some last := by
        rw [same]
        exact marked
      rcases stride.serves_cases supplies here served with ⟨kind, ended, rfl⟩ | ⟨going, goes, rfl⟩
      · refine ⟨busy.set_settle ⟨rfl, ?_⟩, ?_, ?_, ?_⟩
        · rw [ended]
          rfl
        · rw [returns_take, unfailed, ended]
          rfl
        · dsimp only [Worker.record]
          rw [same]
        · rw [returns_take, ended]
          exact counted.record kind
      · refine ⟨busy.set_settle ⟨rfl, goes⟩, ?_, same, ?_⟩
        · rw [returns_take, unfailed, Stage.isReturned_of_going going]
          rfl
        · rw [returns_take, Stage.isReturned_of_going going]
          exact counted
  | outside =>
      have kept := follows floor.world.store
      refine ⟨busy, unfailed, ?_, counted⟩
      dsimp only
      rw [kept]
      exact same

/-- Whoever moves when, a phase of transactions goes on so. -/
theorem serves_run (supplies : workload.Supplies last)
    (marked : before.shared.acknowledged.last? = some last) (crew : Nat)
    {moves : List (Move (MemoryStore Float))}
    (follows : ∀ move ∈ moves, move.Follows memoryBackend .transaction)
    (ran : run workload memoryBackend moves (resting before crew) = floor) :
    floor.Serves before last := by
  subst ran
  have first : (resting before crew).Serves before last :=
    ⟨.replicate_idle crew, rfl, rfl, .refl _⟩
  exact run_keeps (Move.Follows memoryBackend .transaction) (fun floor => floor.Serves before last)
    (fun _ _ _ follow serves turn => serves.turn supplies marked follow turn) moves follows first

end Floor

namespace Runner

variable {workload : Workload} {world : MemoryWorld} {last : UInt64} {workers total : Nat}
  {words : Nat → Words} {schedule : List Nat} {ended : Progress (MemoryStore Float)}

/-- Under every schedule, transactions that have come to a standstill have all gone through. -/
theorem served_of_isStill (supplies : workload.Supplies last)
    (marked : world.shared.acknowledged.last? = some last)
    (ran : Progress.run workload memoryBackend .transaction schedule
      ((ofWorkers workers).start total world words) = ended)
    (still : ended.IsStill workload memoryBackend .transaction) :
    ended.result? = some (.ok ⟨total, 0⟩) ∧
      ended.world =
        { world with shared := { world.shared with tally := ended.world.shared.tally } } ∧
      world.shared.tally.AddsScans ended.world.shared.tally total := by
  have sound : ended.IsSound := by
    rcases isMirrored (ofWorkers_pos workers) workload memoryBackend .transaction world words
      schedule with ⟨-, sound⟩ | ⟨-, ⟨store, refused⟩ | ⟨moves, follows, -, rest, aborted⟩⟩
    · exact ran ▸ sound
    · exact absurd rfl refused
    · have serves := Floor.serves_run supplies marked ((ofWorkers workers).crew total) follows rfl
      cases (serves.busy .transaction ⟨.aborted, rest⟩ false aborted).2
  obtain ⟨moves, follows, floor, reached, same, result, calls, all, idle⟩ :=
    result_of_isSound (ofWorkers_pos workers) ran still sound
  have serves := Floor.serves_run supplies marked _ follows reached
  have unfailed := serves.unfailed
  have returned : floor.returns .transaction true = total := by omega
  have counted := serves.counted
  rw [returned, unfailed] at result
  rw [returned, same] at counted
  exact ⟨result, same ▸ serves.world, counted⟩

end Runner

end SpatialWorkload
