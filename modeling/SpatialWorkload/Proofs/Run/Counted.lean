import SpatialWorkload.Proofs.Run.Load

/-!
# What a load has counted

A load on a store in memory that has come to a standstill has counted one reset, one insert
that went through for every index of its range, and nothing else: no insert was tried twice,
given up or failed, and nothing was scanned.
-/

namespace SpatialWorkload

attribute [ext] Tally

def Tally.loaded (count : UInt64) : Tally :=
  { Tally.zero with insert := ⟨count, 0⟩, resets := 1 }

/-- A step of an insert that is taken counts no retry and no scan. -/
theorem Worker.Stride.insert_counts {workload : Workload} {world next : MemoryWorld}
    {words : Words} {stage : Stage} {after : Worker}
    (stride : Stride workload memoryBackend world words stage next after)
    (fits : stage.fits .insert = true) (intact : world.shared.gate.bar ≠ .broken)
    (taken : ∀ index position failed, stage = .attempt index position failed →
      (world.store.insert workload.config.table position.id position).1 = .ok ()) :
    next.shared.tally.insertRetries = world.shared.tally.insertRetries ∧
      ∀ kind, next.shared.tally.get (.scan kind) = world.shared.tally.get (.scan kind) := by
  have goesThrough {index : UInt64} {position : Position Float} {failed : Nat}
      (same : stage = .attempt index position failed) :
      ∃ index, after.stage = .acknowledge index := by
    obtain ⟨-, -, -, ⟨atGate, -⟩ | ⟨index, _, _, -, ended, -⟩ | ⟨elsewhere, -⟩⟩ :=
      stride.memory_cases intact taken
    · cases same.symm.trans atGate
    · exact ⟨index, ended⟩
    · exact absurd same (elsewhere index position failed)
  cases stride with
  | insertLost | abandons | retries | pauseLost =>
      obtain ⟨index, ended⟩ := goesThrough rfl
      cases ended
  | resets | inserts => exact ⟨rfl, fun kind => by cases kind <;> rfl⟩
  | scans | scanRefused => cases fits
  | _ => exact ⟨rfl, fun _ => rfl⟩

namespace Floor

/-- What every move keeps on the way from a floor holds after every run from there. -/
theorem run_keeps_onTheWay {σ : Type} {workload : Workload} {backend : Backend σ} {floor : Floor σ}
    (allowed : Move σ → Prop) (invariant : Floor σ → Prop)
    (kept : ∀ moves move next, (∀ earlier ∈ moves, allowed earlier) → allowed move →
      invariant (run workload backend moves floor) →
        Turn workload backend (run workload backend moves floor) move next → invariant next)
    (moves : List (Move σ)) (good : ∀ move ∈ moves, allowed move) (first : invariant floor) :
    invariant (run workload backend moves floor) := by
  induction moves using List.reverseRecOn with
  | nil => exact first
  | append_singleton moves move ih =>
      obtain ⟨earlier, last⟩ := List.forall_mem_append.mp good
      have before := ih earlier
      rw [run_append]
      unfold run
      cases made : (run workload backend moves floor).step workload backend move with
      | none => exact before
      | some next =>
          exact kept moves move next earlier (last move (List.mem_singleton_self move)) before
            (step_turn made)

variable {workload : Workload} {floor next : Floor (MemoryStore Float)}
  {move : Move (MemoryStore Float)}

/-- Only inserts are under way, and neither a retry nor a scan has been counted. -/
structure Plain (floor : Floor (MemoryStore Float)) : Prop where
  inserts : AllBusy (fun call _ => call = .insert) floor.posts
  retries : floor.world.shared.tally.insertRetries = 0
  scans : ∀ kind, floor.world.shared.tally.get (.scan kind) = .zero

theorem Plain.turn (plain : floor.Plain) (fits : floor.Fits)
    (intact : floor.world.shared.gate.bar ≠ .broken)
    (taken : AllBusy (fun _ worker => ∀ index position failed,
      worker.stage = .attempt index position failed →
        (floor.world.store.insert workload.config.table position.id position).1 = .ok ())
      floor.posts)
    (follows : move.Follows memoryBackend .insert)
    (turn : Turn workload memoryBackend floor move next) : next.Plain := by
  obtain ⟨inserts, retries, scans⟩ := plain
  cases turn with
  | calls free => exact ⟨inserts.set_busy follows, retries, scans⟩
  | asks busy => exact ⟨inserts.set_busy (inserts.get busy), retries, scans⟩
  | takes busy ready stride =>
      cases inserts.get busy
      obtain ⟨sameRetries, sameScans⟩ :=
        stride.insert_counts (fits.get busy) intact (taken.get busy)
      exact ⟨inserts.set_settle rfl, sameRetries.trans retries,
        fun kind => (sameScans kind).trans (scans kind)⟩
  | outside => exact ⟨inserts, retries, scans⟩

/-- Whoever moves when, inserts go through at once until the cursor comes round. -/
theorem plain_run (prepared : workload.IsPrepared) (distinct : workload.HasDistinctIds)
    (initial : MemoryStore Float) (crew : Nat) {moves : List (Move (MemoryStore Float))}
    (follows : ∀ move ∈ moves, move.Follows memoryBackend .insert)
    (ran : run workload memoryBackend moves (opening workload initial crew) = floor)
    (within : workload.insertStart.toNat + floor.calls .insert ≤ UInt64.size) : floor.Plain := by
  subst ran
  let invariant (floor : Floor (MemoryStore Float)) : Prop :=
    workload.insertStart.toNat + floor.calls .insert ≤ UInt64.size → floor.Plain
  have first : invariant (opening workload initial crew) :=
    fun _ => ⟨.replicate_idle crew, rfl, fun kind => by cases kind <;> rfl⟩
  refine run_keeps_onTheWay (Move.Follows memoryBackend .insert) invariant ?_ moves follows first
    within
  intro moves move next earlier follow plain turn within
  have before := Nat.le_trans (Nat.add_le_add_left (turn.calls_le .insert) _) within
  -- What the floor has become on the way is known from the runs that are no longer than it.
  have fills := fills_run prepared distinct initial crew earlier rfl before
  obtain ⟨fits, booked⟩ := booked_run prepared memoryBackend initial crew moves
  obtain ⟨gated, -⟩ := sound_run workload memoryBackend initial crew moves
  have accounts := booked (fills.unbroken.imp fun _ _ back _ => back)
  obtain ⟨given, settled⟩ := accounts.settled
  have once := accounts.nodup_taken prepared before
  refine (plain before).turn fits fills.intact ?_ follow turn
  intro call worker waiting member index position failed stage
  obtain ⟨id, busy⟩ := List.getElem?_of_mem member
  exact fills.insert_ok gated distinct settled once busy stage

/-- Once an insert has come back, the reset has been counted. -/
theorem resets_of_returned (workload : Workload) {σ : Type} (backend : Backend σ) (store : σ)
    (crew : Nat) {moves : List (Move σ)} {floor : Floor σ}
    (ran : run workload backend moves (opening workload store crew) = floor)
    (returned : 0 < floor.returns .insert true) : floor.world.shared.tally.resets = 1 := by
  subst ran
  obtain ⟨gated, counts, -⟩ := sound_run workload backend store crew moves
  obtain ⟨event, member, returns⟩ := List.countP_pos_iff.mp returned
  have behind : event.isPastGate = true := by
    unfold Event.returns at returns
    split at returns
    · rename_i call success
      have same : call = .insert := by
        cases call <;> first | rfl | cases returns
      rw [same]
      rfl
    · cases returns
  refine (counts.after ?_).2.2
  rw [gated.vouched event member behind]
  exact Bar.noConfusion

end Floor

namespace Runner

variable {workload : Workload} {store : MemoryStore Float} {workers : Nat} {words : Nat → Words}
  {schedule : List Nat} {loaded : Progress (MemoryStore Float)}

theorem tally_of_isStill (prepared : workload.IsPrepared) (distinct : workload.HasDistinctIds)
    (ran : Progress.run workload memoryBackend .insert schedule
      ((ofWorkers workers).start workload.insertCount.toNat ⟨workload.initialShared, store, []⟩
        words) = loaded)
    (still : loaded.IsStill workload memoryBackend .insert) :
    loaded.world.shared.tally = .loaded workload.insertCount := by
  have sound := isSound_of_load prepared distinct ran
  obtain ⟨moves, follows, floor, reached, world, -, calls, -, idle⟩ :=
    result_of_isSound (ofWorkers_pos workers) ran still sound
  have back := Floor.insertsAreBack_of_idle idle
  have within : workload.insertStart.toNat + floor.calls .insert ≤ UInt64.size :=
    calls ▸ Nat.le_of_lt prepared.fits
  obtain ⟨-, returned⟩ := Floor.isFilled_run prepared distinct _ follows reached back calls
  have balanced := Floor.isBalanced_run prepared memoryBackend store _ moves reached back within
  have plain := Floor.plain_run prepared distinct store _ follows reached within
  have resets := Floor.resets_of_returned workload memoryBackend store _ reached <| by
    rw [returned]
    exact Word.toNat_pos prepared.nonempty
  have success : floor.world.shared.tally.insert.success = workload.insertCount :=
    UInt64.toNat_inj.mp (balanced.returned.trans returned)
  have failure : floor.world.shared.tally.insert.failure = 0 := by
    have settled := balanced.settled
    rw [Floor.served, calls, Nat.min_self, success] at settled
    exact UInt64.toNat_inj.mp (Nat.add_eq_left.mp settled)
  rw [← world]
  exact Tally.ext (congrArg₂ Count.mk success failure) (plain.scans .knn) (plain.scans .distance)
    (plain.scans .polygon) resets plain.retries (balanced.abandoned.trans failure)

end Runner

end SpatialWorkload
