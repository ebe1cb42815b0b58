import SpatialWorkload.Run.Worker

/-!
# Strides

Every way in which one atomic step of a worker can go, with what it changes.  A step of a
call that is not over is a stride, so a fact about steps is proved stride by stride and
the step function is opened here only.
-/

namespace SpatialWorkload

@[simp]
theorem Tally.resets_record (tally : Tally) (operation : Operation) (status : Status) :
    (tally.record operation status).resets = tally.resets := by
  cases operation with
  | insert => rfl
  | scan kind => cases kind <;> rfl

namespace Worker

variable {σ : Type}

inductive Stride (workload : Workload) (backend : Backend σ) (world : World σ) (words : Words) :
    Stage → World σ → Worker → Prop where
  | passes (lifted : world.shared.gate.bar = .lifted) :
      Stride workload backend world words .gate world ⟨.fetch, words⟩
  | barred (broken : world.shared.gate.bar = .broken) :
      Stride workload backend world words .gate world ⟨.aborted, words⟩
  /-- The reset comes back, with an error or without. -/
  | resets {answer : Answer Unit} {store : σ} (closed : world.shared.gate.bar = .closed)
      (asked : backend.reset workload.config.table world.store = (answer, store))
      (back : answer ≠ .error .aborted) :
      Stride workload backend world words .gate
        { world with
          store
          shared := { world.shared with
            gate := world.shared.gate.lift, tally := world.shared.tally.recordReset } }
        ⟨.flag, words⟩
  | resetLost {store : σ} (closed : world.shared.gate.bar = .closed)
      (asked : backend.reset workload.config.table world.store = (.error .aborted, store)) :
      Stride workload backend world words .gate
        { world with
          store
          shared := { world.shared with
            gate := world.shared.gate.spoil, tally := world.shared.tally.recordReset } }
        ⟨.aborted, words⟩
  | raises :
      Stride workload backend world words .flag
        { world with shared := { world.shared with gate := world.shared.gate.raise } }
        ⟨.fetch, words⟩
  /-- The cursor is at its end, or the dataset has no record at the index. -/
  | comesBackEmpty
      (nothing : ∀ index, world.shared.cursor.take.1 = some index →
        workload.dataset.get? index = none) :
      Stride workload backend world words .fetch
        { world with shared := { world.shared with cursor := world.shared.cursor.take.2 } }
        ⟨.returned false, words⟩
  | fetches {index : UInt64} {position : Position Float}
      (taken : world.shared.cursor.take.1 = some index)
      (found : workload.dataset.get? index = some position) :
      Stride workload backend world words .fetch
        { world with shared := { world.shared with cursor := world.shared.cursor.take.2 } }
        ⟨.attempt index position 0, words⟩
  | inserts {index : UInt64} {position : Position Float} {failed : Nat} {store : σ}
      (asked : backend.insert workload.config.table position.id position world.store =
        (.ok (), store)) :
      Stride workload backend world words (.attempt index position failed)
        { world with store, shared := record world.shared .insert .success }
        ⟨.acknowledge index, words⟩
  | insertLost {index : UInt64} {position : Position Float} {failed : Nat} {store : σ}
      (asked : backend.insert workload.config.table position.id position world.store =
        (.error .aborted, store)) :
      Stride workload backend world words (.attempt index position failed)
        { world with store } ⟨.aborted, words⟩
  | abandons {index : UInt64} {position : Position Float} {failed : Nat} {store : σ}
      {error : StoreError}
      (asked : backend.insert workload.config.table position.id position world.store =
        (.error (.refused error), store))
      (spent : workload.config.retryLimit.toNat ≤ failed) :
      Stride workload backend world words (.attempt index position failed)
        { world with
          store
          shared := { world.shared with
            tally := (world.shared.tally.record .insert (Status.ofError error)).recordAbandoned } }
        ⟨.returned false, words⟩
  | retries {index : UInt64} {position : Position Float} {failed : Nat} {store : σ}
      {error : StoreError} {pause : Duration} {rest : Words}
      (asked : backend.insert workload.config.table position.id position world.store =
        (.error (.refused error), store))
      (left : failed < workload.config.retryLimit.toNat)
      (drawn : workload.drawPause words = (some pause, rest)) :
      Stride workload backend world words (.attempt index position failed)
        { world with
          store
          shared := { world.shared with tally := world.shared.tally.recordRetry }
          pauses := world.pauses ++ [pause] }
        ⟨.attempt index position (failed + 1), rest⟩
  /-- The pause before the next attempt is too long to be one. -/
  | pauseLost {index : UInt64} {position : Position Float} {failed : Nat} {store : σ}
      {error : StoreError} {rest : Words}
      (asked : backend.insert workload.config.table position.id position world.store =
        (.error (.refused error), store))
      (left : failed < workload.config.retryLimit.toNat)
      (drawn : workload.drawPause words = (none, rest)) :
      Stride workload backend world words (.attempt index position failed)
        { world with
          store
          shared := { world.shared with tally := world.shared.tally.recordRetry } }
        ⟨.aborted, rest⟩
  | acknowledges {index : UInt64} :
      Stride workload backend world words (.acknowledge index)
        { world with
          shared := { world.shared with
            acknowledged := world.shared.acknowledged.acknowledge index } }
        ⟨.returned true, words⟩
  | choosesNone {rest : Words} (chosen : workload.chooser.choose words = (none, rest)) :
      Stride workload backend world words .choose world ⟨.returned false, rest⟩
  | chooses {kind : ScanKind} {rest : Words}
      (chosen : workload.chooser.choose words = (some kind, rest)) :
      Stride workload backend world words .choose world ⟨.readMark kind, rest⟩
  | readsMark {kind : ScanKind} :
      Stride workload backend world words (.readMark kind) world
        ⟨.drawKey kind world.shared.acknowledged.last?, words⟩
  | drawsNone {kind : ScanKind} {acknowledged : Option UInt64}
      (nothing : ∀ key, (workload.keys.next acknowledged words).1 = some key →
        workload.dataset.get? key = none) :
      Stride workload backend world words (.drawKey kind acknowledged) world
        ⟨.returned false, (workload.keys.next acknowledged words).2⟩
  | draws {kind : ScanKind} {acknowledged : Option UInt64} {key : UInt64}
      {reference : Position Float}
      (drawn : (workload.keys.next acknowledged words).1 = some key)
      (found : workload.dataset.get? key = some reference) :
      Stride workload backend world words (.drawKey kind acknowledged) world
        ⟨.scan kind reference, (workload.keys.next acknowledged words).2⟩
  | scans {kind : ScanKind} {reference : Position Float} {query : Query Float} {rest : Words}
      {found : List (Position Float)} {store : σ}
      (drawn : workload.drawQuery kind reference words = (query, rest))
      (asked : backend.scan workload.config.table query world.store = (.ok found, store)) :
      Stride workload backend world words (.scan kind reference)
        { world with store, shared := record world.shared (.scan kind) .success }
        ⟨.returned true, rest⟩
  | scanRefused {kind : ScanKind} {reference : Position Float} {query : Query Float}
      {rest : Words} {error : StoreError} {store : σ}
      (drawn : workload.drawQuery kind reference words = (query, rest))
      (asked : backend.scan workload.config.table query world.store =
        (.error (.refused error), store)) :
      Stride workload backend world words (.scan kind reference)
        { world with
          store, shared := record world.shared (.scan kind) (Status.ofError error) }
        ⟨.returned false, rest⟩
  | scanLost {kind : ScanKind} {reference : Position Float} {query : Query Float}
      {rest : Words} {store : σ}
      (drawn : workload.drawQuery kind reference words = (query, rest))
      (asked : backend.scan workload.config.table query world.store =
        (.error .aborted, store)) :
      Stride workload backend world words (.scan kind reference)
        { world with store } ⟨.aborted, rest⟩

variable (workload : Workload) (backend : Backend σ) (world : World σ) (words : Words)

theorem gateStep_stride :
    Stride workload backend world words .gate (gateStep workload backend world).1
      ⟨(gateStep workload backend world).2, words⟩ := by
  cases bar : world.shared.gate.bar with
  | lifted =>
      simp only [gateStep, bar]
      exact .passes bar
  | broken =>
      simp only [gateStep, bar]
      exact .barred bar
  | closed =>
      cases asked : backend.reset workload.config.table world.store with
      | mk answer store =>
          simp only [gateStep, bar, asked]
          rcases answer with (error | _) | done
          · exact .resets bar asked (by simp)
          · exact .resetLost bar asked
          · exact .resets bar asked (by simp)

theorem fetchStep_stride :
    Stride workload backend world words .fetch (fetchStep workload world).1
      ⟨(fetchStep workload world).2, words⟩ := by
  cases taken : world.shared.cursor.take.1 with
  | none =>
      simp only [fetchStep, taken]
      exact .comesBackEmpty fun index some => by rw [taken] at some; cases some
  | some index =>
      cases found : workload.dataset.get? index with
      | none =>
          simp only [fetchStep, taken, found]
          exact .comesBackEmpty fun other some => by
            rw [taken] at some
            cases some
            exact found
      | some position =>
          simp only [fetchStep, taken, found]
          exact .fetches taken found

theorem attemptStep_stride (index : UInt64) (position : Position Float) (failed : Nat) :
    Stride workload backend world words (.attempt index position failed)
      (attemptStep workload backend world words index position failed).1
      ⟨(attemptStep workload backend world words index position failed).2.1,
        (attemptStep workload backend world words index position failed).2.2⟩ := by
  cases asked : backend.insert workload.config.table position.id position world.store with
  | mk answer store =>
      simp only [attemptStep, asked]
      rcases answer with (error | _) | done
      · by_cases spent : workload.config.retryLimit.toNat ≤ failed
        · simp only [spent, if_true]
          exact .abandons asked spent
        · simp only [spent, if_false]
          cases drawn : workload.drawPause words with
          | mk pause rest =>
              cases pause with
              | none => exact .pauseLost asked (Nat.lt_of_not_le spent) drawn
              | some pause => exact .retries asked (Nat.lt_of_not_le spent) drawn
      · exact .insertLost asked
      · exact .inserts asked

theorem scanStep_stride (kind : ScanKind) (reference : Position Float) :
    Stride workload backend world words (.scan kind reference)
      (scanStep workload backend world words kind reference).1
      ⟨(scanStep workload backend world words kind reference).2.1,
        (scanStep workload backend world words kind reference).2.2⟩ := by
  cases drawn : workload.drawQuery kind reference words with
  | mk query rest =>
      cases asked : backend.scan workload.config.table query world.store with
      | mk answer store =>
          simp only [scanStep, drawn, asked]
          rcases answer with (error | _) | found
          · exact .scanRefused drawn asked
          · exact .scanLost drawn asked
          · exact .scans drawn asked

variable {workload backend world}

/-- A step of a call that is not over is a stride. -/
theorem step_stride {worker : Worker} (going : worker.stage.isOver = false) :
    Stride workload backend world worker.words worker.stage
      (worker.step workload backend world).1 (worker.step workload backend world).2 := by
  obtain ⟨stage, words⟩ := worker
  cases stage with
  | gate => exact gateStep_stride workload backend world words
  | flag => exact .raises
  | fetch => exact fetchStep_stride workload backend world words
  | attempt index position failed =>
      exact attemptStep_stride workload backend world words index position failed
  | acknowledge index => exact .acknowledges
  | choose =>
      cases chosen : workload.chooser.choose words with
      | mk kind rest =>
          simp only [step, chosen]
          cases kind with
          | none => exact .choosesNone chosen
          | some kind => exact .chooses chosen
  | readMark kind => exact .readsMark
  | drawKey kind acknowledged =>
      cases drawn : (workload.keys.next acknowledged words).1 with
      | none =>
          simp only [step, drawn, Option.bind_none]
          exact .drawsNone fun key some => by rw [drawn] at some; cases some
      | some key =>
          cases found : workload.dataset.get? key with
          | none =>
              simp only [step, drawn, Option.bind_some, found]
              exact .drawsNone fun other some => by
                rw [drawn] at some
                cases some
                exact found
          | some reference =>
              simp only [step, drawn, Option.bind_some, found]
              exact .draws drawn found
  | scan kind reference => exact scanStep_stride workload backend world words kind reference
  | returned success => cases going
  | aborted => cases going

namespace Stride

variable {words : Words} {stage : Stage} {next : World σ} {after : Worker}

/-- A step takes the answer to the reset, or leaves the bar and the count of resets alone. -/
theorem gate_cases (stride : Stride workload backend world words stage next after) :
    (stage = .gate ∧ world.shared.gate.bar = .closed ∧ next.shared.gate.bar ≠ .closed ∧
      next.shared.tally.resets = world.shared.tally.resets + 1) ∨
    ((stage = .gate → world.shared.gate.bar ≠ .closed) ∧
      next.shared.gate.bar = world.shared.gate.bar ∧
      next.shared.tally.resets = world.shared.tally.resets) := by
  cases stride with
  | resets closed | resetLost closed => exact Or.inl ⟨rfl, closed, Bar.noConfusion, rfl⟩
  | passes settled | barred settled =>
      refine Or.inr ⟨fun _ closed => ?_, rfl, rfl⟩
      rw [settled] at closed
      cases closed
  | _ =>
      refine Or.inr ⟨fun atGate => (nomatch atGate), ?_⟩
      simp [record, ResetGate.raise, Tally.recordRetry, Tally.recordAbandoned]

/-- A lifted bar stays so. -/
theorem staysLifted (stride : Stride workload backend world words stage next after)
    (lifted : world.shared.gate.bar = .lifted) : next.shared.gate.bar = .lifted := by
  rcases stride.gate_cases with ⟨-, closed, -⟩ | ⟨-, same, -⟩
  · cases closed.symm.trans lifted
  · exact same.trans lifted

/-- The bar is lifted by a reset that comes back. -/
theorem lifts (stride : Stride workload backend world words stage next after)
    (lifted : next.shared.gate.bar = .lifted) :
    world.shared.gate.bar = .lifted ∨
      (stage = .gate ∧ world.shared.gate.bar = .closed ∧
        (backend.reset workload.config.table world.store).1 ≠ .error .aborted) := by
  cases stride with
  | resets closed asked back =>
      rw [asked]
      exact Or.inr ⟨rfl, closed, back⟩
  | resetLost => cases lifted
  | _ => exact Or.inl lifted

/-- The watermark moves at an acknowledgement only. -/
theorem acknowledged_eq (stride : Stride workload backend world words stage next after)
    (elsewhere : ∀ index, stage ≠ .acknowledge index) :
    next.shared.acknowledged = world.shared.acknowledged := by
  cases stride with
  | acknowledges => exact absurd rfl (elsewhere _)
  | _ => rfl

/-- The end of the range stays where it is. -/
theorem finish_eq (stride : Stride workload backend world words stage next after) :
    next.shared.cursor.finish = world.shared.cursor.finish := by
  cases stride <;> rfl

end Stride

end Worker

end SpatialWorkload
