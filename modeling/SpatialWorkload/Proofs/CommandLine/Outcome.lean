import SpatialWorkload.CommandLine.Execution
import SpatialWorkload.Proofs.Run.Phase

/-!
# What a command may come to

The workers of a phase move in any order.  Given one schedule for every phase that is
carried out, each of which brings its phase to a standstill, a command has one outcome.
The execution is one of these, and whatever the workers have done so far, there is one
that goes on from there.
-/

namespace SpatialWorkload

namespace Execution

variable {σ : Type}

/-- The number of calls in a phase; a run of scans asks first whether there is any. -/
def calls (execution : Execution σ) : Phase → Except ConfigError Nat
  | .load => .ok execution.workload.insertCount.toNat
  | .run => do
      execution.workload.checkRunnable
      return execution.workload.config.operationCount.toNat

/-- What a phase comes to whose workers have ended so. -/
def conclude (execution : Execution σ) (phase : Phase) (total : Nat) (ended : Progress σ) :
    Except (Stop Failure) (PhaseReport × Execution σ) :=
  match ended.result? with
  | none => .error .aborted
  | some (.error error) => .error (.refused (.phase error))
  | some (.ok sum) =>
      .ok (⟨phase, execution.runner.crew total, sum.succeeded, sum.failed⟩,
        { execution with
          runner := { execution.runner with done := ended.done }, world := ended.world })

/-- A phase whose workers move as a schedule says, until nobody can move any more. -/
inductive Ends (words : Phase → Nat → Words) (execution : Execution σ) (phase : Phase)
    (schedule : List Nat) (outcome : Except (Stop Failure) (PhaseReport × Execution σ)) :
    Prop where
  | refused {error : ConfigError} (cause : execution.calls phase = .error error)
      (came : .error (.refused (.settings error)) = outcome)
  | stands {total : Nat} (calls : execution.calls phase = .ok total) {ended : Progress σ}
      (ran : Progress.run execution.workload execution.backend phase.call schedule
        (execution.runner.start total execution.world (words phase)) = ended)
      (still : ended.IsStill execution.workload execution.backend phase.call)
      (came : execution.conclude phase total ended = outcome)

/-- Phases one after the other, each under its own schedule, up to the first that fails. -/
inductive Passes (words : Phase → Nat → Words) : List Phase → Execution σ → List (List Nat) →
    Except (Stop Failure) (List PhaseReport × Execution σ) → Prop where
  | done {execution : Execution σ} : Passes words [] execution [] (.ok ([], execution))
  | stops {execution : Execution σ} {phase : Phase} {rest : List Phase} {schedule : List Nat}
      {stop : Stop Failure} (ends : execution.Ends words phase schedule (.error stop)) :
      Passes words (phase :: rest) execution [schedule] (.error stop)
  | goesOn {execution next : Execution σ} {phase : Phase} {rest : List Phase}
      {schedule : List Nat} {schedules : List (List Nat)} {report : PhaseReport}
      {outcome : Except (Stop Failure) (List PhaseReport × Execution σ)}
      (ends : execution.Ends words phase schedule (.ok (report, next)))
      (later : Passes words rest next schedules outcome) :
      Passes words (phase :: rest) execution (schedule :: schedules)
        (outcome.map fun (reports, last) => (report :: reports, last))

def report (execution : Execution σ) (phases : List PhaseReport) : Report where
  backend := execution.backend.name
  table := execution.workload.config.table
  phases
  tally := execution.world.shared.tally

variable (execution : Execution σ) (words : Phase → Nat → Words) (phase : Phase)

/-- The execution of a phase, once the number of its calls is known. -/
theorem phase_eq : execution.phase words phase =
    match execution.calls phase with
    | .error error => .error (.refused (.settings error))
    | .ok total =>
        let executed := execution.runner.execute phase total execution.workload
          execution.backend execution.world (words phase)
        match executed.1 with
        | none => .error .aborted
        | some (.error error) => .error (.refused (.phase error))
        | some (.ok report) =>
            .ok (report, { execution with runner := executed.2.1, world := executed.2.2 }) := by
  cases phase with
  | load => rfl
  | run =>
      unfold Execution.phase calls
      cases execution.workload.checkRunnable with
      | error error => rfl
      | ok => rfl

/-- The phase that is executed ends so under some schedule. -/
theorem exists_ends (someone : 0 < execution.runner.workers) :
    ∃ schedule, execution.Ends words phase schedule (execution.phase words phase) := by
  cases calls : execution.calls phase with
  | error error => exact ⟨[], .refused calls (by rw [phase_eq, calls])⟩
  | ok total =>
      obtain ⟨schedule, ended, ran, still, executed⟩ := execution.runner.execute_spec total
        execution.world (words phase) phase execution.workload execution.backend
        (Runner.crew_pos someone total)
      refine ⟨schedule, .stands calls ran still ?_⟩
      rw [phase_eq, calls, conclude]
      dsimp only
      rw [executed]
      cases ended.result? with
      | none => rfl
      | some result => cases result <;> rfl

/-- Whatever the workers of a phase have done so far, it can still come to an end. -/
theorem exists_rest (someone : 0 < execution.runner.workers) (schedule : List Nat) :
    ∃ rest outcome, execution.Ends words phase (schedule ++ rest) outcome := by
  cases calls : execution.calls phase with
  | error error => exact ⟨[], _, .refused calls rfl⟩
  | ok total =>
      obtain ⟨rest, -, still⟩ := execution.runner.exists_isStill total execution.world
        (words phase) execution.workload execution.backend phase.call
        (Runner.crew_pos someone total) schedule
      exact ⟨rest, _, .stands calls rfl still rfl⟩

/-- A phase leaves as many workers to the next one. -/
theorem Ends.workers_eq {execution next : Execution σ} {words : Phase → Nat → Words}
    {phase : Phase} {schedule : List Nat} {report : PhaseReport}
    (ends : execution.Ends words phase schedule (.ok (report, next))) :
    next.runner.workers = execution.runner.workers := by
  cases ends with
  | refused cause came => cases came
  | stands calls ran still came =>
      unfold conclude at came
      split at came
      · cases came
      · cases came
      · cases came
        rfl

theorem phases_cons (rest : List Phase) :
    Execution.phases words (phase :: rest) execution =
      (execution.phase words phase).bind fun (report, next) =>
        (Execution.phases words rest next).map fun (reports, last) =>
          (report :: reports, last) := by
  rw [Execution.phases]
  cases execution.phase words phase with
  | error stop => rfl
  | ok result =>
      obtain ⟨report, next⟩ := result
      change (Execution.phases words rest next >>= _) = (Execution.phases words rest next).map _
      cases Execution.phases words rest next <;> rfl

/-- The phases that are executed go so under some schedules. -/
theorem exists_passes (someone : 0 < execution.runner.workers) (phases : List Phase) :
    ∃ schedules,
      Passes words phases execution schedules (Execution.phases words phases execution) := by
  induction phases generalizing execution with
  | nil => exact ⟨[], .done⟩
  | cons phase rest ih =>
      obtain ⟨schedule, ends⟩ := execution.exists_ends words phase someone
      rw [phases_cons]
      cases executed : execution.phase words phase with
      | error stop =>
          rw [executed] at ends
          exact ⟨[schedule], .stops ends⟩
      | ok result =>
          obtain ⟨report, next⟩ := result
          rw [executed] at ends
          obtain ⟨schedules, later⟩ := ih next (ends.workers_eq ▸ someone)
          exact ⟨schedule :: schedules, .goesOn ends later⟩

end Execution

namespace Arguments

/-- What a command may come to when the workers of its phases move as the schedules say. -/
inductive MayReport (arguments : Arguments) (read : String → Id Source) (cores : Nat)
    (words : Phase → Nat → Words) (schedules : List (List Nat))
    (outcome : Except (Stop Failure) Report) : Prop where
  | unprepared {stop : Stop Failure}
      (stopped : (arguments.prepare read cores).run.run = .error stop)
      (came : .error stop = outcome)
  | carriesOut {execution : Execution (MemoryStore Float)}
      (prepared : (arguments.prepare read cores).run.run = .ok execution)
      {ended : Except (Stop Failure) (List PhaseReport × Execution (MemoryStore Float))}
      (passes : execution.Passes words arguments.command.phases schedules ended)
      (came : ended.map (fun (phases, last) => last.report phases) = outcome)

/-- What is executed is what the command comes to under some schedules. -/
theorem exists_mayReport {arguments : Arguments} {read : String → Id Source} {cores : Nat}
    (words : Phase → Nat → Words) {execution : Execution (MemoryStore Float)}
    (prepared : (arguments.prepare read cores).run.run = .ok execution)
    (someone : 0 < execution.runner.workers) :
    ∃ schedules, arguments.MayReport read cores words schedules
      (arguments.execute read cores words).run.run := by
  obtain ⟨schedules, passes⟩ :=
    execution.exists_passes words someone arguments.command.phases
  refine ⟨schedules, .carriesOut prepared passes ?_⟩
  have executed : (arguments.execute read cores words).run.run =
      (arguments.prepare read cores).run.run.bind fun execution =>
        (execution.phases words arguments.command.phases).map fun (phases, last) =>
          last.report phases := by
    unfold execute
    generalize arguments.prepare read cores = first
    change Except (Stop Failure) (Execution (MemoryStore Float)) at first
    cases first with
    | error stop => rfl
    | ok execution =>
        let carriedOut : ExceptT (Stop Failure) Id _ :=
          ExceptT.mk (pure (execution.phases words arguments.command.phases))
        change (carriedOut >>= fun (phases, last) => pure (last.report phases)).run.run =
          (execution.phases words arguments.command.phases).map _
        unfold carriedOut
        cases execution.phases words arguments.command.phases <;> rfl
  rw [executed, prepared]
  rfl

end Arguments

end SpatialWorkload
