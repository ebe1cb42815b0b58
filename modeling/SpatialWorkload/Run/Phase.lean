import SpatialWorkload.Run.Worker

/-!
# Phases

A phase shares a number of calls among workers.  Every worker opens its own session, and
all wait for one another before the first call.  Which worker moves next is a free choice
at every step; the result of a phase is the sum of the shares, or the failure of the
worker with the lowest number among those that failed.
-/

namespace SpatialWorkload

inductive PhaseError where
  | notOpened (worker : Nat) (backend : String) (error : StoreError)
  | workerAborted

def PhaseError.message : PhaseError → String
  | notOpened worker backend error =>
      s!"worker {worker} could not open a {backend} session: {error.message}"
  | workerAborted => "worker thread panicked"

/-- Calls of one worker that succeeded and failed. -/
structure Share where
  succeeded : Nat
  failed : Nat
  deriving DecidableEq, Repr

/-- The life of one worker in a phase. -/
inductive Seat where
  | opening (quota : Nat) (words : Words)
  /-- The session is open or refused; the others are waited for. -/
  | waiting (quota : Nat) (words : Words) (opened : Except PhaseError Unit)
  | working (quota succeeded left : Nat) (worker : Worker)
  | finished (result : Except PhaseError Share)
  /-- The worker aborted before it came to the common start. -/
  | lost

namespace Seat

/-- Whether the worker has come as far as the common start. -/
def hasArrived : Seat → Bool
  | opening .. => false
  | lost => false
  | _ => true

def result? : Seat → Option (Except PhaseError Share)
  | finished result => some result
  | lost => some (.error .workerAborted)
  | _ => none

end Seat

def share (total workers id : Nat) : Nat :=
  total / workers + if id < total % workers then 1 else 0

/-- A phase under way. -/
structure Progress (σ : Type) where
  world : World σ
  seats : List Seat
  /-- Calls that have been completed. -/
  done : UInt64

namespace Progress

variable {σ : Type}

/-- The first call of a worker with calls left, or its result. -/
def begin (call : Call) (quota succeeded left : Nat) (words : Words) : Seat :=
  match left with
  | 0 => .finished (.ok ⟨succeeded, quota - succeeded⟩)
  | left + 1 => .working quota succeeded left ⟨call.firstStage, words⟩

/-- One step of a worker, or none where it has to wait or has finished. -/
def seatStep (workload : Workload) (backend : Backend σ) (call : Call) (progress : Progress σ)
    (id : Nat) : Seat → Option (World σ × UInt64 × Seat)
  | .opening quota words =>
      let (answer, store) := backend.openSession progress.world.store
      let world := { progress.world with store }
      let seat := match answer with
        | .ok () => Seat.waiting quota words (.ok ())
        | .error (.refused error) =>
            .waiting quota words (.error (.notOpened id backend.name error))
        | .error .aborted => .lost
      some (world, progress.done, seat)
  | .waiting quota words opened =>
      if progress.seats.all Seat.hasArrived then
        let seat := match opened with
          | .ok () => begin call quota 0 quota words
          | .error error => .finished (.error error)
        some (progress.world, progress.done, seat)
      else none
  | .working quota succeeded left worker =>
      let (world, worker) := worker.step workload backend progress.world
      let (done, seat) := match worker.stage with
        | .returned success =>
            let succeeded := if success then succeeded + 1 else succeeded
            (progress.done + 1, begin call quota succeeded left worker.words)
        | .aborted => (progress.done, .finished (.error .workerAborted))
        | _ => (progress.done, .working quota succeeded left worker)
      some (world, done, seat)
  | .finished _ => none
  | .lost => none

def step (workload : Workload) (backend : Backend σ) (call : Call) (progress : Progress σ)
    (id : Nat) : Option (Progress σ) := do
  let seat ← progress.seats[id]?
  let (world, done, seat) ← progress.seatStep workload backend call id seat
  return ⟨world, progress.seats.set id seat, done⟩

/-- Runs a schedule: the numbers of the workers in the order in which they move. -/
def run (workload : Workload) (backend : Backend σ) (call : Call) :
    List Nat → Progress σ → Progress σ
  | [], progress => progress
  | id :: schedule, progress =>
      run workload backend call schedule
        ((progress.step workload backend call id).getD progress)

/-- Moves the first worker that can move, until none can or the steps are used up. -/
def drive (workload : Workload) (backend : Backend σ) (call : Call) :
    Nat → Progress σ → Progress σ
  | 0, progress => progress
  | steps + 1, progress =>
      match (List.range progress.seats.length).findSome?
          (progress.step workload backend call) with
      | none => progress
      | some progress => drive workload backend call steps progress

/-- The first failure in the order of the workers, or the sum of all shares. -/
def combine : List (Except PhaseError Share) → Except PhaseError Share
  | [] => .ok ⟨0, 0⟩
  | .error error :: _ => .error error
  | .ok own :: rest =>
      (combine rest).map fun others =>
        ⟨own.succeeded + others.succeeded, own.failed + others.failed⟩

/-- The result of a phase; nothing while a worker is still at it. -/
def result? (progress : Progress σ) : Option (Except PhaseError Share) :=
  (progress.seats.mapM Seat.result?).map combine

end Progress

inductive Phase where
  | load
  | run
  deriving DecidableEq, Repr

namespace Phase

def name : Phase → String
  | load => "load"
  | run => "run"

def call : Phase → Call
  | load => .insert
  | run => .transaction

end Phase

/-- The outcome of a phase: its workers, and how their calls went. -/
structure PhaseReport where
  phase : Phase
  threads : Nat
  succeeded : Nat
  failed : Nat
  deriving DecidableEq, Repr

def PhaseReport.operations (report : PhaseReport) : Nat :=
  report.succeeded + report.failed

/-- A run's workers, at least one, and the calls completed in the latest phase. -/
structure Runner where
  workers : Nat
  done : UInt64

namespace Runner

variable {σ : Type}

def ofWorkers (workers : Nat) : Runner := ⟨max workers 1, 0⟩

/-- No phase takes more workers than it has operations, and none takes fewer than one. -/
def crew (runner : Runner) (total : Nat) : Nat :=
  min runner.workers (max total 1)

def start (runner : Runner) (total : Nat) (world : World σ) (words : Nat → Words) :
    Progress σ where
  world
  seats :=
    (List.range (runner.crew total)).map fun id =>
      .opening (share total (runner.crew total) id) (words id)
  done := 0

/-- Enough steps for every worker to finish, whatever the backend answers. -/
def enoughSteps (workload : Workload) (workers total : Nat) : Nat :=
  2 * workers + total * Worker.longestCall workload

/--
A phase under the schedule that always moves the first worker that can move.  Nothing
comes back where a worker aborts before the common start and the others wait for ever.
-/
def execute (runner : Runner) (phase : Phase) (total : Nat) (workload : Workload)
    (backend : Backend σ) (world : World σ) (words : Nat → Words) :
    Option (Except PhaseError PhaseReport) × Runner × World σ :=
  let crew := runner.crew total
  let ended := Progress.drive workload backend phase.call (enoughSteps workload crew total)
    (runner.start total world words)
  let report := ended.result?.map fun result =>
    result.map fun sum => ⟨phase, crew, sum.succeeded, sum.failed⟩
  (report, { runner with done := ended.done }, ended.world)

end Runner

end SpatialWorkload
