import SpatialWorkload.Run.Workload

/-!
# Workers

A worker carries out one call after another, each as a sequence of atomic steps: passing
the reset gate, taking an index, one attempt to insert, the acknowledgement; or picking a
scan, reading the watermark, drawing a key, the scan itself.  Whatever other workers do
happens between two steps.
-/

namespace SpatialWorkload

/-- Where a worker stands in its call. -/
inductive Stage where
  | gate
  /-- The worker ran the reset and has yet to say so. -/
  | flag
  | fetch
  /-- About to insert, after so many failed attempts. -/
  | attempt (index : UInt64) (position : Position Float) (failed : Nat)
  | acknowledge (index : UInt64)
  | choose
  | readMark (kind : ScanKind)
  | drawKey (kind : ScanKind) (acknowledged : Option UInt64)
  | scan (kind : ScanKind) (reference : Position Float)
  | returned (success : Bool)
  /-- The call did not come back, and the worker with it. -/
  | aborted

namespace Stage

def isOver : Stage → Bool
  | returned _ => true
  | aborted => true
  | _ => false

end Stage

/-- The two calls of a workload. -/
inductive Call where
  | insert
  | transaction
  deriving DecidableEq, Repr

def Call.firstStage : Call → Stage
  | insert => .gate
  | transaction => .choose

/-- What the workers act on: their shared state, the backend, and the pauses so far. -/
structure World (σ : Type) where
  shared : Shared
  store : σ
  pauses : List Duration

structure Worker where
  stage : Stage
  words : Words

namespace Worker

variable {σ : Type}

def record (shared : Shared) (operation : Operation) (status : Status) : Shared :=
  { shared with tally := shared.tally.record operation status }

/-- The reset is counted before it is asked for, and its failure stops nobody. -/
def gateStep (workload : Workload) (backend : Backend σ) (world : World σ) :
    World σ × Stage :=
  let shared := world.shared
  match shared.gate.bar with
  | .lifted => (world, .fetch)
  | .broken => (world, .aborted)
  | .closed =>
      let counted := { shared with tally := shared.tally.recordReset }
      let (answer, store) := backend.reset workload.config.table world.store
      match answer with
      | .error .aborted =>
          ({ world with shared := { counted with gate := counted.gate.spoil }, store }, .aborted)
      | _ => ({ world with shared := { counted with gate := counted.gate.lift }, store }, .flag)

def flagStep (world : World σ) : World σ × Stage :=
  ({ world with shared := { world.shared with gate := world.shared.gate.raise } }, .fetch)

def fetchStep (workload : Workload) (world : World σ) : World σ × Stage :=
  let (index, cursor) := world.shared.cursor.take
  let world := { world with shared := { world.shared with cursor } }
  match index with
  | none => (world, .returned false)
  | some index =>
      match workload.dataset.get? index with
      | none => (world, .returned false)
      | some position => (world, .attempt index position 0)

/--
A failed attempt is followed by a pause and another one, up to the retry limit.  Nothing is
logged here: the message about a record that is given up counts its attempts as `failed + 1`
in 32 bits, which the largest limit leaves no room for.
-/
def attemptStep (workload : Workload) (backend : Backend σ) (world : World σ) (words : Words)
    (index : UInt64) (position : Position Float) (failed : Nat) : World σ × Stage × Words :=
  let (answer, store) :=
    backend.insert workload.config.table position.id position world.store
  let world := { world with store }
  let shared := world.shared
  match answer with
  | .ok () => ({ world with shared := record shared .insert .success }, .acknowledge index, words)
  | .error .aborted => (world, .aborted, words)
  | .error (.refused error) =>
      if workload.config.retryLimit.toNat ≤ failed then
        let counted := record shared .insert (Status.ofError error)
        let shared := { counted with tally := counted.tally.recordAbandoned }
        ({ world with shared }, .returned false, words)
      else
        let world := { world with shared := { shared with tally := shared.tally.recordRetry } }
        let (pause, rest) := workload.drawPause words
        match pause with
        | none => (world, .aborted, rest)
        | some pause =>
            ({ world with pauses := world.pauses ++ [pause] },
              .attempt index position (failed + 1), rest)

def acknowledgeStep (world : World σ) (index : UInt64) : World σ × Stage :=
  let acknowledged := world.shared.acknowledged.acknowledge index
  ({ world with shared := { world.shared with acknowledged } }, .returned true)

def scanStep (workload : Workload) (backend : Backend σ) (world : World σ) (words : Words)
    (kind : ScanKind) (reference : Position Float) : World σ × Stage × Words :=
  let (query, rest) := workload.drawQuery kind reference words
  let (answer, store) := backend.scan workload.config.table query world.store
  let world := { world with store }
  match answer with
  | .ok _ =>
      ({ world with shared := record world.shared (.scan kind) .success }, .returned true, rest)
  | .error .aborted => (world, .aborted, rest)
  | .error (.refused error) =>
      ({ world with shared := record world.shared (.scan kind) (Status.ofError error) },
        .returned false, rest)

/-- One atomic step of a worker; a call that is over stays as it is. -/
def step (workload : Workload) (backend : Backend σ) (world : World σ) (worker : Worker) :
    World σ × Worker :=
  let words := worker.words
  match worker.stage with
  | .gate =>
      let (world, stage) := gateStep workload backend world
      (world, ⟨stage, words⟩)
  | .flag =>
      let (world, stage) := flagStep world
      (world, ⟨stage, words⟩)
  | .fetch =>
      let (world, stage) := fetchStep workload world
      (world, ⟨stage, words⟩)
  | .attempt index position failed =>
      let (world, stage, words) := attemptStep workload backend world words index position failed
      (world, ⟨stage, words⟩)
  | .acknowledge index =>
      let (world, stage) := acknowledgeStep world index
      (world, ⟨stage, words⟩)
  | .choose =>
      let (kind, words) := workload.chooser.choose words
      match kind with
      | none => (world, ⟨.returned false, words⟩)
      | some kind => (world, ⟨.readMark kind, words⟩)
  | .readMark kind => (world, ⟨.drawKey kind world.shared.acknowledged.last?, words⟩)
  | .drawKey kind acknowledged =>
      let (key, words) := workload.keys.next acknowledged words
      match key.bind workload.dataset.get? with
      | none => (world, ⟨.returned false, words⟩)
      | some reference => (world, ⟨.scan kind reference, words⟩)
  | .scan kind reference =>
      let (world, stage, words) := scanStep workload backend world words kind reference
      (world, ⟨stage, words⟩)
  | .returned success => (world, ⟨.returned success, words⟩)
  | .aborted => (world, ⟨.aborted, words⟩)

def finish (workload : Workload) (backend : Backend σ) :
    Nat → World σ → Worker → World σ × Worker
  | 0, world, worker => (world, worker)
  | steps + 1, world, worker =>
      if worker.stage.isOver then (world, worker)
      else
        let (world, worker) := worker.step workload backend world
        finish workload backend steps world worker

/-- No call takes more steps: each attempt is one, and four surround them. -/
def longestCall (workload : Workload) : Nat :=
  workload.config.retryLimit.toNat + 5

/-- A whole call without anyone else between its steps. -/
def perform (workload : Workload) (backend : Backend σ) (call : Call) (world : World σ)
    (words : Words) : World σ × Worker :=
  finish workload backend (longestCall workload) world ⟨call.firstStage, words⟩

end Worker

end SpatialWorkload
