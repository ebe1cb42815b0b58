import SpatialWorkload.CommandLine.Arguments
import SpatialWorkload.CommandLine.Report
import SpatialWorkload.Config.Settings
import SpatialWorkload.Failure
import SpatialWorkload.Store.Catalogue

/-!
# Execution

Carries out a command: gathers the properties, checks the settings, reads the dataset and
runs the phases one after the other on one backend.  How a path is read is left open, so
that the same execution serves on real files and on given ones.
-/

namespace SpatialWorkload

/-- Why a command could not be carried out. -/
inductive Failure where
  | settings (error : ConfigError)
  | dataset (error : LoadError)
  | phase (error : PhaseError)

namespace Failure

def kind : Failure → FailureKind
  | settings _ => .configuration
  | dataset _ => .load
  | phase _ => .backend

def context : Failure → String
  | settings error => error.message
  | dataset error => error.message
  | phase error => error.message

def message (failure : Failure) : String :=
  failure.kind.display failure.context

end Failure

namespace Command

def configure (command : Command) (properties : Properties) :
    Except (Stop ConfigError) Config := do
  let config ← Config.ofProperties properties
  -- A run by itself follows a load by another process.
  let preloaded := config.preloaded || command == .run
  if command.includesRun && config.operationCount == 0 then
    .error (.refused .operationCountMissing)
  else return { config with preloaded }

def phases (command : Command) : List Phase :=
  (if command.includesLoad then [.load] else []) ++ if command.includesRun then [.run] else []

end Command

/-- A prepared run of phases: the workload, its backend with the state, and the workers. -/
structure Execution (σ : Type) where
  workload : Workload
  backend : Backend σ
  world : World σ
  runner : Runner

namespace Execution

variable {σ : Type}

/-- Carries out one phase; the run of scans asks first whether there is anything to run. -/
def phase (execution : Execution σ) (words : Phase → Nat → Words) (phase : Phase) :
    Except (Stop Failure) (PhaseReport × Execution σ) := do
  let total ← match phase with
    | .load => pure execution.workload.insertCount.toNat
    | .run => do
        (orStop execution.workload.checkRunnable).mapError (Stop.map .settings)
        pure execution.workload.config.operationCount.toNat
  let (report, runner, world) := execution.runner.execute phase total execution.workload
    execution.backend execution.world (words phase)
  match report with
  | none => .error .aborted
  | some (.error error) => .error (.refused (.phase error))
  | some (.ok report) => return (report, { execution with runner, world })

/-- Carries out phases in order, up to the first that fails. -/
def phases (words : Phase → Nat → Words) :
    List Phase → Execution σ → Except (Stop Failure) (List PhaseReport × Execution σ)
  | [], execution => .ok ([], execution)
  | phase :: rest, execution => do
      let (report, execution) ← execution.phase words phase
      let (reports, execution) ← phases words rest execution
      return (report :: reports, execution)

end Execution

namespace Arguments

/-- The properties of the files in their order, then those of the arguments. -/
def properties {m : Type → Type} [Monad m] (arguments : Arguments) (read : String → m Source) :
    ExceptT (Stop Failure) m Properties := do
  let files ← arguments.propertyFiles.foldlM (fun (properties : Properties) path => do
    match (← (Source.follow read path : m Source)).text with
    | .ok text => return properties.extend (Properties.bindingsOfText text.toList)
    | .error fault => throw (.refused (.settings (.unreadableProperties path fault))))
    Properties.empty
  return files.extend arguments.bindings

def dataset {m : Type → Type} [Monad m] (config : Config) (read : String → m Source) :
    ExceptT (Stop Failure) m Dataset := do
  let some path := config.datasetPath | throw (.refused (.settings .datasetPathMissing))
  match (← (Source.follow read path : m Source)).lines with
  | .error fault => throw (.refused (.dataset (.cannotOpen path fault)))
  | .ok lines =>
      match Dataset.load ⟨config.loadLimit, config.skipMalformed⟩ lines with
      | .ok dataset => return dataset
      | .error error => throw (.refused (.dataset error))

/-- The workers that were asked for; none stands for one per core. -/
def runner (arguments : Arguments) (config : Config) (cores : Nat) : Runner :=
  match (arguments.threads.getD config.threadCount).toNat with
  | 0 => Runner.ofWorkers cores
  | threads => Runner.ofWorkers threads

def prepare {m : Type → Type} [Monad m] (arguments : Arguments) (read : String → m Source)
    (cores : Nat) : ExceptT (Stop Failure) m (Execution (MemoryStore Float)) := do
  let properties ← arguments.properties read
  let config ← ExceptT.mk (pure
    ((arguments.command.configure properties).mapError (Stop.map .settings)))
  let dataset ← dataset config read
  let prepared : Except (Stop ConfigError) (Execution (MemoryStore Float)) := do
    let backend ← orStop config.openBackend
    let workload ← Workload.prepare config dataset
    return { workload, backend, world := ⟨workload.initialShared, .empty, []⟩
             runner := arguments.runner config cores }
  ExceptT.mk (pure (prepared.mapError (Stop.map .settings)))

def execute {m : Type → Type} [Monad m] (arguments : Arguments) (read : String → m Source)
    (cores : Nat) (words : Phase → Nat → Words) : ExceptT (Stop Failure) m Report := do
  let execution ← arguments.prepare read cores
  let (phases, execution) ← ExceptT.mk (pure
    (execution.phases words arguments.command.phases))
  return {
    backend := execution.backend.name
    table := execution.workload.config.table
    phases
    tally := execution.world.shared.tally }

end Arguments

end SpatialWorkload
