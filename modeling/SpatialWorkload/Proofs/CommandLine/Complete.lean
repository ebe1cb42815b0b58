import SpatialWorkload.Proofs.CommandLine.Gathered
import SpatialWorkload.Proofs.CommandLine.Outcome
import SpatialWorkload.Proofs.Config.Sound
import SpatialWorkload.Proofs.Dataset
import SpatialWorkload.Proofs.Run.Completion
import SpatialWorkload.Proofs.Run.Counted
import SpatialWorkload.Proofs.Run.Transactions

/-!
# Loading and running on a store in memory

From the settings and the file to the report: where the settings are in order and the file
holds the records of the insert range, a command that loads and runs on a store in memory
inserts every record and answers every scan, however many workers there are, whatever they
draw and whoever moves when.
-/

namespace SpatialWorkload

namespace Arguments

/-- A command line that loads and runs on a store in memory, with its settings in order. -/
structure IsInOrder (arguments : Arguments) (read : String → Id Source) (config : Config)
    (dataset : Dataset) (count : UInt64) : Prop where
  all : arguments.command = .all
  settings : ∃ properties, (arguments.properties read).run.run = .ok properties ∧
    Config.ofProperties properties = .ok config
  backend : BackendKind.read config.backend = .ok .memory
  operations : config.operationCount ≠ 0
  someScan : 0 < config.mix.knn ∨ 0 < config.mix.distance ∨ 0 < config.mix.polygon
  finite : (ScanChooser.total config.mix).isFinite = true
  file : ∃ path lines, config.datasetPath = some path ∧
    (Source.follow read path).run.lines = .ok lines ∧
    Dataset.load ⟨config.loadLimit, config.skipMalformed⟩ lines = .ok dataset
  countable : dataset.size < 2 ^ 53
  /-- The insert count that is configured, or what the insert start leaves of the dataset. -/
  resolved : count =
    config.insertCount.getD (UInt64.ofNat (dataset.size - config.insertStart.toNat))
  nonempty : count ≠ 0
  within : config.insertStart.toNat + count.toNat ≤ dataset.size
  law : ∃ keys, KeyChooser.ofLaw config.keyLaw config.insertStart count = .ok keys

variable {arguments : Arguments} {read : String → Id Source} {config : Config}
  {dataset : Dataset} {count : UInt64}

theorem dataset_eq {path : String} (located : config.datasetPath = some path)
    {lines : List SourceLine} (opened : (Source.follow read path).run.lines = .ok lines)
    (loaded : Dataset.load ⟨config.loadLimit, config.skipMalformed⟩ lines = .ok dataset) :
    (Arguments.dataset config read).run.run = .ok dataset := by
  unfold Arguments.dataset
  rw [located]
  have followed : (liftM (Source.follow read path) : ExceptT (Stop Failure) Id Source).run.run =
      .ok (Source.follow read path).run := rfl
  refine (run_bind_of_ok followed _).trans ?_
  rw [opened]
  dsimp only
  rw [loaded]
  rfl

theorem resolveInsertRange_eq (inOrder : arguments.IsInOrder read config dataset count) :
    config.resolveInsertRange dataset.size = .ok (config.insertStart, count) := by
  have within := inOrder.within
  have countable := inOrder.countable
  have asked : config.resolveInsertRange dataset.size =
      if count = 0 then .error .emptyInsertRange
      else if UInt64.size ≤ config.insertStart.toNat + count.toNat then .error .insertEndOverflows
      else if dataset.size < config.insertStart.toNat + count.toNat then
        .error (.datasetTooShort dataset.size (config.insertStart.toNat + count.toNat))
      else .ok (config.insertStart, count) := by
    rw [inOrder.resolved, Config.resolveInsertRange]
    cases config.insertCount <;> rfl
  have fits : config.insertStart.toNat + count.toNat < UInt64.size :=
    Nat.lt_of_le_of_lt within (Nat.lt_trans countable (by decide))
  rw [asked, if_neg inOrder.nonempty, if_neg (Nat.not_le.mpr fits), if_neg (Nat.not_lt.mpr within)]

theorem exists_workload (inOrder : arguments.IsInOrder read config dataset count) :
    ∃ workload, Workload.prepare config dataset = .ok workload ∧
      workload.insertCount = count ∧ workload.insertStart = config.insertStart := by
  obtain ⟨properties, -, accepted⟩ := inOrder.settings
  obtain ⟨_, read⟩ := Config.isReadFrom_of_ofProperties accepted
  have sound := read.isSound
  obtain ⟨keys, law⟩ := inOrder.law
  obtain ⟨chooser, chosen⟩ : ∃ chooser, ScanChooser.ofMix? config.mix = some chooser := by
    refine Option.ne_none_iff_exists'.mp fun none => ?_
    rw [ScanChooser.ofMix?_eq_none_iff, inOrder.finite] at none
    cases none
  rw [Workload.prepare, Config.bind_of_ok (resolveInsertRange_eq inOrder)]
  dsimp only
  rw [chosen]
  dsimp only
  rw [Config.bind_of_ok law, Workload.ofRange?_of_isOrdered sound.neighbours,
    Workload.ofRange?_of_isOrdered sound.distanceKm, Workload.ofRange?_of_isOrdered sound.polygonKm]
  exact ⟨_, rfl, rfl, rfl⟩

theorem prepare_eq (inOrder : arguments.IsInOrder read config dataset count) {workload : Workload}
    (made : Workload.prepare config dataset = .ok workload) (cores : Nat) :
    (arguments.prepare read cores).run.run = .ok ⟨workload, memoryBackend,
      ⟨workload.initialShared, .empty, []⟩, arguments.runner config cores⟩ := by
  obtain ⟨properties, gathered, accepted⟩ := inOrder.settings
  obtain ⟨path, lines, located, opened, loaded⟩ := inOrder.file
  have configured : arguments.command.configure properties = .ok config := by
    have counted : (config.operationCount == 0) = false := beq_false_of_ne inOrder.operations
    have preloaded : (config.preloaded || Command.all == .run) = config.preloaded :=
      Bool.or_false _
    rw [inOrder.all, Command.configure, accepted]
    dsimp only [bind, Except.bind]
    rw [counted, preloaded]
    rfl
  have backend : config.openBackend = .ok memoryBackend := by
    rw [Config.openBackend, inOrder.backend]
    rfl
  have settled : (ExceptT.mk (pure
      ((arguments.command.configure properties).mapError (Stop.map .settings))) :
        ExceptT (Stop Failure) Id Config).run.run = .ok config := by
    rw [configured]
    rfl
  unfold prepare
  rw [run_bind_of_ok gathered, run_bind_of_ok settled,
    run_bind_of_ok (dataset_eq located opened loaded), backend, made]
  rfl

theorem exists_ofWorkers (arguments : Arguments) (config : Config) (cores : Nat) :
    ∃ workers, arguments.runner config cores = Runner.ofWorkers workers := by
  unfold runner
  split <;> exact ⟨_, rfl⟩

end Arguments

namespace Workload

def lastIndex (workload : Workload) : UInt64 :=
  workload.insertStart + workload.insertCount - 1

variable {workload : Workload}

theorem lastIndex_mem (prepared : workload.IsPrepared) :
    workload.insertStart ≤ workload.lastIndex ∧
      workload.lastIndex.toNat < workload.insertFinish := by
  have fits := prepared.fits
  have some := Word.toNat_pos prepared.nonempty
  unfold insertFinish at fits ⊢
  have finish : (workload.insertStart + workload.insertCount).toNat =
      workload.insertStart.toNat + workload.insertCount.toNat := Word.toNat_add fits
  have last : workload.lastIndex.toNat =
      workload.insertStart.toNat + workload.insertCount.toNat - 1 := by
    rw [lastIndex, UInt64.toNat_sub_of_le _ _ ?_, finish]
    · rfl
    · rw [UInt64.le_iff_toNat_le, finish]
      change 1 ≤ _
      omega
  rw [UInt64.le_iff_toNat_le, last]
  omega

/-- With a scan enabled and keys that can be counted, the insert range supplies every scan. -/
theorem supplies_lastIndex {config : Config} {dataset : Dataset}
    (made : prepare config dataset = .ok workload)
    (some : 0 < config.mix.knn ∨ 0 < config.mix.distance ∨ 0 < config.mix.polygon)
    (countable : dataset.size < 2 ^ 53) :
    workload.chooser.isEmpty = false ∧ workload.Supplies workload.lastIndex := by
  obtain ⟨prepared, rfl, rfl⟩ := isPrepared_of_prepare made
  obtain ⟨-, -, -, chosen, -⟩ := prepare_spec made
  have nonempty := (ScanChooser.isEmpty_eq_false_iff chosen).mpr some
  obtain ⟨begun, below⟩ := lastIndex_mem prepared
  have counts : workload.CountsKeys := Or.inr (Nat.le_of_lt countable)
  refine ⟨nonempty, fun words => ?_, fun words => ?_⟩
  · obtain ⟨kind, -, picked⟩ := ScanChooser.choose_mem chosen nonempty words
    exact ⟨kind, picked⟩
  · obtain ⟨key, reference, drawn, -, -, found⟩ := next_found prepared counts begun below words
    exact ⟨key, reference, drawn, found⟩

end Workload

namespace Execution

variable {workload : Workload} {words : Phase → Nat → Words} {schedule : List Nat}
  {outcome : Except (Stop Failure) (PhaseReport × Execution (MemoryStore Float))}

/-- However it goes, a load inserts every record and counts nothing else. -/
theorem ends_load (prepared : workload.IsPrepared) (distinct : workload.HasDistinctIds)
    {store : MemoryStore Float} (workers : Nat)
    (ends : Ends words ⟨workload, memoryBackend, ⟨workload.initialShared, store, []⟩,
      .ofWorkers workers⟩ .load schedule outcome) :
    ∃ world done, outcome = .ok
        (⟨.load, (Runner.ofWorkers workers).crew workload.insertCount.toNat,
            workload.insertCount.toNat, 0⟩,
          ⟨workload, memoryBackend, world, ⟨(Runner.ofWorkers workers).workers, done⟩⟩) ∧
      workload.IsFilled store world ∧
      world.shared.tally = .loaded workload.insertCount := by
  cases ends with
  | refused cause => cases cause
  | stands calls ran still came =>
      rename_i ended
      cases calls
      obtain ⟨result, filled⟩ := Runner.isFilled_of_isStill prepared distinct ran still
      have tally := Runner.tally_of_isStill prepared distinct ran still
      rw [conclude, result] at came
      exact ⟨ended.world, ended.done, came.symm, filled, tally⟩

/-- However it goes, a run on a store that supplies it answers every scan. -/
theorem ends_run {last : UInt64} (supplies : workload.Supplies last)
    (runnable : workload.chooser.isEmpty = false) {world : MemoryWorld}
    (marked : world.shared.acknowledged.last? = some last) (workers : Nat) (done : UInt64)
    (ends : Ends words ⟨workload, memoryBackend, world,
      ⟨(Runner.ofWorkers workers).workers, done⟩⟩ .run schedule outcome) :
    ∃ after done, outcome = .ok
        (⟨.run, (Runner.ofWorkers workers).crew workload.config.operationCount.toNat,
            workload.config.operationCount.toNat, 0⟩,
          ⟨workload, memoryBackend, after, ⟨(Runner.ofWorkers workers).workers, done⟩⟩) ∧
      world.shared.tally.AddsScans after.shared.tally workload.config.operationCount.toNat := by
  have checked : workload.checkRunnable = .ok () := by
    rw [Workload.checkRunnable, runnable]
    rfl
  cases ends with
  | refused cause =>
      rw [calls, checked] at cause
      cases cause
  | stands calls ran still came =>
      rename_i total ended
      rw [Execution.calls, checked] at calls
      cases calls
      obtain ⟨result, -, counted⟩ := Runner.served_of_isStill supplies marked ran still
      rw [conclude, result] at came
      exact ⟨ended.world, ended.done, came.symm, counted⟩

end Execution

/-- Every record was inserted at once, behind one reset, and every scan was answered. -/
structure Report.IsComplete (report : Report) (config : Config) (count : UInt64)
    (runner : Runner) : Prop where
  backend : report.backend = "memory"
  table : report.table = config.table
  phases : report.phases = [⟨.load, runner.crew count.toNat, count.toNat, 0⟩,
    ⟨.run, runner.crew config.operationCount.toNat, config.operationCount.toNat, 0⟩]
  insert : report.tally.insert = ⟨count, 0⟩
  scans : report.tally.scans = ⟨config.operationCount, 0⟩
  /-- The sum of the scans does not come round, and no part of it is a failure. -/
  whole : report.tally.scansSucceeded = config.operationCount.toNat ∧
    ∀ kind, (report.tally.get (.scan kind)).failure = 0
  resets : report.tally.resets = 1
  retries : report.tally.insertRetries = 0
  abandoned : report.tally.abandonedInserts = 0

namespace Execution

variable {workload : Workload} {words : Phase → Nat → Words}

/-- A load and a run after it, however they go, make a complete report. -/
theorem isComplete_of_passes (prepared : workload.IsPrepared) (distinct : workload.HasDistinctIds)
    (supplies : workload.Supplies workload.lastIndex) (runnable : workload.chooser.isEmpty = false)
    {store : MemoryStore Float} (workers : Nat) {schedules : List (List Nat)}
    {outcome : Except (Stop Failure) (List PhaseReport × Execution (MemoryStore Float))}
    (passes : Passes words [.load, .run] ⟨workload, memoryBackend,
      ⟨workload.initialShared, store, []⟩, .ofWorkers workers⟩ schedules outcome) :
    ∃ phases last, outcome = .ok (phases, last) ∧
      (last.report phases).IsComplete workload.config workload.insertCount
        (.ofWorkers workers) := by
  cases passes with
  | stops ends =>
      obtain ⟨world, done, came, -⟩ := ends_load prepared distinct workers ends
      cases came
  | goesOn ends later =>
      obtain ⟨world, done, came, filled, tally⟩ := ends_load prepared distinct workers ends
      cases came
      cases later with
      | stops ends =>
          obtain ⟨after, _, came, -⟩ := ends_run supplies runnable filled.last workers done ends
          cases came
      | goesOn ends later =>
          obtain ⟨after, _, came, adds⟩ := ends_run supplies runnable filled.last workers done ends
          cases came
          cases later
          rw [tally] at adds
          have others := adds.others
          obtain ⟨whole, scans, unfailed⟩ := adds.scans fun kind => by cases kind <;> rfl
          refine ⟨_, _, rfl, rfl, rfl, rfl, ?_, scans, ⟨whole, unfailed⟩, ?_, ?_, ?_⟩
          · exact congrArg Tally.insert others
          · exact congrArg Tally.resets others
          · exact congrArg Tally.insertRetries others
          · exact congrArg Tally.abandonedInserts others

/-- Whatever the workers have done so far in the load, and then in the run, they can end both. -/
theorem exists_passes_load_run (prepared : workload.IsPrepared)
    (distinct : workload.HasDistinctIds) (words : Phase → Nat → Words) (store : MemoryStore Float)
    (workers : Nat) (load : List Nat) :
    ∃ later, ∀ run, ∃ rest outcome, Passes words [.load, .run] ⟨workload, memoryBackend,
      ⟨workload.initialShared, store, []⟩, .ofWorkers workers⟩ [load ++ later, run ++ rest]
        outcome := by
  obtain ⟨later, loaded, ends⟩ := exists_rest ⟨workload, memoryBackend,
    ⟨workload.initialShared, store, []⟩, .ofWorkers workers⟩ words .load
      (Runner.ofWorkers_pos workers) load
  obtain ⟨world, done, rfl, -⟩ := ends_load prepared distinct workers ends
  refine ⟨later, fun run => ?_⟩
  obtain ⟨rest, ran, goesOn⟩ := exists_rest ⟨workload, memoryBackend, world,
    ⟨(Runner.ofWorkers workers).workers, done⟩⟩ words .run (Runner.ofWorkers_pos workers) run
  refine ⟨rest, ?_⟩
  cases ran with
  | error stop => exact ⟨_, .goesOn ends (.stops goesOn)⟩
  | ok result => exact ⟨_, .goesOn ends (.goesOn goesOn .done)⟩

end Execution

namespace Arguments

variable {arguments : Arguments} {read : String → Id Source} {config : Config}
  {dataset : Dataset} {count : UInt64}

/--
A command that loads and runs on a store in memory, with settings in order and a file that
holds the insert range: whatever the workers draw and whoever moves when, it reports every
record as inserted and every scan as answered.  It can always be brought to such a report,
and the command that is executed ends so.
-/
theorem all_is_complete (inOrder : arguments.IsInOrder read config dataset count) (cores : Nat)
    (words : Phase → Nat → Words) :
    (∀ schedules outcome, arguments.MayReport read cores words schedules outcome →
      ∃ report, outcome = .ok report ∧
        report.IsComplete config count (arguments.runner config cores)) ∧
    (∀ load, ∃ later, ∀ run, ∃ rest outcome,
      arguments.MayReport read cores words [load ++ later, run ++ rest] outcome) ∧
    ∃ report, (arguments.execute read cores words).run.run = .ok report ∧
      report.IsComplete config count (arguments.runner config cores) := by
  obtain ⟨workload, made, rfl, -⟩ := exists_workload inOrder
  have ready := prepare_eq inOrder made cores
  obtain ⟨path, lines, -, -, loaded⟩ := inOrder.file
  obtain ⟨runnable, supplies⟩ :=
    Workload.supplies_lastIndex made inOrder.someScan inOrder.countable
  obtain ⟨prepared, rfl, rfl⟩ := Workload.isPrepared_of_prepare made
  have distinct : workload.HasDistinctIds := Dataset.nodup_of_load loaded
  have phases : arguments.command.phases = [.load, .run] := by
    rw [inOrder.all]
    rfl
  obtain ⟨workers, crew⟩ := exists_ofWorkers arguments workload.config cores
  rw [crew] at ready ⊢
  have complete (schedules : List (List Nat)) (outcome : Except (Stop Failure) Report)
      (mayReport : arguments.MayReport read cores words schedules outcome) :
      ∃ report, outcome = .ok report ∧
        report.IsComplete workload.config workload.insertCount (.ofWorkers workers) := by
    cases mayReport with
    | unprepared stopped => cases stopped.symm.trans ready
    | carriesOut isReady passes came =>
        cases isReady.symm.trans ready
        rw [phases] at passes
        obtain ⟨reports, last, rfl, isComplete⟩ :=
          Execution.isComplete_of_passes prepared distinct supplies runnable workers passes
        exact ⟨_, came.symm, isComplete⟩
  refine ⟨complete, fun load => ?_, ?_⟩
  · obtain ⟨later, goesOn⟩ := Execution.exists_passes_load_run prepared distinct words .empty
      workers load
    refine ⟨later, fun run => ?_⟩
    obtain ⟨rest, outcome, passes⟩ := goesOn run
    exact ⟨rest, _, .carriesOut ready (phases ▸ passes) rfl⟩
  · obtain ⟨schedules, executed⟩ := exists_mayReport words ready (Runner.ofWorkers_pos workers)
    exact complete schedules _ executed

/-- A trajectory of two points, whose records share their raw identity. -/
def twoPoints : String → Id Source := fun _ =>
  .file ("id\n7,,,2008-02-02 13:30:49,,,39.9,116.4\n" ++
    "7,,,2008-02-02 13:31:49,,,39.8,116.3\n").toUTF8.toList

def threeScans : Arguments where
  command := .all
  propertyFiles := []
  bindings := [("dataset.path", "points.csv"), ("scanknnproportion", "1"), ("operationcount", "3")]
  threads := some 2

theorem all_is_complete_two_points :
    ∃ config dataset report, threeScans.IsInOrder twoPoints config dataset 2 ∧
      (threeScans.execute twoPoints 1 fun _ _ => .ofSeed 0).run.run = .ok report ∧
      report.phases = [⟨.load, 2, 2, 0⟩, ⟨.run, 2, 3, 0⟩] ∧ report.tally.scans = ⟨3, 0⟩ := by
  have judged : ((Source.follow twoPoints "points.csv").run.lines.toOption.any fun lines =>
      (Dataset.load ⟨none, false⟩ lines).toOption.any fun dataset =>
        dataset.size == 2) = true := by
    decide +kernel
  obtain ⟨lines, opened, judged⟩ := (Option.any_eq_true _ _).mp judged
  obtain ⟨dataset, loaded, size⟩ := (Option.any_eq_true _ _).mp judged
  have opened := Workload.eq_ok_of_toOption opened
  have loaded := Workload.eq_ok_of_toOption loaded
  have size := beq_iff_eq.mp size
  have settings : Config.ofProperties (.ofList threeScans.bindings) = .ok (_ : Config) := rfl
  have inOrder : threeScans.IsInOrder twoPoints _ dataset 2 := {
    all := rfl
    settings := ⟨_, rfl, settings⟩
    backend := rfl
    operations := by decide
    someScan := Or.inl (by decide +kernel)
    finite := by decide +kernel
    file := ⟨_, lines, rfl, opened, loaded⟩
    countable := by rw [size]; decide
    resolved := by rw [size]; rfl
    nonempty := by decide
    within := by rw [size]; decide
    law := ⟨_, rfl⟩ }
  obtain ⟨report, executed, isComplete⟩ :=
    (all_is_complete inOrder 1 fun _ _ => .ofSeed 0).2.2
  exact ⟨_, dataset, report, inOrder, executed, isComplete.phases, isComplete.scans⟩

end Arguments

end SpatialWorkload
