import SpatialWorkload.Proofs.Run.Completion
import SpatialWorkload.Proofs.Run.Trail

/-!
# The scan of a transaction

A transaction of one worker while nobody else moves.  It asks the backend for one scan of an
enabled kind, about a record up to the newest acknowledged one and with a parameter from the
range of that kind, and counts the answer; or it asks for nothing and changes nothing.
-/

namespace SpatialWorkload

/-- The queries that a scan of each kind about a position can ask. -/
inductive Config.MayAsk (config : Config) (reference : Position Float) :
    ScanKind → Query Float → Prop where
  | nearest {count : UInt64} (low : config.neighbours.min ≤ count)
      (high : count ≤ config.neighbours.max) :
      MayAsk config reference .knn
        (.nearest reference.latitude reference.longitude count.toNat)
  | within {km : UInt64} (low : config.distanceKm.min ≤ km) (high : km ≤ config.distanceKm.max) :
      MayAsk config reference .distance
        (.within reference.latitude reference.longitude km.toFloat)
  | inside {km : UInt64} (low : config.polygonKm.min ≤ km) (high : km ≤ config.polygonKm.max) :
      MayAsk config reference .polygon (.inside (Ring.square reference km.toFloat))

namespace Workload

variable {config : Config} {dataset : Dataset} {workload : Workload}

/-- The parameter of a scan is drawn from the range of its kind. -/
theorem drawQuery_mayAsk (made : prepare config dataset = .ok workload) (kind : ScanKind)
    (reference : Position Float) (words : Words) :
    config.MayAsk reference kind (workload.drawQuery kind reference words).1 := by
  obtain ⟨neighbours, distanceKm, polygonKm⟩ := prepare_ranges made
  cases kind with
  | knn =>
      obtain ⟨low, high⟩ := workload.neighbours.sample_mem words
      rw [neighbours] at low high
      exact .nearest low high
  | distance =>
      obtain ⟨low, high⟩ := workload.distanceKm.sample_mem words
      rw [distanceKm] at low high
      exact .within low high
  | polygon =>
      obtain ⟨low, high⟩ := workload.polygonKm.sample_mem words
      rw [polygonKm] at low high
      exact .inside low high

def HasNothing (workload : Workload) (shared : Shared) : Prop :=
  workload.chooser.isEmpty = true ∨
    ∀ limit, shared.acknowledged.last? = some limit → limit < workload.insertStart

end Workload

/-- What the answer to a scan changes: the store, the count of the kind, and how the call ends. -/
structure World.Hears {σ : Type} (before : World σ) (kind : ScanKind)
    (answered : Answer (List (Position Float)) × σ) (after : World σ) (stage : Stage) : Prop where
  frame : after = { before with
    store := answered.2
    shared := { before.shared with tally := after.shared.tally } }
  found : ∀ positions, answered.1 = .ok positions → stage = .returned true ∧
    after.shared.tally = before.shared.tally.record (.scan kind) .success
  refused : ∀ error, answered.1 = .error (.refused error) → stage = .returned false ∧
    after.shared.tally = before.shared.tally.record (.scan kind) (Status.ofError error)
  lost : answered.1 = .error .aborted → stage = .aborted ∧
    after.shared.tally = before.shared.tally

namespace Worker

variable {σ : Type} {workload : Workload} {backend : Backend σ} {world : World σ}
  {words : Words}

theorem leads_scan (workload : Workload) (backend : Backend σ) (world : World σ)
    (kind : ScanKind) (reference : Position Float) (words : Words) :
    ∃ next stage rest, stage.isOver = true ∧
      Leads workload backend world ⟨.scan kind reference, words⟩
        [.asks (.scan workload.config.table (workload.drawQuery kind reference words).1)] next
        ⟨stage, rest⟩ ∧
      world.Hears kind (backend.scan workload.config.table
        (workload.drawQuery kind reference words).1 world.store) next stage := by
  rcases drawn : workload.drawQuery kind reference words with ⟨query, rest⟩
  have asks := congrArg (fun asked => (asked.map Act.asks).toList)
    (request?_scan drawn world.shared.gate)
  rcases asked : backend.scan workload.config.table query world.store with
    ⟨(error | _) | positions, store⟩
  · refine ⟨_, _, rest, rfl, asks ▸ Leads.of_stride (.scanRefused drawn asked) rfl, rfl, ?_, ?_, ?_⟩
    · rintro positions ⟨⟩
    · rintro error ⟨⟩
      exact ⟨rfl, rfl⟩
    · rintro ⟨⟩
  · refine ⟨_, _, rest, rfl, asks ▸ Leads.of_stride (.scanLost drawn asked) rfl, rfl, ?_, ?_, ?_⟩
    · rintro positions ⟨⟩
    · rintro error ⟨⟩
    · exact fun _ => ⟨rfl, rfl⟩
  · refine ⟨_, _, rest, rfl, asks ▸ Leads.of_stride (.scans drawn asked) rfl, rfl, ?_, ?_, ?_⟩
    · exact fun _ _ => ⟨rfl, rfl⟩
    · rintro error ⟨⟩
    · rintro ⟨⟩

/-- Up to the drawing of a key only words are read. -/
theorem leads_drawKey {kind : ScanKind} {rest : Words}
    (chosen : workload.chooser.choose words = (some kind, rest)) :
    Leads workload backend world ⟨Call.transaction.firstStage, words⟩ [] world
      ⟨.drawKey kind world.shared.acknowledged.last?, rest⟩ :=
  (Leads.of_stride (.chooses chosen) rfl).trans (.of_stride .readsMark rfl)

/-- A transaction that has nothing to scan for asks for nothing. -/
theorem leads_nowhere (backend : Backend σ) (prepared : workload.IsPrepared) (words : Words)
    (nothing : workload.HasNothing world.shared) :
    ∃ rest, Leads workload backend world ⟨Call.transaction.firstStage, words⟩ [] world
      ⟨.returned false, rest⟩ := by
  rcases nothing with empty | before
  · have chosen := ScanChooser.choose_of_isEmpty empty words
    exact ⟨words, .of_stride (.choosesNone chosen) rfl⟩
  · rcases chosen : workload.chooser.choose words with ⟨_ | kind, rest⟩
    · exact ⟨rest, .of_stride (.choosesNone chosen) rfl⟩
    · obtain ⟨-, start⟩ := KeyChooser.isOrdered_of_ofLaw prepared.law
      have none := KeyChooser.next_eq_none (start ▸ before) rest
      have draws : Leads workload backend world
          ⟨.drawKey kind world.shared.acknowledged.last?, rest⟩ [] world ⟨.returned false, _⟩ :=
        .of_stride (.drawsNone fun key drawn => by rw [none] at drawn; cases drawn) rfl
      exact ⟨_, (leads_drawKey chosen).trans draws⟩

/-- Any other transaction asks for one scan and ends with its answer. -/
theorem leads_to_scan {config : Config} {dataset : Dataset} (backend : Backend σ)
    (made : Workload.prepare config dataset = .ok workload) (counts : workload.CountsKeys)
    (inRange : workload.InRange world.shared) (words : Words)
    (something : ¬workload.HasNothing world.shared) :
    ∃ kind limit key reference query next stage rest,
      (0 < config.mix.weight kind ∧ world.shared.acknowledged.last? = some limit ∧
        workload.insertStart ≤ key ∧ key ≤ limit ∧ dataset.get? key = some reference ∧
        config.MayAsk reference kind query) ∧
      stage.isOver = true ∧
      Leads workload backend world ⟨Call.transaction.firstStage, words⟩
        [.asks (.scan config.table query)] next ⟨stage, rest⟩ ∧
      world.Hears kind (backend.scan config.table query world.store) next stage := by
  obtain ⟨prepared, rfl, rfl⟩ := Workload.isPrepared_of_prepare made
  obtain ⟨-, -, -, mixed, -⟩ := Workload.prepare_spec made
  rw [Workload.HasNothing, not_or, Bool.not_eq_true, not_forall] at something
  obtain ⟨some, limit, marked⟩ := something
  rw [Classical.not_imp] at marked
  obtain ⟨kind, member, picked⟩ := ScanChooser.choose_mem mixed some words
  obtain ⟨begun, below⟩ := inRange.last prepared marked.1
  rcases chosen : workload.chooser.choose words with ⟨_, rest⟩
  rw [chosen] at picked
  cases picked
  obtain ⟨key, reference, drawn, low, high, found⟩ :=
    Workload.next_found prepared counts begun below rest
  have draws : Leads workload backend world
      ⟨.drawKey kind world.shared.acknowledged.last?, rest⟩ [] world ⟨.scan kind reference, _⟩ :=
    .of_stride (.draws (marked.1 ▸ drawn) found) rfl
  obtain ⟨next, stage, remaining, ended, scan, hears⟩ :=
    leads_scan workload backend world kind reference _
  exact ⟨kind, limit, key, reference, _, next, stage, remaining,
    ⟨(ScanChooser.mem_kinds_iff mixed).mp member, marked.1, low, high, found,
      Workload.drawQuery_mayAsk made kind reference _⟩,
    ended, ((leads_drawKey chosen).trans draws).trans scan, hears⟩

end Worker

namespace Workload

variable {config : Config} {dataset : Dataset} {workload : Workload}

/-- In the words of the configuration. -/
theorem hasNothing_iff (made : prepare config dataset = .ok workload) (shared : Shared) :
    workload.HasNothing shared ↔ (∀ kind, ¬0 < config.mix.weight kind) ∨
      ∀ limit, shared.acknowledged.last? = some limit → limit < workload.insertStart := by
  obtain ⟨-, -, -, mixed, -⟩ := prepare_spec made
  refine or_congr_left ?_
  simp only [← ScanChooser.mem_kinds_iff mixed, ScanChooser.isEmpty, List.isEmpty_iff,
    List.eq_nil_iff_forall_not_mem]

/--
At every moment of every run of a workload with few enough records that doubles count them,
a transaction asks the backend for nothing exactly where no scan is enabled or no record of
the range is acknowledged, and then it changes nothing and fails.  Everywhere else it asks
for one scan: of an enabled kind, on the table of the configuration, about a record up to
the newest acknowledged one, and with a parameter from the range of the kind.  The answer is
counted for this kind, it settles whether the transaction succeeds, and nothing else changes.
-/
theorem transaction_asks_once (made : prepare config dataset = .ok workload)
    (few : dataset.size < 2 ^ 53) {σ : Type} (backend : Backend σ) (store : σ) (crew : Nat)
    (moves : List (Move σ)) (words : Words) :
    let world := (Floor.run workload backend moves (.opening workload store crew)).world
    let outcome := Worker.perform workload backend .transaction world words
    let trail := Worker.callTrail workload backend .transaction world words
    (trail = [] ↔ (∀ kind, ¬0 < config.mix.weight kind) ∨
      ∀ limit, world.shared.acknowledged.last? = some limit → limit < workload.insertStart) ∧
    (trail = [] → outcome.1 = world ∧ outcome.2.stage = .returned false) ∧
    (trail ≠ [] → ∃ kind limit key reference query,
      (0 < config.mix.weight kind ∧ world.shared.acknowledged.last? = some limit ∧
        workload.insertStart ≤ key ∧ key ≤ limit ∧ dataset.get? key = some reference ∧
        config.MayAsk reference kind query) ∧
      trail = [.asks (.scan config.table query)] ∧
      world.Hears kind (backend.scan config.table query world.store) outcome.1
        outcome.2.stage) := by
  intro world outcome trail
  obtain ⟨prepared, -, rfl⟩ := isPrepared_of_prepare made
  have counts : workload.CountsKeys := Or.inr few.le
  have inRange : workload.InRange world.shared :=
    (Floor.isSafe_run prepared backend store crew moves).bounded.inRange
  rw [← hasNothing_iff made]
  by_cases nothing : workload.HasNothing world.shared
  · obtain ⟨rest, course⟩ := Worker.leads_nowhere backend prepared words nothing
    obtain ⟨performed, done⟩ := course.perform_eq rfl
    refine ⟨iff_of_true done nothing, fun _ => ?_, fun some => absurd done some⟩
    exact ⟨congrArg Prod.fst performed, congrArg (·.2.stage) performed⟩
  · obtain ⟨kind, limit, key, reference, query, next, stage, rest, allowed, ended, course, hears⟩ :=
      Worker.leads_to_scan backend made counts inRange words nothing
    obtain ⟨performed, done⟩ := course.perform_eq ended
    have asks : trail ≠ [] := fun none => by cases done.symm.trans none
    refine ⟨iff_of_false asks nothing, fun none => absurd none asks, fun _ =>
      ⟨kind, limit, key, reference, query, allowed, done, ?_⟩⟩
    rw [show outcome = _ from performed]
    exact hears

/-- With one record that was loaded before, and only one kind enabled, its scan goes through. -/
theorem transaction_asks_once_preloaded :
    ∃ config workload, Config.ofProperties (.ofList [("scanknnproportion", "1"),
          ("preloaded", "true")]) = .ok config ∧
      prepare config ⟨#[.vertex 39.9 116.4]⟩ = .ok workload ∧
      (⟨#[.vertex 39.9 116.4]⟩ : Dataset).size < 2 ^ 53 ∧
      ∀ words, ∃ count : UInt64, 1 ≤ count ∧ count ≤ 10 ∧
        Worker.callTrail workload memoryBackend .transaction
            ⟨workload.initialShared, .empty, []⟩ words =
          [.asks (.scan config.table (.nearest 39.9 116.4 count.toNat))] ∧
        (Worker.perform workload memoryBackend .transaction
          ⟨workload.initialShared, .empty, []⟩ words).2.stage = .returned true := by
  obtain ⟨config, workload, accepted, made, neighbours, knn, distance, polygon, start, marked⟩ :
      ∃ config workload, Config.ofProperties (.ofList [("scanknnproportion", "1"),
          ("preloaded", "true")]) = .ok config ∧
        prepare config ⟨#[.vertex 39.9 116.4]⟩ = .ok workload ∧
        config.neighbours = ⟨1, 10⟩ ∧ 0 < config.mix.weight .knn ∧
        ¬0 < config.mix.weight .distance ∧ ¬0 < config.mix.weight .polygon ∧
        workload.insertStart = 0 ∧ workload.initialShared.acknowledged.last? = some 0 :=
    ⟨_, _, rfl, rfl, rfl, by decide +kernel, by decide +kernel, by decide +kernel, rfl, rfl⟩
  have few : (⟨#[.vertex 39.9 116.4]⟩ : Dataset).size < 2 ^ 53 := by decide
  refine ⟨config, workload, accepted, made, few, fun words => ?_⟩
  obtain ⟨silent, -, scans⟩ := transaction_asks_once made few memoryBackend .empty 1 [] words
  have asked : Worker.callTrail workload memoryBackend .transaction
      ⟨workload.initialShared, .empty, []⟩ words ≠ [] := by
    intro none
    rcases silent.mp none with disabled | before
    · exact disabled .knn knn
    · have late := before 0 marked
      rw [start] at late
      exact UInt64.lt_irrefl 0 late
  obtain ⟨kind, limit, key, reference, query, ⟨enabled, newest, -, high, found, asks⟩, trail,
    hears⟩ := scans asked
  cases marked.symm.trans newest
  cases UInt64.le_zero_iff.mp high
  cases found
  cases kind with
  | distance => exact absurd enabled distance
  | polygon => exact absurd enabled polygon
  | knn =>
      cases asks with
      | nearest low most =>
          rw [neighbours] at low most
          exact ⟨_, low, most, trail, (hears.found _ rfl).1⟩

end Workload

end SpatialWorkload
