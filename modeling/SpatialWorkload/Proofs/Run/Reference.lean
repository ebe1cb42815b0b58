import SpatialWorkload.Proofs.Run.Load

/-!
# Records that scans are issued around

A scan is issued around a record that is drawn up to the newest acknowledged one.  Where keys
are uniform or doubles count the records, it is in the table.  Where they do not, the
exponential law may draw a key before the first record, and the scan is issued around a
record that was never inserted.
-/

namespace SpatialWorkload

/-- A record before the range is none of its records. -/
theorem Workload.HasDistinctIds.not_mem_records {workload : Workload}
    (distinct : workload.HasDistinctIds) (prepared : workload.IsPrepared) {index : UInt64}
    {position : Position Float} (before : index < workload.insertStart)
    (found : workload.dataset.get? index = some position) : position ∉ workload.records := by
  intro member
  rw [records, ← filterMap_firstIndices prepared _ (Nat.le_refl _)] at member
  obtain ⟨other, ranged, again⟩ := List.mem_filterMap.mp member
  have low := ((mem_firstIndices prepared other).mp ranged).1
  rw [distinct.index_eq found again rfl] at before
  exact UInt64.not_lt.mpr low before

theorem Move.Follows.spares {move : Move (MemoryStore Float)} {call : Call}
    (follows : move.Follows memoryBackend call) (name : String) : move.Spares name := by
  cases move with
  | outside change =>
      intro store
      rw [follows store]
      rfl
  | _ => trivial

namespace Floor

section Transaction

variable {σ : Type} {workload : Workload} {backend : Backend σ} {floor : Floor σ}

/-- A worker picks a scan, reads the watermark, draws a key and asks for the scan. -/
def toScan (id : Nat) (words : Words) : List (Move σ) :=
  [.call id .transaction words, .take id, .take id, .take id, .ask id]

theorem run_toScan {id : Nat} {words afterKind afterKey : Words} {kind : ScanKind}
    {acknowledged : Option UInt64} {key : UInt64} {reference : Position Float}
    (free : floor.posts[id]? = some .idle)
    (chosen : workload.chooser.choose words = (some kind, afterKind))
    (marked : floor.world.shared.acknowledged.last? = acknowledged)
    (drawn : workload.keys.next acknowledged afterKind = (some key, afterKey))
    (found : workload.dataset.get? key = some reference) :
    (run workload backend (toScan id words) floor).world = floor.world ∧
      (run workload backend (toScan id words) floor).posts =
        floor.posts.set id (.busy .transaction ⟨.scan kind reference, afterKey⟩ true) := by
  have inside := (List.getElem?_eq_some_iff.mp free).1
  simp [toScan, run, step, free, List.getElem?_set_self inside, Call.firstStage,
    Worker.request?, Stage.isOver, Worker.step, chosen, marked, drawn, found, Post.settle, admits,
    Request.isReset]

end Transaction

variable {workload : Workload}

/-- Some moves load all records, and leave the first worker free. -/
theorem exists_filled (prepared : workload.IsPrepared) (distinct : workload.HasDistinctIds)
    (store : MemoryStore Float) (workers : Nat) :
    ∃ moves : List (Move (MemoryStore Float)),
      (∀ move ∈ moves, move.Follows memoryBackend .insert) ∧
      let floor := run workload memoryBackend moves
        (opening workload store ((Runner.ofWorkers workers).crew workload.insertCount.toNat))
      workload.IsFilled store floor.world ∧ floor.posts[0]? = some .idle := by
  have someone : 0 < (Runner.ofWorkers workers).crew workload.insertCount.toNat :=
    Runner.crew_pos (Runner.ofWorkers_pos workers) _
  obtain ⟨schedule, ended, ran, still, -⟩ := Runner.execute_spec (Runner.ofWorkers workers)
    workload.insertCount.toNat ⟨workload.initialShared, store, []⟩ (fun _ => .ofSeed 0) .load
    workload memoryBackend someone
  have sound := Runner.isSound_of_load prepared distinct ran
  obtain ⟨moves, follows, floor, reached, -, -, calls, -, idle⟩ :=
    Runner.result_of_isSound (Runner.ofWorkers_pos workers) ran still sound
  refine ⟨moves, follows, ?_⟩
  intro loaded
  have same : loaded = floor := reached
  have filled := isFilled_run prepared distinct _ follows same (insertsAreBack_of_idle idle) calls
  have many : loaded.posts.length = (Runner.ofWorkers workers).crew workload.insertCount.toNat :=
    (length_posts_run moves).trans List.length_replicate
  have inside : 0 < loaded.posts.length := many ▸ someone
  rw [same] at inside ⊢
  refine ⟨filled.1, List.getElem?_eq_some_iff.mpr ⟨inside, idle _ (List.getElem_mem inside)⟩⟩

/--
On a store in memory that nobody else writes to, at every moment of every run: each record
up to the newest acknowledged one is in the table exactly once, as the dataset has it, and
after any further moves it still is; and a worker that is to scan, or waits for the answer of
its scan, finds the reference record there, where keys are uniform or the doubles that the
exponential law measures them in count all records.
-/
theorem acknowledged_are_stored (config : Config) (dataset : Dataset) (workload : Workload)
    (made : Workload.prepare config dataset = .ok workload) (fresh : config.preloaded = false)
    (store : MemoryStore Float) (crew : Nat) (moves later : List (Move (MemoryStore Float)))
    (spares : ∀ move ∈ moves ++ later, move.Spares config.table) :
    let floor := run workload memoryBackend moves (opening workload store crew)
    let final := run workload memoryBackend later floor
    (∀ last index, floor.world.shared.acknowledged.last? = some last →
      workload.insertStart ≤ index → index ≤ last →
        ∃ position, dataset.get? index = some position ∧
          floor.world.store.HoldsOnce config.table position ∧
          final.world.store.HoldsOnce config.table position) ∧
    (config.keyLaw = .uniform ∨ dataset.size ≤ 9007199254740992 →
      ∀ call worker waiting kind reference, .busy call worker waiting ∈ floor.posts →
        worker.stage = .scan kind reference →
          floor.world.store.HoldsOnce config.table reference) := by
  obtain ⟨prepared, rfl, rfl⟩ := Workload.isPrepared_of_prepare made
  intro floor final
  obtain ⟨loaded, -⟩ := isLoaded_run prepared moves
    (fun move member => spares move (List.mem_append_left later member))
    (isLoaded_opening prepared fresh store crew)
  obtain ⟨finalLoaded, stays⟩ := isLoaded_run prepared later
    (fun move member => spares move (List.mem_append_right moves member)) loaded
  refine ⟨?_, ?_⟩
  · intro last index marked low high
    have keeps := (loaded.stocks.keeps prepared marked).2 index low high
    obtain ⟨position, found, once⟩ := loaded.holdsOnce keeps
    obtain ⟨same, foundAgain, stillOnce⟩ := finalLoaded.holdsOnce (stays index keeps)
    rw [found] at foundAgain
    cases foundAgain
    exact ⟨position, found, once, stillOnce⟩
  · intro counts call worker waiting kind reference busy stage
    have relies : workload.Relies floor.world worker.stage :=
      loaded.relies call worker waiting busy
    rw [stage] at relies
    exact (loaded.stocks.sound relies.1).holdsOnce (relies.2 counts)

def toInsert : List (Move (MemoryStore Float)) :=
  [.call 0 .insert (.ofSeed 0), .ask 0, .take 0, .take 0, .take 0, .ask 0]

theorem run_toInsert : ∃ shared history,
    run oneRecordWorkload memoryBackend toInsert (opening oneRecordWorkload .empty 2) =
      ⟨⟨shared, MemoryStore.empty.reset "positions", []⟩,
        [.busy .insert ⟨.attempt 0 onePosition 0, .ofSeed 0⟩ true, .idle], history⟩ ∧
    shared.acknowledged = .ofStart 0 :=
  ⟨_, _, rfl, rfl⟩

theorem get?_oneRecord : oneRecordWorkload.dataset.get? 0 = some onePosition :=
  rfl

theorem run_insert :
    let floor := run oneRecordWorkload memoryBackend (toInsert ++ [.take 0, .take 0])
      (opening oneRecordWorkload .empty 2)
    floor.posts = [.idle, .idle] ∧ floor.world.shared.acknowledged.last? = some 0 := by
  have entered : (memoryBackend.insert oneRecordWorkload.config.table onePosition.id onePosition
      (MemoryStore.empty.reset "positions")).1 = .ok () :=
    congrArg orStop (MemoryStore.insert_reset _ _ _ onePosition)
  generalize asked : memoryBackend.insert oneRecordWorkload.config.table onePosition.id onePosition
    (MemoryStore.empty.reset "positions") = outcome at entered
  obtain ⟨answer, store⟩ := outcome
  cases entered
  obtain ⟨shared, history, reached, fresh⟩ := run_toInsert
  have marked : ((Watermark.ofStart 0).acknowledge 0).last? = some 0 := by decide
  rw [run_append, reached]
  simp [run, step, Worker.request?, Stage.isOver, Worker.step, Worker.attemptStep, asked,
    Post.settle, Worker.acknowledgeStep, Worker.record, fresh, marked]

/--
One worker inserts the only record, and another one asks for a scan around it, which is still
there when the scan is back.
-/
theorem acknowledged_are_stored_insert_and_scan :
    let moves := toInsert ++ [.take 0, .take 0] ++ toScan 1 ⟨fun _ => 0, 0⟩
    let floor := run oneRecordWorkload memoryBackend moves (opening oneRecordWorkload .empty 2)
    let final := run oneRecordWorkload memoryBackend [.take 1] floor
    Workload.prepare oneRecordConfig oneRecord = .ok oneRecordWorkload ∧
      oneRecordConfig.preloaded = false ∧ oneRecordConfig.keyLaw = .uniform ∧
      (∀ move ∈ moves ++ [.take 1], move.Spares oneRecordConfig.table) ∧
      floor.world.shared.acknowledged.last? = some 0 ∧
      floor.posts = [.idle, .busy .transaction ⟨.scan .knn onePosition, ⟨fun _ => 0, 2⟩⟩ true] ∧
      floor.world.store.HoldsOnce oneRecordConfig.table onePosition ∧
      final.world.store.HoldsOnce oneRecordConfig.table onePosition := by
  intro moves floor final
  have spares : ∀ move ∈ moves ++ [.take 1], move.Spares oneRecordConfig.table := by
    simp [moves, toInsert, toScan, Move.Spares]
  obtain ⟨posts, marked⟩ := run_insert
  have free : (run oneRecordWorkload memoryBackend (toInsert ++ [.take 0, .take 0])
      (opening oneRecordWorkload .empty 2)).posts[1]? = some .idle := by
    rw [posts]
    rfl
  have chosen : oneRecordWorkload.chooser.choose ⟨fun _ => 0, 0⟩ =
      (some .knn, ⟨fun _ => 0, 1⟩) := rfl
  have drawn : oneRecordWorkload.keys.next (some 0) ⟨fun _ => 0, 1⟩ =
      (some 0, ⟨fun _ => 0, 2⟩) := rfl
  obtain ⟨world, after⟩ := run_toScan free chosen marked drawn get?_oneRecord
  rw [← run_append] at world
  rw [← run_append, posts] at after
  have mark : floor.world.shared.acknowledged.last? = some 0 := world ▸ marked
  obtain ⟨stored, around⟩ := acknowledged_are_stored oneRecordConfig oneRecord oneRecordWorkload
    prepare_oneRecord rfl .empty 2 moves [.take 1] spares
  obtain ⟨position, found, -, stays⟩ := stored 0 0 mark (UInt64.le_refl 0) (UInt64.le_refl 0)
  cases found
  have busy : .busy .transaction ⟨.scan .knn onePosition, ⟨fun _ => 0, 2⟩⟩ true ∈ floor.posts :=
    after ▸ List.mem_cons_of_mem _ List.mem_cons_self
  exact ⟨prepare_oneRecord, rfl, rfl, spares, mark, after,
    around (Or.inl rfl) _ _ _ .knn onePosition busy rfl, stays⟩

/--
A record before the range, to which the law goes back from the newest one: when all records are
loaded, some worker asks for a scan around it, and it is not in the table.
-/
theorem exists_scan_around_unstored (prepared : workload.IsPrepared)
    (distinct : workload.HasDistinctIds) {words afterKind afterKey : Words} {kind : ScanKind}
    {key : UInt64} {reference : Position Float}
    (chosen : workload.chooser.choose words = (some kind, afterKind))
    (drawn : workload.keys.next (some (workload.insertStart + workload.insertCount - 1))
      afterKind = (some key, afterKey))
    (before : key < workload.insertStart) (found : workload.dataset.get? key = some reference)
    (store : MemoryStore Float) :
    ∃ moves : List (Move (MemoryStore Float)), (∀ name, ∀ move ∈ moves, move.Spares name) ∧
      let floor := run workload memoryBackend moves (opening workload store 1)
      (∃ worker, .busy .transaction worker true ∈ floor.posts ∧
        worker.stage = .scan kind reference) ∧
      reference ∉ floor.world.store.positions workload.config.table := by
  obtain ⟨load, follows, filled, free⟩ := exists_filled prepared distinct store 1
  have alone : (Runner.ofWorkers 1).crew workload.insertCount.toNat = 1 :=
    Nat.min_eq_left (Nat.le_max_right _ _)
  rw [alone] at filled free
  obtain ⟨world, posts⟩ := run_toScan free chosen filled.last drawn found
  refine ⟨load ++ toScan 0 words, fun name move member => ?_, ?_⟩
  · rcases List.mem_append.mp member with loads | scans
    · exact (follows move loads).spares name
    · simp only [toScan, List.mem_cons, List.not_mem_nil, or_false] at scans
      rcases scans with rfl | rfl | rfl | rfl | rfl <;> trivial
  · rw [run_append]
    intro floor
    have inside := (List.getElem?_eq_some_iff.mp free).1
    refine ⟨⟨⟨.scan kind reference, afterKey⟩, ?_, rfl⟩, ?_⟩
    · rw [posts]
      exact List.mem_set inside _
    · rw [world]
      exact fun stored => distinct.not_mem_records prepared before found
        (filled.records.mem_iff.mp stored)

/-! ## More records than doubles count -/

def vastPosition (place : Nat) : Position Float :=
  { onePosition with id := place.repr }

/-- One record before the range, and `2 ^ 53 + 4` records in it. -/
def vastRecords : Dataset :=
  ⟨Array.ofFn fun place : Fin 9007199254740997 => vastPosition place⟩

def vastConfig : Config :=
  { oneRecordConfig with insertStart := 1, keyLaw := .exponential 50 1 }

theorem size_vastRecords : vastRecords.size = 9007199254740997 := by
  rw [Dataset.size, vastRecords, Array.size_ofFn]

theorem distinct_vastRecords : (vastRecords.positions.toList.map Position.id).Nodup := by
  rw [vastRecords, Array.toList_ofFn, List.map_ofFn, List.nodup_ofFn]
  intro first second same
  exact Fin.ext (Nat.repr_injective same)

theorem get?_vastRecords : vastRecords.get? 0 = some (vastPosition 0) := by
  rw [Dataset.get?, vastRecords, Array.getElem?_ofFn]
  rfl

/-- Words by which the law goes back by as many records as there are in the range. -/
def vastWords : Words :=
  ⟨fun _ => 3086735027334090773, 0⟩

theorem exists_vastWorkload : ∃ workload, Workload.prepare vastConfig vastRecords = .ok workload ∧
    workload.insertStart = 1 ∧ workload.insertCount = 9007199254740996 ∧
    workload.chooser.choose vastWords = (some .knn, vastWords.next.2) ∧
    (workload.keys.next (some 9007199254740996) vastWords.next.2).1 = some 0 := by
  have resolved : vastConfig.resolveInsertRange vastRecords.size = .ok (1, 9007199254740996) := by
    rw [size_vastRecords]
    rfl
  have judged : ((KeyChooser.ofLaw vastConfig.keyLaw 1 9007199254740996).toOption.any fun keys =>
      (keys.next (some 9007199254740996) vastWords.next.2).1 == some 0) = true := by
    decide +kernel
  obtain ⟨keys, found, drawn⟩ := (Option.any_eq_true _ _).mp judged
  have law := Workload.eq_ok_of_toOption found
  exact ⟨_, Workload.prepare_of_parts resolved rfl law rfl rfl rfl, rfl, rfl, rfl,
    beq_iff_eq.mp drawn⟩

/-- A range of `2 ^ 53 + 4` records, and a scan around the record before it. -/
theorem scan_around_unstored_record :
    ∃ workload, Workload.prepare vastConfig vastRecords = .ok workload ∧
      vastConfig.preloaded = false ∧
      ∃ moves : List (Move (MemoryStore Float)),
        (∀ move ∈ moves, move.Spares vastConfig.table) ∧
        let floor := run workload memoryBackend moves (opening workload .empty 1)
        (∃ worker, .busy .transaction worker true ∈ floor.posts ∧
          worker.stage = .scan .knn (vastPosition 0)) ∧
        ¬floor.world.store.HoldsOnce vastConfig.table (vastPosition 0) := by
  obtain ⟨workload, made, start, count, chosen, drawn⟩ := exists_vastWorkload
  obtain ⟨prepared, config, dataset⟩ := Workload.isPrepared_of_prepare made
  have distinct : workload.HasDistinctIds := by
    rw [Workload.HasDistinctIds, dataset]
    exact distinct_vastRecords
  have last : workload.insertStart + workload.insertCount - 1 = 9007199254740996 := by
    rw [start, count]
    rfl
  have before : (0 : UInt64) < workload.insertStart := by
    rw [start]
    decide
  obtain ⟨moves, spares, scans, absent⟩ := exists_scan_around_unstored prepared distinct chosen
    (Prod.ext (last ▸ drawn) rfl) before (dataset ▸ get?_vastRecords) .empty
  refine ⟨workload, made, rfl, moves, spares _, scans, fun once => absent ?_⟩
  rw [config]
  exact List.mem_of_mem_filter (once ▸ List.mem_singleton_self _)

end Floor

end SpatialWorkload
