import SpatialWorkload.Proofs.Run.Range

/-!
# Indices that are handed out

The cursor counts every call, also those behind the end of the range.  As long as the calls
are too few to bring it round to the start of the words again, it hands out indices of the
insert range only, and a key is drawn up to an acknowledged one of these.  So neither an
index nor a key is ever without a record.
-/

namespace SpatialWorkload

structure Workload.Covers (workload : Workload) (index : UInt64) : Prop where
  start : workload.insertStart ≤ index
  finish : index.toNat < workload.insertStart.toNat + workload.insertCount.toNat
  inside : index.toNat < workload.dataset.size
  found : workload.dataset.get? index ≠ none

theorem Workload.IsPrepared.covers {workload : Workload} (prepared : workload.IsPrepared)
    {index : UInt64} (start : workload.insertStart ≤ index)
    (below : index.toNat < workload.insertFinish) : workload.Covers index :=
  ⟨start, below, Nat.lt_of_lt_of_le below prepared.within, prepared.get?_ne_none below⟩

namespace Stage

def isFetch : Stage → Bool
  | fetch => true
  | _ => false

end Stage

namespace Worker.Stride

variable {σ : Type} {workload : Workload} {backend : Backend σ} {world next : World σ}
  {words : Words} {stage : Stage} {after : Worker}

/-- Only a worker that fetches an index counts the cursor up. -/
theorem next_eq (stride : Stride workload backend world words stage next after) :
    next.shared.cursor.next =
      world.shared.cursor.next + UInt64.ofNat (if stage.isFetch then 1 else 0) := by
  cases stride with
  | comesBackEmpty | fetches => rfl
  | _ => exact (UInt64.add_zero _).symm

end Worker.Stride

namespace Floor

variable {σ : Type} {workload : Workload} {backend : Backend σ} {floor next : Floor σ}
  {move : Move σ} {calls : Nat}

def cursorCallsOf (floor : Floor σ) : Move σ → Nat
  | .take id =>
      match floor.posts[id]? with
      | some (.busy _ worker false) => if worker.stage.isFetch then 1 else 0
      | _ => 0
  | _ => 0

/-- The calls of the cursor in the moves of a run that can be made. -/
def cursorCalls (workload : Workload) (backend : Backend σ) : List (Move σ) → Floor σ → Nat
  | [], _ => 0
  | move :: moves, floor =>
      match floor.step workload backend move with
      | none => cursorCalls workload backend moves floor
      | some next => floor.cursorCallsOf move + cursorCalls workload backend moves next

/-- After so many calls the cursor stands so many indices on, and all it gave are covered. -/
structure Handed (workload : Workload) (calls : Nat) (floor : Floor σ) : Prop where
  next : floor.world.shared.cursor.next = workload.insertStart + UInt64.ofNat calls
  bounded : floor.Bounded workload
  taken : ∀ id index, .took id index ∈ floor.history → workload.Covers index

/-- Too few calls for the cursor to come round to the start again. -/
def AreFew (workload : Workload) (calls : Nat) : Prop :=
  calls < UInt64.size - workload.insertStart.toNat - workload.insertCount.toNat

theorem handed_opening (prepared : workload.IsPrepared) (store : σ) (crew : Nat) :
    (opening workload store crew).Handed workload 0 where
  next := (UInt64.add_zero _).symm
  bounded := .ofOpening prepared store crew
  taken _ _ member := nomatch member

theorem Handed.start_le (handed : floor.Handed workload calls) (few : AreFew workload calls) :
    workload.insertStart ≤ floor.world.shared.cursor.next := by
  have size : UInt64.size = 18446744073709551616 := rfl
  unfold AreFew at few
  rw [handed.next, UInt64.le_iff_toNat_le, Word.toNat_add_ofNat (by omega)]
  exact Nat.le_add_right _ _

/-- The index that the next call gets, if it gets one. -/
theorem Handed.covers_take (handed : floor.Handed workload calls) (prepared : workload.IsPrepared)
    (few : AreFew workload calls) {index : UInt64}
    (taken : floor.world.shared.cursor.take.1 = some index) : workload.Covers index := by
  obtain ⟨same, within⟩ := Cursor.of_take taken
  have below := UInt64.lt_iff_toNat_lt.mp within
  rw [handed.bounded.inRange.finish] at below
  exact prepared.covers (same ▸ handed.start_le few) below

/-- What a step shows of an index is what the cursor gave. -/
theorem took_of_stride {id other : Nat} {call : Call} {worker after : Worker} {index : UInt64}
    {world nextWorld : World σ}
    (stride : Worker.Stride workload backend world worker.words worker.stage nextWorld after)
    (shown : .took other index ∈ Event.shown id call worker.stage after.stage) :
    world.shared.cursor.take.1 = some index := by
  obtain ⟨stage, words⟩ := worker
  cases stride with
  | fetches taken found =>
      cases List.mem_singleton.mp shown
      exact taken
  | _ => simp [Event.shown] at shown

theorem Handed.turn (handed : floor.Handed workload calls) (prepared : workload.IsPrepared)
    (few : AreFew workload calls) (turn : Turn workload backend floor move next) :
    next.Handed workload (calls + floor.cursorCallsOf move) := by
  have bounded := handed.bounded.turn prepared turn
  cases turn with
  | calls free | asks busy asked admitted =>
      refine ⟨handed.next, bounded, fun id index member => ?_⟩
      rcases List.mem_cons.mp member with equal | before
      · cases equal
      · exact handed.taken id index before
  | takes busy ready stride =>
      rename_i id call worker waiting world after
      have counted : floor.cursorCallsOf (.take id) = if worker.stage.isFetch then 1 else 0 := by
        unfold cursorCallsOf
        simp only [busy]
        obtain ⟨stage, words⟩ := worker
        cases waiting with
        | false => rfl
        | true => cases stage <;> first | rfl | cases ready
      refine ⟨?_, bounded, fun other index member => ?_⟩
      · rw [counted, UInt64.ofNat_add, ← UInt64.add_assoc, ← handed.next]
        exact stride.next_eq
      · rcases List.mem_append.mp member with new | before
        · rcases List.mem_append.mp new with shown | heard
          · exact handed.covers_take prepared few (took_of_stride stride shown)
          · unfold Event.heard at heard
            split at heard
            · cases heard
            · cases List.mem_singleton.mp heard
        · exact handed.taken other index before
  | outside => exact ⟨handed.next, bounded, handed.taken⟩

theorem handed_run (prepared : workload.IsPrepared) (moves : List (Move σ))
    (handed : floor.Handed workload calls)
    (few : AreFew workload (calls + cursorCalls workload backend moves floor)) :
    (run workload backend moves floor).Handed workload
      (calls + cursorCalls workload backend moves floor) := by
  induction moves generalizing floor calls with
  | nil => exact handed
  | cons move moves ih =>
      have now : AreFew workload calls := Nat.lt_of_le_of_lt (Nat.le_add_right _ _) few
      unfold cursorCalls at few ⊢
      unfold run
      cases made : floor.step workload backend move with
      | none =>
          rw [made] at few
          exact ih handed few
      | some next =>
          rw [made] at few
          dsimp only [Option.getD_some] at few ⊢
          rw [← Nat.add_assoc] at few ⊢
          exact ih (handed.turn prepared now (step_turn made)) few

/--
At every moment of every run with too few calls of the cursor to bring it round: each index
it gave or is about to give, and each key that a worker is about to draw, whatever its words
are, lies in the insert range and has a record, and the newest acknowledged index is in the
range too.
-/
theorem indices_stay_in_range (config : Config) (dataset : Dataset) (workload : Workload)
    (made : Workload.prepare config dataset = .ok workload)
    (small : dataset.size < 9007199254740992) (backend : Backend σ) (store : σ) (crew : Nat)
    (moves : List (Move σ))
    (few : cursorCalls workload backend moves (opening workload store crew) <
      UInt64.size - workload.insertStart.toNat - workload.insertCount.toNat) :
    let floor := run workload backend moves (opening workload store crew)
    (∀ id index, .took id index ∈ floor.history → workload.Covers index) ∧
    (∀ index, floor.world.shared.cursor.take.1 = some index → workload.Covers index) ∧
    (∀ call kind acknowledged words waiting,
      .busy call ⟨.drawKey kind acknowledged, words⟩ waiting ∈ floor.posts →
        ∀ drawing key, (workload.keys.next acknowledged drawing).1 = some key →
          workload.Covers key) ∧
    ∀ last, floor.world.shared.acknowledged.last? = some last →
      workload.insertStart ≤ last ∧
        last.toNat ≤ workload.insertStart.toNat + workload.insertCount.toNat - 1 := by
  obtain ⟨prepared, rfl, rfl⟩ := Workload.isPrepared_of_prepare made
  intro floor
  have counts : workload.CountsKeys := Or.inr (Nat.le_of_lt small)
  have handed := handed_run prepared moves (handed_opening prepared store crew)
    (by rwa [Nat.zero_add])
  rw [Nat.zero_add] at handed
  refine ⟨handed.taken, fun index => handed.covers_take prepared few, ?_, fun last marked => ?_⟩
  · intro call kind acknowledged words waiting busy drawing key drawn
    cases acknowledged with
    | none => cases drawn
    | some last =>
        obtain ⟨begun, below⟩ := handed.bounded.bounds _ _ _ busy
        obtain ⟨start, newest⟩ := Workload.next_mem prepared counts begun below drawn
        exact prepared.covers start
          (Nat.lt_of_le_of_lt (UInt64.le_iff_toNat_le.mp newest) below)
  · obtain ⟨start, below⟩ := handed.bounded.inRange.last prepared marked
    exact ⟨start, Nat.le_sub_one_of_lt below⟩

/-- Two workers insert a record each, and one of them then comes to draw a key. -/
def insertsAndKey : List (Move (List Bool)) :=
  [.call 0 .insert (.ofSeed 0), .call 1 .insert (.ofSeed 1), .ask 0, .take 0, .take 1, .take 0,
    .take 1, .take 0, .ask 0, .ask 1, .take 1, .take 0, .take 1, .take 0,
    .call 1 .transaction ⟨fun _ => 0, 0⟩, .take 1, .take 1]

theorem cursorCalls_insertsAndKey :
    cursorCalls twoRecordsWorkload .hesitant insertsAndKey
      (opening twoRecordsWorkload [] 2) = 2 := by
  decide +kernel

theorem run_insertsAndKey :
    let floor := run twoRecordsWorkload .hesitant insertsAndKey (opening twoRecordsWorkload [] 2)
    floor.posts = [.idle, .busy .transaction ⟨.drawKey .knn (some 1), ⟨fun _ => 0, 1⟩⟩ false] ∧
      floor.history[9]? = some (.took 0 1) ∧ floor.history[10]? = some (.took 1 0) :=
  ⟨rfl, rfl, rfl⟩

/-- Two workers on two records take an index each, and the key that is drawn is the first one. -/
theorem indices_stay_in_range_two_workers :
    let start := opening twoRecordsWorkload [] 2
    let floor := run twoRecordsWorkload .hesitant insertsAndKey start
    Workload.prepare oneRecordConfig twoRecords = .ok twoRecordsWorkload ∧
      twoRecords.size < 9007199254740992 ∧
      cursorCalls twoRecordsWorkload .hesitant insertsAndKey start = 2 ∧
      (.took 1 0 ∈ floor.history ∧ twoRecordsWorkload.Covers 0) ∧
      (.took 0 1 ∈ floor.history ∧ twoRecordsWorkload.Covers 1) ∧
      floor.posts = [.idle, .busy .transaction ⟨.drawKey .knn (some 1), ⟨fun _ => 0, 1⟩⟩ false] ∧
      ∃ key, (twoRecordsWorkload.keys.next (some 1) ⟨fun _ => 0, 1⟩).1 = some key ∧
        twoRecordsWorkload.Covers key := by
  have few : cursorCalls twoRecordsWorkload .hesitant insertsAndKey
      (opening twoRecordsWorkload [] 2) < UInt64.size - twoRecordsWorkload.insertStart.toNat -
        twoRecordsWorkload.insertCount.toNat := by
    rw [cursorCalls_insertsAndKey]
    decide
  obtain ⟨taken, -, drawn, -⟩ := indices_stay_in_range oneRecordConfig twoRecords
    twoRecordsWorkload prepare_twoRecords (by decide) .hesitant [] 2 insertsAndKey few
  obtain ⟨posts, second, first⟩ := run_insertsAndKey
  have key : (twoRecordsWorkload.keys.next (some 1) ⟨fun _ => 0, 1⟩).1 = some 0 := rfl
  have busy := drawn .transaction .knn (some 1) ⟨fun _ => 0, 1⟩ false
    (posts ▸ List.mem_cons_of_mem _ List.mem_cons_self)
  exact ⟨prepare_twoRecords, by decide, cursorCalls_insertsAndKey,
    ⟨List.mem_of_getElem? first, taken 1 0 (List.mem_of_getElem? first)⟩,
    ⟨List.mem_of_getElem? second, taken 0 1 (List.mem_of_getElem? second)⟩, posts,
    0, key, busy _ 0 key⟩

end Floor

end SpatialWorkload
