import Mathlib.Data.ENat.Basic
import SpatialWorkload.Proofs.Run.Completion
import SpatialWorkload.Proofs.Run.Trail

/-!
# Inserts that are tried again

An insert call of one worker while nobody else moves.  How it goes is settled by how often
the backend refuses the record before it takes it: the record is asked for again up to the
retry limit, after one pause each time, and is then acknowledged or given up.  A pause that
is too long to be one ends the call before either.
-/

namespace SpatialWorkload

/-- So many answers are refusals, and the next one, if there are no more of them, is none. -/
structure FailsFirst (answers : Nat → Answer Unit) (failures : ℕ∞) : Prop where
  refused : ∀ attempt : Nat, attempt < failures →
    ∃ error, answers attempt = .error (.refused error)
  succeeds : ∀ attempt : Nat, failures = attempt → answers attempt = .ok ()

namespace FailsFirst

variable {answers : Nat → Answer Unit} {failures : ℕ∞}

/-- Every sequence of answers that come back is one of these. -/
theorem exists_failures (comesBack : ∀ attempt, answers attempt ≠ .error .aborted) :
    ∃ failures, FailsFirst answers failures := by
  classical
  have refused {attempt : Nat} (fails : answers attempt ≠ .ok ()) :
      ∃ error, answers attempt = .error (.refused error) := by
    rcases answer : answers attempt with (error | _) | _
    · exact ⟨error, rfl⟩
    · exact absurd answer (comesBack attempt)
    · exact absurd answer fails
  by_cases succeeds : ∃ attempt, answers attempt = .ok ()
  · refine ⟨(Nat.find succeeds : Nat), fun attempt before => ?_, fun attempt first => ?_⟩
    · exact refused (Nat.find_min succeeds (Nat.cast_lt.mp before))
    · exact Nat.cast_inj.mp first ▸ Nat.find_spec succeeds
  · refine ⟨⊤, fun attempt _ => refused (not_exists.mp succeeds attempt), fun attempt top => ?_⟩
    exact absurd top.symm (ENat.natCast_ne_top attempt)

/-- The first answer is a success, or a refusal with one failure less behind it. -/
theorem zero_or_succ (fails : FailsFirst answers failures) :
    (failures = 0 ∧ answers 0 = .ok ()) ∨
      ∃ fewer, failures = fewer + 1 ∧ (∃ error, answers 0 = .error (.refused error)) ∧
        FailsFirst (fun attempt => answers (attempt + 1)) fewer := by
  by_cases none : failures = 0
  · exact .inl ⟨none, fails.succeeds 0 none⟩
  · obtain ⟨fewer, rfl⟩ : ∃ fewer, failures = fewer + 1 := by
      refine ⟨failures - 1, (tsub_add_cancel_of_le ?_).symm⟩
      exact Order.one_le_iff_ne_zero.mpr none
    refine .inr ⟨fewer, rfl, fails.refused 0 (pos_of_ne_zero none), fun attempt before => ?_,
      fun attempt first => ?_⟩
    · refine fails.refused (attempt + 1) ?_
      rw [Nat.cast_add, Nat.cast_one]
      exact (ENat.add_lt_add_iff_right ENat.one_ne_top).mpr before
    · exact fails.succeeds (attempt + 1) (by rw [first, Nat.cast_add, Nat.cast_one])

end FailsFirst

noncomputable def retriesOf (failures : ℕ∞) (limit : Nat) : Nat :=
  (min failures limit).toNat

@[simp]
theorem retriesOf_zero (limit : Nat) : retriesOf 0 limit = 0 := by
  simp [retriesOf]

@[simp]
theorem retriesOf_of_spent (failures : ℕ∞) : retriesOf failures 0 = 0 := by
  simp [retriesOf]

@[simp]
theorem retriesOf_succ (failures : ℕ∞) (limit : Nat) :
    retriesOf (failures + 1) (limit + 1) = retriesOf failures limit + 1 := by
  unfold retriesOf
  rw [Nat.cast_add, Nat.cast_one, min_add_add_right, ENat.toNat_add _ ENat.one_ne_top]
  · rfl
  · exact ne_top_of_le_ne_top (ENat.natCast_ne_top limit) (min_le_right _ _)

namespace Backend

variable {σ : Type} (backend : Backend σ) (table : String) (position : Position Float)
  (store : σ)

def storeAfter (attempts : Nat) : σ :=
  (fun store => (backend.insert table position.id position store).2)^[attempts] store

def insertAnswer (attempts : Nat) : Answer Unit :=
  (backend.insert table position.id position (backend.storeAfter table position store attempts)).1

variable {backend table position store}

theorem insert_eq {answer : Answer Unit}
    (answers : backend.insertAnswer table position store 0 = answer) :
    backend.insert table position.id position store =
      (answer, backend.storeAfter table position store 1) :=
  Prod.ext answers rfl

end Backend

def Tally.afterInsert (tally : Tally) (retries : Nat) (inserted : Bool) : Tally :=
  let retried := { tally with insertRetries := tally.insertRetries + UInt64.ofNat retries }
  if inserted then
    { retried with insert := { tally.insert with success := tally.insert.success + 1 } }
  else
    { retried with
      insert := { tally.insert with failure := tally.insert.failure + 1 }
      abandonedInserts := tally.abandonedInserts + 1 }

theorem Tally.afterInsert_success (tally : Tally) :
    tally.afterInsert 0 true = tally.record .insert .success := by
  simp [afterInsert, record, Count.record, Status.isOk]

theorem Tally.afterInsert_failure (tally : Tally) (error : StoreError) :
    tally.afterInsert 0 false = (tally.record .insert (Status.ofError error)).recordAbandoned := by
  cases error <;> simp [afterInsert, record, recordAbandoned, Count.record, Status.ofError,
    Status.isOk]

theorem Tally.afterInsert_recordRetry (tally : Tally) (retries : Nat) (inserted : Bool) :
    tally.recordRetry.afterInsert retries inserted = tally.afterInsert (retries + 1) inserted := by
  have counted : tally.insertRetries + 1 + UInt64.ofNat retries =
      tally.insertRetries + UInt64.ofNat (retries + 1) := by
    rw [UInt64.ofNat_add, UInt64.add_assoc, UInt64.add_comm 1]
    rfl
  cases inserted <;> simp [afterInsert, recordRetry, counted]

namespace World

variable {σ : Type} (workload : Workload) (backend : Backend σ) (world : World σ)

/-- The world behind the gate, where the first worker has reset the table. -/
def pastGate : World σ :=
  match world.shared.gate.bar with
  | .closed =>
      { world with
        store := (backend.reset workload.config.table world.store).2
        shared := { world.shared with
          gate := world.shared.gate.lift.raise, tally := world.shared.tally.recordReset } }
  | _ => world

def fetched : World σ :=
  { world with shared := { world.shared with cursor := world.shared.cursor.take.2 } }

def retried (position : Position Float) (pause : Duration) : World σ where
  shared := { world.shared with tally := world.shared.tally.recordRetry }
  store := backend.storeAfter workload.config.table position world.store 1
  pauses := world.pauses ++ [pause]

def afterInsert (index : UInt64) (position : Position Float) (pauses : List Duration)
    (inserted : Bool) : World σ where
  shared := { world.shared with
    tally := world.shared.tally.afterInsert pauses.length inserted
    acknowledged :=
      if inserted then world.shared.acknowledged.acknowledge index
      else world.shared.acknowledged }
  store := backend.storeAfter workload.config.table position world.store (pauses.length + 1)
  pauses := world.pauses ++ pauses

theorem cursor_pastGate :
    (world.pastGate workload backend).shared.cursor = world.shared.cursor := by
  unfold pastGate
  split <;> rfl

theorem afterInsert_retried (index : UInt64) (position : Position Float) (pause : Duration)
    (pauses : List Duration) (inserted : Bool) :
    (world.retried workload backend position pause).afterInsert workload backend index position
        pauses inserted =
      world.afterInsert workload backend index position (pause :: pauses) inserted := by
  simp only [afterInsert, retried, Tally.afterInsert_recordRetry, List.append_assoc,
    List.singleton_append, List.length_cons]
  rfl

end World

/-- The answers behind a retry are those that were left. -/
theorem FailsFirst.retried {σ : Type} {workload : Workload} {backend : Backend σ}
    {world : World σ} {position : Position Float} {fewer : ℕ∞}
    (later : FailsFirst (fun attempt => backend.insertAnswer workload.config.table position
      world.store (attempt + 1)) fewer) (pause : Duration) :
    FailsFirst (backend.insertAnswer workload.config.table position
      (world.retried workload backend position pause).store) fewer :=
  later

def gateActs (workload : Workload) (gate : ResetGate) : List Act :=
  if gate.bar = .closed then [.asks (.reset workload.config.table)] else []

def Stage.failures : Stage → Nat
  | attempt _ _ failed => failed
  | _ => 0

def attemptActs (request : Request) (pauses : List Duration) : List Act :=
  .asks request :: pauses.flatMap fun pause => [.pauses pause, .asks request]

namespace Worker

variable {σ : Type} {workload : Workload} {backend : Backend σ} {world : World σ}
  {words : Words} {index : UInt64} {position : Position Float} {failures : ℕ∞}

theorem leads_gate (backend : Backend σ) (words : Words)
    (settled : world.shared.gate.bar ≠ .broken)
    (comesBack : world.shared.gate.bar = .closed →
      (backend.reset workload.config.table world.store).1 ≠ .error .aborted) :
    Leads workload backend world ⟨.gate, words⟩ (gateActs workload world.shared.gate)
      (world.pastGate workload backend) ⟨.fetch, words⟩ := by
  cases bar : world.shared.gate.bar with
  | broken => exact absurd bar settled
  | lifted =>
      have course : Leads workload backend world ⟨.gate, words⟩ _ world ⟨.fetch, words⟩ :=
        .of_stride (.passes bar) rfl
      simpa [request?, gateActs, World.pastGate, bar] using course
  | closed =>
      have resets : Stride workload backend world words .gate _ ⟨.flag, words⟩ :=
        .resets bar rfl (comesBack bar)
      have course := (Leads.of_stride resets rfl).trans (.of_stride .raises rfl)
      simpa [request?, gateActs, World.pastGate, bar] using course

theorem leads_fetch (backend : Backend σ) (words : Words)
    (taken : world.shared.cursor.take.1 = some index)
    (found : workload.dataset.get? index = some position) :
    Leads workload backend world ⟨.fetch, words⟩ [] world.fetched
      ⟨.attempt index position 0, words⟩ :=
  .of_stride (.fetches taken found) rfl

theorem leads_success (words : Words) (index : UInt64) (failed : Nat)
    (answered : backend.insertAnswer workload.config.table position world.store 0 = .ok ()) :
    Leads workload backend world ⟨.attempt index position failed, words⟩
      (attemptActs (.insert workload.config.table position.id position) [])
      (world.afterInsert workload backend index position [] true) ⟨.returned true, words⟩ := by
  have inserts : Stride workload backend world words (.attempt index position failed) _
      ⟨.acknowledge index, words⟩ := .inserts (Backend.insert_eq answered)
  have course := (Leads.of_stride inserts rfl).trans (.of_stride .acknowledges rfl)
  simpa [request?, attemptActs, World.afterInsert, Tally.afterInsert_success, record] using course

theorem leads_abandoned (words : Words) (index : UInt64) {failed : Nat} {error : StoreError}
    (spent : workload.config.retryLimit.toNat ≤ failed)
    (answered : backend.insertAnswer workload.config.table position world.store 0 =
      .error (.refused error)) :
    Leads workload backend world ⟨.attempt index position failed, words⟩
      (attemptActs (.insert workload.config.table position.id position) [])
      (world.afterInsert workload backend index position [] false) ⟨.returned false, words⟩ := by
  have abandons : Stride workload backend world words (.attempt index position failed) _
      ⟨.returned false, words⟩ := .abandons (Backend.insert_eq answered) spent
  have course := Leads.of_stride abandons rfl
  simpa [request?, attemptActs, World.afterInsert, Tally.afterInsert_failure _ error]
    using course

theorem leads_retry {rest : Words} {pause : Duration} {error : StoreError} (index : UInt64)
    {failed : Nat} (left : failed < workload.config.retryLimit.toNat)
    (answered : backend.insertAnswer workload.config.table position world.store 0 =
      .error (.refused error))
    (drawn : workload.drawPause words = (some pause, rest)) :
    Leads workload backend world ⟨.attempt index position failed, words⟩
      [.asks (.insert workload.config.table position.id position), .pauses pause]
      (world.retried workload backend position pause)
      ⟨.attempt index position (failed + 1), rest⟩ := by
  have retries : Stride workload backend world words (.attempt index position failed)
      (world.retried workload backend position pause)
      ⟨.attempt index position (failed + 1), rest⟩ :=
    .retries (Backend.insert_eq answered) left drawn
  have course := Leads.strides retries .stays
  simpa [acts, request?, World.retried] using course

section

variable (index : UInt64) {left failed : Nat}
  (last : failed + left = workload.config.retryLimit.toNat)
  (fails : FailsFirst (backend.insertAnswer workload.config.table position world.store) failures)

include last fails

/-- With every pause drawn the attempts end in a success or with the limit. -/
theorem leads_attempts
    (drawn : (workload.drawPauses (retriesOf failures left) words).1.length =
      retriesOf failures left) :
    Leads workload backend world ⟨.attempt index position failed, words⟩
      (attemptActs (.insert workload.config.table position.id position)
        (workload.drawPauses (retriesOf failures left) words).1)
      (world.afterInsert workload backend index position
        (workload.drawPauses (retriesOf failures left) words).1 (decide (failures ≤ left)))
      ⟨.returned (decide (failures ≤ left)),
        (workload.drawPauses (retriesOf failures left) words).2⟩ := by
  induction left generalizing failed failures world words with
  | zero =>
      rcases fails.zero_or_succ with ⟨rfl, answered⟩ | ⟨fewer, rfl, ⟨error, answered⟩, -⟩
      · simpa [Workload.drawPauses] using leads_success words index failed answered
      · simpa [Workload.drawPauses] using leads_abandoned words index last.ge answered
  | succ left ih =>
      rcases fails.zero_or_succ with ⟨rfl, answered⟩ | ⟨fewer, rfl, ⟨error, answered⟩, later⟩
      · simpa [Workload.drawPauses] using leads_success words index failed answered
      · -- A retry takes one off the failures and one off the attempts that are left.
        rw [retriesOf_succ] at drawn ⊢
        rcases drew : workload.drawPause words with ⟨_ | pause, rest⟩
        · rw [Workload.drawPauses_of_none drew] at drawn
          cases drawn
        · rw [Workload.drawPauses_of_some drew] at drawn ⊢
          have within : failed < workload.config.retryLimit.toNat := by omega
          have retry := leads_retry index within answered drew
          have course := ih (by omega : failed + 1 + left = _) (later.retried pause)
            (Nat.succ.inj drawn)
          have same : decide (fewer + 1 ≤ ((left + 1 : Nat) : ℕ∞)) = decide (fewer ≤ left) := by
            simp
          rw [same, ← World.afterInsert_retried]
          exact retry.trans course

/-- A pause that is lost ends the attempts and the call. -/
theorem leads_lost
    (lost : (workload.drawPauses (retriesOf failures left) words).1.length <
      retriesOf failures left) :
    ∃ next rest, Leads workload backend world ⟨.attempt index position failed, words⟩
      (attemptActs (.insert workload.config.table position.id position)
        (workload.drawPauses (retriesOf failures left) words).1) next ⟨.aborted, rest⟩ := by
  induction left generalizing failed failures world words with
  | zero => simp at lost
  | succ left ih =>
      rcases fails.zero_or_succ with ⟨rfl, -⟩ | ⟨fewer, rfl, ⟨error, answered⟩, later⟩
      · simp at lost
      · rw [retriesOf_succ] at lost ⊢
        rcases drew : workload.drawPause words with ⟨_ | pause, rest⟩
        · rw [Workload.drawPauses_of_none drew]
          have loses : Stride workload backend world words (.attempt index position failed) _
              ⟨.aborted, rest⟩ := .pauseLost (Backend.insert_eq answered) (by omega) drew
          exact ⟨_, rest, .of_stride loses rfl⟩
        · rw [Workload.drawPauses_of_some drew] at lost ⊢
          have within : failed < workload.config.retryLimit.toNat := by omega
          have retry := leads_retry index within answered drew
          obtain ⟨next, remaining, course⟩ := ih (by omega : failed + 1 + left = _)
            (later.retried pause) (Nat.lt_of_succ_lt_succ lost)
          exact ⟨next, remaining, retry.trans course⟩

end

theorem Stride.failures_le {next : World σ} {stage : Stage} {after : Worker}
    (stride : Stride workload backend world words stage next after)
    (before : stage.failures ≤ workload.config.retryLimit.toNat) :
    after.stage.failures ≤ workload.config.retryLimit.toNat := by
  cases stride with
  | retries asked left => exact left
  | _ => exact Nat.zero_le _

/-- At no step of a call have more attempts failed than the retry limit says. -/
theorem failures_finish_le (workload : Workload) (backend : Backend σ) (steps : Nat)
    (world : World σ) (worker : Worker)
    (before : worker.stage.failures ≤ workload.config.retryLimit.toNat) :
    (finish workload backend steps world worker).2.stage.failures ≤
      workload.config.retryLimit.toNat := by
  induction steps generalizing world worker with
  | zero => exact before
  | succ steps ih =>
      rw [finish]
      split
      · exact before
      · rename_i going
        exact ih _ _ ((step_stride (Bool.eq_false_iff.mpr going)).failures_le before)

section

variable (words : Words) (settled : world.shared.gate.bar ≠ .broken)
  (comesBack : world.shared.gate.bar = .closed →
    (backend.reset workload.config.table world.store).1 ≠ .error .aborted)
  (taken : world.shared.cursor.take.1 = some index)
  (found : workload.dataset.get? index = some position)

include settled comesBack taken found

theorem leads_first_attempt :
    Leads workload backend world ⟨Call.insert.firstStage, words⟩
      (gateActs workload world.shared.gate) (world.pastGate workload backend).fetched
      ⟨.attempt index position 0, words⟩ := by
  have gate := leads_gate backend words settled comesBack
  have fetch : Leads workload backend (world.pastGate workload backend) ⟨.fetch, words⟩ []
      (world.pastGate workload backend).fetched ⟨.attempt index position 0, words⟩ :=
    leads_fetch backend words (by rwa [World.cursor_pastGate]) found
  have course := gate.trans fetch
  rwa [List.append_nil] at course

/--
An insert call whose record the backend refuses so many times, up to a success or for good.
The record is asked for as often as it is refused before it is taken, and once more, but
never more often than the retry limit allows; a pause stands before each time but the
first.  It is acknowledged if it is taken within the limit, and given up if not, and either
is counted.  The call fails only where a pause is too long to be one, as six fifths of the
interval then are.
-/
theorem insert_asks_within_limit
    (fails : FailsFirst (backend.insertAnswer workload.config.table position
      (world.pastGate workload backend).store) failures) :
    let limit := workload.config.retryLimit.toNat
    let pauses := (workload.drawPauses (retriesOf failures limit) words).1
    let outcome := perform workload backend .insert world words
    callTrail workload backend .insert world words =
        gateActs workload world.shared.gate ++
          attemptActs (.insert workload.config.table position.id position) pauses ∧
      (pauses.length = retriesOf failures limit →
        outcome.2.stage = .returned (decide (failures ≤ limit)) ∧
        outcome.1 = (world.pastGate workload backend).fetched.afterInsert workload backend index
          position pauses (decide (failures ≤ limit))) ∧
      (pauses.length ≠ retriesOf failures limit →
        outcome.2.stage = .aborted ∧
        Duration.limit ≤ 1.2 * workload.config.retryInterval.toSeconds) ∧
      ∀ steps, (finish workload backend steps world ⟨.gate, words⟩).2.stage.failures ≤ limit := by
  intro limit pauses outcome
  have start := leads_first_attempt words settled comesBack taken found
  replace fails : FailsFirst (backend.insertAnswer workload.config.table position
      (world.pastGate workload backend).fetched.store) failures := fails
  have most := workload.length_drawPauses_le (retriesOf failures limit) words
  have bounded (steps : Nat) := failures_finish_le workload backend
    steps world ⟨.gate, words⟩ (Nat.zero_le _)
  by_cases drawn : pauses.length = retriesOf failures limit
  · have attempts := leads_attempts index (Nat.zero_add limit) fails drawn
    obtain ⟨performed, done⟩ := (start.trans attempts).perform_eq rfl
    refine ⟨done, fun _ => ?_, fun some => absurd drawn some, bounded⟩
    exact ⟨congrArg (·.2.stage) performed, congrArg Prod.fst performed⟩
  · obtain ⟨next, rest, attempts⟩ := leads_lost index (Nat.zero_add limit) fails
      (Nat.lt_of_le_of_ne most drawn)
    obtain ⟨performed, done⟩ := (start.trans attempts).perform_eq rfl
    refine ⟨done, fun all => absurd all drawn, fun _ => ?_, bounded⟩
    refine ⟨congrArg (·.2.stage) performed, ?_⟩
    by_contra short
    exact drawn (Workload.length_drawPauses short _ words)

end

end Worker

def Backend.failingFirst (failures : Nat) : Backend Nat where
  name := "failing first"
  openSession store := (.ok (), store)
  reset _ store := (.ok (), store)
  insert _ _ _ store :=
    (if store < failures then .error (.refused (.backend "refused")) else .ok (), store + 1)
  scan _ _ store := (.ok [], store)

theorem Backend.failsFirst_failingFirst (failures : Nat) (table : String)
    (position : Position Float) :
    FailsFirst ((failingFirst failures).insertAnswer table position 0) failures := by
  have counted (attempts : Nat) :
      (failingFirst failures).storeAfter table position 0 attempts = attempts := by
    induction attempts with
    | zero => rfl
    | succ attempts ih => exact (Function.iterate_succ_apply' ..).trans (congrArg Nat.succ ih)
  constructor
  · intro attempt before
    refine ⟨.backend "refused", ?_⟩
    rw [insertAnswer, counted]
    exact if_pos (Nat.cast_lt.mp before)
  · intro attempt first
    rw [insertAnswer, counted]
    exact if_neg (Nat.cast_inj.mp first).not_gt

namespace Worker

/-- A record that is refused twice is taken the third time, as the retry limit just allows. -/
theorem insert_asks_within_limit_third_time :
    ∃ config workload, Config.ofProperties (.ofList [("insertionretrylimit", "2")]) = .ok config ∧
      Workload.prepare config ⟨#[.vertex 39.9 116.4]⟩ = .ok workload ∧
      ∀ words,
        let world : World Nat := ⟨workload.initialShared, 0, []⟩
        let request := Request.insert config.table "" (.vertex 39.9 116.4)
        let outcome := perform workload (.failingFirst 2) .insert world words
        ∃ first second, callTrail workload (.failingFirst 2) .insert world words =
            [.asks (.reset config.table), .asks request, .pauses first, .asks request,
              .pauses second, .asks request] ∧
          outcome.2.stage = .returned true ∧ outcome.1.shared.tally.insert = ⟨1, 0⟩ ∧
          outcome.1.shared.tally.insertRetries = 2 ∧
          outcome.1.shared.acknowledged.last? = some 0 := by
  obtain ⟨config, workload, accepted, made, limit, short, initial, taken, found⟩ :
      ∃ config workload, Config.ofProperties (.ofList [("insertionretrylimit", "2")]) =
          .ok config ∧ Workload.prepare config ⟨#[.vertex 39.9 116.4]⟩ = .ok workload ∧
        config.retryLimit = 2 ∧
        ¬Duration.limit ≤ 1.2 * config.retryInterval.toSeconds ∧
        workload.initialShared = ⟨.ofRange 0 1, .ofStart 0, .fresh, .zero⟩ ∧
        (Cursor.ofRange 0 1).take.1 = some 0 ∧
        workload.dataset.get? 0 = some (.vertex 39.9 116.4) :=
    ⟨_, _, rfl, rfl, rfl, by decide +kernel, rfl, rfl, rfl⟩
  obtain ⟨-, rfl, -⟩ := Workload.isPrepared_of_prepare made
  refine ⟨workload.config, workload, accepted, made, fun words => ?_⟩
  rw [initial]
  intro world request outcome
  have retries : retriesOf ((2 : Nat) : ℕ∞) workload.config.retryLimit.toNat = 2 := by
    rw [limit]
    simp [retriesOf]
  have settled : world.shared.gate.bar ≠ .broken := Bar.noConfusion
  obtain ⟨trail, returns, -, -⟩ := insert_asks_within_limit words settled
    (fun _ aborted => by cases aborted) taken found
    (Backend.failsFirst_failingFirst 2 _ _)
  have drawn := Workload.length_drawPauses short 2 words
  rw [retries] at trail returns
  obtain ⟨stage, ended⟩ := returns drawn
  obtain ⟨first, second, pauses⟩ := List.length_eq_two.mp drawn
  rw [pauses] at trail ended
  have within : decide (((2 : Nat) : ℕ∞) ≤ workload.config.retryLimit.toNat) = true := by
    rw [limit]
    decide
  rw [within] at stage ended
  refine ⟨first, second, trail, stage, ?_⟩
  have marked : ((Watermark.ofStart 0).acknowledge 0).last? = some 0 := by decide
  rw [show outcome.1 = _ from ended]
  exact ⟨rfl, rfl, marked⟩

/-- A retry interval is accepted whose longest pause is none, and the first retry aborts. -/
theorem insert_aborts_at_pause :
    ∃ config workload, Config.ofProperties (.ofList [
        ("insertionretryinterval", "18446744073709549568"), ("insertionretrylimit", "1")]) =
          .ok config ∧
      Workload.prepare config ⟨#[.vertex 39.9 116.4]⟩ = .ok workload ∧
      FailsFirst ((Backend.failingFirst 1).insertAnswer config.table (.vertex 39.9 116.4) 0) 1 ∧
      (perform workload (.failingFirst 1) .insert ⟨workload.initialShared, 0, []⟩
        Words.allOnes).2.stage = .aborted := by
  obtain ⟨config, workload, accepted, made, limit, long, initial, taken, found⟩ :
      ∃ config workload, Config.ofProperties (.ofList [
          ("insertionretryinterval", "18446744073709549568"), ("insertionretrylimit", "1")]) =
            .ok config ∧ Workload.prepare config ⟨#[.vertex 39.9 116.4]⟩ = .ok workload ∧
        config.retryLimit = 1 ∧
        Duration.limit ≤ 1.2 * config.retryInterval.toSeconds ∧
        workload.initialShared = ⟨.ofRange 0 1, .ofStart 0, .fresh, .zero⟩ ∧
        (Cursor.ofRange 0 1).take.1 = some 0 ∧
        workload.dataset.get? 0 = some (.vertex 39.9 116.4) :=
    ⟨_, _, rfl, rfl, rfl, by decide +kernel, rfl, rfl, rfl⟩
  obtain ⟨-, rfl, -⟩ := Workload.isPrepared_of_prepare made
  have fails := Backend.failsFirst_failingFirst 1 workload.config.table (.vertex 39.9 116.4)
  refine ⟨workload.config, workload, accepted, made, fails, ?_⟩
  rw [initial]
  have retries : retriesOf 1 workload.config.retryLimit.toNat = 1 := by
    rw [limit]
    simp [retriesOf]
  have lost : (workload.drawPause .allOnes).1 = none := by
    rwa [Workload.drawPause_eq_none_iff, Words.pauseFactor_allOnes]
  have none : (workload.drawPauses 1 .allOnes).1 = [] :=
    congrArg Prod.fst (Workload.drawPauses_of_none (Prod.ext lost rfl) 0)
  let world : World Nat := ⟨⟨.ofRange 0 1, .ofStart 0, .fresh, .zero⟩, 0, []⟩
  have settled : world.shared.gate.bar ≠ .broken := Bar.noConfusion
  have comesBack : world.shared.gate.bar = .closed →
      ((Backend.failingFirst 1).reset workload.config.table world.store).1 ≠ .error .aborted :=
    fun _ aborted => by cases aborted
  have start := leads_first_attempt .allOnes settled comesBack taken found
  replace fails : FailsFirst ((Backend.failingFirst 1).insertAnswer workload.config.table
    (.vertex 39.9 116.4) (world.pastGate workload (.failingFirst 1)).fetched.store) 1 := fails
  have fewer : (workload.drawPauses (retriesOf 1 workload.config.retryLimit.toNat)
      .allOnes).1.length < retriesOf 1 workload.config.retryLimit.toNat := by
    rw [retries, none]
    exact Nat.one_pos
  obtain ⟨next, rest, attempts⟩ := leads_lost 0 (Nat.zero_add _) fails fewer
  exact congrArg (·.2.stage) ((start.trans attempts).perform_eq rfl).1

end Worker

end SpatialWorkload
