import Mathlib.Algebra.BigOperators.Ring.List
import SpatialWorkload.Proofs.Run.Standing
import SpatialWorkload.Run.Phase

/-!
# Phases that come to their end

Every way in which a seat can move, and what follows for a phase under any schedule: each
step brings it closer to its end, so that it comes to a standstill; and where no session was
refused and no worker aborted, every worker then has its result.
-/

namespace SpatialWorkload

namespace Stage

/-- Enough steps for a call to end, after so many failed attempts. -/
def stepsLeft (limit : Nat) : Stage → Nat
  | gate => limit + 5
  | flag => limit + 4
  | fetch => limit + 3
  | attempt _ _ failed => limit - failed + 2
  | acknowledge _ => 1
  | choose => 4
  | readMark _ => 3
  | drawKey .. => 2
  | scan .. => 1
  | returned _ => 0
  | aborted => 0

theorem stepsLeft_firstStage (workload : Workload) (call : Call) :
    call.firstStage.stepsLeft workload.config.retryLimit.toNat ≤ Worker.longestCall workload := by
  cases call <;> simp [Call.firstStage, stepsLeft, Worker.longestCall]

end Stage

theorem Worker.Stride.stepsLeft_lt {σ : Type} {workload : Workload} {backend : Backend σ}
    {world next : World σ} {words : Words} {stage : Stage} {after : Worker}
    (stride : Worker.Stride workload backend world words stage next after) :
    after.stage.stepsLeft workload.config.retryLimit.toNat <
      stage.stepsLeft workload.config.retryLimit.toNat := by
  cases stride <;> simp only [Stage.stepsLeft] <;> omega

namespace Seat

def hasFailed : Seat → Bool
  | waiting _ _ (.error _) => true
  | finished (.error _) => true
  | lost => true
  | _ => false

/-- A worker at work is in the middle of one of its calls. -/
def IsTidy : Seat → Prop
  | working quota succeeded left worker =>
      worker.stage.isOver = false ∧ succeeded + left < quota
  | _ => True

def stepsLeft (workload : Workload) : Seat → Nat
  | opening quota _ => quota * Worker.longestCall workload + 2
  | waiting quota _ _ => quota * Worker.longestCall workload + 1
  | working _ _ left worker =>
      left * Worker.longestCall workload +
        worker.stage.stepsLeft workload.config.retryLimit.toNat
  | finished _ => 0
  | lost => 0

def returned (success : Bool) : Seat → Nat
  | working quota succeeded left _ => if success then succeeded else quota - left - 1 - succeeded
  | finished (.ok share) => if success then share.succeeded else share.failed
  | _ => 0

end Seat

namespace Progress

variable {σ : Type} {workload : Workload} {backend : Backend σ} {call : Call}
  {progress next : Progress σ} {id : Nat}

inductive Advance (workload : Workload) (backend : Backend σ) (call : Call)
    (progress : Progress σ) (id : Nat) : Seat → World σ → Seat → Prop
  | opens {quota : Nat} {words : Words} {store : σ}
      (opened : backend.openSession progress.world.store = (.ok (), store)) :
      Advance workload backend call progress id (.opening quota words)
        { progress.world with store } (.waiting quota words (.ok ()))
  | refused {quota : Nat} {words : Words} {store : σ} {error : StoreError}
      (opened : backend.openSession progress.world.store = (.error (.refused error), store)) :
      Advance workload backend call progress id (.opening quota words)
        { progress.world with store }
        (.waiting quota words (.error (.notOpened id backend.name error)))
  | loses {quota : Nat} {words : Words} {store : σ}
      (opened : backend.openSession progress.world.store = (.error .aborted, store)) :
      Advance workload backend call progress id (.opening quota words)
        { progress.world with store } .lost
  | begins {quota : Nat} {words : Words}
      (arrived : progress.seats.all Seat.hasArrived = true) :
      Advance workload backend call progress id (.waiting quota words (.ok ()))
        progress.world (begin call quota 0 quota words)
  | givesUp {quota : Nat} {words : Words} {error : PhaseError} :
      Advance workload backend call progress id (.waiting quota words (.error error))
        progress.world (.finished (.error error))
  | walks {quota succeeded left : Nat} {worker after : Worker} {world : World σ}
      (stepped : worker.step workload backend progress.world = (world, after))
      (going : after.stage.isOver = false) :
      Advance workload backend call progress id (.working quota succeeded left worker)
        world (.working quota succeeded left after)
  | returns {quota succeeded left : Nat} {worker after : Worker} {world : World σ}
      {success : Bool}
      (stepped : worker.step workload backend progress.world = (world, after))
      (ended : after.stage = .returned success) :
      Advance workload backend call progress id (.working quota succeeded left worker) world
        (begin call quota (succeeded + success.toNat) left after.words)
  | aborts {quota succeeded left : Nat} {worker after : Worker} {world : World σ}
      (stepped : worker.step workload backend progress.world = (world, after))
      (ended : after.stage = .aborted) :
      Advance workload backend call progress id (.working quota succeeded left worker) world
        (.finished (.error .workerAborted))

theorem step_advance (made : progress.step workload backend call id = some next) :
    ∃ seat after, progress.seats[id]? = some seat ∧ next.seats = progress.seats.set id after ∧
      Advance workload backend call progress id seat next.world after := by
  unfold step at made
  cases found : progress.seats[id]? with
  | none =>
      rw [found] at made
      cases made
  | some seat =>
      rw [found] at made
      refine ⟨seat, ?_⟩
      cases seat with
      | opening quota words =>
          cases opened : backend.openSession progress.world.store with
          | mk answer store =>
              simp [seatStep, opened] at made
              subst made
              rcases answer with (error | _) | done
              · exact ⟨_, rfl, rfl, .refused opened⟩
              · exact ⟨_, rfl, rfl, .loses opened⟩
              · exact ⟨_, rfl, rfl, .opens opened⟩
      | waiting quota words opened =>
          by_cases arrived : progress.seats.all Seat.hasArrived = true
          · simp [seatStep, arrived] at made
            subst made
            cases opened with
            | ok => exact ⟨_, rfl, rfl, .begins arrived⟩
            | error error => exact ⟨_, rfl, rfl, .givesUp⟩
          · simp [seatStep, arrived] at made
      | working quota succeeded left worker =>
          cases stepped : worker.step workload backend progress.world with
          | mk world after =>
              simp only [seatStep, stepped, bind, Option.bind, pure, Option.some.injEq] at made
              subst made
              cases ended : after.stage with
              | returned success =>
                  refine ⟨_, rfl, rfl, ?_⟩
                  have counted : (if success then succeeded + 1 else succeeded) =
                      succeeded + success.toNat := by
                    cases success <;> rfl
                  simp only [counted]
                  exact .returns stepped ended
              | aborted => exact ⟨_, rfl, rfl, .aborts stepped ended⟩
              | _ => exact ⟨_, rfl, rfl, .walks stepped (by rw [ended]; rfl)⟩
      | finished result => cases made
      | lost => cases made

theorem isTidy_begin {quota succeeded left : Nat} (within : succeeded + left ≤ quota)
    (words : Words) : (begin call quota succeeded left words).IsTidy := by
  cases left with
  | zero => trivial
  | succ left => exact ⟨by cases call <;> rfl, within⟩

theorem stepsLeft_begin (workload : Workload) (quota succeeded left : Nat) (words : Words) :
    (begin call quota succeeded left words).stepsLeft workload ≤
      left * Worker.longestCall workload := by
  cases left with
  | zero => exact Nat.zero_le _
  | succ left =>
      rw [Nat.succ_mul]
      exact Nat.add_le_add_left (Stage.stepsLeft_firstStage workload call) _

namespace Advance

variable {seat after : Seat} {world : World σ}

theorem isTidy (advance : Advance workload backend call progress id seat world after)
    (tidy : seat.IsTidy) : after.IsTidy := by
  cases advance with
  | begins => exact isTidy_begin (Nat.le_of_eq (Nat.zero_add _)) _
  | walks stepped going => exact ⟨going, tidy.2⟩
  | returns =>
      rename_i success stepped ended
      obtain ⟨-, within⟩ := tidy
      have := success.toNat_le
      exact isTidy_begin (by omega) _
  | _ => trivial

theorem hasFailed (advance : Advance workload backend call progress id seat world after)
    (failed : seat.hasFailed = true) : after.hasFailed = true := by
  cases advance with
  | givesUp => rfl
  | _ => cases failed

/-- Every step is one of the steps left. -/
theorem stepsLeft_lt (advance : Advance workload backend call progress id seat world after)
    (tidy : seat.IsTidy) : after.stepsLeft workload < seat.stepsLeft workload := by
  have nearer {worker after : Worker} {world : World σ} (going : worker.stage.isOver = false)
      (stepped : worker.step workload backend progress.world = (world, after)) :
      after.stage.stepsLeft workload.config.retryLimit.toNat <
        worker.stage.stepsLeft workload.config.retryLimit.toNat := by
    have stride : Worker.Stride workload backend progress.world worker.words worker.stage
        (worker.step workload backend progress.world).1
        (worker.step workload backend progress.world).2 := Worker.step_stride going
    rw [stepped] at stride
    exact stride.stepsLeft_lt
  cases advance with
  | opens | refused => exact Nat.lt_succ_self _
  | loses | givesUp => exact Nat.succ_pos _
  | begins => exact Nat.lt_succ_of_le (stepsLeft_begin ..)
  | walks stepped going => exact Nat.add_lt_add_left (nearer tidy.1 stepped) _
  | returns stepped =>
      exact Nat.lt_of_le_of_lt (stepsLeft_begin ..)
        (Nat.lt_add_of_pos_right (Nat.zero_lt_of_lt (nearer tidy.1 stepped)))
  | aborts stepped =>
      exact Nat.lt_of_lt_of_le (Nat.zero_lt_of_lt (nearer tidy.1 stepped)) (Nat.le_add_left _ _)

end Advance

/-- No session has been refused, and no worker has aborted. -/
def IsSound (progress : Progress σ) : Prop :=
  ∀ seat ∈ progress.seats, seat.hasFailed = false

def IsTidy (progress : Progress σ) : Prop :=
  ∀ seat ∈ progress.seats, seat.IsTidy

def IsStill (workload : Workload) (backend : Backend σ) (call : Call) (progress : Progress σ) :
    Prop :=
  ∀ id, progress.step workload backend call id = none

def stepsLeft (workload : Workload) (progress : Progress σ) : Nat :=
  (progress.seats.map (Seat.stepsLeft workload)).sum

theorem IsTidy.step (tidy : progress.IsTidy)
    (made : progress.step workload backend call id = some next) : next.IsTidy := by
  obtain ⟨seat, after, found, seats, advance⟩ := step_advance made
  intro other member
  rw [seats] at member
  rcases List.mem_or_eq_of_mem_set member with before | rfl
  · exact tidy other before
  · exact advance.isTidy (tidy seat (List.mem_of_getElem? found))

/-- A failure stays. -/
theorem IsSound.before (sound : next.IsSound)
    (made : progress.step workload backend call id = some next) : progress.IsSound := by
  obtain ⟨seat, after, found, seats, advance⟩ := step_advance made
  intro other member
  obtain ⟨place, there⟩ := List.getElem?_of_mem member
  refine Bool.eq_false_iff.mpr fun failed => ?_
  by_cases same : id = place
  · subst same
    rw [found] at there
    cases there
    have stays : after ∈ next.seats := by
      rw [seats]
      exact List.mem_set (List.getElem?_eq_some_iff.mp found).1 after
    exact absurd (advance.hasFailed failed) (Bool.eq_false_iff.mp (sound after stays))
  · have stays : next.seats[place]? = some other := by
      rw [seats, List.getElem?_set_ne same, there]
    exact absurd failed (Bool.eq_false_iff.mp (sound other (List.mem_of_getElem? stays)))

theorem stepsLeft_step (tidy : progress.IsTidy)
    (made : progress.step workload backend call id = some next) :
    next.stepsLeft workload < progress.stepsLeft workload := by
  obtain ⟨seat, after, found, seats, advance⟩ := step_advance made
  have moved := sum_set_add found after (Seat.stepsLeft workload)
  have fewer := advance.stepsLeft_lt (tidy seat (List.mem_of_getElem? found))
  unfold stepsLeft
  rw [seats]
  omega

theorem run_append (schedule later : List Nat) (progress : Progress σ) :
    run workload backend call (schedule ++ later) progress =
      run workload backend call later (run workload backend call schedule progress) := by
  induction schedule generalizing progress with
  | nil => rfl
  | cons id schedule ih => exact ih _

theorem IsTidy.run (tidy : progress.IsTidy) (schedule : List Nat) :
    (Progress.run workload backend call schedule progress).IsTidy := by
  induction schedule generalizing progress with
  | nil => exact tidy
  | cons id schedule ih =>
      refine ih ?_
      cases made : progress.step workload backend call id with
      | none => exact tidy
      | some next => exact tidy.step made

theorem stepsLeft_run_le (tidy : progress.IsTidy) (schedule : List Nat) :
    (Progress.run workload backend call schedule progress).stepsLeft workload ≤
      progress.stepsLeft workload := by
  induction schedule generalizing progress with
  | nil => exact Nat.le_refl _
  | cons id schedule ih =>
      unfold run
      cases made : progress.step workload backend call id with
      | none => exact ih tidy
      | some next =>
          exact Nat.le_trans (ih (tidy.step made)) (Nat.le_of_lt (stepsLeft_step tidy made))

theorem IsSound.before_run {schedule : List Nat}
    (sound : (run workload backend call schedule progress).IsSound) : progress.IsSound := by
  induction schedule generalizing progress with
  | nil => exact sound
  | cons id schedule ih =>
      have first := ih sound
      cases made : progress.step workload backend call id with
      | none => rwa [made] at first
      | some next =>
          rw [made] at first
          exact first.before made

theorem step_eq_none_of_le (beyond : progress.seats.length ≤ id) :
    progress.step workload backend call id = none := by
  simp [step, List.getElem?_eq_none beyond]

/-- With enough steps, driving is a schedule after which nobody can move any more. -/
theorem drive_spec (workload : Workload) (backend : Backend σ) (call : Call)
    (tidy : progress.IsTidy) {steps : Nat}
    (enough : progress.stepsLeft workload ≤ steps) :
    (∃ schedule : List Nat, schedule.length ≤ steps ∧
      drive workload backend call steps progress = run workload backend call schedule progress) ∧
    (drive workload backend call steps progress).IsStill workload backend call := by
  -- Every step uses up one of the steps left, so that they run out only at a standstill.
  induction steps generalizing progress with
  | zero =>
      refine ⟨⟨[], Nat.le_refl 0, rfl⟩, fun id => ?_⟩
      cases made : progress.step workload backend call id with
      | none => exact made
      | some next => exact absurd (stepsLeft_step tidy made) (by omega)
  | succ steps ih =>
      unfold drive
      cases moves : (List.range progress.seats.length).findSome?
          (progress.step workload backend call) with
      | none =>
          refine ⟨⟨[], Nat.zero_le _, rfl⟩, fun id => ?_⟩
          rcases Nat.lt_or_ge id progress.seats.length with inside | beyond
          · exact List.findSome?_eq_none_iff.mp moves id (List.mem_range.mpr inside)
          · exact step_eq_none_of_le beyond
      | some next =>
          obtain ⟨id, -, made⟩ := List.exists_of_findSome?_eq_some moves
          have fewer := stepsLeft_step tidy made
          obtain ⟨⟨schedule, short, same⟩, still⟩ := ih (tidy.step made) (by omega)
          refine ⟨⟨id :: schedule, Nat.succ_le_succ short, ?_⟩, still⟩
          rw [run, made]
          exact same

/-- Whatever has happened so far, some schedule brings the phase to a standstill. -/
theorem exists_isStill (workload : Workload) (backend : Backend σ) (call : Call)
    (tidy : progress.IsTidy) :
    ∃ rest : List Nat, rest.length ≤ progress.stepsLeft workload ∧
      (run workload backend call rest progress).IsStill workload backend call := by
  obtain ⟨⟨rest, short, same⟩, still⟩ :=
    drive_spec workload backend call tidy (Nat.le_refl (progress.stepsLeft workload))
  exact ⟨rest, short, same ▸ still⟩

/-- At a standstill that no worker was lost on the way to, every worker has finished. -/
theorem exists_result_of_isStill (still : progress.IsStill workload backend call)
    (kept : ∀ seat ∈ progress.seats, seat ≠ .lost) :
    ∀ seat ∈ progress.seats, ∃ result, seat = .finished result := by
  have waits : ∀ seat ∈ progress.seats, seat.hasArrived = true := by
    intro seat member
    obtain ⟨id, found⟩ := List.getElem?_of_mem member
    have stuck := still id
    cases seat with
    | opening quota words => simp [step, found, seatStep] at stuck
    | lost => exact absurd rfl (kept _ member)
    | _ => rfl
  intro seat member
  obtain ⟨id, found⟩ := List.getElem?_of_mem member
  have stuck := still id
  cases seat with
  | opening quota words => cases waits _ member
  | waiting quota words opened =>
      have arrived : progress.seats.all Seat.hasArrived = true := List.all_eq_true.mpr waits
      simp [step, found, seatStep, arrived] at stuck
  | working quota succeeded left worker => simp [step, found, seatStep] at stuck
  | finished result => exact ⟨result, rfl⟩
  | lost => exact absurd rfl (kept _ member)

/-- At a standstill without failures every worker has its result. -/
theorem finished_of_isStill (still : progress.IsStill workload backend call)
    (sound : progress.IsSound) :
    ∀ seat ∈ progress.seats, ∃ share, seat = .finished (.ok share) := by
  intro seat member
  have intact := sound seat member
  obtain ⟨result, rfl⟩ := exists_result_of_isStill still
    (fun other there => by rintro rfl; cases sound _ there) seat member
  cases result with
  | ok share => exact ⟨share, rfl⟩
  | error error => cases intact

/-- Where every worker has finished nobody can move any more. -/
theorem isStill_of_results
    (finished : ∀ seat ∈ progress.seats, ∃ result, seat = .finished result) :
    progress.IsStill workload backend call := by
  intro id
  cases found : progress.seats[id]? with
  | none => simp [step, found]
  | some seat =>
      obtain ⟨result, rfl⟩ := finished seat (List.mem_of_getElem? found)
      simp [step, found, seatStep]

instance (seat : Seat) : Decidable (∃ share, seat = .finished (.ok share)) :=
  match seat with
  | .finished (.ok share) => isTrue ⟨share, rfl⟩
  | .finished (.error _) => isFalse nofun
  | .opening .. | .waiting .. | .working .. | .lost => isFalse nofun

theorem isStill_of_finished
    (finished : ∀ seat ∈ progress.seats, ∃ share, seat = .finished (.ok share)) :
    progress.IsStill workload backend call ∧ progress.IsSound := by
  constructor
  · refine isStill_of_results fun seat member => ?_
    obtain ⟨share, same⟩ := finished seat member
    exact ⟨.ok share, same⟩
  · intro seat member
    obtain ⟨share, rfl⟩ := finished seat member
    rfl

/-- The result of a phase in which every worker has finished. -/
theorem result?_of_finished
    (finished : ∀ seat ∈ progress.seats, ∃ share, seat = .finished (.ok share)) :
    progress.result? = some (.ok ⟨(progress.seats.map (Seat.returned true)).sum,
      (progress.seats.map (Seat.returned false)).sum⟩) := by
  unfold result?
  generalize progress.seats = seats at finished
  induction seats with
  | nil => rfl
  | cons seat seats ih =>
      obtain ⟨⟨share, rfl⟩, rest⟩ := List.forall_mem_cons.mp finished
      obtain ⟨results, all, sum⟩ := Option.map_eq_some_iff.mp (ih rest)
      simp [Seat.result?, all, combine, sum, Except.map, Seat.returned]

end Progress

/-- The shares of all workers make up the total. -/
theorem sum_share (total : Nat) {workers : Nat} (someone : 0 < workers) :
    ((List.range workers).map (share total workers)).sum = total := by
  have extra (least count : Nat) :
      ((List.range count).map fun id => if id < least then 1 else 0).sum = min least count := by
    induction count with
    | zero => simp
    | succ count ih =>
        rw [List.range_succ, List.map_append, List.sum_append, ih]
        simp only [List.map_cons, List.map_nil, List.sum_cons, List.sum_nil]
        split <;> omega
  have each : share total workers = fun id =>
      total / workers + if id < total % workers then 1 else 0 := rfl
  rw [each, List.sum_map_add, extra, List.map_const', List.sum_replicate, List.length_range,
    Nat.min_eq_left (Nat.le_of_lt (Nat.mod_lt total someone))]
  exact Nat.div_add_mod total workers

namespace Runner

variable {σ : Type} (runner : Runner) (total : Nat) (world : World σ) (words : Nat → Words)

theorem crew_pos {runner : Runner} (someone : 0 < runner.workers) (total : Nat) :
    0 < runner.crew total :=
  Nat.lt_min.mpr ⟨someone, Nat.lt_of_lt_of_le Nat.one_pos (Nat.le_max_right _ _)⟩

theorem ofWorkers_pos (workers : Nat) : 0 < (ofWorkers workers).workers :=
  Nat.lt_of_lt_of_le Nat.one_pos (Nat.le_max_right _ _)

theorem mem_start {seat : Seat} (member : seat ∈ (runner.start total world words).seats) :
    ∃ quota words, seat = .opening quota words := by
  obtain ⟨id, -, rfl⟩ := List.mem_map.mp member
  exact ⟨_, _, rfl⟩

theorem isTidy_start : (runner.start total world words).IsTidy := by
  intro seat member
  obtain ⟨quota, first, rfl⟩ := runner.mem_start total world words member
  trivial

theorem isSound_start : (runner.start total world words).IsSound := by
  intro seat member
  obtain ⟨quota, first, rfl⟩ := runner.mem_start total world words member
  rfl

/-- A phase that begins has as many steps left as it is given. -/
theorem stepsLeft_start (workload : Workload) (someone : 0 < runner.crew total) :
    (runner.start total world words).stepsLeft workload =
      enoughSteps workload (runner.crew total) total := by
  have each : ((runner.start total world words).seats.map (Seat.stepsLeft workload)) =
      (List.range (runner.crew total)).map fun id =>
        share total (runner.crew total) id * Worker.longestCall workload + 2 := by
    rw [start, List.map_map]
    rfl
  rw [Progress.stepsLeft, each, List.sum_map_add, List.sum_map_mul_right,
    sum_share total someone, List.map_const', List.sum_replicate, List.length_range,
    enoughSteps, Nat.add_comm, Nat.mul_comm 2]
  rfl

/-- However a phase has gone so far, it can be brought to a standstill in time. -/
theorem exists_isStill (workload : Workload) (backend : Backend σ) (call : Call)
    (someone : 0 < runner.crew total) (schedule : List Nat) :
    ∃ rest : List Nat, rest.length ≤ enoughSteps workload (runner.crew total) total ∧
      (Progress.run workload backend call (schedule ++ rest)
        (runner.start total world words)).IsStill workload backend call := by
  have tidy := runner.isTidy_start total world words
  obtain ⟨rest, short, still⟩ :=
    Progress.exists_isStill workload backend call (tidy.run schedule)
  refine ⟨rest, ?_, Progress.run_append schedule rest _ ▸ still⟩
  rw [← runner.stepsLeft_start total world words workload someone]
  exact Nat.le_trans short (Progress.stepsLeft_run_le tidy schedule)

/-- The phase that is executed is one of the schedules, at its standstill. -/
theorem execute_spec (phase : Phase) (workload : Workload) (backend : Backend σ)
    (someone : 0 < runner.crew total) :
    ∃ (schedule : List Nat) (ended : Progress σ),
      Progress.run workload backend phase.call schedule (runner.start total world words) = ended ∧
      ended.IsStill workload backend phase.call ∧
      runner.execute phase total workload backend world words =
        (ended.result?.map fun result =>
            result.map fun sum => ⟨phase, runner.crew total, sum.succeeded, sum.failed⟩,
          { runner with done := ended.done }, ended.world) := by
  obtain ⟨⟨schedule, -, driven⟩, still⟩ := Progress.drive_spec workload backend phase.call
    (runner.isTidy_start total world words)
    (Nat.le_of_eq (runner.stepsLeft_start total world words workload someone))
  exact ⟨schedule, _, driven.symm, still, rfl⟩

end Runner

end SpatialWorkload
