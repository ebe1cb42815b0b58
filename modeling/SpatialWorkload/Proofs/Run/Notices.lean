import SpatialWorkload.Proofs.Run.Phase

/-!
# Notices of the workers

What is seen of the workers of a phase: how their sessions were answered, and how their calls
came back.  A worker recalls what was seen of it, under every schedule.
-/

namespace SpatialWorkload

inductive Notice where
  | opened
  | refused (error : StoreError)
  /-- The worker aborted while it opened its session. -/
  | lost
  | returned (success : Bool)
  deriving DecidableEq

namespace Notice

def ofAnswer : Answer Unit → Notice
  | .ok () => opened
  | .error (.refused error) => refused error
  | .error .aborted => lost

def ofStage? : Stage → Option Notice
  | .returned success => some (returned success)
  | _ => none

def isReturned : Notice → Bool
  | returned _ => true
  | _ => false

end Notice

def noticesOf (id : Nat) (log : List (Nat × Notice)) : List Notice :=
  (log.filter fun entry => entry.1 == id).map Prod.snd

section Log

variable {id other : Nat} {log : List (Nat × Notice)}

theorem noticesOf_append (id : Nat) (first second : List (Nat × Notice)) :
    noticesOf id (first ++ second) = noticesOf id first ++ noticesOf id second := by
  rw [noticesOf, List.filter_append, List.map_append]
  rfl

/-- One more notice is that of one worker. -/
theorem noticesOf_own (id : Nat) (notices : List Notice) :
    noticesOf id (notices.map (Prod.mk id)) = notices := by
  rw [noticesOf, List.filter_map, List.map_map]
  have all : notices.filter ((fun entry : Nat × Notice => entry.1 == id) ∘ Prod.mk id) = notices :=
    List.filter_eq_self.mpr fun _ _ => beq_self_eq_true id
  rw [all]
  exact List.map_id _

theorem noticesOf_other (differs : id ≠ other) (notices : List Notice) :
    noticesOf other (notices.map (Prod.mk id)) = [] := by
  rw [noticesOf, List.filter_map, List.map_eq_nil_iff, List.map_eq_nil_iff, List.filter_eq_nil_iff]
  exact fun _ _ equal => differs (beq_iff_eq.mp equal)

/-- What is counted over all workers is counted worker by worker. -/
theorem sum_noticesOf (kind : Notice → Bool) {workers : Nat}
    (known : ∀ entry ∈ log, entry.1 < workers) :
    ((List.range workers).map fun id => (noticesOf id log).countP kind).sum =
      log.countP fun entry => kind entry.2 := by
  have own (worker count weight : Nat) :
      ((List.range count).map fun id => if id = worker then weight else 0).sum =
        if worker < count then weight else 0 := by
    induction count with
    | zero => rfl
    | succ count step =>
        rw [List.range_succ, List.map_append, List.sum_append, step, List.map_singleton,
          List.sum_singleton]
        split <;> split <;> split <;> omega
  induction log with
  | nil => simp [noticesOf]
  | cons entry log ih =>
      obtain ⟨worker, notice⟩ := entry
      obtain ⟨inside, known⟩ := List.forall_mem_cons.mp known
      have one (id : Nat) : (noticesOf id ((worker, notice) :: log)).countP kind =
          (noticesOf id log).countP kind + if id = worker then (kind notice).toNat else 0 := by
        by_cases same : worker = id
        · subst same
          cases held : kind notice <;> simp [noticesOf, held]
        · simp [noticesOf, same, Ne.symm same]
      simp only [one, List.sum_map_add, ih known, own, List.countP_cons, inside, if_true]
      cases kind notice <;> rfl

end Log

namespace Seat

/-- What was seen of a worker with a number and a share, by the time it has come so far. -/
def Recalls (name : String) (id quota : Nat) (seen : List Notice) : Seat → Prop
  | opening own _ => own = quota ∧ seen = []
  | waiting own _ (.ok ()) => own = quota ∧ seen = [.opened]
  | working own succeeded left _ => own = quota ∧ ∃ results : List Bool,
      seen = .opened :: results.map .returned ∧ results.count true = succeeded ∧
        results.length + left + 1 = quota
  | finished (.ok share) => ∃ results : List Bool,
      seen = .opened :: results.map .returned ∧ results.length = quota ∧
        share = ⟨results.count true, quota - results.count true⟩
  | finished (.error .workerAborted) => True
  | waiting _ _ (.error error) | finished (.error error) =>
      ∃ cause, error = .notOpened id name cause ∧ seen = [.refused cause]
  | lost => True

def IsCalm : Seat → Prop
  | finished (.error .workerAborted) => False
  | lost => False
  | _ => True

end Seat

namespace Progress

variable {σ : Type} {workload : Workload} {backend : Backend σ} {call : Call}
  {progress next : Progress σ} {id : Nat} {quota : Nat → Nat} {seen : List (Nat × Notice)}

def notice? (workload : Workload) (backend : Backend σ) (progress : Progress σ) (id : Nat) :
    Option Notice :=
  match progress.seats[id]? with
  | some (.opening _ _) => some (.ofAnswer (backend.openSession progress.world.store).1)
  | some (.working _ _ _ worker) =>
      Notice.ofStage? (worker.step workload backend progress.world).2.stage
  | _ => none

def log (workload : Workload) (backend : Backend σ) (call : Call) :
    List Nat → Progress σ → List (Nat × Notice)
  | [], _ => []
  | id :: schedule, progress =>
      (progress.notice? workload backend id).toList.map (Prod.mk id) ++
        log workload backend call schedule
          ((progress.step workload backend call id).getD progress)

theorem log_append (schedule later : List Nat) (progress : Progress σ) :
    progress.log workload backend call (schedule ++ later) =
      progress.log workload backend call schedule ++
        (run workload backend call schedule progress).log workload backend call later := by
  induction schedule generalizing progress with
  | nil => rfl
  | cons id schedule ih =>
      rw [List.cons_append, log, log, ih, List.append_assoc]
      rfl

/-- A worker that begins its next call, or has none left, recalls those that came back. -/
theorem recalls_begin (name : String) {own left : Nat} (results : List Bool)
    (count : results.length + left = own) (words : Words) :
    (begin call own (results.count true) left words).Recalls name id own
      (.opened :: results.map .returned) := by
  cases left with
  | zero => exact ⟨results, rfl, count, rfl⟩
  | succ left => exact ⟨rfl, results, rfl, rfl, count⟩

theorem recalls_advance {seat after : Seat} {world : World σ} {own : Nat} {before : List Notice}
    (found : progress.seats[id]? = some seat)
    (advance : Advance workload backend call progress id seat world after)
    (recalls : seat.Recalls backend.name id own before) :
    after.Recalls backend.name id own
      (before ++ (progress.notice? workload backend id).toList) := by
  unfold notice?
  rw [found]
  cases advance with
  | opens opened =>
      obtain ⟨rfl, rfl⟩ := recalls
      simp only [opened]
      exact ⟨rfl, rfl⟩
  | refused opened =>
      obtain ⟨rfl, rfl⟩ := recalls
      simp only [opened]
      exact ⟨_, rfl, rfl⟩
  | loses opened => trivial
  | begins arrived =>
      obtain ⟨rfl, rfl⟩ := recalls
      exact recalls_begin backend.name [] (Nat.zero_add _) _
  | givesUp =>
      rename_i quota words error
      cases error with
      | workerAborted => trivial
      | notOpened worker name cause =>
          obtain ⟨cause, same, rfl⟩ := recalls
          exact ⟨cause, same, rfl⟩
  | walks stepped going =>
      rename_i quota succeeded left worker after
      have silent : Notice.ofStage? after.stage = none := by
        cases ended : after.stage with
        | returned success =>
            rw [ended] at going
            cases going
        | _ => rfl
      simp only [stepped, silent, Option.toList_none, List.append_nil]
      exact recalls
  | returns stepped ended =>
      obtain ⟨rfl, results, rfl, rfl, count⟩ := recalls
      rename_i left worker after success
      simp only [stepped, ended, Notice.ofStage?, Option.toList_some]
      have counted : results.count true + success.toNat = (results ++ [success]).count true := by
        cases success <;> simp
      have seen : .opened :: results.map Notice.returned ++ [.returned success] =
          .opened :: (results ++ [success]).map Notice.returned := by
        simp
      rw [counted, seen]
      refine recalls_begin backend.name _ ?_ _
      rw [List.length_append, List.length_singleton]
      omega
  | aborts stepped ended => trivial

/-- Who cannot move shows nothing. -/
theorem notice?_eq_none (stuck : progress.step workload backend call id = none) :
    progress.notice? workload backend id = none := by
  unfold notice?
  cases found : progress.seats[id]? with
  | none => rfl
  | some seat =>
      cases seat with
      | opening | working => simp [step, found, seatStep] at stuck
      | _ => rfl

/-- Completed calls are those that come back. -/
theorem done_step (made : progress.step workload backend call id = some next) :
    next.done = progress.done +
      UInt64.ofNat ((progress.notice? workload backend id).toList.countP Notice.isReturned) := by
  unfold step at made
  unfold notice?
  cases found : progress.seats[id]? with
  | none =>
      rw [found] at made
      cases made
  | some seat =>
      rw [found] at made
      cases seat with
      | opening quota words =>
          cases made
          rcases (backend.openSession progress.world.store).1 with (error | _) | done
          all_goals exact (UInt64.add_zero _).symm
      | waiting quota words opened =>
          by_cases arrived : progress.seats.all Seat.hasArrived = true
          · simp [seatStep, arrived] at made
            subst made
            exact (UInt64.add_zero _).symm
          · simp [seatStep, arrived] at made
      | working quota succeeded left worker =>
          cases stepped : worker.step workload backend progress.world with
          | mk world after =>
              simp only [seatStep, stepped, bind, Option.bind, pure, Option.some.injEq] at made
              subst made
              simp only
              rw [stepped]
              cases after.stage with
              | returned success => rfl
              | _ => exact (UInt64.add_zero _).symm
      | finished result => cases made
      | lost => cases made

/-- Every worker recalls what was seen of it, and the calls that came back are counted. -/
structure Recalls (name : String) (quota : Nat → Nat) (seen : List (Nat × Notice))
    (progress : Progress σ) : Prop where
  seats : ∀ (id : Nat) (seat : Seat), progress.seats[id]? = some seat →
    seat.Recalls name id (quota id) (noticesOf id seen)
  known : ∀ entry ∈ seen, entry.1 < progress.seats.length
  done : progress.done = UInt64.ofNat (seen.countP fun entry => entry.2.isReturned)

theorem Recalls.step (recalls : progress.Recalls backend.name quota seen)
    (made : progress.step workload backend call id = some next) :
    next.Recalls backend.name quota
      (seen ++ (progress.notice? workload backend id).toList.map (Prod.mk id)) := by
  obtain ⟨seat, after, found, seats, advance⟩ := step_advance made
  refine ⟨fun other there standing => ?_, fun entry member => ?_, ?_⟩
  · rw [seats] at standing
    rw [noticesOf_append]
    rcases getElem?_set_cases standing with ⟨rfl, rfl⟩ | ⟨differs, before⟩
    · rw [noticesOf_own]
      exact recalls_advance found advance (recalls.seats _ _ found)
    · rw [noticesOf_other (Ne.symm differs), List.append_nil]
      exact recalls.seats _ _ before
  · rw [seats, List.length_set]
    rcases List.mem_append.mp member with old | new
    · exact recalls.known entry old
    · obtain ⟨notice, -, rfl⟩ := List.mem_map.mp new
      exact (List.getElem?_eq_some_iff.mp found).1
  · rw [done_step made, recalls.done, List.countP_append, UInt64.ofNat_add, List.countP_map]
    rfl

theorem Recalls.run (recalls : progress.Recalls backend.name quota seen) (schedule : List Nat) :
    (Progress.run workload backend call schedule progress).Recalls backend.name quota
      (seen ++ progress.log workload backend call schedule) := by
  induction schedule generalizing progress seen with
  | nil => exact (List.append_nil seen).symm ▸ recalls
  | cons id schedule ih =>
      unfold Progress.run log
      rw [← List.append_assoc]
      refine ih ?_
      cases made : progress.step workload backend call id with
      | none =>
          rw [notice?_eq_none made]
          exact (List.append_nil seen).symm ▸ recalls
      | some next => exact recalls.step made

end Progress

end SpatialWorkload
