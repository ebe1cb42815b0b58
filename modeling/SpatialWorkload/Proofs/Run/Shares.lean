import Mathlib.Algebra.Order.BigOperators.Group.List
import Mathlib.Data.Bool.Count
import Mathlib.Data.Nat.Find
import Mathlib.Data.Set.List
import SpatialWorkload.Proofs.Run.Loaded
import SpatialWorkload.Proofs.Run.Notices

/-!
# Shares that are executed

The shares of a phase are even, and under every schedule a worker with a session makes exactly
the calls of its share while one without makes none.  The phase reports the calls that came
back, or the refusal that the worker with the lowest number met.
-/

namespace SpatialWorkload

section Share

variable {total workers : Nat}

/-- No two shares differ by more than one. -/
theorem share_le_succ (total workers first second : Nat) :
    share total workers first ≤ share total workers second + 1 := by
  unfold share
  split <;> split <;> omega

theorem share_pos (someone : 0 < workers) (enough : workers ≤ total) (id : Nat) :
    0 < share total workers id :=
  Nat.lt_of_lt_of_le (Nat.div_pos enough someone) (Nat.le_add_right _ _)

end Share

/-- A worker with a session has made so many calls, and one without has made none. -/
def Notice.HaveServed (quota : Nat) (seen : List Notice) : Prop :=
  (∃ results : List Bool, seen = .opened :: results.map .returned ∧ results.length = quota) ∨
    ∃ error, seen = [.refused error]

theorem Notice.HaveServed.countP_isReturned {quota : Nat} {seen : List Notice}
    (served : Notice.HaveServed quota seen) :
    seen.countP Notice.isReturned = if .opened ∈ seen then quota else 0 := by
  rcases served with ⟨results, rfl, rfl⟩ | ⟨error, rfl⟩
  · rw [if_pos List.mem_cons_self, List.countP_cons, List.countP_map]
    exact List.countP_eq_length.mpr fun _ _ => rfl
  · rfl

theorem Notice.countP_returned (results : List Bool) (success : Bool) :
    ((opened :: results.map returned).countP fun notice => notice = returned success) =
      results.count success := by
  rw [List.countP_cons_of_neg (by simp), List.countP_map, List.count]
  refine List.countP_congr fun result _ => ?_
  cases result <;> cases success <;> decide

theorem countP_returned_add (log : List (Nat × Notice)) :
    (log.countP fun entry => entry.2 = .returned true) +
      (log.countP fun entry => entry.2 = .returned false) =
      log.countP fun entry => entry.2.isReturned := by
  induction log with
  | nil => rfl
  | cons entry log ih =>
      obtain ⟨worker, notice⟩ := entry
      simp only [List.countP_cons, ← ih]
      cases notice with
      | returned success => cases success <;> simp [Notice.isReturned] <;> omega
      | _ => simp [Notice.isReturned]

/-- A worker that finished and did not abort made the calls of its share, or met a refusal. -/
theorem Seat.Recalls.of_calm {name : String} {id quota : Nat} {seen : List Notice}
    {result : Except PhaseError Share} (recalls : (finished result).Recalls name id quota seen)
    (calm : (finished result).IsCalm) :
    (∃ results : List Bool, seen = .opened :: results.map .returned ∧ results.length = quota ∧
      result = .ok ⟨results.count true, quota - results.count true⟩) ∨
    ∃ error, seen = [.refused error] ∧ result = .error (.notOpened id name error) := by
  rcases result with (_ | _) | share
  · obtain ⟨error, same, seen⟩ := recalls
    exact Or.inr ⟨error, seen, congrArg Except.error same⟩
  · cases calm
  · obtain ⟨results, seen, length, same⟩ := recalls
    exact Or.inl ⟨results, seen, length, congrArg Except.ok same⟩

namespace Progress

variable {σ : Type} {workload : Workload} {backend : Backend σ} {call : Call}
  {progress : Progress σ} {quota : Nat → Nat} {seen : List (Nat × Notice)}

theorem length_seats_run (schedule : List Nat) :
    (run workload backend call schedule progress).seats.length = progress.seats.length := by
  induction schedule generalizing progress with
  | nil => rfl
  | cons id schedule ih =>
      refine ih.trans ?_
      cases made : progress.step workload backend call id with
      | none => rfl
      | some next =>
          obtain ⟨seat, after, -, seats, -⟩ := step_advance made
          exact (congrArg List.length seats).trans (List.length_set ..)

theorem combine_of_first_failure {results : List (Except PhaseError Share)} {first : Nat}
    {error : PhaseError} (failed : results[first]? = some (.error error))
    (before : ∀ id < first, ∃ share, results[id]? = some (.ok share)) :
    combine results = .error error := by
  induction results generalizing first with
  | nil => cases failed
  | cons result results ih =>
      cases first with
      | zero =>
          cases failed
          rfl
      | succ first =>
          obtain ⟨share, ok⟩ := before 0 (Nat.succ_pos first)
          cases ok
          have rest : combine results = .error error :=
            ih failed fun id earlier => before (id + 1) (Nat.succ_lt_succ earlier)
          rw [combine, rest]
          rfl

/-- The failure of the worker with the lowest number is the result. -/
theorem result?_of_first_failure {first : Nat} {error : PhaseError}
    (finished : ∀ seat ∈ progress.seats, ∃ result, seat = .finished result)
    (failed : progress.seats[first]? = some (.finished (.error error)))
    (before : ∀ id < first, ∃ share, progress.seats[id]? = some (.finished (.ok share))) :
    progress.result? = some (.error error) := by
  have ended : progress.seats ∈ Set.range (List.map Seat.finished) := by
    rw [Set.range_list_map]
    exact fun seat member => (finished seat member).imp fun _ same => same.symm
  obtain ⟨results, same⟩ := ended
  have result_at {id : Nat} {result : Except PhaseError Share}
      (there : progress.seats[id]? = some (.finished result)) : results[id]? = some result := by
    rw [← same, List.getElem?_map] at there
    obtain ⟨_, found, equal⟩ := Option.map_eq_some_iff.mp there
    cases equal
    exact found
  have all : progress.seats.mapM Seat.result? = some results := by
    rw [← same, List.mapM_map]
    exact (List.mapM_pure (m := Option) (f := id)).trans (congrArg some (List.map_id results))
  rw [result?, all, Option.map_some, combine_of_first_failure (result_at failed)]
  intro id earlier
  exact (before id earlier).imp fun _ there => result_at there

namespace Recalls

variable {name : String} {id : Nat} (recalls : progress.Recalls name quota seen)
  (finished : ∀ seat ∈ progress.seats, ∃ result, seat = .finished result)
  (calm : ∀ seat ∈ progress.seats, seat.IsCalm)

include recalls finished calm

/-- Every worker made the calls of its share and has their sum, or met a refusal and has that. -/
theorem cases_of_calm (inside : id < progress.seats.length) :
    (∃ results : List Bool, noticesOf id seen = .opened :: results.map .returned ∧
      results.length = quota id ∧ progress.seats[id]? =
        some (.finished (.ok ⟨results.count true, quota id - results.count true⟩))) ∨
    ∃ error, noticesOf id seen = [.refused error] ∧
      progress.seats[id]? = some (.finished (.error (.notOpened id name error))) := by
  have there : progress.seats[id]? = some progress.seats[id] := List.getElem?_eq_getElem inside
  have member : progress.seats[id] ∈ progress.seats := List.getElem_mem inside
  obtain ⟨result, same⟩ := finished _ member
  have recalled := recalls.seats id _ there
  have steady := calm _ member
  rw [same] at there recalled steady
  rcases recalled.of_calm steady with ⟨results, seen, length, rfl⟩ | ⟨error, seen, rfl⟩
  · exact Or.inl ⟨results, seen, length, there⟩
  · exact Or.inr ⟨error, seen, there⟩

/-- A worker with a session has the sum of the calls of its share. -/
theorem share_of_opened (inside : id < progress.seats.length)
    (opened : .opened ∈ noticesOf id seen) :
    ∃ results : List Bool, noticesOf id seen = .opened :: results.map .returned ∧
      results.length = quota id ∧ progress.seats[id]? =
        some (.finished (.ok ⟨results.count true, quota id - results.count true⟩)) := by
  rcases recalls.cases_of_calm finished calm inside with served | ⟨error, notices, -⟩
  · exact served
  · rw [notices] at opened
    cases List.mem_singleton.mp opened

theorem haveServed (inside : id < progress.seats.length) :
    Notice.HaveServed (quota id) (noticesOf id seen) := by
  rcases recalls.cases_of_calm finished calm inside with
    ⟨results, notices, length, -⟩ | ⟨error, notices, -⟩
  · exact Or.inl ⟨results, notices, length⟩
  · exact Or.inr ⟨error, notices⟩

/-- The calls that came back are the shares of the workers with a session. -/
theorem countP_isReturned :
    (seen.countP fun entry => entry.2.isReturned) =
      ((List.range progress.seats.length).map fun id =>
        if .opened ∈ noticesOf id seen then quota id else 0).sum := by
  rw [← sum_noticesOf Notice.isReturned recalls.known]
  refine congrArg List.sum (List.map_congr_left fun id member => ?_)
  exact (recalls.haveServed finished calm (List.mem_range.mp member)).countP_isReturned

/-- Where every worker has a session the result is the sum of the calls that came back. -/
theorem result?_of_opened
    (opened : ∀ id < progress.seats.length, .opened ∈ noticesOf id seen) :
    progress.result? = some (.ok ⟨seen.countP fun entry => entry.2 = .returned true,
      seen.countP fun entry => entry.2 = .returned false⟩) := by
  have share_at {id : Nat} (inside : id < progress.seats.length) :
      ∃ share, progress.seats[id]? = some (.finished (.ok share)) ∧
        ∀ success, Seat.returned success (.finished (.ok share)) =
          (noticesOf id seen).countP fun notice => notice = .returned success := by
    obtain ⟨results, notices, length, there⟩ :=
      recalls.share_of_opened finished calm inside (opened id inside)
    refine ⟨_, there, fun success => ?_⟩
    have both := List.count_false_add_count_true results
    rw [notices, Notice.countP_returned]
    cases success with
    | true => rfl
    | false => exact Nat.sub_eq_of_eq_add (by rw [← length, ← both])
  have counted (success : Bool) : (progress.seats.map (Seat.returned success)).sum =
      seen.countP fun entry => entry.2 = .returned success := by
    rw [← sum_noticesOf (fun notice => notice = .returned success) recalls.known]
    refine congrArg List.sum (List.ext_getElem (by simp) fun id inside _ => ?_)
    rw [List.length_map] at inside
    obtain ⟨share, there, same⟩ := share_at inside
    rw [List.getElem_map, List.getElem_map, List.getElem_range, ← same,
      (List.getElem?_eq_some_iff.mp there).2]
  have all : ∀ seat ∈ progress.seats, ∃ share, seat = .finished (.ok share) := by
    intro seat member
    obtain ⟨id, inside, rfl⟩ := List.getElem_of_mem member
    obtain ⟨share, there, -⟩ := share_at inside
    exact ⟨share, (List.getElem?_eq_some_iff.mp there).2⟩
  rw [result?_of_finished all, counted, counted]

/-- Otherwise it is the refusal that the first worker without a session met. -/
theorem result?_of_refused {first : Nat} (inside : first < progress.seats.length)
    (refused : .opened ∉ noticesOf first seen)
    (opened : ∀ id < first, .opened ∈ noticesOf id seen) :
    ∃ error, noticesOf first seen = [.refused error] ∧
      progress.result? = some (.error (.notOpened first name error)) := by
  rcases recalls.cases_of_calm finished calm inside with
    ⟨results, notices, -⟩ | ⟨error, notices, there⟩
  · exact absurd (notices ▸ List.mem_cons_self) refused
  · refine ⟨error, notices, result?_of_first_failure finished there fun id earlier => ?_⟩
    obtain ⟨results, -, -, before⟩ :=
      recalls.share_of_opened finished calm (Nat.lt_trans earlier inside) (opened id earlier)
    exact ⟨_, before⟩

end Recalls

end Progress

namespace Runner

variable {σ : Type}

def reportOf (runner : Runner) (phase : Phase) (total : Nat) (ended : Progress σ) :
    Option (Except PhaseError PhaseReport) :=
  ended.result?.map fun result =>
    result.map fun sum => ⟨phase, runner.crew total, sum.succeeded, sum.failed⟩

/-- A phase begins with one worker for each place of its crew. -/
theorem length_seats_start (runner : Runner) (total : Nat) (world : World σ)
    (words : Nat → Words) : (runner.start total world words).seats.length = runner.crew total := by
  rw [start, List.length_map, List.length_range]

theorem recalls_start (runner : Runner) (name : String) (total : Nat) (world : World σ)
    (words : Nat → Words) :
    (runner.start total world words).Recalls name (share total (runner.crew total)) [] where
  seats id seat there := by
    obtain ⟨other, found, rfl⟩ := Option.map_eq_some_iff.mp (List.getElem?_map ▸ there)
    obtain ⟨inside, same⟩ := List.getElem?_eq_some_iff.mp found
    rw [List.getElem_range] at same
    exact ⟨same ▸ rfl, rfl⟩
  known _ member := nomatch member
  done := rfl

/-- A phase in which no worker aborts, against what was seen of its workers. -/
structure IsSettled (runner : Runner) (phase : Phase) (total : Nat) (name : String)
    (log : List (Nat × Notice)) (ended : Progress σ) : Prop where
  served : ∀ id < runner.crew total,
    Notice.HaveServed (share total (runner.crew total) id) (noticesOf id log)
  known : ∀ entry ∈ log, entry.1 < runner.crew total
  /-- The calls that were completed are the shares of the workers with a session. -/
  done : ended.done.toNat = ((List.range (runner.crew total)).map fun id =>
    if .opened ∈ noticesOf id log then share total (runner.crew total) id else 0).sum
  /-- The report counts the calls that came back, or the first worker without a session fails. -/
  reported :
    ((∀ id < runner.crew total, .opened ∈ noticesOf id log) ∧ ∃ report : PhaseReport,
      runner.reportOf phase total ended = some (.ok report) ∧
      report.threads = runner.crew total ∧ report.operations = total ∧
      report.succeeded = log.countP fun entry => entry.2 = .returned true) ∨
    ∃ first < runner.crew total, ∃ error, (∀ id < first, .opened ∈ noticesOf id log) ∧
      noticesOf first log = [.refused error] ∧
      runner.reportOf phase total ended = some (.error (.notOpened first name error))

theorem isSettled_of_recalls {runner : Runner} {phase : Phase} {total : UInt64} {name : String}
    {log : List (Nat × Notice)} {ended : Progress σ} (someone : 0 < runner.workers)
    (length : ended.seats.length = runner.crew total.toNat)
    (recalls : ended.Recalls name (share total.toNat (runner.crew total.toNat)) log)
    (finished : ∀ seat ∈ ended.seats, ∃ result, seat = .finished result)
    (calm : ∀ seat ∈ ended.seats, seat.IsCalm) :
    runner.IsSettled phase total.toNat name log ended := by
  have whole := sum_share total.toNat (crew_pos someone total.toNat)
  have returned := recalls.countP_isReturned finished calm
  have known := recalls.known
  rw [length] at returned known
  refine ⟨fun id inside => recalls.haveServed finished calm (length ▸ inside), known, ?_, ?_⟩
  · have within : ((List.range (runner.crew total.toNat)).map fun id =>
        if .opened ∈ noticesOf id log then share total.toNat (runner.crew total.toNat) id
        else 0).sum ≤ total.toNat := by
      conv_rhs => rw [← whole]
      refine List.sum_le_sum fun id _ => ?_
      split
      · exact Nat.le_refl _
      · exact Nat.zero_le _
    rw [recalls.done, returned]
    exact UInt64.toNat_ofNat_of_lt' (Nat.lt_of_le_of_lt within total.toNat_lt)
  · by_cases all : ∀ id < runner.crew total.toNat, .opened ∈ noticesOf id log
    · have result := recalls.result?_of_opened finished calm (length ▸ all)
      have reported := congrArg (Option.map (Except.map fun sum : Share =>
        (⟨phase, runner.crew total.toNat, sum.succeeded, sum.failed⟩ : PhaseReport))) result
      refine Or.inl ⟨all, _, reported, rfl, ?_, rfl⟩
      · rw [PhaseReport.operations, countP_returned_add, returned]
        conv_rhs => rw [← whole]
        refine congrArg List.sum (List.map_congr_left fun id member => ?_)
        exact if_pos (all id (List.mem_range.mp member))
    · have missing : ∃ id, id < runner.crew total.toNat ∧ .opened ∉ noticesOf id log := by
        simpa only [not_forall, exists_prop] using all
      obtain ⟨inside, refused⟩ := Nat.find_spec missing
      have lowest : ∀ id < Nat.find missing, .opened ∈ noticesOf id log := fun id earlier =>
        not_not.mp fun none => Nat.find_min missing earlier ⟨Nat.lt_trans earlier inside, none⟩
      obtain ⟨error, notices, result⟩ := recalls.result?_of_refused finished calm
        (Nat.lt_of_lt_of_eq inside length.symm) refused lowest
      refine Or.inr ⟨_, inside, error, lowest, notices, ?_⟩
      rw [reportOf, result]
      rfl

/--
The shares of a phase are even and make up its operations, and none is empty unless there is
nothing to do.  Whatever has happened, a phase can be brought to a standstill.  If no worker
aborted by then, exactly the shares of the workers with a session have been executed; and the
phase reports the calls that came back, or the refusal of the worker with the lowest number.
-/
theorem shares_are_executed (workers : Nat) (total : UInt64) (phase : Phase)
    (workload : Workload) (backend : Backend σ) (world : World σ) (words : Nat → Words) :
    let runner := ofWorkers workers
    let crew := runner.crew total.toNat
    let quota := share total.toNat crew
    let start := runner.start total.toNat world words
    crew = min (max workers 1) (max total.toNat 1) ∧
    ((List.range crew).map quota).sum = total.toNat ∧
    (∀ first second, quota first ≤ quota second + 1) ∧
    (0 < total → ∀ id, 0 < quota id) ∧
    (∃ schedule : List Nat,
      let ended := Progress.run workload backend phase.call schedule start
      ended.IsStill workload backend phase.call ∧
      runner.execute phase total.toNat workload backend world words =
        (runner.reportOf phase total.toNat ended, { runner with done := ended.done },
          ended.world)) ∧
    ∀ schedule : List Nat,
      (∃ rest, (Progress.run workload backend phase.call (schedule ++ rest) start).IsStill
        workload backend phase.call) ∧
      let ended := Progress.run workload backend phase.call schedule start
      ended.IsStill workload backend phase.call → (∀ seat ∈ ended.seats, seat.IsCalm) →
        runner.IsSettled phase total.toNat backend.name
          (start.log workload backend phase.call schedule) ended := by
  intro runner crew quota start
  have someone : 0 < crew := crew_pos (ofWorkers_pos workers) _
  refine ⟨rfl, sum_share _ someone, share_le_succ _ _, fun some id => ?_, ?_, fun schedule => ?_⟩
  · have enough : crew ≤ total.toNat := by
      have positive : 0 < total.toNat := UInt64.lt_iff_toNat_lt.mp some
      exact Nat.le_trans (Nat.min_le_right _ _) (Nat.max_le.mpr ⟨Nat.le_refl _, positive⟩)
    exact share_pos someone enough id
  · obtain ⟨schedule, ended, rfl, still, executed⟩ :=
      runner.execute_spec total.toNat world words phase workload backend someone
    exact ⟨schedule, still, executed⟩
  · obtain ⟨rest, -, still⟩ := runner.exists_isStill total.toNat world words workload backend
      phase.call someone schedule
    refine ⟨⟨rest, still⟩, fun still calm => ?_⟩
    have recalls : (Progress.run workload backend phase.call schedule start).Recalls backend.name
        quota ([] ++ start.log workload backend phase.call schedule) :=
      (runner.recalls_start backend.name total.toNat world words).run schedule
    rw [List.nil_append] at recalls
    refine isSettled_of_recalls (ofWorkers_pos workers) ?_ recalls ?_ calm
    · rw [Progress.length_seats_run, length_seats_start]
    · refine Progress.exists_result_of_isStill still ?_
      rintro seat member rfl
      exact calm _ member

def singleSessionBackend : Backend Bool where
  name := "single"
  openSession taken := (if taken then .error (.refused (.backend "busy")) else .ok (), true)
  reset _ taken := (.ok (), taken)
  insert _ _ _ taken := (.ok (), taken)
  scan _ _ taken := (.ok [], taken)

/-- The session is taken by the second of two workers, and the first one has given up. -/
def sessionTaken : Progress Bool where
  world := ⟨Floor.oneRecordWorkload.initialShared, true, []⟩
  seats := [.finished (.error (.notOpened 0 "single" (.backend "busy"))),
    .working 1 0 0 ⟨.gate, .ofSeed 0⟩]
  done := 0

/-- Of three workers two are needed; one takes the session and makes the one call of its share. -/
theorem shares_are_executed_single_session :
    let start := (ofWorkers 3).start (2 : UInt64).toNat
      ⟨Floor.oneRecordWorkload.initialShared, false, []⟩ fun _ => .ofSeed 0
    let schedule := [1, 0, 0, 1, 1, 1, 1, 1, 1]
    let log := start.log Floor.oneRecordWorkload singleSessionBackend .insert schedule
    let ended := Progress.run Floor.oneRecordWorkload singleSessionBackend .insert schedule start
    (0 < (2 : UInt64) ∧ ∀ id, 0 < share 2 2 id) ∧
    log = [(1, .opened), (0, .refused (.backend "busy")), (1, .returned true)] ∧
    ended.IsStill Floor.oneRecordWorkload singleSessionBackend .insert ∧
    (∀ seat ∈ ended.seats, seat.IsCalm) ∧
    (ofWorkers 3).IsSettled .load (2 : UInt64).toNat "single" log ended ∧
    (ofWorkers 3).reportOf .load (2 : UInt64).toNat ended =
      some (.error (.notOpened 0 "single" (.backend "busy"))) := by
  intro start schedule log ended
  obtain ⟨-, -, -, positive, -, settles⟩ := shares_are_executed 3 2 .load Floor.oneRecordWorkload
    singleSessionBackend ⟨Floor.oneRecordWorkload.initialShared, false, []⟩ fun _ => .ofSeed 0
  have split : schedule = [1, 0, 0, 1] ++ [1, 1, 1, 1, 1] := rfl
  have opened : Progress.run Floor.oneRecordWorkload singleSessionBackend .insert [1, 0, 0, 1]
      start = sessionTaken := rfl
  have noticed : log = [(1, .opened), (0, .refused (.backend "busy")), (1, .returned true)] := by
    change Progress.log _ _ _ schedule start = _
    rw [split, Progress.log_append, opened]
    rfl
  have ends : ∃ world, ended = ⟨world, [.finished (.error (.notOpened 0 "single"
      (.backend "busy"))), .finished (.ok ⟨1, 0⟩)], 1⟩ := by
    change ∃ world, Progress.run _ _ _ schedule start = _
    rw [split, Progress.run_append, opened]
    exact ⟨_, rfl⟩
  obtain ⟨world, same⟩ := ends
  have results : ∀ seat ∈ ended.seats, (∃ result, seat = .finished result) ∧ seat.IsCalm := by
    intro seat member
    rw [same] at member
    rcases List.mem_pair.mp member with rfl | rfl
    · exact ⟨⟨_, rfl⟩, trivial⟩
    · exact ⟨⟨_, rfl⟩, trivial⟩
  have still : ended.IsStill Floor.oneRecordWorkload singleSessionBackend .insert :=
    Progress.isStill_of_results fun seat member => (results seat member).1
  have calm : ∀ seat ∈ ended.seats, seat.IsCalm := fun seat member => (results seat member).2
  refine ⟨⟨by decide, positive (by decide)⟩, noticed, still, calm,
    (settles schedule).2 still calm, ?_⟩
  rw [same]
  rfl

end Runner

end SpatialWorkload
