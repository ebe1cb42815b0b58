import SpatialWorkload.Proofs.Run.Phase

/-!
# The trail of a call

What a worker does from the start of a call to its end while nobody else moves: the requests
it puts to the backend and the pauses it makes, in their order.  A call is followed stride
by stride; since a step is determined by where it starts, a course that comes to an end is
the whole call.
-/

namespace SpatialWorkload

inductive Act where
  | asks (request : Request)
  | pauses (length : Duration)

def Act.request? : Act → Option Request
  | asks request => some request
  | pauses _ => none

namespace Worker

variable {σ : Type}

/-- What is done in one step: its request, and the pause that follows it. -/
def acts (workload : Workload) (world next : World σ) (worker : Worker) : List Act :=
  ((worker.request? workload world.shared.gate).map Act.asks).toList ++
    (next.pauses.drop world.pauses.length).map Act.pauses

def trail (workload : Workload) (backend : Backend σ) : Nat → World σ → Worker → List Act
  | 0, _, _ => []
  | steps + 1, world, worker =>
      if worker.stage.isOver then []
      else
        let (next, after) := worker.step workload backend world
        worker.acts workload world next ++ trail workload backend steps next after

def callTrail (workload : Workload) (backend : Backend σ) (call : Call) (world : World σ)
    (words : Words) : List Act :=
  trail workload backend (longestCall workload) world ⟨call.firstStage, words⟩

/-- A scan asks the query that is drawn for it. -/
theorem request?_scan {workload : Workload} {kind : ScanKind} {reference : Position Float}
    {words rest : Words} {query : Query Float}
    (drawn : workload.drawQuery kind reference words = (query, rest)) (gate : ResetGate) :
    (⟨.scan kind reference, words⟩ : Worker).request? workload gate =
      some (.scan workload.config.table query) := by
  simp only [request?, drawn]

theorem acts_of_pauses_eq (workload : Workload) {world next : World σ} (worker : Worker)
    (same : next.pauses = world.pauses) :
    worker.acts workload world next =
      ((worker.request? workload world.shared.gate).map Act.asks).toList := by
  rw [acts, same, List.drop_length, List.map_nil, List.append_nil]

namespace Stride

variable {workload : Workload} {backend : Backend σ} {world next : World σ} {words : Words}
  {stage : Stage} {after : Worker}

theorem going (stride : Stride workload backend world words stage next after) :
    stage.isOver = false := by
  cases stride <;> rfl

/-- There is one stride from a stage: the step. -/
theorem step_eq (stride : Stride workload backend world words stage next after) :
    (⟨stage, words⟩ : Worker).step workload backend world = (next, after) := by
  cases stride with
  | passes settled | barred settled => simp [step, gateStep, settled]
  | resets closed asked back =>
      rename_i answer store
      rcases answer with (error | _) | done
      · simp [step, gateStep, closed, asked]
      · exact absurd rfl back
      · simp [step, gateStep, closed, asked]
  | resetLost closed asked => simp [step, gateStep, closed, asked]
  | raises => rfl
  | comesBackEmpty nothing =>
      cases taken : world.shared.cursor.take.1 with
      | none => simp [step, fetchStep, taken]
      | some index => simp [step, fetchStep, taken, nothing index taken]
  | fetches taken found => simp [step, fetchStep, taken, found]
  | inserts asked | insertLost asked => simp [step, attemptStep, asked]
  | abandons asked spent => simp [step, attemptStep, asked, spent, record]
  | retries asked left drawn | pauseLost asked left drawn =>
      simp [step, attemptStep, asked, Nat.not_le_of_lt left, drawn]
  | acknowledges => rfl
  | choosesNone chosen | chooses chosen => simp [step, chosen]
  | readsMark => rfl
  | drawsNone nothing =>
      rename_i kind acknowledged
      cases drawn : (workload.keys.next acknowledged words).1 with
      | none => simp [step, drawn]
      | some key => simp [step, drawn, nothing key drawn]
  | draws drawn found => simp [step, drawn, found]
  | scans drawn asked | scanRefused drawn asked | scanLost drawn asked =>
      simp [step, scanStep, drawn, asked]

end Stride

/-- A course of strides, with what is done on it. -/
inductive Leads (workload : Workload) (backend : Backend σ) :
    World σ → Worker → List Act → World σ → Worker → Prop where
  | stays {world : World σ} {worker : Worker} :
      Leads workload backend world worker [] world worker
  | strides {world midway next : World σ} {words : Words} {stage : Stage}
      {middle after : Worker} {later : List Act}
      (stride : Stride workload backend world words stage midway middle)
      (rest : Leads workload backend midway middle later next after) :
      Leads workload backend world ⟨stage, words⟩
        ((⟨stage, words⟩ : Worker).acts workload world midway ++ later) next after

namespace Leads

variable {workload : Workload} {backend : Backend σ} {world midway next : World σ}
  {words : Words} {stage : Stage} {worker middle after : Worker} {first later : List Act}

theorem trans (before : Leads workload backend world worker first midway middle)
    (rest : Leads workload backend midway middle later next after) :
    Leads workload backend world worker (first ++ later) next after := by
  induction before with
  | stays => exact rest
  | strides stride _ ih =>
      rw [List.append_assoc]
      exact .strides stride (ih rest)

/-- A stride without a pause does what it asks. -/
theorem of_stride (stride : Stride workload backend world words stage next after)
    (same : next.pauses = world.pauses) :
    Leads workload backend world ⟨stage, words⟩
      (((⟨stage, words⟩ : Worker).request? workload world.shared.gate).map Act.asks).toList
      next after := by
  rw [← acts_of_pauses_eq workload _ same, ← List.append_nil (acts _ _ _ _)]
  exact .strides stride .stays

/-- A course to the end of a call is what the steps of the call come to. -/
theorem finish_eq (course : Leads workload backend world worker first next after)
    (ended : after.stage.isOver = true) {steps : Nat}
    (enough : worker.stage.stepsLeft workload.config.retryLimit.toNat ≤ steps) :
    finish workload backend steps world worker = (next, after) ∧
      trail workload backend steps world worker = first := by
  induction course generalizing steps with
  | stays =>
      cases steps with
      | zero => exact ⟨rfl, rfl⟩
      | succ steps => exact ⟨if_pos ended, if_pos ended⟩
  | strides stride _ ih =>
      have nearer := Nat.lt_of_lt_of_le stride.stepsLeft_lt enough
      obtain ⟨left, rfl⟩ : ∃ left, steps = left + 1 := ⟨steps - 1, by omega⟩
      obtain ⟨reached, done⟩ := ih ended (Nat.le_of_lt_succ nearer)
      rw [finish, trail, stride.going, stride.step_eq]
      exact ⟨reached, congrArg (_ ++ ·) done⟩

theorem perform_eq {call : Call}
    (course : Leads workload backend world ⟨call.firstStage, words⟩ first next after)
    (ended : after.stage.isOver = true) :
    perform workload backend call world words = (next, after) ∧
      callTrail workload backend call world words = first :=
  course.finish_eq ended (Stage.stepsLeft_firstStage workload call)

end Leads

end Worker

def Backend.recorded {σ : Type} (backend : Backend σ) : Backend (σ × List Request) where
  name := backend.name
  openSession state :=
    let (answer, store) := backend.openSession state.1
    (answer, store, state.2)
  reset table state :=
    let (answer, store) := backend.reset table state.1
    (answer, store, state.2 ++ [.reset table])
  insert table key position state :=
    let (answer, store) := backend.insert table key position state.1
    (answer, store, state.2 ++ [.insert table key position])
  scan table query state :=
    let (answer, store) := backend.scan table query state.1
    (answer, store, state.2 ++ [.scan table query])

namespace Backend

variable {σ : Type} {backend : Backend σ} {store next : σ} {table key : String}

theorem recorded_reset {answer : Answer Unit} (called : backend.reset table store = (answer, next))
    (asked : List Request) :
    backend.recorded.reset table (store, asked) = (answer, next, asked ++ [.reset table]) := by
  simp only [recorded, called]

theorem recorded_insert {position : Position Float} {answer : Answer Unit}
    (called : backend.insert table key position store = (answer, next)) (asked : List Request) :
    backend.recorded.insert table key position (store, asked) =
      (answer, next, asked ++ [.insert table key position]) := by
  simp only [recorded, called]

theorem recorded_scan {query : Query Float} {answer : Answer (List (Position Float))}
    (called : backend.scan table query store = (answer, next)) (asked : List Request) :
    backend.recorded.scan table query (store, asked) =
      (answer, next, asked ++ [.scan table query]) := by
  simp only [recorded, called]

end Backend

def World.recorded {σ : Type} (world : World σ) (asked : List Request) :
    World (σ × List Request) :=
  ⟨world.shared, (world.store, asked), world.pauses⟩

namespace Worker

variable {σ : Type} {workload : Workload} {backend : Backend σ} {world next : World σ}
  {words : Words} {stage : Stage} {after : Worker}

/-- The backend is called with what a stride asks, and with nothing else. -/
theorem Stride.recorded (stride : Stride workload backend world words stage next after)
    (asked : List Request) :
    Stride workload backend.recorded (world.recorded asked) words stage
      (next.recorded (asked ++
        ((⟨stage, words⟩ : Worker).request? workload world.shared.gate).toList)) after := by
  cases stride with
  | passes lifted =>
      simp only [request?, lifted, reduceCtorEq, if_false, Option.toList_none, List.append_nil]
      exact .passes lifted
  | barred broken =>
      simp only [request?, broken, reduceCtorEq, if_false, Option.toList_none, List.append_nil]
      exact .barred broken
  | resets closed called back =>
      rw [request?, if_pos closed]
      exact .resets closed (Backend.recorded_reset called asked) back
  | resetLost closed called =>
      rw [request?, if_pos closed]
      exact .resetLost closed (Backend.recorded_reset called asked)
  | inserts called => exact .inserts (Backend.recorded_insert called asked)
  | insertLost called => exact .insertLost (Backend.recorded_insert called asked)
  | abandons called spent => exact .abandons (Backend.recorded_insert called asked) spent
  | retries called left drawn => exact .retries (Backend.recorded_insert called asked) left drawn
  | pauseLost called left drawn =>
      exact .pauseLost (Backend.recorded_insert called asked) left drawn
  | scans drawn called =>
      rw [request?_scan drawn]
      exact .scans drawn (Backend.recorded_scan called asked)
  | scanRefused drawn called =>
      rw [request?_scan drawn]
      exact .scanRefused drawn (Backend.recorded_scan called asked)
  | scanLost drawn called =>
      rw [request?_scan drawn]
      exact .scanLost drawn (Backend.recorded_scan called asked)
  | _ =>
      simp only [request?, Option.toList_none, List.append_nil]
      constructor <;> assumption

/-- Of what a step does its request is one, and a pause is none. -/
theorem filterMap_acts (workload : Workload) (world next : World σ) (worker : Worker) :
    (worker.acts workload world next).filterMap Act.request? =
      (worker.request? workload world.shared.gate).toList := by
  have pauses : (next.pauses.drop world.pauses.length).filterMap
      (fun length => (Act.pauses length).request?) = [] :=
    List.filterMap_eq_nil_iff.mpr fun _ _ => rfl
  rw [acts, List.filterMap_append, List.filterMap_map]
  change _ ++ (next.pauses.drop world.pauses.length).filterMap
    (fun length => (Act.pauses length).request?) = _
  rw [pauses, List.append_nil]
  cases worker.request? workload world.shared.gate <;> rfl

/-- The requests on the trail of a call are the calls that the backend takes. -/
theorem finish_recorded (steps : Nat) (world : World σ) (worker : Worker) (asked : List Request) :
    finish workload backend.recorded steps (world.recorded asked) worker =
      ((finish workload backend steps world worker).1.recorded
          (asked ++ (trail workload backend steps world worker).filterMap Act.request?),
        (finish workload backend steps world worker).2) := by
  induction steps generalizing world worker asked with
  | zero => simp [finish, trail]
  | succ steps ih =>
      cases ended : worker.stage.isOver with
      | true => simp [finish, trail, ended]
      | false =>
          have stride : Stride workload backend world worker.words worker.stage _ _ :=
            step_stride ended
          have recorded := (stride.recorded asked).step_eq
          simp only [finish, trail, ended, Bool.false_eq_true, if_false, List.filterMap_append,
            filterMap_acts, ← List.append_assoc]
          rw [recorded]
          exact ih _ _ _

end Worker

end SpatialWorkload
