import SpatialWorkload.Proofs.Run.Stride

/-!
# The floor

Any number of workers with one workload and one backend.  Each is idle or in a call, and
which of them moves next is a free choice.  A worker asks the backend in one move and
takes the answer in another, so that calls overlap; a reset alone keeps the others from
the gate.  The history says, newest first, what the backend and the callers saw.
-/

namespace SpatialWorkload

inductive Request where
  | reset (table : String)
  | insert (table key : String) (position : Position Float)
  | scan (table : String) (query : Query Float)

namespace Request

def isReset : Request → Bool
  | reset _ => true
  | _ => false

def isInsert : Request → Bool
  | insert .. => true
  | _ => false

def isScan : Request → Bool
  | scan .. => true
  | _ => false

end Request

namespace Backend

variable {σ : Type}

/-- How the backend answers a request in a state, without what a scan finds. -/
def answer (backend : Backend σ) (store : σ) : Request → Answer Unit
  | .reset table => (backend.reset table store).1
  | .insert table key position => (backend.insert table key position store).1
  | .scan table query => (backend.scan table query store).1.map fun _ => ()

end Backend

def Worker.request? (workload : Workload) (gate : ResetGate) (worker : Worker) :
    Option Request :=
  match worker.stage with
  | .gate => if gate.bar = .closed then some (.reset workload.config.table) else none
  | .attempt _ position _ => some (.insert workload.config.table position.id position)
  | .scan kind reference =>
      some (.scan workload.config.table (workload.drawQuery kind reference worker.words).1)
  | _ => none

theorem Worker.request?_cases {workload : Workload} {gate : ResetGate} {worker : Worker}
    {request : Request} (asks : worker.request? workload gate = some request) :
    (worker.stage = .gate ∧ gate.bar = .closed ∧ request = .reset workload.config.table) ∨
    (∃ index position failed, worker.stage = .attempt index position failed ∧
      request = .insert workload.config.table position.id position) ∨
    ∃ kind reference, worker.stage = .scan kind reference ∧
      request = .scan workload.config.table
        (workload.drawQuery kind reference worker.words).1 := by
  obtain ⟨stage, words⟩ := worker
  cases stage with
  | gate =>
      simp only [request?] at asks
      split at asks
      · rename_i closed
        exact Or.inl ⟨rfl, closed, (Option.some.inj asks).symm⟩
      · cases asks
  | attempt index position failed =>
      exact Or.inr (Or.inl ⟨_, _, _, rfl, (Option.some.inj asks).symm⟩)
  | scan kind reference => exact Or.inr (Or.inr ⟨_, _, rfl, (Option.some.inj asks).symm⟩)
  | _ => cases asks

/-- What a worker is at; a worker in a call waits for an answer or does not. -/
inductive Post where
  | idle
  | busy (call : Call) (worker : Worker) (waiting : Bool)

namespace Post

def isResetting : Post → Bool
  | busy _ ⟨.gate, _⟩ true => true
  | _ => false

/-- A call that has aborted is not under way any more. -/
def isUnderWay : Post → Bool
  | busy _ worker _ => !worker.stage.isOver
  | idle => false

def settle (call : Call) (worker : Worker) : Post :=
  match worker.stage with
  | .returned _ => .idle
  | _ => .busy call worker false

theorem isResetting_settle (call : Call) (worker : Worker) :
    (settle call worker).isResetting = false := by
  obtain ⟨stage, words⟩ := worker
  cases stage <;> rfl

theorem isResetting_busy_iff {call : Call} {worker : Worker} {waiting : Bool} :
    (busy call worker waiting).isResetting = true ↔ worker.stage = .gate ∧ waiting = true := by
  obtain ⟨stage, words⟩ := worker
  cases stage <;> cases waiting <;> simp [isResetting]

theorem eq_of_settle {call other : Call} {worker otherWorker : Worker} {waiting : Bool}
    (busy : settle call worker = .busy other otherWorker waiting) :
    other = call ∧ otherWorker = worker := by
  unfold settle at busy
  split at busy <;> cases busy
  exact ⟨rfl, rfl⟩

end Post

def AllBusy (holds : Call → Worker → Prop) (posts : List Post) : Prop :=
  ∀ call worker waiting, .busy call worker waiting ∈ posts → holds call worker

namespace AllBusy

variable {holds other : Call → Worker → Prop} {posts : List Post} {id : Nat} {call : Call}
  {worker : Worker} {waiting : Bool}

theorem replicate_idle (crew : Nat) : AllBusy holds (List.replicate crew .idle) := by
  intro call worker waiting member
  cases List.eq_of_mem_replicate member

theorem get (all : AllBusy holds posts) (found : posts[id]? = some (.busy call worker waiting)) :
    holds call worker :=
  all call worker waiting (List.mem_of_getElem? found)

theorem imp (all : AllBusy holds posts) (weaker : ∀ call worker, holds call worker →
    other call worker) : AllBusy other posts :=
  fun call worker waiting member => weaker call worker (all call worker waiting member)

theorem set_busy (all : AllBusy holds posts) (new : holds call worker) :
    AllBusy holds (posts.set id (.busy call worker waiting)) := by
  intro someCall someWorker someWaiting member
  rcases List.mem_or_eq_of_mem_set member with before | equal
  · exact all someCall someWorker someWaiting before
  · cases equal
    exact new

theorem set_settle (all : AllBusy holds posts) (new : holds call worker) :
    AllBusy holds (posts.set id (.settle call worker)) := by
  intro someCall someWorker someWaiting member
  rcases List.mem_or_eq_of_mem_set member with before | equal
  · exact all someCall someWorker someWaiting before
  · obtain ⟨rfl, rfl⟩ := Post.eq_of_settle equal.symm
    exact new

end AllBusy

inductive Event where
  | called (id : Nat) (call : Call)
  | asked (id : Nat) (request : Request)
  | answered (id : Nat) (request : Request) (answer : Answer Unit)
  | took (id : Nat) (index : UInt64)
  | acknowledged (id : Nat) (index : UInt64)
  | returned (id : Nat) (call : Call) (success : Bool)

namespace Event

def asks (kind : Request → Bool) : Event → Bool
  | asked _ request => kind request
  | _ => false

/-- What a step shows besides its request: the index taken or acknowledged, and the end. -/
def shown (id : Nat) (call : Call) : Stage → Stage → List Event
  | .fetch, .attempt index _ _ => [.took id index]
  | .acknowledge index, .returned success =>
      [.returned id call success, .acknowledged id index]
  | _, .returned success => [.returned id call success]
  | _, _ => []

def heard {σ : Type} (id : Nat) (backend : Backend σ) (store : σ) : Option Request → List Event
  | none => []
  | some request => [.answered id request (backend.answer store request)]

theorem mem_shown {id : Nat} {call : Call} {before after : Stage} {event : Event}
    (member : event ∈ shown id call before after) :
    (∃ index, event = .took id index) ∨ (∃ index, event = .acknowledged id index) ∨
      ∃ success, after = .returned success ∧ event = .returned id call success := by
  unfold shown at member
  split at member
  · exact Or.inl ⟨_, List.mem_singleton.mp member⟩
  · rcases List.mem_cons.mp member with equal | rest
    · exact Or.inr (Or.inr ⟨_, rfl, equal⟩)
    · exact Or.inr (Or.inl ⟨_, List.mem_singleton.mp rest⟩)
  · exact Or.inr (Or.inr ⟨_, rfl, List.mem_singleton.mp member⟩)
  · cases member

/-- A step shows no question. -/
theorem asks_of_mem_shown {id : Nat} {call : Call} {before after : Stage} {event : Event}
    (member : event ∈ shown id call before after) (kind : Request → Bool) :
    event.asks kind = false := by
  rcases mem_shown member with ⟨index, rfl⟩ | ⟨index, rfl⟩ | ⟨success, -, rfl⟩ <;> rfl

/-- What a step shows and hears holds no question. -/
theorem asks_of_mem {σ : Type} {id : Nat} {call : Call} {before after : Stage}
    {backend : Backend σ} {store : σ} {request : Option Request} {event : Event}
    (member : event ∈ shown id call before after ++ heard id backend store request)
    (kind : Request → Bool) : event.asks kind = false := by
  rcases List.mem_append.mp member with seen | answered
  · exact asks_of_mem_shown seen kind
  · cases request with
    | none => cases answered
    | some request =>
        rw [List.mem_singleton.mp answered]
        rfl

end Event

/-- Anyone else may change the backend's state at any time. -/
inductive Move (σ : Type) where
  | call (id : Nat) (call : Call) (words : Words)
  | ask (id : Nat)
  | take (id : Nat)
  | outside (change : σ → σ)

structure Floor (σ : Type) where
  world : World σ
  posts : List Post
  history : List Event

namespace Floor

variable {σ : Type}

def opening (workload : Workload) (store : σ) (crew : Nat) : Floor σ :=
  ⟨⟨workload.initialShared, store, []⟩, List.replicate crew .idle, []⟩

/-- While a reset is under way nobody else may ask for one. -/
def admits (floor : Floor σ) (request : Request) : Bool :=
  !(request.isReset && floor.posts.any Post.isResetting)

/-- One move, or none where the worker is not free, has nothing to ask or has to wait. -/
def step (workload : Workload) (backend : Backend σ) (floor : Floor σ) :
    Move σ → Option (Floor σ)
  | .call id call words =>
      match floor.posts[id]? with
      | some .idle =>
          some ⟨floor.world, floor.posts.set id (.busy call ⟨call.firstStage, words⟩ false),
            .called id call :: floor.history⟩
      | _ => none
  | .ask id =>
      match floor.posts[id]? with
      | some (.busy call worker false) =>
          match worker.request? workload floor.world.shared.gate with
          | none => none
          | some request =>
              if floor.admits request then
                some ⟨floor.world, floor.posts.set id (.busy call worker true),
                  .asked id request :: floor.history⟩
              else none
      | _ => none
  | .take id =>
      match floor.posts[id]? with
      | some (.busy call worker waiting) =>
          let request := worker.request? workload floor.world.shared.gate
          if worker.stage.isOver || waiting != request.isSome then none
          else
            let (world, after) := worker.step workload backend floor.world
            some ⟨world, floor.posts.set id (.settle call after),
              Event.shown id call worker.stage after.stage ++
                Event.heard id backend floor.world.store request ++ floor.history⟩
      | _ => none
  | .outside change =>
      some { floor with world := { floor.world with store := change floor.world.store } }

/-- Makes one move after another; a move that cannot be made is passed over. -/
def run (workload : Workload) (backend : Backend σ) : List (Move σ) → Floor σ → Floor σ
  | [], floor => floor
  | move :: moves, floor =>
      run workload backend moves ((floor.step workload backend move).getD floor)

inductive Turn (workload : Workload) (backend : Backend σ) (floor : Floor σ) :
    Move σ → Floor σ → Prop where
  | calls {id : Nat} {call : Call} {words : Words} (free : floor.posts[id]? = some .idle) :
      Turn workload backend floor (.call id call words)
        ⟨floor.world, floor.posts.set id (.busy call ⟨call.firstStage, words⟩ false),
          .called id call :: floor.history⟩
  | asks {id : Nat} {call : Call} {worker : Worker} {request : Request}
      (busy : floor.posts[id]? = some (.busy call worker false))
      (next : worker.request? workload floor.world.shared.gate = some request)
      (admitted : floor.admits request = true) :
      Turn workload backend floor (.ask id)
        ⟨floor.world, floor.posts.set id (.busy call worker true),
          .asked id request :: floor.history⟩
  | takes {id : Nat} {call : Call} {worker : Worker} {waiting : Bool} {world : World σ}
      {after : Worker}
      (busy : floor.posts[id]? = some (.busy call worker waiting))
      (ready : waiting = (worker.request? workload floor.world.shared.gate).isSome)
      (stride : Worker.Stride workload backend floor.world worker.words worker.stage world after) :
      Turn workload backend floor (.take id)
        ⟨world, floor.posts.set id (.settle call after),
          Event.shown id call worker.stage after.stage ++
            Event.heard id backend floor.world.store
              (worker.request? workload floor.world.shared.gate) ++ floor.history⟩
  | outside {change : σ → σ} :
      Turn workload backend floor (.outside change)
        { floor with world := { floor.world with store := change floor.world.store } }

variable {workload : Workload} {backend : Backend σ} {floor next : Floor σ} {move : Move σ}

theorem step_turn (made : floor.step workload backend move = some next) :
    Turn workload backend floor move next := by
  cases move with
  | call id call words =>
      simp only [step] at made
      split at made
      · rename_i free
        cases made
        exact .calls free
      · cases made
  | ask id =>
      simp only [step] at made
      split at made
      · rename_i call worker busy
        split at made
        · cases made
        · rename_i request found
          split at made
          · rename_i admitted
            cases made
            exact .asks busy found admitted
          · cases made
      · cases made
  | take id =>
      simp only [step] at made
      split at made
      · rename_i call worker waiting busy
        split at made
        · cases made
        · rename_i allowed
          simp only [Bool.or_eq_true, not_or, Bool.not_eq_true, bne_eq_false_iff_eq] at allowed
          cases made
          exact .takes busy allowed.2 (Worker.step_stride allowed.1)
      · cases made
  | outside change =>
      cases made
      exact .outside

/-- What every move keeps holds after every run. -/
theorem run_keeps (allowed : Move σ → Prop) (invariant : Floor σ → Prop)
    (kept : ∀ floor move next, allowed move → invariant floor →
      Turn workload backend floor move next → invariant next)
    (moves : List (Move σ)) (good : ∀ move ∈ moves, allowed move) (first : invariant floor) :
    invariant (run workload backend moves floor) := by
  induction moves generalizing floor with
  | nil => exact first
  | cons move moves ih =>
      refine ih (fun later member => good later (List.mem_cons_of_mem move member)) ?_
      cases made : floor.step workload backend move with
      | none => exact first
      | some next =>
          exact kept floor move next (good move List.mem_cons_self) first (step_turn made)

theorem run_append (moves later : List (Move σ)) (floor : Floor σ) :
    run workload backend (moves ++ later) floor =
      run workload backend later (run workload backend moves floor) := by
  induction moves generalizing floor with
  | nil => rfl
  | cons move moves ih => exact ih _

theorem length_posts_run (moves : List (Move σ)) :
    (run workload backend moves floor).posts.length = floor.posts.length := by
  refine run_keeps (fun _ => True) (fun later => later.posts.length = floor.posts.length) ?_
    moves (fun _ _ => trivial) rfl
  rintro later move next - same turn
  cases turn with
  | calls | asks | takes => exact List.length_set.trans same
  | outside => exact same

end Floor

end SpatialWorkload
