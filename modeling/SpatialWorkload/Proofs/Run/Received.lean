import SpatialWorkload.Proofs.Run.Standing

/-!
# One index a call

A worker receives an index at the cursor only, with an insert call that it has just begun.
So however often workers come to the cursor, no call receives more than one index.
-/

namespace SpatialWorkload

namespace Event

/-- A call of the worker begins, receives an index or comes back. -/
def isTurnOf (id : Nat) : Event → Bool
  | called other _ => other == id
  | took other _ => other == id
  | returned other _ _ => other == id
  | _ => false

def isTookBy (id : Nat) : Event → Bool
  | took other _ => other == id
  | _ => false

theorem isTurnOf_of_mem_heard {σ : Type} {id other : Nat} {backend : Backend σ} {store : σ}
    {request : Option Request} {event : Event} (member : event ∈ heard id backend store request) :
    event.isTurnOf other = false := by
  cases request with
  | none => cases member
  | some request =>
      rw [List.mem_singleton.mp member]
      rfl

theorem isTookBy_of_isTurnOf {id : Nat} {event : Event} (quiet : event.isTurnOf id = false) :
    event.isTookBy id = false := by
  cases event <;> first | rfl | exact quiet

theorem isTurnOf_of_mem {σ : Type} {id other : Nat} (differs : id ≠ other) {call : Call}
    {before after : Stage} {backend : Backend σ} {store : σ} {request : Option Request}
    {event : Event}
    (member : event ∈ shown id call before after ++ heard id backend store request) :
    event.isTurnOf other = false := by
  rcases List.mem_append.mp member with seen | answered
  · rcases mem_shown seen with ⟨index, rfl⟩ | ⟨index, rfl⟩ | ⟨success, -, rfl⟩
    · exact beq_eq_false_iff_ne.mpr differs
    · rfl
    · exact beq_eq_false_iff_ne.mpr differs
  · exact isTurnOf_of_mem_heard answered

end Event

/-- The worker has begun an insert call and received nothing in it yet. -/
def HasJustCalled (id : Nat) (history : List Event) : Prop :=
  ∃ since earlier, history = since ++ .called id .insert :: earlier ∧
    ∀ event ∈ since, event.isTurnOf id = false

theorem HasJustCalled.append {id : Nat} {history : List Event} (just : HasJustCalled id history)
    (news : List Event) (quiet : ∀ event ∈ news, event.isTurnOf id = false) :
    HasJustCalled id (news ++ history) := by
  obtain ⟨since, earlier, rfl, silent⟩ := just
  exact ⟨news ++ since, earlier, (List.append_assoc ..).symm,
    List.forall_mem_append.mpr ⟨quiet, silent⟩⟩

theorem Stage.standing_entering {stage : Stage} {waiting other : Bool}
    (entering : stage.standing waiting = .entering) : stage.standing other = .entering := by
  cases stage <;> first | rfl | cases entering

namespace Worker.Stride

variable {σ : Type} {workload : Workload} {backend : Backend σ} {world next : World σ}
  {words : Words} {stage : Stage} {after : Worker}

/-- A call on its way to the cursor shows nothing. -/
theorem shown_of_entering (stride : Stride workload backend world words stage next after)
    (entering : after.stage.standing false = .entering) (waiting : Bool) (id : Nat) (call : Call) :
    stage.standing waiting = .entering ∧ Event.shown id call stage after.stage = [] := by
  cases stride with
  | passes | resets | raises => exact ⟨rfl, rfl⟩
  | _ => cases entering

/-- An index is received at the cursor. -/
theorem shown_took (stride : Stride workload backend world words stage next after)
    (waiting : Bool) (id : Nat) (call : Call) :
    (stage.standing waiting = .entering ∧
      ∃ index, Event.shown id call stage after.stage = [.took id index]) ∨
    ∀ other, ∀ event ∈ Event.shown id call stage after.stage, event.isTookBy other = false := by
  cases stride with
  | fetches => exact Or.inl ⟨rfl, _, rfl⟩
  | _ => exact Or.inr (by simp [Event.shown, Event.isTookBy])

end Worker.Stride

namespace Floor

variable {σ : Type} {workload : Workload} {backend : Backend σ} {floor next : Floor σ}
  {move : Move σ}

/-- Every call receives at most one index, at the cursor. -/
structure Received (floor : Floor σ) : Prop where
  ready : ∀ id post, floor.posts[id]? = some post → post.standing = .entering →
    HasJustCalled id floor.history
  once : ∀ id, Follows (Event.isTookBy id) (HasJustCalled id) floor.history

theorem Received.ofOpening (workload : Workload) (store : σ) (crew : Nat) :
    (opening workload store crew).Received := by
  refine ⟨fun id post found entering => ?_, fun id => trivial⟩
  rw [standing_opening workload store crew post (List.mem_of_getElem? found)] at entering
  cases entering

theorem Received.turn (received : floor.Received)
    (turn : Turn workload backend floor move next) : next.Received := by
  cases turn with
  | calls free =>
      rename_i id call words
      refine ⟨fun other post found entering => ?_, fun other =>
        ⟨fun is => (nomatch is), received.once other⟩⟩
      rcases getElem?_set_cases found with ⟨rfl, rfl⟩ | ⟨differs, before⟩
      · cases call with
        | insert => exact ⟨[], _, rfl, fun _ member => (nomatch member)⟩
        | transaction => cases entering
      · exact (received.ready other post before entering).append [_]
          (List.forall_mem_singleton.mpr (beq_eq_false_iff_ne.mpr (Ne.symm differs)))
  | asks busy asks admitted =>
      rename_i id call worker request
      refine ⟨fun other post found entering => ?_, fun other =>
        ⟨fun is => (nomatch is), received.once other⟩⟩
      refine HasJustCalled.append ?_ [_] (List.forall_mem_singleton.mpr rfl)
      rcases getElem?_set_cases found with ⟨rfl, rfl⟩ | ⟨-, before⟩
      · exact received.ready other _ busy (Stage.standing_entering entering)
      · exact received.ready other post before entering
  | takes busy ready stride =>
      rename_i id call worker waiting world after
      have heard (other : Nat) : ∀ event ∈ Event.heard id backend floor.world.store
          (worker.request? workload floor.world.shared.gate), event.isTurnOf other = false :=
        fun event member => Event.isTurnOf_of_mem_heard member
      constructor
      · intro other post found entering
        rcases getElem?_set_cases found with ⟨rfl, rfl⟩ | ⟨differs, asBefore⟩
        · rw [Post.standing_settle] at entering
          obtain ⟨before, silent⟩ := stride.shown_of_entering entering waiting other call
          rw [silent]
          exact (received.ready other _ busy before).append _ (heard other)
        · exact (received.ready other post asBefore entering).append _ fun event member =>
            Event.isTurnOf_of_mem (Ne.symm differs) member
      · intro other
        have later := (received.once other).append fun event member =>
          Event.isTookBy_of_isTurnOf (heard other event member)
        rw [List.append_assoc]
        rcases stride.shown_took waiting id call with ⟨before, index, shown⟩ | quiet
        · rw [shown]
          refine ⟨fun is => ?_, later⟩
          have same : id = other := beq_iff_eq.mp is
          subst same
          exact (received.ready id _ busy before).append _ (heard id)
        · exact later.append (quiet other)
  | outside => exact ⟨received.ready, received.once⟩

theorem received_run (workload : Workload) (backend : Backend σ) (store : σ) (crew : Nat)
    (moves : List (Move σ)) :
    (run workload backend moves (opening workload store crew)).Received :=
  run_keeps (fun _ => True) Received (fun _ _ _ _ received turn => received.turn turn) moves
    (fun _ _ => trivial) (.ofOpening workload store crew)

end Floor

end SpatialWorkload
