import SpatialWorkload.Proofs.Place
import SpatialWorkload.Run.ResetGate

/-!
# Workers at one gate

Any number of workers call for one gate, each as often as it likes, and which of them moves next
is a free choice.  The reset begins in one step and comes back, or is cut short, in another; the
worker that ran it raises the flag in a step of its own and leaves.  Whether the reset is over can
be looked up at any time.
-/

namespace SpatialWorkload

namespace Gathering

inductive Stage where
  | away
  | arrived
  | resetting
  /-- Ran the reset and has yet to say so. -/
  | flagging
  | leaving (ran : Bool)
  /-- The call did not come back, and the worker with it. -/
  | lost
  deriving DecidableEq, Repr

namespace Stage

def isOver : Stage → Bool
  | away => true
  | lost => true
  | _ => false

end Stage

inductive Event where
  | called (id : Nat)
  | begun (id : Nat)
  | finished (id : Nat)
  | failed (id : Nat)
  | raised (id : Nat)
  | returned (id : Nat) (ran : Bool)
  | looked (done : Bool)
  deriving DecidableEq, Repr

/-- What only a worker that runs the reset brings about. -/
def Event.isMilestone : Event → Bool
  | called _ => false
  | returned _ ran => ran
  | looked _ => false
  | _ => true

inductive Move where
  | call (id : Nat)
  | step (id : Nat)
  /-- The reset that a worker runs is cut short. -/
  | fail (id : Nat)
  | look
  deriving DecidableEq, Repr

end Gathering

/-- A gate, where its workers stand, and what was seen of them, the newest first. -/
structure Gathering where
  gate : ResetGate
  stages : List Gathering.Stage
  history : List Gathering.Event
  deriving DecidableEq, Repr

namespace Gathering

def opening (crew : Nat) : Gathering :=
  ⟨.fresh, List.replicate crew .away, []⟩

def put (gathering : Gathering) (id : Nat) (gate : ResetGate) (stage : Stage)
    (news : List Event) : Gathering :=
  ⟨gate, gathering.stages.set id stage, news ++ gathering.history⟩

def step? (gathering : Gathering) (id : Nat) : Option Gathering :=
  let gate := gathering.gate
  match gathering.stages[id]? with
  | some .arrived =>
      match gate.bar with
      | .closed =>
          if .resetting ∈ gathering.stages then none
          else some (gathering.put id gate .resetting [.begun id])
      | .lifted => some (gathering.put id gate (.leaving false) [])
      | .broken => some (gathering.put id gate .lost [])
  | some .resetting => some (gathering.put id gate.lift .flagging [.finished id])
  | some .flagging => some (gathering.put id gate.raise (.leaving true) [.raised id])
  | some (.leaving ran) => some (gathering.put id gate .away [.returned id ran])
  | _ => none

def move? (gathering : Gathering) : Move → Option Gathering
  | .call id =>
      if gathering.stages[id]? = some .away then
        some (gathering.put id gathering.gate .arrived [.called id])
      else none
  | .step id => gathering.step? id
  | .fail id =>
      if gathering.stages[id]? = some .resetting then
        some (gathering.put id gathering.gate.spoil .lost [.failed id])
      else none
  | .look =>
      some { gathering with history := .looked gathering.gate.isDone :: gathering.history }

def run : List Move → Gathering → Gathering
  | [], gathering => gathering
  | move :: moves, gathering => run moves ((gathering.move? move).getD gathering)

/-- A worker that is left alone passes the gate as it does in one go. -/
theorem run_alone (gate : ResetGate) (comesBack : Bool) :
    let reset := if comesBack then [Move.step 0, .step 0, .step 0] else [.fail 0, .step 0]
    let after := run (.call 0 :: .step 0 :: reset) ⟨gate, [.away], []⟩
    after.gate = (gate.pass comesBack).2 ∧
      ∀ ran, .returned 0 ran ∈ after.history ↔ (gate.pass comesBack).1 = some ran := by
  obtain ⟨bar, flag⟩ := gate
  cases bar <;> cases comesBack <;> simp [run, move?, step?, put, ResetGate.pass]

inductive Turn (gathering : Gathering) : Move → Gathering → Prop where
  | calls {id : Nat} (free : gathering.stages[id]? = some .away) :
      Turn gathering (.call id) (gathering.put id gathering.gate .arrived [.called id])
  | begins {id : Nat} (waits : gathering.stages[id]? = some .arrived)
      (closed : gathering.gate.bar = .closed) (alone : .resetting ∉ gathering.stages) :
      Turn gathering (.step id) (gathering.put id gathering.gate .resetting [.begun id])
  | passes {id : Nat} (waits : gathering.stages[id]? = some .arrived)
      (lifted : gathering.gate.bar = .lifted) :
      Turn gathering (.step id) (gathering.put id gathering.gate (.leaving false) [])
  | breaks {id : Nat} (waits : gathering.stages[id]? = some .arrived)
      (broken : gathering.gate.bar = .broken) :
      Turn gathering (.step id) (gathering.put id gathering.gate .lost [])
  | finishes {id : Nat} (runs : gathering.stages[id]? = some .resetting) :
      Turn gathering (.step id) (gathering.put id gathering.gate.lift .flagging [.finished id])
  | fails {id : Nat} (runs : gathering.stages[id]? = some .resetting) :
      Turn gathering (.fail id) (gathering.put id gathering.gate.spoil .lost [.failed id])
  | raises {id : Nat} (runs : gathering.stages[id]? = some .flagging) :
      Turn gathering (.step id)
        (gathering.put id gathering.gate.raise (.leaving true) [.raised id])
  | returns {id : Nat} {ran : Bool} (leaves : gathering.stages[id]? = some (.leaving ran)) :
      Turn gathering (.step id) (gathering.put id gathering.gate .away [.returned id ran])
  | looks : Turn gathering .look
      { gathering with history := .looked gathering.gate.isDone :: gathering.history }

variable {gathering next : Gathering} {move : Move} {id : Nat}

theorem step?_turn (made : gathering.step? id = some next) : Turn gathering (.step id) next := by
  simp only [step?] at made
  split at made
  · rename_i waits
    split at made
    · rename_i closed
      split at made
      · cases made
      · rename_i alone
        cases made
        exact .begins waits closed alone
    · rename_i lifted
      cases made
      exact .passes waits lifted
    · rename_i broken
      cases made
      exact .breaks waits broken
  · rename_i runs
    cases made
    exact .finishes runs
  · rename_i runs
    cases made
    exact .raises runs
  · rename_i ran leaves
    cases made
    exact .returns leaves
  · cases made

theorem move?_turn (made : gathering.move? move = some next) : Turn gathering move next := by
  cases move with
  | call id =>
      simp only [move?] at made
      split at made
      · rename_i free
        cases made
        exact .calls free
      · cases made
  | step id => exact step?_turn made
  | fail id =>
      simp only [move?] at made
      split at made
      · rename_i runs
        cases made
        exact .fails runs
      · cases made
  | look =>
      cases made
      exact .looks

/-- What every move keeps holds after every run. -/
theorem run_keeps (invariant : Gathering → Prop)
    (kept : ∀ gathering move next, invariant gathering → Turn gathering move next →
      invariant next)
    (moves : List Move) (first : invariant gathering) : invariant (run moves gathering) := by
  induction moves generalizing gathering with
  | nil => exact first
  | cons move moves ih =>
      refine ih ?_
      cases made : gathering.move? move with
      | none => exact first
      | some next => exact kept gathering move next first (move?_turn made)

/-! ## How far the reset has come -/

inductive Phase where
  | fresh
  | resetting
  | flagging
  | leaving
  | gone
  | broken
  deriving DecidableEq, Repr

namespace Phase

def gate : Phase → ResetGate
  | fresh => ⟨.closed, false⟩
  | resetting => ⟨.closed, false⟩
  | flagging => ⟨.lifted, false⟩
  | leaving => ⟨.lifted, true⟩
  | gone => ⟨.lifted, true⟩
  | broken => ⟨.broken, false⟩

def stage? : Phase → Option Stage
  | resetting => some .resetting
  | flagging => some .flagging
  | leaving => some (.leaving true)
  | _ => none

def milestones (runner : Nat) : Phase → List Event
  | fresh => []
  | resetting => [.begun runner]
  | flagging => [.finished runner, .begun runner]
  | leaving => [.raised runner, .finished runner, .begun runner]
  | gone => [.returned runner true, .raised runner, .finished runner, .begun runner]
  | broken => [.failed runner, .begun runner]

end Phase

inductive Stage.IsBeside (bar : Bar) : Stage → Prop where
  | away : IsBeside bar .away
  | arrived : IsBeside bar .arrived
  | leaving (lifted : bar = .lifted) : IsBeside bar (.leaving false)
  | lost (broken : bar = .broken) : IsBeside bar .lost

theorem Stage.IsBeside.of_closed {stage : Stage} (beside : stage.IsBeside .closed) (bar : Bar) :
    stage.IsBeside bar := by
  cases beside with
  | away => exact .away
  | arrived => exact .arrived
  | leaving lifted => cases lifted
  | lost broken => cases broken

theorem Phase.not_isBeside {phase : Phase} {stage : Stage} (runs : phase.stage? = some stage)
    (bar : Bar) : ¬stage.IsBeside bar := by
  intro beside
  cases phase <;> cases runs <;> cases beside

theorem Phase.eq_of_stage? {phase other : Phase} {stage : Stage}
    (runs : phase.stage? = some stage) (same : other.stage? = some stage) : phase = other := by
  cases phase <;> cases runs <;> cases other <;> first | rfl | cases same

/-- One worker at most runs the reset, and it has come so far; the others are beside it. -/
structure InPhase (gathering : Gathering) (runner : Nat) (phase : Phase) : Prop where
  gate : gathering.gate = phase.gate
  milestones : gathering.history.filter Event.isMilestone = phase.milestones runner
  present : ∀ stage, phase.stage? = some stage → gathering.stages[runner]? = some stage
  placed : ∀ id stage, gathering.stages[id]? = some stage →
    id = runner ∧ phase.stage? = some stage ∨ stage.IsBeside gathering.gate.bar
  returned : ∀ id ran, .returned id ran ∈ gathering.history → gathering.gate.bar = .lifted
  waiting : phase = .fresh → ∀ id, .called id ∈ gathering.history →
    gathering.stages[id]? = some .arrived

namespace InPhase

variable {runner : Nat} {phase : Phase} {old new : Stage} {news : List Event} {gate : ResetGate}

theorem ofOpening (crew : Nat) : (opening crew).InPhase 0 .fresh where
  gate := rfl
  milestones := rfl
  present := nofun
  placed := by
    intro id stage found
    rw [List.eq_of_mem_replicate (List.mem_of_getElem? found)]
    exact Or.inr .away
  returned := nofun
  waiting := nofun

theorem getElem?_put_self (found : gathering.stages[id]? = some old) :
    (gathering.put id gate new news).stages[id]? = some new :=
  List.getElem?_set_self (List.getElem?_eq_some_iff.mp found).1

/-- A worker beside the reset goes on. -/
theorem putBeside (standing : gathering.InPhase runner phase)
    (found : gathering.stages[id]? = some old) (before : old.IsBeside gathering.gate.bar)
    (after : new.IsBeside gathering.gate.bar) (quiet : news.filter Event.isMilestone = [])
    (returned : ∀ id ran, .returned id ran ∈ news → gathering.gate.bar = .lifted)
    (waiting : gathering.gate.bar = .closed →
      new = .arrived ∧ ∀ other, .called other ∈ news → other = id) :
    (gathering.put id gathering.gate new news).InPhase runner phase where
  gate := standing.gate
  milestones := by
    rw [put, List.filter_append, quiet, List.nil_append, standing.milestones]
  present := by
    intro stage runs
    have there := standing.present stage runs
    have differs : id ≠ runner := by
      rintro rfl
      rw [there] at found
      cases found
      exact Phase.not_isBeside runs _ before
    exact (List.getElem?_set_ne differs).trans there
  placed := by
    intro other stage there
    rcases getElem?_set_cases there with ⟨-, rfl⟩ | ⟨-, there⟩
    · exact Or.inr after
    · exact standing.placed other stage there
  returned := by
    intro other ran member
    rcases List.mem_append.mp member with new | old
    · exact returned other ran new
    · exact standing.returned other ran old
  waiting := by
    rintro rfl other member
    obtain ⟨arrived, own⟩ := waiting (congrArg ResetGate.bar standing.gate)
    by_cases same : other = id
    · rw [same, getElem?_put_self found, arrived]
    · rcases List.mem_append.mp member with new | old
      · exact absurd (own other new) same
      · exact (List.getElem?_set_ne (Ne.symm same)).trans (standing.waiting rfl other old)

/-- The worker that runs the reset goes on, or begins with it. -/
theorem putRunner (found : gathering.stages[id]? = some old)
    (others : ∀ other stage, other ≠ id → gathering.stages[other]? = some stage →
      stage.IsBeside gate.bar)
    (sameGate : gate = phase.gate)
    (milestones : (news ++ gathering.history).filter Event.isMilestone = phase.milestones id)
    (own : phase.stage? = some new ∨ phase.stage? = none ∧ new.IsBeside gate.bar)
    (returned : ∀ other ran, .returned other ran ∈ news ++ gathering.history →
      gate.bar = .lifted)
    (moved : phase ≠ .fresh) : (gathering.put id gate new news).InPhase id phase where
  gate := sameGate
  milestones := milestones
  present := by
    intro stage runs
    rcases own with same | ⟨none, -⟩
    · rw [getElem?_put_self found, ← same, runs]
    · rw [none] at runs
      cases runs
  placed := by
    intro other stage there
    rcases getElem?_set_cases there with ⟨rfl, rfl⟩ | ⟨differs, there⟩
    · exact own.imp (fun same => ⟨rfl, same⟩) And.right
    · exact Or.inr (others other stage differs there)
  returned := returned
  waiting := fun fresh => absurd fresh moved

theorem others (standing : gathering.InPhase runner phase) {other : Nat} {stage : Stage}
    (differs : other ≠ runner) (found : gathering.stages[other]? = some stage) :
    stage.IsBeside gathering.gate.bar :=
  (standing.placed other stage found).resolve_left fun own => differs own.1

/-- Whoever stands where only the runner of a phase does is the runner in that phase. -/
theorem runs (standing : gathering.InPhase runner phase)
    (found : gathering.stages[id]? = some old) (known : Phase)
    (running : known.stage? = some old) : id = runner ∧ phase = known := by
  rcases standing.placed id old found with ⟨same, here⟩ | beside
  · exact ⟨same, Phase.eq_of_stage? here running⟩
  · exact absurd beside (Phase.not_isBeside running _)

theorem begins (standing : gathering.InPhase runner phase)
    (waits : gathering.stages[id]? = some .arrived) (closed : gathering.gate.bar = .closed)
    (alone : .resetting ∉ gathering.stages) :
    (gathering.put id gathering.gate .resetting [.begun id]).InPhase id .resetting := by
  have fresh : phase = .fresh := by
    rw [standing.gate] at closed
    cases phase with
    | fresh => rfl
    | resetting => exact absurd (List.mem_of_getElem? (standing.present _ rfl)) alone
    | flagging | leaving | gone | broken => cases closed
  subst fresh
  refine putRunner waits (fun other stage _ there => ?_) standing.gate ?_ (.inl rfl) ?_ nofun
  · exact (standing.placed other stage there).resolve_left fun own => by cases own.2
  · exact congrArg (Event.begun id :: ·) standing.milestones
  · simpa using standing.returned

theorem finishes (standing : gathering.InPhase runner phase)
    (runs : gathering.stages[id]? = some .resetting) :
    (gathering.put id gathering.gate.lift .flagging [.finished id]).InPhase id .flagging := by
  obtain ⟨rfl, rfl⟩ := standing.runs runs .resetting rfl
  have closed : gathering.gate.bar = .closed := congrArg ResetGate.bar standing.gate
  refine putRunner runs (fun other stage differs there => ?_) ?_ ?_ (.inl rfl)
    (fun _ _ _ => rfl) nofun
  · exact (closed ▸ standing.others differs there).of_closed _
  · rw [standing.gate]
    rfl
  · exact congrArg (Event.finished id :: ·) standing.milestones

theorem fails (standing : gathering.InPhase runner phase)
    (runs : gathering.stages[id]? = some .resetting) :
    (gathering.put id gathering.gate.spoil .lost [.failed id]).InPhase id .broken := by
  obtain ⟨rfl, rfl⟩ := standing.runs runs .resetting rfl
  have closed : gathering.gate.bar = .closed := congrArg ResetGate.bar standing.gate
  refine putRunner runs (fun other stage differs there => ?_) ?_ ?_ (.inr ⟨rfl, .lost rfl⟩)
    (fun other ran member => ?_) nofun
  · exact (closed ▸ standing.others differs there).of_closed _
  · rw [standing.gate]
    rfl
  · exact congrArg (Event.failed id :: ·) standing.milestones
  · have lifted := standing.returned other ran (by simpa using member)
    rw [closed] at lifted
    cases lifted

theorem raises (standing : gathering.InPhase runner phase)
    (runs : gathering.stages[id]? = some .flagging) :
    (gathering.put id gathering.gate.raise (.leaving true) [.raised id]).InPhase id .leaving := by
  obtain ⟨rfl, rfl⟩ := standing.runs runs .flagging rfl
  have lifted : gathering.gate.bar = .lifted := congrArg ResetGate.bar standing.gate
  refine putRunner runs (fun other stage differs there => standing.others differs there) ?_ ?_
    (.inl rfl) (fun _ _ _ => lifted) nofun
  · rw [standing.gate]
    rfl
  · exact congrArg (Event.raised id :: ·) standing.milestones

theorem returns (standing : gathering.InPhase runner phase)
    (runs : gathering.stages[id]? = some (.leaving true)) :
    (gathering.put id gathering.gate .away [.returned id true]).InPhase id .gone := by
  obtain ⟨rfl, rfl⟩ := standing.runs runs .leaving rfl
  have lifted : gathering.gate.bar = .lifted := congrArg ResetGate.bar standing.gate
  refine putRunner runs (fun other stage differs there => standing.others differs there)
    standing.gate ?_ (.inr ⟨rfl, .away⟩) (fun _ _ _ => lifted) nofun
  exact congrArg (Event.returned id true :: ·) standing.milestones

theorem lifted_of_leaving (standing : gathering.InPhase runner phase) {ran : Bool}
    (leaves : gathering.stages[id]? = some (.leaving ran)) : gathering.gate.bar = .lifted := by
  rcases standing.placed id _ leaves with ⟨-, runs⟩ | beside
  · rw [standing.gate]
    cases phase <;> cases runs
    rfl
  · cases beside with
    | leaving lifted => exact lifted

theorem turn (standing : gathering.InPhase runner phase) (turn : Turn gathering move next) :
    ∃ runner phase, next.InPhase runner phase := by
  cases turn with
  | calls free =>
      exact ⟨runner, phase, standing.putBeside free .away .arrived rfl (by simp)
        fun _ => ⟨rfl, by simp⟩⟩
  | begins waits closed alone => exact ⟨_, _, standing.begins waits closed alone⟩
  | passes waits lifted =>
      exact ⟨runner, phase, standing.putBeside waits .arrived (.leaving lifted) rfl nofun
        fun closed => nomatch lifted.symm.trans closed⟩
  | breaks waits broken =>
      exact ⟨runner, phase, standing.putBeside waits .arrived (.lost broken) rfl nofun
        fun closed => nomatch broken.symm.trans closed⟩
  | finishes runs => exact ⟨_, _, standing.finishes runs⟩
  | fails runs => exact ⟨_, _, standing.fails runs⟩
  | raises runs => exact ⟨_, _, standing.raises runs⟩
  | @returns id ran leaves =>
      cases ran with
      | true => exact ⟨_, _, standing.returns leaves⟩
      | false =>
          have lifted := standing.lifted_of_leaving leaves
          exact ⟨runner, phase, standing.putBeside leaves (.leaving lifted) .away rfl
            (fun _ _ _ => lifted) fun closed => nomatch lifted.symm.trans closed⟩
  | looks =>
      exact ⟨runner, phase, standing.gate, standing.milestones, standing.present,
        standing.placed, by simpa using standing.returned, by simpa using standing.waiting⟩

theorem mem_history (standing : gathering.InPhase runner phase) {event : Event}
    (member : event ∈ phase.milestones runner) : event ∈ gathering.history := by
  rw [← standing.milestones] at member
  exact List.mem_of_mem_filter member

/-- Behind a lifted bar the reset has come back. -/
theorem exists_finished (standing : gathering.InPhase runner phase)
    (lifted : gathering.gate.bar = .lifted) : ∃ runner, .finished runner ∈ gathering.history := by
  refine ⟨runner, standing.mem_history ?_⟩
  rw [standing.gate] at lifted
  cases phase <;> cases lifted <;> simp [Phase.milestones]

theorem lifted_of_isDone (standing : gathering.InPhase runner phase)
    (done : gathering.gate.isDone = true) : gathering.gate.bar = .lifted := by
  rw [standing.gate] at done ⊢
  cases phase <;> cases done <;> rfl

/-- Whoever ran the reset has said so before it leaves. -/
theorem isDone_of_returned (standing : gathering.InPhase runner phase)
    (member : .returned id true ∈ gathering.history) : gathering.gate.isDone = true := by
  have milestone : .returned id true ∈ phase.milestones runner := by
    rw [← standing.milestones]
    exact List.mem_filter.mpr ⟨member, rfl⟩
  rw [standing.gate]
  cases phase <;> first | rfl | simp [Phase.milestones] at milestone

end InPhase

/-! ## In which order -/

/-- What has to stand before an event. -/
def Event.IsDue : Event → List Event → Prop
  | returned _ _, earlier => ∃ runner, .finished runner ∈ earlier
  | looked done, earlier =>
      (done = true → ∃ runner, .finished runner ∈ earlier) ∧
        ∀ runner, .returned runner true ∈ earlier → done = true
  | _, _ => True

def IsOrderly : List Event → Prop
  | [] => True
  | event :: earlier => event.IsDue earlier ∧ IsOrderly earlier

theorem IsOrderly.split {later earlier : List Event} {event : Event}
    (orderly : IsOrderly (later ++ event :: earlier)) : event.IsDue earlier := by
  induction later with
  | nil => exact orderly.1
  | cons first rest ih => exact ih orderly.2

theorem InPhase.turn_isOrderly {runner : Nat} {phase : Phase}
    (standing : gathering.InPhase runner phase) (orderly : IsOrderly gathering.history)
    (turn : Turn gathering move next) : IsOrderly next.history := by
  cases turn with
  | calls | begins | finishes | fails | raises => exact ⟨trivial, orderly⟩
  | passes | breaks => exact orderly
  | returns leaves =>
      exact ⟨standing.exists_finished (standing.lifted_of_leaving leaves), orderly⟩
  | looks =>
      exact ⟨⟨fun done => standing.exists_finished (standing.lifted_of_isDone done),
        fun runner returned => standing.isDone_of_returned returned⟩, orderly⟩

/-! ## On to the end -/

def Stage.ahead : Stage → Nat
  | away => 0
  | arrived => 4
  | resetting => 3
  | flagging => 2
  | leaving _ => 1
  | lost => 0

def ahead (gathering : Gathering) : Nat :=
  (gathering.stages.map Stage.ahead).sum

theorem ahead_put_lt {old new : Stage} (found : gathering.stages[id]? = some old)
    (less : new.ahead < old.ahead) (gate : ResetGate) (news : List Event) :
    (gathering.put id gate new news).ahead < gathering.ahead := by
  have moved : (gathering.put id gate new news).ahead + old.ahead = gathering.ahead + new.ahead :=
    sum_set_add found new Stage.ahead
  omega

theorem Turn.ahead_lt (turn : Turn gathering (.step id) next) : next.ahead < gathering.ahead := by
  cases turn with
  | begins found | passes found | breaks found | finishes found | raises found =>
      exact ahead_put_lt found (by decide) _ _
  | returns found =>
      exact ahead_put_lt found (show Stage.away.ahead < 1 from Nat.zero_lt_one) _ _

namespace InPhase

variable {runner : Nat} {phase : Phase}

/-- While a call is under way some worker can go on. -/
theorem exists_step (standing : gathering.InPhase runner phase) {stage : Stage}
    (member : stage ∈ gathering.stages) (busy : stage.isOver = false) :
    ∃ id next, gathering.step? id = some next := by
  -- Who runs the reset is never held up, and without one nobody who waits is.
  cases running : phase.stage? with
  | some own =>
      have there := standing.present own running
      refine ⟨runner, Option.isSome_iff_exists.mp ?_⟩
      cases phase <;> cases running <;> simp [step?, there]
  | none =>
      obtain ⟨id, there⟩ := List.getElem?_of_mem member
      refine ⟨id, Option.isSome_iff_exists.mp ?_⟩
      rcases standing.placed id stage there with ⟨-, runs⟩ | beside
      · rw [running] at runs
        cases runs
      · cases beside with
        | away | lost => cases busy
        | leaving lifted => simp [step?, there]
        | arrived =>
            have alone : .resetting ∉ gathering.stages := by
              intro other
              obtain ⟨busyId, runs⟩ := List.getElem?_of_mem other
              obtain ⟨-, rfl⟩ := standing.runs runs .resetting rfl
              cases running
            cases bar : gathering.gate.bar <;> simp [step?, there, bar, alone]

/-- All calls can be brought to their end. -/
theorem exists_steps (standing : gathering.InPhase runner phase) :
    ∃ steps : List Nat,
      ∀ stage ∈ (run (steps.map .step) gathering).stages, stage.isOver = true := by
  induction left : gathering.ahead using Nat.strong_induction_on
    generalizing gathering runner phase with
  | _ left ih =>
      by_cases ended : ∀ stage ∈ gathering.stages, stage.isOver = true
      · exact ⟨[], ended⟩
      · push Not at ended
        obtain ⟨stage, member, busy⟩ := ended
        obtain ⟨id, next, made⟩ := standing.exists_step member (Bool.eq_false_iff.mpr busy)
        have turn := step?_turn made
        obtain ⟨_, _, after⟩ := standing.turn turn
        obtain ⟨steps, ended⟩ := ih next.ahead (left ▸ turn.ahead_lt) after rfl
        refine ⟨id :: steps, ?_⟩
        rw [List.map_cons, run, move?, made]
        exact ended

/-- When all calls are over, the reset has run to an end or was cut short. -/
theorem gone_or_broken (standing : gathering.InPhase runner phase)
    (ended : ∀ stage ∈ gathering.stages, stage.isOver = true)
    (called : .called id ∈ gathering.history) : phase = .gone ∨ phase = .broken := by
  have notHere (stage : Stage) (busy : stage.isOver = false) (place : Nat) :
      gathering.stages[place]? ≠ some stage := by
    intro there
    rw [ended stage (List.mem_of_getElem? there)] at busy
    cases busy
  cases phase with
  | fresh => exact absurd (standing.waiting rfl id called) (notHere _ rfl _)
  | resetting | flagging | leaving =>
      exact absurd (standing.present _ rfl) (notHere _ rfl _)
  | gone => exact Or.inl rfl
  | broken => exact Or.inr rfl

theorem broken_of_failed (standing : gathering.InPhase runner phase)
    (failed : .failed id ∈ gathering.history) : phase = .broken := by
  have milestone : .failed id ∈ phase.milestones runner := by
    rw [← standing.milestones]
    exact List.mem_filter.mpr ⟨failed, rfl⟩
  cases phase <;> first | rfl | simp [Phase.milestones] at milestone

end InPhase

/-- What every run leads to. -/
theorem standing_run (crew : Nat) (moves : List Move) :
    let gathering := run moves (opening crew)
    (∃ runner phase, gathering.InPhase runner phase) ∧ IsOrderly gathering.history := by
  refine run_keeps
    (fun gathering => (∃ runner phase, gathering.InPhase runner phase) ∧
      IsOrderly gathering.history) ?_ moves ⟨⟨0, .fresh, .ofOpening crew⟩, trivial⟩
  rintro gathering move next ⟨⟨runner, phase, standing⟩, orderly⟩ turn
  exact ⟨standing.turn turn, standing.turn_isOrderly orderly turn⟩

/--
Whoever moves when: one reset at most is begun, one call at most returns that it ran it, and it
is the same worker's.  No call returns, and nobody is told that the reset is over, before it has
come back; when the call that ran it has returned, everybody is told so.  All calls can come to
their end; then a reset that was not cut short has run once, one call has returned that it ran
it, and the gate says that it is done.  After one that was cut short no call returns.
-/
theorem reset_runs_once (crew : Nat) (moves : List Move) :
    let gathering := run moves (opening crew)
    (∃ runner,
      gathering.history.filter Event.isMilestone <:+
          [.returned runner true, .raised runner, .finished runner, .begun runner] ∨
        gathering.history.filter Event.isMilestone = [.failed runner, .begun runner]) ∧
    (∀ later id ran earlier, gathering.history = later ++ .returned id ran :: earlier →
      ∃ runner, .finished runner ∈ earlier) ∧
    (∀ later earlier, gathering.history = later ++ .looked true :: earlier →
      ∃ runner, .finished runner ∈ earlier) ∧
    (∀ later runner earlier, gathering.history = later ++ .returned runner true :: earlier →
      .looked false ∉ later) ∧
    (∃ steps : List Nat,
      ∀ stage ∈ (run (steps.map .step) gathering).stages, stage.isOver = true) ∧
    ((∀ stage ∈ gathering.stages, stage.isOver = true) →
      ∀ id, .called id ∈ gathering.history → (∀ other, .failed other ∉ gathering.history) →
        (∃ runner, gathering.history.filter Event.isMilestone =
          [.returned runner true, .raised runner, .finished runner, .begun runner]) ∧
        gathering.gate.isDone = true) ∧
    (∀ runner, .failed runner ∈ gathering.history →
      (∀ id ran, .returned id ran ∉ gathering.history) ∧ gathering.gate.isDone = false) := by
  obtain ⟨⟨runner, phase, standing⟩, orderly⟩ := standing_run crew moves
  refine ⟨⟨runner, ?_⟩, ?_, ?_, ?_, standing.exists_steps, ?_, ?_⟩
  · rw [standing.milestones]
    cases phase with
    | broken => exact Or.inr rfl
    | fresh | resetting | flagging | leaving | gone =>
        exact Or.inl (by simp [Phase.milestones, List.suffix_cons_iff])
  · intro later id ran earlier history
    rw [history] at orderly
    exact orderly.split
  · intro later earlier history
    rw [history] at orderly
    exact orderly.split.1 rfl
  · intro later runner earlier history member
    obtain ⟨newer, older, rfl⟩ := List.append_of_mem member
    rw [history, List.append_assoc, List.cons_append] at orderly
    exact nomatch orderly.split.2 runner (List.mem_append_right _ List.mem_cons_self)
  · intro ended id called unbroken
    rcases standing.gone_or_broken ended called with rfl | rfl
    · exact ⟨⟨runner, standing.milestones⟩, congrArg ResetGate.flag standing.gate⟩
    · exact absurd (standing.mem_history List.mem_cons_self) (unbroken runner)
  · intro other failed
    obtain rfl := standing.broken_of_failed failed
    refine ⟨fun id ran returned => ?_, congrArg ResetGate.flag standing.gate⟩
    have lifted := standing.returned id ran returned
    rw [standing.gate] at lifted
    cases lifted

/--
A worker that waited leaves while the one that ran the reset has yet to say that it is done; and
behind a reset that was cut short no call ever returns.
-/
theorem waiter_returns_before_flag :
    (run [.call 0, .call 1, .step 0, .step 0, .step 1, .step 1, .look] (opening 2)).history =
        [.looked false, .returned 1 false, .finished 0, .begun 0, .called 1, .called 0] ∧
      run [.call 0, .step 0, .fail 0, .call 1, .step 1, .look] (opening 2) =
        ⟨⟨.broken, false⟩, [.lost, .lost],
          [.looked false, .called 1, .failed 0, .begun 0, .called 0]⟩ :=
  ⟨rfl, rfl⟩

end Gathering

end SpatialWorkload
