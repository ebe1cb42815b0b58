import Mathlib.Data.List.Nodup
import SpatialWorkload.Proofs.Place
import SpatialWorkload.Proofs.Store.SharedCache

/-!
# A shared cache is one map

Each call settles at its last locked step.  Made one after another in the order in which they
settle, the calls answer on a map of texts what they answered on the cache, and no call comes
before another that had returned when it began.  So the sessions cannot tell the cache from a
map that takes each call in one step.
-/

namespace SpatialWorkload.SharedCache

structure Settled where
  number : Nat
  call : Call
  answer : Option String

/-- The calls of a history in the order in which they settled, the last one first. -/
def settled : List Event → List Settled
  | [] => []
  | .settled number call answer :: earlier => ⟨number, call, answer⟩ :: settled earlier
  | .called .. :: earlier => settled earlier
  | .returned .. :: earlier => settled earlier

/-- What calls made one after another on an empty map leave in it; the last one comes first. -/
def replay : List Settled → TextMap
  | [] => fun _ _ => none
  | last :: earlier => (last.call.perform (replay earlier)).2

/-- Each call answers what it answers on the map that the calls before it have left. -/
def IsSequential : List Settled → Prop
  | [] => True
  | last :: earlier =>
      last.answer = (last.call.perform (replay earlier)).1 ∧ IsSequential earlier

/--
An order that explains a history: made in it one after another the calls give their answers,
it has every call that has returned, and it keeps the order of calls that do not overlap.
-/
structure IsLinearizedBy (history : List Event) (order : List Settled) : Prop where
  sequential : IsSequential order
  distinct : (order.map Settled.number).Nodup
  called : ∀ entry ∈ order, .called entry.number entry.call ∈ history
  returned : ∀ number answer, .returned number answer ∈ history →
    ∃ entry ∈ order, entry.number = number ∧ entry.answer = answer
  inOrder : ∀ first ∈ order, ∀ second ∈ order, ∀ later earlier,
    history = later ++ .called second.number second.call :: earlier →
      .returned first.number first.answer ∈ earlier → [second, first].Sublist order

/-- Calls are numbered apart, and each is called, then settled once, then returns its answer. -/
def IsOrderly : List Event → Prop
  | [] => True
  | .called number _ :: earlier =>
      (∀ event ∈ earlier, event.number ≠ number) ∧ IsOrderly earlier
  | .settled number call _ :: earlier =>
      .called number call ∈ earlier ∧
        (∀ other answer, .settled number other answer ∉ earlier) ∧ IsOrderly earlier
  | .returned number answer :: earlier =>
      (∃ call, .settled number call answer ∈ earlier) ∧ IsOrderly earlier

section

variable {history : List Event} {number : Nat} {call other : Call}
  {answer found : Option String}

theorem mem_settled {entry : Settled} :
    entry ∈ settled history ↔ .settled entry.number entry.call entry.answer ∈ history := by
  induction history with
  | nil => simp [settled]
  | cons event earlier ih =>
      cases event with
      | settled number call answer =>
          obtain ⟨own, made, given⟩ := entry
          simp [settled, ih]
      | called | returned => simp [settled, ih]

theorem settled_of_mem (member : .settled number call answer ∈ history) :
    ⟨number, call, answer⟩ ∈ settled history :=
  mem_settled.mpr member

theorem settled_append (later earlier : List Event) :
    settled (later ++ earlier) = settled later ++ settled earlier := by
  induction later with
  | nil => rfl
  | cons event later ih => cases event <;> simp [settled, ih]

namespace IsOrderly

theorem tail {event : Event} (orderly : IsOrderly (event :: history)) : IsOrderly history := by
  cases event with
  | called => exact orderly.2
  | settled => exact orderly.2.2
  | returned => exact orderly.2

theorem of_append {later : List Event} (orderly : IsOrderly (later ++ history)) :
    IsOrderly history := by
  induction later with
  | nil => exact orderly
  | cons event later ih => exact ih orderly.tail

theorem called_of_settled (orderly : IsOrderly history)
    (member : .settled number call answer ∈ history) : .called number call ∈ history := by
  induction history with
  | nil => cases member
  | cons event earlier ih =>
      rcases List.mem_cons.mp member with rfl | before
      · exact List.mem_cons_of_mem _ orderly.1
      · exact List.mem_cons_of_mem _ (ih orderly.tail before)

theorem settled_of_returned (orderly : IsOrderly history)
    (member : .returned number answer ∈ history) :
    ∃ call, .settled number call answer ∈ history := by
  induction history with
  | nil => cases member
  | cons event earlier ih =>
      rcases List.mem_cons.mp member with rfl | before
      · obtain ⟨call, there⟩ := orderly.1
        exact ⟨call, List.mem_cons_of_mem _ there⟩
      · obtain ⟨call, there⟩ := ih orderly.tail before
        exact ⟨call, List.mem_cons_of_mem _ there⟩

theorem call_unique (orderly : IsOrderly history) (first : .called number call ∈ history)
    (second : .called number other ∈ history) : call = other := by
  induction history with
  | nil => cases first
  | cons event earlier ih =>
      rcases List.mem_cons.mp first with rfl | firstBefore
      · rcases List.mem_cons.mp second with same | secondBefore
        · cases same
          rfl
        · exact absurd rfl (orderly.1 _ secondBefore)
      · rcases List.mem_cons.mp second with rfl | secondBefore
        · exact absurd rfl (orderly.1 _ firstBefore)
        · exact ih orderly.tail firstBefore secondBefore

theorem distinct (orderly : IsOrderly history) :
    ((settled history).map Settled.number).Nodup := by
  induction history with
  | nil => exact List.nodup_nil
  | cons event earlier ih =>
      cases event with
      | settled number call answer =>
          refine List.nodup_cons.mpr ⟨fun member => ?_, ih orderly.tail⟩
          obtain ⟨entry, there, same⟩ := List.mem_map.mp member
          rw [mem_settled] at there
          cases same
          exact orderly.2.1 _ _ there
      | called | returned => exact ih orderly.tail

/-- A call settles once. -/
theorem settled_unique (orderly : IsOrderly history)
    (first : .settled number call answer ∈ history)
    (second : .settled number other found ∈ history) : call = other ∧ answer = found := by
  have same := List.inj_on_of_nodup_map orderly.distinct (settled_of_mem first)
    (settled_of_mem second) rfl
  cases same
  exact ⟨rfl, rfl⟩

theorem answer_of_returned (orderly : IsOrderly history)
    (settled : .settled number call answer ∈ history)
    (returned : .returned number found ∈ history) : found = answer := by
  obtain ⟨other, there⟩ := orderly.settled_of_returned returned
  exact (orderly.settled_unique there settled).2

/-- A call that had returned when another began has settled before it. -/
theorem inOrder {later earlier : List Event} {first second : Settled}
    (orderly : IsOrderly (later ++ .called second.number second.call :: earlier))
    (settledSecond : second ∈
      settled (later ++ .called second.number second.call :: earlier))
    (returned : .returned first.number first.answer ∈ earlier)
    (settledFirst : first ∈ settled (later ++ .called second.number second.call :: earlier)) :
    [second, first].Sublist (settled (later ++ .called second.number second.call :: earlier)) := by
  have beginning := orderly.of_append
  obtain ⟨call, before⟩ := beginning.tail.settled_of_returned returned
  have firstBefore : first ∈ settled earlier := by
    refine mem_settled.mpr ?_
    rw [(orderly.settled_unique (mem_settled.mp settledFirst)
      (List.mem_append_right later (List.mem_cons_of_mem _ before))).1]
    exact before
  rw [settled_append] at settledSecond ⊢
  rcases List.mem_append.mp settledSecond with after | notAfter
  · exact (List.singleton_sublist.mpr after).append (List.singleton_sublist.mpr firstBefore)
  · exact absurd rfl (beginning.1 _ (mem_settled.mp notAfter))

end IsOrderly

/-- Every text that calls leave in a map was built by a builder passed to one of them for it. -/
theorem origin_of_replay {order : List Settled} {table name text : String}
    (resident : replay order table name = some text) :
    ∃ entry ∈ order, ∃ build, entry.call = .get table name build ∧ text = build table := by
  induction order with
  | nil => cases resident
  | cons last earlier ih =>
      rcases Call.perform_origin resident with before | ⟨build, same, built⟩
      · obtain ⟨entry, member, origin⟩ := ih before
        exact ⟨entry, List.mem_cons_of_mem _ member, origin⟩
      · exact ⟨last, List.mem_cons_self, build, same, built⟩

/-- A text stays while its table is not invalidated. -/
theorem replay_stays {between earlier : List Settled} {table name text : String}
    (resident : replay earlier table name = some text)
    (kept : ∀ entry ∈ between, entry.call ≠ .invalidate table) :
    replay (between ++ earlier) table name = some text := by
  induction between with
  | nil => exact resident
  | cons last between ih =>
      obtain ⟨lastKept, othersKept⟩ := List.forall_mem_cons.mp kept
      exact Call.perform_stays (ih othersKept) lastKept

theorem IsSequential.of_append {later earlier : List Settled}
    (sequential : IsSequential (later ++ earlier)) : IsSequential earlier := by
  induction later with
  | nil => exact sequential
  | cons last later ih => exact ih sequential.2

/-- A call for a text answers with a text, which is in the map afterwards. -/
theorem IsSequential.resident {earlier : List Settled} {table name : String}
    {build : String → String}
    (sequential : IsSequential (⟨number, .get table name build, answer⟩ :: earlier)) :
    ∃ text, answer = some text ∧
      replay (⟨number, .get table name build, answer⟩ :: earlier) table name = some text := by
  have given : answer = replay (⟨number, .get table name build, answer⟩ :: earlier) table name :=
    sequential.1.trans (Call.perform_get table name build _)
  obtain ⟨text, is⟩ := Call.exists_answer table name build (replay earlier)
  exact ⟨text, sequential.1.trans is, given.symm.trans (sequential.1.trans is)⟩

/-- Calls for one text with no invalidation of its table between them answer alike. -/
theorem IsSequential.agree {between earlier : List Settled} {table name : String}
    {first second : Nat} {firstBuild secondBuild : String → String}
    (sequential : IsSequential (⟨second, .get table name secondBuild, found⟩ ::
      (between ++ ⟨first, .get table name firstBuild, answer⟩ :: earlier)))
    (kept : ∀ entry ∈ between, entry.call ≠ .invalidate table) : found = answer := by
  obtain ⟨text, rfl, resident⟩ := sequential.2.of_append.resident
  have given := sequential.1
  rwa [Call.perform_of_present (replay_stays resident kept)] at given

end

structure Stage.IsBacked (history : List Event) (stage : Stage) : Prop where
  pending : ∀ number call, stage.pending? = some (number, call) →
    .called number call ∈ history ∧ ∀ other answer, .settled number other answer ∉ history
  leaving : ∀ number answer, stage = .leaving number answer →
    ∃ call, .settled number call answer ∈ history

theorem Stage.IsBacked.cons {history : List Event} {stage : Stage}
    (backed : stage.IsBacked history) {event : Event}
    (foreign : ∀ call, stage.pending? ≠ some (event.number, call)) :
    stage.IsBacked (event :: history) where
  pending number call pending := by
    obtain ⟨called, unsettled⟩ := backed.pending number call pending
    refine ⟨List.mem_cons_of_mem _ called, fun other answer member => ?_⟩
    rcases List.mem_cons.mp member with rfl | before
    · exact foreign call pending
    · exact unsettled other answer before
  leaving number answer is := by
    obtain ⟨call, there⟩ := backed.leaving number answer is
    exact ⟨call, List.mem_cons_of_mem _ there⟩

variable {shared next : SharedCache} {move : Move}

inductive Turn (shared : SharedCache) : Move → SharedCache → Prop where
  | passes {move : Move} : Turn shared move shared
  | calls {session : Nat} {call : Call} (free : shared.stages[session]? = some .idle) :
      Turn shared (.call session call)
        ⟨shared.cache, shared.calls + 1,
          shared.stages.set session (.entering shared.calls call),
          .called shared.calls call :: shared.history⟩
  | steps {session : Nat} {stage after : Stage} {cache : StatementCache} {news : List Event}
      (there : shared.stages[session]? = some stage)
      (advance : stage.Advance shared.cache cache after news) :
      Turn shared (.step session)
        ⟨cache, shared.calls, shared.stages.set session after, news ++ shared.history⟩

theorem make_turn (shared : SharedCache) (move : Move) : Turn shared move (shared.make move) := by
  cases move with
  | call session call =>
      simp only [make]
      split
      · rename_i free
        exact .calls free
      · exact .passes
  | step session =>
      simp only [make]
      split
      · rename_i stage there
        exact .steps there (stage.step_advance shared.cache)
      · exact .passes

/-- The cache is the map that the settled calls leave, and every session is where it should be. -/
structure IsSound (shared : SharedCache) : Prop where
  texts : shared.cache.probe = replay (settled shared.history)
  sequential : IsSequential (settled shared.history)
  orderly : IsOrderly shared.history
  below : ∀ event ∈ shared.history, event.number < shared.calls
  backed : ∀ (session : Nat) stage, shared.stages[session]? = some stage →
    stage.IsBacked shared.history
  apart : ∀ (first second : Nat) one other number call otherCall,
    shared.stages[first]? = some one → shared.stages[second]? = some other →
      one.pending? = some (number, call) → other.pending? = some (number, otherCall) →
        first = second

namespace IsSound

theorem ofOpening (crew : Nat) : (opening crew).IsSound where
  texts := rfl
  sequential := trivial
  orderly := trivial
  below event member := nomatch member
  backed session stage there := by
    rw [List.eq_of_mem_replicate (List.mem_of_getElem? there)]
    exact ⟨nofun, nofun⟩
  apart first second one other number call otherCall there _ pending := by
    rw [List.eq_of_mem_replicate (List.mem_of_getElem? there)] at pending
    cases pending

theorem pending_lt (sound : shared.IsSound) {session : Nat} {stage : Stage}
    (there : shared.stages[session]? = some stage) {number : Nat} {call : Call}
    (pending : stage.pending? = some (number, call)) : number < shared.calls :=
  sound.below _ ((sound.backed session stage there).pending number call pending).1

/-- A new stage takes no number that another session's pending call has. -/
theorem apart_set (sound : shared.IsSound) {session : Nat} {new : Stage}
    (own : ∀ (other : Nat) stage number call otherCall, other ≠ session →
      shared.stages[other]? = some stage → new.pending? = some (number, call) →
        stage.pending? ≠ some (number, otherCall)) :
    ∀ (first second : Nat) one other number call otherCall,
      (shared.stages.set session new)[first]? = some one →
        (shared.stages.set session new)[second]? = some other →
          one.pending? = some (number, call) → other.pending? = some (number, otherCall) →
            first = second := by
  intro first second one other number call otherCall firstThere secondThere pending otherPending
  rcases getElem?_set_cases firstThere with ⟨rfl, rfl⟩ | ⟨differs, firstBefore⟩
  · rcases getElem?_set_cases secondThere with ⟨same, -⟩ | ⟨differs, secondBefore⟩
    · exact same.symm
    · exact absurd otherPending
        (own second other number call otherCall differs secondBefore pending)
  · rcases getElem?_set_cases secondThere with ⟨rfl, rfl⟩ | ⟨-, secondBefore⟩
    · exact absurd pending (own first one number otherCall call differs firstBefore otherPending)
    · exact sound.apart first second one other number call otherCall firstBefore secondBefore
        pending otherPending

theorem calls (sound : shared.IsSound) (session : Nat) (call : Call) :
    IsSound ⟨shared.cache, shared.calls + 1,
      shared.stages.set session (.entering shared.calls call),
      .called shared.calls call :: shared.history⟩ where
  texts := sound.texts
  sequential := sound.sequential
  orderly := ⟨fun event member => Nat.ne_of_lt (sound.below event member), sound.orderly⟩
  below := List.forall_mem_cons.mpr
    ⟨Nat.lt_succ_self _, fun event member => Nat.lt_succ_of_lt (sound.below event member)⟩
  backed other stage there := by
    rcases getElem?_set_cases there with ⟨-, rfl⟩ | ⟨-, before⟩
    · have entered : (Stage.entering shared.calls call).pending? = some (shared.calls, call) := by
        cases call <;> rfl
      refine ⟨fun number known pending => ?_, fun number answer is => ?_⟩
      · cases entered.symm.trans pending
        refine ⟨List.mem_cons_self, fun other answer member => ?_⟩
        rcases List.mem_cons.mp member with same | earlier
        · cases same
        · exact absurd (sound.below _ earlier) (Nat.lt_irrefl _)
      · cases call <;> cases is
    · refine (sound.backed other stage before).cons fun known pending => ?_
      exact absurd (sound.pending_lt before pending) (Nat.lt_irrefl _)
  apart := by
    refine sound.apart_set fun other stage number known otherCall _ before entered pending => ?_
    have fresh : number = shared.calls := by
      cases call <;> cases entered <;> rfl
    subst fresh
    exact absurd (sound.pending_lt before pending) (Nat.lt_irrefl _)

theorem quiet (sound : shared.IsSound) {session : Nat} {stage after : Stage}
    (there : shared.stages[session]? = some stage) (same : after.pending? = stage.pending?)
    (stays : ∀ number answer, after ≠ .leaving number answer) :
    IsSound { shared with stages := shared.stages.set session after } where
  texts := sound.texts
  sequential := sound.sequential
  orderly := sound.orderly
  below := sound.below
  backed other found set := by
    rcases getElem?_set_cases set with ⟨-, rfl⟩ | ⟨-, before⟩
    · refine ⟨fun number call pending => ?_, fun number answer is => absurd is (stays _ _)⟩
      exact (sound.backed session stage there).pending number call (same ▸ pending)
    · exact sound.backed other found before
  apart := by
    refine sound.apart_set fun other found number call otherCall differs before pending clash => ?_
    exact differs (sound.apart other session found stage number otherCall call before there clash
      (same ▸ pending))

theorem settles (sound : shared.IsSound) {session : Nat} {stage : Stage} {cache : StatementCache}
    {number : Nat} {call : Call} {answer : Option String}
    (there : shared.stages[session]? = some stage)
    (pending : stage.pending? = some (number, call))
    (performed : call.perform shared.cache.probe = (answer, cache.probe)) :
    IsSound ⟨cache, shared.calls, shared.stages.set session (.leaving number answer),
      .settled number call answer :: shared.history⟩ where
  texts := by
    rw [settled, replay, ← sound.texts, performed]
  sequential := by
    refine ⟨?_, sound.sequential⟩
    rw [← sound.texts, performed]
  orderly := by
    obtain ⟨called, unsettled⟩ := (sound.backed session stage there).pending number call pending
    exact ⟨called, unsettled, sound.orderly⟩
  below := List.forall_mem_cons.mpr ⟨sound.pending_lt there pending, sound.below⟩
  backed other found set := by
    rcases getElem?_set_cases set with ⟨-, rfl⟩ | ⟨differs, before⟩
    · refine ⟨nofun, fun known given is => ?_⟩
      cases is
      exact ⟨call, List.mem_cons_self⟩
    · refine (sound.backed other found before).cons fun known clash => ?_
      exact differs (sound.apart other session found stage number known call before there clash
        pending)
  apart := sound.apart_set fun _ _ _ _ _ _ _ gone => nomatch gone

theorem leaves (sound : shared.IsSound) {session : Nat} {number : Nat} {answer : Option String}
    (there : shared.stages[session]? = some (.leaving number answer)) :
    IsSound { shared with
      stages := shared.stages.set session .idle
      history := .returned number answer :: shared.history } where
  texts := sound.texts
  sequential := sound.sequential
  orderly := ⟨(sound.backed session _ there).leaving number answer rfl, sound.orderly⟩
  below := by
    obtain ⟨call, before⟩ := (sound.backed session _ there).leaving number answer rfl
    have known : number < shared.calls := sound.below _ before
    exact List.forall_mem_cons.mpr ⟨known, sound.below⟩
  backed other found set := by
    rcases getElem?_set_cases set with ⟨-, rfl⟩ | ⟨-, before⟩
    · exact ⟨nofun, nofun⟩
    · refine (sound.backed other found before).cons fun known clash => ?_
      obtain ⟨call, settled⟩ := (sound.backed session _ there).leaving number answer rfl
      exact ((sound.backed other found before).pending number known clash).2 _ _ settled
  apart := sound.apart_set fun _ _ _ _ _ _ _ gone => nomatch gone

theorem turn (sound : shared.IsSound) (turn : Turn shared move next) : next.IsSound := by
  cases turn with
  | passes => exact sound
  | calls => exact sound.calls _ _
  | steps there advance =>
      cases advance with
      | quiet same stays => exact sound.quiet there same stays
      | settles pending performed => exact sound.settles there pending performed
      | leaves is =>
          subst is
          exact sound.leaves there

theorem run (sound : shared.IsSound) (moves : List Move) : (run moves shared).IsSound := by
  induction moves generalizing shared with
  | nil => exact sound
  | cons move moves ih => exact ih (sound.turn (make_turn shared move))

theorem isLinearizedBy (sound : shared.IsSound) :
    IsLinearizedBy shared.history (settled shared.history) where
  sequential := sound.sequential
  distinct := sound.orderly.distinct
  called entry member := sound.orderly.called_of_settled (mem_settled.mp member)
  returned number answer member := by
    obtain ⟨call, there⟩ := sound.orderly.settled_of_returned member
    exact ⟨⟨number, call, answer⟩, settled_of_mem there, rfl, rfl⟩
  inOrder first settledFirst second settledSecond later earlier same returned := by
    have orderly := sound.orderly
    rw [same] at orderly settledFirst settledSecond ⊢
    exact orderly.inOrder settledSecond returned settledFirst

end IsSound

/--
Whatever calls the sessions make and whoever steps when, the calls are made on one map, in the
order of their last locked steps, and the cache is that map.  A call returns what is resident
at its last locked step; calls for one text with no invalidation of its table between those
steps return the same; a text that is returned was built by a builder passed for it; and no
step of a call touches another table.
-/
theorem acts_as_one_map (crew : Nat) (moves : List Move) :
    let shared := SharedCache.run moves (opening crew)
    IsLinearizedBy shared.history (settled shared.history) ∧
    shared.cache.probe = replay (settled shared.history) ∧
    (∀ session number table name build answer,
      (shared.make (.step session)).history =
          .settled number (.get table name build) answer :: shared.history →
        (shared.make (.step session)).cache.probe table name = answer) ∧
    (∀ number call answer found, .settled number call answer ∈ shared.history →
      .returned number found ∈ shared.history → found = answer) ∧
    (∀ later between earlier table name first firstBuild firstAnswer second secondBuild
        secondAnswer,
      shared.history = later ++ .settled second (.get table name secondBuild) secondAnswer ::
          (between ++ .settled first (.get table name firstBuild) firstAnswer :: earlier) →
        (∀ number answer, .settled number (.invalidate table) answer ∉ between) →
          ∀ one other, .returned first one ∈ shared.history →
            .returned second other ∈ shared.history → one = other) ∧
    (∀ number table name build answer, .called number (.get table name build) ∈ shared.history →
      .returned number answer ∈ shared.history →
        ∃ maker builder, .called maker (.get table name builder) ∈ shared.history ∧
          answer = some (builder table)) ∧
    (∀ session stage, shared.stages[session]? = some stage → ∀ table, stage.table? ≠ some table →
      (shared.make (.step session)).cache.texts table = shared.cache.texts table) := by
  intro shared
  have sound : shared.IsSound := (IsSound.ofOpening crew).run moves
  refine ⟨sound.isLinearizedBy, sound.texts, ?_, ?_, ?_, ?_, ?_⟩
  · intro session number table name build answer history
    have after := sound.turn (make_turn shared (.step session))
    have sequential := after.sequential
    rw [history] at sequential
    obtain ⟨text, rfl, resident⟩ := sequential.resident
    rw [after.texts, history]
    exact resident
  · intro number call answer found settled returned
    exact sound.orderly.answer_of_returned settled returned
  · intro later between earlier table name first firstBuild firstAnswer second secondBuild
      secondAnswer history kept one other firstReturned secondReturned
    have sequential := sound.sequential
    rw [history, settled_append, settled, settled_append, settled] at sequential
    have agree := sequential.of_append.agree fun entry member is => by
      have there := mem_settled.mp member
      rw [is] at there
      exact kept _ _ there
    have firstIn : .settled first (.get table name firstBuild) firstAnswer ∈ shared.history := by
      simp [history]
    have secondIn : .settled second (.get table name secondBuild) secondAnswer ∈
        shared.history := by
      simp [history]
    rw [sound.orderly.answer_of_returned firstIn firstReturned,
      sound.orderly.answer_of_returned secondIn secondReturned, agree]
  · intro number table name build answer called returned
    obtain ⟨call, there⟩ := sound.orderly.settled_of_returned returned
    cases sound.orderly.call_unique (sound.orderly.called_of_settled there) called
    obtain ⟨later, earlier, split⟩ := List.append_of_mem (settled_of_mem there)
    have sequential := sound.sequential
    rw [split] at sequential
    obtain ⟨text, rfl, resident⟩ := sequential.of_append.resident
    obtain ⟨entry, member, builder, is, built⟩ := origin_of_replay resident
    have made : entry ∈ settled shared.history := by
      rw [split]
      exact List.mem_append_right later member
    have origin := sound.orderly.called_of_settled (mem_settled.mp made)
    rw [is] at origin
    exact ⟨entry.number, builder, origin, congrArg some built⟩
  · intro session stage there table elsewhere
    simp only [make, there]
    exact Stage.texts_step shared.cache stage elsewhere

/-- Two sessions build one text at once, and both return what was added first. -/
theorem acts_as_one_map_race :
    let race : List Move :=
      [.call 0 (.get "T" "insert" fun _ => "slow"), .call 1 (.get "T" "insert" fun _ => "fast"),
        .step 0, .step 1, .step 0, .step 1, .step 1, .step 0, .step 0, .step 1]
    let shared := SharedCache.run race (opening 2)
    shared.history =
      [.returned 1 (some "fast"), .returned 0 (some "fast"),
        .settled 0 (.get "T" "insert" fun _ => "slow") (some "fast"),
        .settled 1 (.get "T" "insert" fun _ => "fast") (some "fast"),
        .called 1 (.get "T" "insert" fun _ => "fast"),
        .called 0 (.get "T" "insert" fun _ => "slow")] ∧
    ∀ one other, .returned 1 one ∈ shared.history → .returned 0 other ∈ shared.history →
      one = other := by
  intro race shared
  obtain ⟨-, -, -, -, agree, -⟩ := acts_as_one_map 2 race
  exact ⟨rfl, agree [_, _] [] _ "T" "insert" 1 _ _ 0 _ _ rfl fun _ _ => List.not_mem_nil⟩

end SpatialWorkload.SharedCache
