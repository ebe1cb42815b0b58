import Mathlib.Algebra.BigOperators.Group.List.Basic
import Mathlib.Algebra.Order.Group.Multiset
import Mathlib.Tactic.Abel
import SpatialWorkload.Proofs.Run.Reset

/-!
# Standings

What an insert call has yet to do with an index of the range: to take one, to insert its
record, to acknowledge it.  Every move on the floor is one of a few deeds, which say what
the counters are told and what the history gains; what all calls together have yet to do
is summed over the posts.
-/

namespace SpatialWorkload

inductive Standing where
  | entering
  /-- After so many failed attempts; another one has been asked for or has not. -/
  | trying (index : UInt64) (failed : Nat) (waiting : Bool)
  | inserted (index : UInt64)
  /-- The call has no index, or none any more. -/
  | aside

namespace Standing

def toEnter : Standing → Nat
  | entering => 1
  | _ => 0

def toInsert : Standing → Multiset UInt64
  | trying index _ _ => {index}
  | _ => 0

def toAnswer : Standing → Nat
  | trying _ _ true => 1
  | _ => 0

def toRetry (limit : Nat) : Standing → Nat
  | trying _ failed _ => limit - failed
  | _ => 0

def toAcknowledge : Standing → Multiset UInt64
  | inserted index => {index}
  | _ => 0

end Standing

def Stage.standing (waiting : Bool) : Stage → Standing
  | gate => .entering
  | flag => .entering
  | fetch => .entering
  | attempt index _ failed => .trying index failed waiting
  | acknowledge index => .inserted index
  | _ => .aside

structure Account where
  cursor : Cursor
  acknowledged : Watermark
  insert : Count
  retries : UInt64
  abandoned : UInt64

def Shared.account (shared : Shared) : Account :=
  ⟨shared.cursor, shared.acknowledged, shared.tally.insert, shared.tally.insertRetries,
    shared.tally.abandonedInserts⟩

/-- What a move does to the counters and from where to where it takes a call; its news. -/
inductive Deed (workload : Workload) (account : Account) :
    Standing → Account → Standing → List Event → Prop
  | rests {standing : Standing} : Deed workload account standing account standing []
  | calls {id : Nat} : Deed workload account .aside account .entering [.called id .insert]
  | exhausts
      (nothing : ∀ index, account.cursor.take.1 = some index →
        workload.dataset.get? index = none) :
      Deed workload account .entering { account with cursor := account.cursor.take.2 } .aside []
  | fetches {id : Nat} {index : UInt64} (taken : account.cursor.take.1 = some index) :
      Deed workload account .entering { account with cursor := account.cursor.take.2 }
        (.trying index 0 false) [.took id index]
  | asks {id : Nat} {index : UInt64} {failed : Nat} {table key : String}
      {position : Position Float} :
      Deed workload account (.trying index failed false) account (.trying index failed true)
        [.asked id (.insert table key position)]
  | inserts {index : UInt64} {failed : Nat} :
      Deed workload account (.trying index failed true)
        { account with insert := account.insert.record .success } (.inserted index) []
  | abandons {index : UInt64} {failed : Nat} {status : Status} (bad : status.isOk = false) :
      Deed workload account (.trying index failed true)
        { account with
          insert := account.insert.record status, abandoned := account.abandoned + 1 }
        .aside []
  | retries {index : UInt64} {failed : Nat}
      (left : failed < workload.config.retryLimit.toNat) :
      Deed workload account (.trying index failed true)
        { account with retries := account.retries + 1 } (.trying index (failed + 1) false) []
  | acknowledges {id : Nat} {index : UInt64} :
      Deed workload account (.inserted index)
        { account with acknowledged := account.acknowledged.acknowledge index } .aside
        [.returned id .insert true, .acknowledged id index]

/-- A recorded scan leaves the counters of the inserts alone. -/
theorem account_record_scan (shared : Shared) (kind : ScanKind) (status : Status) :
    (Worker.record shared (.scan kind) status).account = shared.account := by
  cases kind <;> rfl

theorem Status.isOk_ofError (error : StoreError) : (Status.ofError error).isOk = false := by
  cases error <;> rfl

namespace Event

def calls (call : Call) : Event → Bool
  | called _ other => other == call
  | _ => false

def returns (call : Call) (success : Bool) : Event → Bool
  | returned _ other result => other == call && result == success
  | _ => false

def taken? : Event → Option UInt64
  | took _ index => some index
  | _ => none

def acknowledged? : Event → Option UInt64
  | acknowledged _ index => some index
  | _ => none

structure IsQuiet (event : Event) : Prop where
  calls : event.calls .insert = false
  asks : event.asks Request.isInsert = false
  taken : event.taken? = none
  acknowledged : event.acknowledged? = none
  returns : event.returns .insert true = false

theorem isQuiet_of_mem_heard {σ : Type} {id : Nat} {backend : Backend σ} {store : σ}
    {request : Option Request} {event : Event}
    (member : event ∈ heard id backend store request) : event.IsQuiet := by
  cases request with
  | none => cases member
  | some request =>
      rw [List.mem_singleton.mp member]
      exact ⟨rfl, rfl, rfl, rfl, rfl⟩

theorem isQuiet_returned_transaction (id : Nat) (success : Bool) :
    (returned id .transaction success).IsQuiet :=
  ⟨rfl, rfl, rfl, rfl, rfl⟩

theorem isQuiet_returned_false (id : Nat) (call : Call) :
    (returned id call false).IsQuiet := by
  cases call <;> exact ⟨rfl, rfl, rfl, rfl, rfl⟩

end Event

namespace Deed

variable {workload : Workload} {account later : Account} {before after : Standing}
  {news shown : List Event}

def Shows (workload : Workload) (account : Account) (before : Standing) (later : Account)
    (after : Standing) (shown : List Event) : Prop :=
  ∃ news quiet, shown = news ++ quiet ∧ (∀ event ∈ quiet, event.IsQuiet) ∧
    Deed workload account before later after news

theorem shows (deed : Deed workload account before later after news) :
    Shows workload account before later after news :=
  ⟨news, [], (List.append_nil news).symm, fun _ member => (nomatch member), deed⟩

theorem shows_quiet (deed : Deed workload account before later after [])
    (quiet : ∀ event ∈ shown, event.IsQuiet) :
    Shows workload account before later after shown :=
  ⟨[], shown, rfl, quiet, deed⟩

theorem Shows.append (shows : Shows workload account before later after shown)
    {quiet : List Event} (silent : ∀ event ∈ quiet, event.IsQuiet) :
    Shows workload account before later after (shown ++ quiet) := by
  obtain ⟨news, rest, rfl, restQuiet, deed⟩ := shows
  exact ⟨news, rest ++ quiet, List.append_assoc news rest quiet,
    List.forall_mem_append.mpr ⟨restQuiet, silent⟩, deed⟩

end Deed

namespace Worker.Stride

variable {σ : Type} {workload : Workload} {backend : Backend σ} {world next : World σ}
  {words : Words} {stage : Stage} {after : Worker}

theorem deed_of_transaction (stride : Stride workload backend world words stage next after)
    (fits : stage.fits .transaction = true) (id : Nat) :
    Deed.Shows workload world.shared.account (stage.standing true) next.shared.account
      (after.stage.standing false) (Event.shown id .transaction stage after.stage) := by
  have quiet (success : Bool) : ∀ event ∈ [Event.returned id .transaction success],
      event.IsQuiet := fun event member =>
    List.mem_singleton.mp member ▸ Event.isQuiet_returned_transaction id success
  cases stride with
  | choosesNone | drawsNone => exact Deed.rests.shows_quiet (quiet false)
  | chooses | readsMark | draws | scanLost => exact Deed.rests.shows
  | scans =>
      rw [account_record_scan]
      exact Deed.rests.shows_quiet (quiet true)
  | scanRefused =>
      rw [account_record_scan]
      exact Deed.rests.shows_quiet (quiet false)
  | _ => cases fits

theorem deed_of_insert (stride : Stride workload backend world words stage next after)
    (fits : stage.fits .insert = true) (back : after.stage ≠ .aborted) (id : Nat) :
    Deed.Shows workload world.shared.account (stage.standing true) next.shared.account
      (after.stage.standing false) (Event.shown id .insert stage after.stage) := by
  have quiet : ∀ event ∈ [Event.returned id .insert false], event.IsQuiet :=
    fun event member => List.mem_singleton.mp member ▸ Event.isQuiet_returned_false id .insert
  cases stride with
  | passes | resets | raises => exact Deed.rests.shows
  | comesBackEmpty nothing => exact (Deed.exhausts nothing).shows_quiet quiet
  | fetches taken => exact (Deed.fetches taken).shows
  | inserts => exact Deed.inserts.shows
  | abandons => exact (Deed.abandons (Status.isOk_ofError _)).shows_quiet quiet
  | retries asked left => exact (Deed.retries left).shows
  | acknowledges => exact Deed.acknowledges.shows
  | barred | resetLost | insertLost | pauseLost => exact absurd rfl back
  | _ => cases fits

end Worker.Stride

namespace Post

def standing : Post → Standing
  | idle => .aside
  | busy _ worker waiting => worker.stage.standing waiting

theorem standing_settle (call : Call) (worker : Worker) :
    (settle call worker).standing = worker.stage.standing false := by
  obtain ⟨stage, words⟩ := worker
  cases stage <;> rfl

end Post

namespace Floor

variable {σ : Type} {workload : Workload} {backend : Backend σ} {floor next : Floor σ}
  {move : Move σ}

/-- What all calls together have yet to do. -/
def due {M : Type} [AddCommMonoid M] (floor : Floor σ) (weight : Standing → M) : M :=
  (floor.posts.map fun post => weight post.standing).sum

/-- Calls without an index have nothing to do. -/
theorem due_eq_zero {M : Type} [AddCommMonoid M] (weight : Standing → M)
    (idle : ∀ post ∈ floor.posts, post.standing = .aside) (none : weight .aside = 0) :
    floor.due weight = 0 := by
  refine List.sum_eq_zero fun amount member => ?_
  obtain ⟨post, inside, rfl⟩ := List.mem_map.mp member
  rw [idle post inside, none]

theorem standing_opening (workload : Workload) (store : σ) (crew : Nat) :
    ∀ post ∈ (opening workload store crew).posts, post.standing = .aside := by
  intro post member
  rw [List.eq_of_mem_replicate member]
  rfl

def calls (floor : Floor σ) (call : Call) : Nat :=
  floor.history.countP (Event.calls call)

def returns (floor : Floor σ) (call : Call) (success : Bool) : Nat :=
  floor.history.countP (Event.returns call success)

def insertsAsked (floor : Floor σ) : Nat :=
  floor.history.countP (Event.asks Request.isInsert)

def taken (floor : Floor σ) : List UInt64 :=
  (floor.history.filterMap Event.taken?).reverse

def acknowledged (floor : Floor σ) : List UInt64 :=
  (floor.history.filterMap Event.acknowledged?).reverse

/-- The history of calls only grows. -/
theorem Turn.calls_le (turn : Turn workload backend floor move next) (call : Call) :
    floor.calls call ≤ next.calls call := by
  cases turn with
  | calls | asks => exact (List.sublist_cons_self _ floor.history).countP_le
  | takes => exact (List.sublist_append_right _ floor.history).countP_le
  | outside => exact Nat.le_refl _

def Fits (floor : Floor σ) : Prop :=
  AllBusy (fun call worker => worker.stage.fits call = true) floor.posts

def Unbroken (floor : Floor σ) : Prop :=
  AllBusy (fun call worker => call = .insert → worker.stage ≠ .aborted) floor.posts

theorem Fits.turn (fits : floor.Fits) (turn : Turn workload backend floor move next) :
    next.Fits := by
  cases turn with
  | calls free =>
      rename_i id call words
      exact fits.set_busy (Stage.isPlaced_firstStage .closed call).fits
  | asks busy => exact fits.set_busy (fits.get busy)
  | takes busy ready stride => exact fits.set_settle (stride.fits (fits.get busy))
  | outside => exact fits

/-- An insert call that has aborted is not moved any more. -/
theorem Unbroken.before (unbroken : next.Unbroken)
    (turn : Turn workload backend floor move next) : floor.Unbroken := by
  intro call worker waiting member isInsert aborted
  obtain ⟨place, found⟩ := List.getElem?_of_mem member
  have stays : next.posts[place]? = some (.busy call worker waiting) := by
    rw [← found]
    cases turn with
    | calls free =>
        refine List.getElem?_set_ne fun same => ?_
        rw [← same, free] at found
        cases found
    | asks busy asks admitted =>
        refine List.getElem?_set_ne fun same => ?_
        rw [← same, busy] at found
        cases found
        rw [Worker.request?, aborted] at asks
        cases asks
    | takes busy ready stride =>
        refine List.getElem?_set_ne fun same => ?_
        rw [← same, busy] at found
        cases found
        rw [aborted] at stride
        cases stride
    | outside => rfl
  exact unbroken.get stays isInsert aborted

/-- What becomes of the posts and of the history when one call moves. -/
structure Moves (floor next : Floor σ) (before after : Standing) (news : List Event) : Prop where
  due {M : Type} [AddCommMonoid M] (weight : Standing → M) :
    next.due weight + weight before = floor.due weight + weight after
  calls : next.calls .insert = floor.calls .insert + news.countP (Event.calls .insert)
  insertsAsked :
    next.insertsAsked = floor.insertsAsked + news.countP (Event.asks Request.isInsert)
  taken : next.taken = floor.taken ++ (news.filterMap Event.taken?).reverse
  acknowledged :
    next.acknowledged = floor.acknowledged ++ (news.filterMap Event.acknowledged?).reverse
  returns : next.returns .insert true =
    floor.returns .insert true + news.countP (Event.returns .insert true)

theorem filterMap_append_of_quiet {kind : Event → Option UInt64} {quiet : List Event}
    (silent : ∀ event ∈ quiet, kind event = none) (news history : List Event) :
    ((news ++ quiet ++ history).filterMap kind).reverse =
      (history.filterMap kind).reverse ++ (news.filterMap kind).reverse := by
  have none : quiet.filterMap kind = [] := List.filterMap_eq_nil_iff.mpr silent
  rw [List.filterMap_append, List.filterMap_append, none, List.append_nil, List.reverse_append]

theorem countP_append_of_silent {kind : Event → Bool} {quiet : List Event}
    (silent : ∀ event ∈ quiet, kind event = false) (news history : List Event) :
    (news ++ quiet ++ history).countP kind = history.countP kind + news.countP kind := by
  rw [List.append_assoc, List.countP_append, countP_append_of_quiet silent, Nat.add_comm]

/-- One post is written, and the history gains what a deed shows. -/
theorem deed_of_shows {id : Nat} {old new : Post} (shown : List Event)
    (found : floor.posts[id]? = some old) (posts : next.posts = floor.posts.set id new)
    (history : next.history = shown ++ floor.history)
    (shows : Deed.Shows workload floor.world.shared.account old.standing
      next.world.shared.account new.standing shown) :
    ∃ news, Deed workload floor.world.shared.account old.standing
        next.world.shared.account new.standing news ∧
      Moves floor next old.standing new.standing news := by
  obtain ⟨news, quiet, rfl, silent, deed⟩ := shows
  refine ⟨news, deed, ⟨fun weight => ?_, ?_, ?_, ?_, ?_, ?_⟩⟩
  · unfold due
    rw [posts]
    exact sum_set_add found new fun post => weight post.standing
  · unfold calls
    rw [history, countP_append_of_silent fun event member => (silent event member).calls]
  · unfold insertsAsked
    rw [history, countP_append_of_silent fun event member => (silent event member).asks]
  · unfold taken
    rw [history, filterMap_append_of_quiet fun event member => (silent event member).taken]
  · unfold acknowledged
    rw [history, filterMap_append_of_quiet fun event member =>
      (silent event member).acknowledged]
  · unfold returns
    rw [history, countP_append_of_silent fun event member => (silent event member).returns]

/-- Only a call at an insert waits for the answer to one. -/
theorem standing_of_ready {worker : Worker} {gate : ResetGate} {waiting : Bool}
    (ready : waiting = (worker.request? workload gate).isSome) :
    worker.stage.standing waiting = worker.stage.standing true := by
  obtain ⟨stage, words⟩ := worker
  cases stage with
  | attempt index position failed =>
      subst ready
      rfl
  | _ => rfl

theorem deed_of_take {id : Nat} {call : Call} {worker after : Worker} {waiting : Bool}
    {world : World σ} (fits : floor.Fits)
    (busy : floor.posts[id]? = some (.busy call worker waiting))
    (ready : waiting = (worker.request? workload floor.world.shared.gate).isSome)
    (stride : Worker.Stride workload backend floor.world worker.words worker.stage world after)
    (back : call = .insert → after.stage ≠ .aborted) :
    let next : Floor σ := ⟨world, floor.posts.set id (.settle call after),
      Event.shown id call worker.stage after.stage ++
        Event.heard id backend floor.world.store
          (worker.request? workload floor.world.shared.gate) ++ floor.history⟩
    ∃ news, Deed workload floor.world.shared.account (worker.stage.standing true)
        next.world.shared.account (after.stage.standing false) news ∧
      Moves floor next (worker.stage.standing true) (after.stage.standing false) news := by
  intro next
  have shows : Deed.Shows workload floor.world.shared.account (worker.stage.standing true)
      world.shared.account (after.stage.standing false)
      (Event.shown id call worker.stage after.stage) := by
    cases call with
    | insert => exact stride.deed_of_insert (fits.get busy) (back rfl) id
    | transaction => exact stride.deed_of_transaction (fits.get busy) id
  -- What the backend answered comes on top, and is no news of an insert.
  rw [← standing_of_ready ready, ← Post.standing_settle call after] at shows ⊢
  refine deed_of_shows _ busy rfl rfl ?_
  exact shows.append fun event member => Event.isQuiet_of_mem_heard member

/-- Every move is a deed, as long as no insert call aborts. -/
theorem Turn.deed (turn : Turn workload backend floor move next) (fits : floor.Fits)
    (unbroken : next.Unbroken) :
    ∃ before after news,
      Deed workload floor.world.shared.account before next.world.shared.account after news ∧
      Moves floor next before after news := by
  cases turn with
  | calls free =>
      rename_i id call words
      refine ⟨_, _, deed_of_shows [.called id call] free rfl rfl ?_⟩
      cases call with
      | insert => exact Deed.calls.shows
      | transaction =>
          refine Deed.rests.shows_quiet fun event member => ?_
          rw [List.mem_singleton.mp member]
          exact ⟨rfl, rfl, rfl, rfl, rfl⟩
  | asks busy asks admitted =>
      rename_i id call worker request
      refine ⟨_, _, deed_of_shows [.asked id request] busy rfl rfl ?_⟩
      have quiet (other : request.isInsert = false) :
          ∀ event ∈ [Event.asked id request], event.IsQuiet := fun event member => by
        rw [List.mem_singleton.mp member]
        exact ⟨rfl, other, rfl, rfl, rfl⟩
      rcases Worker.request?_cases asks with ⟨stage, -, rfl⟩ | ⟨_, _, _, stage, rfl⟩ |
        ⟨_, _, stage, rfl⟩ <;> simp only [Post.standing, stage, Stage.standing]
      · exact Deed.rests.shows_quiet (quiet rfl)
      · exact Deed.asks.shows
      · exact Deed.rests.shows_quiet (quiet rfl)
  | takes busy ready stride =>
      rename_i id call worker waiting world after
      refine ⟨_, _, deed_of_take fits busy ready stride fun isInsert aborted => ?_⟩
      have settled : (floor.posts.set id (.settle call after))[id]? =
          some (.busy call after false) := by
        rw [List.getElem?_set_self (List.getElem?_eq_some_iff.mp busy).1, Post.settle, aborted]
      exact unbroken.get settled isInsert aborted
  | outside => exact ⟨.aside, .aside, [], .rests, ⟨fun weight => rfl, rfl, rfl,
      (List.append_nil _).symm, (List.append_nil _).symm, rfl⟩⟩

end Floor

end SpatialWorkload
