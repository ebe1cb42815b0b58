import Mathlib.Algebra.Order.BigOperators.Group.List
import Mathlib.Algebra.Order.Ring.Nat
import SpatialWorkload.Proofs.Run.Phase

/-!
# Phases on the floor

A phase is a run of a floor on which every worker makes its calls one after another and
takes each answer at once, and on which nothing else happens than that sessions are opened.
So what holds of every run of the floor holds of every phase, whatever its schedule.
-/

namespace SpatialWorkload

namespace Seat

def post (call : Call) : Seat → Post
  | working _ _ _ worker => .busy call worker false
  | _ => .idle

def begun : Seat → Nat
  | working quota _ left _ => quota - left
  | finished (.ok share) => share.succeeded + share.failed
  | _ => 0

/-- All calls of a worker, those to come included. -/
def quota : Seat → Nat
  | opening quota _ => quota
  | waiting quota _ _ => quota
  | working quota _ _ _ => quota
  | finished (.ok share) => share.succeeded + share.failed
  | _ => 0

theorem begun_le_quota (seat : Seat) : seat.begun ≤ seat.quota := by
  cases seat with
  | working quota _ left _ => exact Nat.sub_le quota left
  | finished result => cases result <;> exact Nat.le_refl _
  | _ => exact Nat.zero_le _

end Seat

def Stage.isReturned (success : Bool) : Stage → Bool
  | returned result => result == success
  | _ => false

namespace Stage

theorem isReturned_of_going {stage : Stage} (going : stage.isOver = false) (success : Bool) :
    stage.isReturned success = false := by
  cases stage <;> first | rfl | cases going

end Stage

theorem Post.settle_of_going {call : Call} {worker : Worker}
    (going : worker.stage.isOver = false) : settle call worker = .busy call worker false := by
  obtain ⟨stage, words⟩ := worker
  cases stage <;> first | rfl | cases going

/-- The move belongs to a phase: a call of its sort, or the opening of a session. -/
def Move.Follows {σ : Type} (backend : Backend σ) (call : Call) : Move σ → Prop
  | .call _ other _ => other = call
  | .outside change => ∀ store, change store = (backend.openSession store).2
  | _ => True

namespace Event

theorem countP_calls_shown (id : Nat) (call other : Call) (before after : Stage) :
    (shown id call before after).countP (calls other) = 0 := by
  refine List.countP_eq_zero.mpr fun event member => ?_
  rcases mem_shown member with ⟨index, rfl⟩ | ⟨index, rfl⟩ | ⟨success, -, rfl⟩ <;>
    exact Bool.false_ne_true

theorem countP_returns_shown (id : Nat) (call other : Call) (success : Bool)
    (before after : Stage) :
    (shown id call before after).countP (returns other success) =
      (call == other && after.isReturned success).toNat := by
  cases after with
  | returned result => cases before <;> cases result <;> cases success <;> cases call <;>
      cases other <;> rfl
  | _ => cases before <;> cases call <;> cases other <;> rfl

theorem countP_asked (kind : Event → Bool)
    (quiet : ∀ id request, kind (asked id request) = false) {id : Nat} {events : List Event}
    (questions : ∀ event ∈ events, ∃ request, event = .asked id request) :
    events.countP kind = 0 := by
  refine List.countP_eq_zero.mpr fun event member => ?_
  obtain ⟨request, rfl⟩ := questions event member
  rw [quiet]
  exact Bool.false_ne_true

theorem countP_heard (kind : Event → Bool)
    (deaf : ∀ id request answer, kind (answered id request answer) = false) {σ : Type} (id : Nat)
    (backend : Backend σ) (store : σ) (request : Option Request) :
    (heard id backend store request).countP kind = 0 := by
  cases request with
  | none => rfl
  | some request => exact List.countP_eq_zero.mpr (by simp [heard, deaf])

end Event

namespace Floor

variable {σ : Type} {workload : Workload} {backend : Backend σ} {floor : Floor σ}

def resting (world : World σ) (crew : Nat) : Floor σ :=
  ⟨world, List.replicate crew .idle, []⟩

/-- A worker asks for what its next step needs, and takes the step. -/
theorem run_askAndTake {id : Nat} {worker after : Worker} {world : World σ} {call : Call}
    (busy : floor.posts[id]? = some (.busy call worker false))
    (going : worker.stage.isOver = false)
    (alone : floor.posts.any Post.isResetting = false)
    (stepped : worker.step workload backend floor.world = (world, after)) :
    ∃ (moves : List (Move σ)) (asked : List Event),
      (∀ move ∈ moves, move.Follows backend call) ∧
      (∀ event ∈ asked, ∃ request, event = .asked id request) ∧
      run workload backend moves floor =
        ⟨world, floor.posts.set id (.settle call after),
          Event.shown id call worker.stage after.stage ++
            Event.heard id backend floor.world.store
              (worker.request? workload floor.world.shared.gate) ++ (asked ++ floor.history)⟩ := by
  have inside := (List.getElem?_eq_some_iff.mp busy).1
  cases asks : worker.request? workload floor.world.shared.gate with
  | none =>
      refine ⟨[.take id], [], by simp [Move.Follows], by simp, ?_⟩
      simp [run, step, busy, asks, going, stepped]
  | some request =>
      have admitted : floor.admits request = true := by
        rw [admits, alone, Bool.and_false]
        rfl
      refine ⟨[.ask id, .take id], [.asked id request], by simp [Move.Follows], by simp, ?_⟩
      simp [run, step, busy, asks, admitted, going, stepped, List.getElem?_set_self inside]

/-- A step of a worker on the floor, and the calls it ends. -/
theorem run_take {id : Nat} {worker after : Worker} {world : World σ} {call : Call}
    (busy : floor.posts[id]? = some (.busy call worker false))
    (going : worker.stage.isOver = false)
    (alone : floor.posts.any Post.isResetting = false)
    (stepped : worker.step workload backend floor.world = (world, after)) :
    ∃ moves : List (Move σ), (∀ move ∈ moves, move.Follows backend call) ∧
      (run workload backend moves floor).world = world ∧
      (run workload backend moves floor).posts = floor.posts.set id (.settle call after) ∧
      (run workload backend moves floor).calls call = floor.calls call ∧
      ∀ success, (run workload backend moves floor).returns call success =
        floor.returns call success + (after.stage.isReturned success).toNat := by
  obtain ⟨moves, asked, follows, questions, ran⟩ := run_askAndTake busy going alone stepped
  refine ⟨moves, follows, by rw [ran], by rw [ran], ?_, fun success => ?_⟩
  · have silent := Event.countP_asked (Event.calls call) (fun _ _ => rfl) questions
    rw [ran]
    unfold calls
    simp only [List.countP_append, Event.countP_calls_shown, silent,
      Event.countP_heard (Event.calls call) fun _ _ _ => rfl, Nat.zero_add]
  · have silent := Event.countP_asked (Event.returns call success) (fun _ _ => rfl) questions
    rw [ran]
    unfold returns
    simp only [List.countP_append, Event.countP_returns_shown, silent, beq_self_eq_true,
      Bool.true_and, Event.countP_heard (Event.returns call success) fun _ _ _ => rfl,
      Nat.zero_add, Nat.add_zero]
    exact Nat.add_comm _ _

end Floor

/-- The floor stands for the seats: the same world, posts and counts, `total` calls in all. -/
structure Mirrors {σ : Type} (call : Call) (total : Nat) (world : World σ) (seats : List Seat)
    (floor : Floor σ) : Prop where
  world : floor.world = world
  posts : floor.posts = seats.map (Seat.post call)
  begun : floor.calls call = (seats.map Seat.begun).sum
  returned : ∀ success, floor.returns call success = (seats.map (Seat.returned success)).sum
  total : (seats.map Seat.quota).sum = total

namespace Mirrors

variable {σ : Type} {workload : Workload} {backend : Backend σ} {call : Call} {total : Nat}
  {world : World σ} {seats : List Seat} {floor : Floor σ} {id : Nat}

theorem alone (mirrors : Mirrors call total world seats floor) :
    floor.posts.any Post.isResetting = false := by
  rw [mirrors.posts, List.any_map, List.any_eq_false]
  intro seat member
  cases seat with
  | working quota succeeded left worker =>
      refine fun resetting => ?_
      cases (Post.isResetting_busy_iff.mp resetting).2
  | _ => exact Bool.false_ne_true

theorem calls_le (mirrors : Mirrors call total world seats floor) : floor.calls call ≤ total := by
  rw [mirrors.begun, ← mirrors.total]
  exact List.sum_le_sum fun seat _ => seat.begun_le_quota

theorem getElem?_posts (mirrors : Mirrors call total world seats floor) {seat : Seat}
    (found : seats[id]? = some seat) : floor.posts[id]? = some (seat.post call) := by
  rw [mirrors.posts, List.getElem?_map, found]
  rfl

/-- One seat moves, and its worker's post, calls and results move with it. -/
theorem set (mirrors : Mirrors call total world seats floor) (next : Floor σ) {old new : Seat}
    (found : seats[id]? = some old) {later : Nat}
    (posts : next.posts = floor.posts.set id (new.post call))
    (begun : next.calls call + old.begun = floor.calls call + new.begun)
    (returned : ∀ success, next.returns call success + old.returned success =
      floor.returns call success + new.returned success)
    (quota : later + old.quota = total + new.quota) :
    Mirrors call later next.world (seats.set id new) next := by
  have calls := sum_set_add found new Seat.begun
  have quotas := sum_set_add found new Seat.quota
  refine ⟨rfl, ?_, ?_, fun success => ?_, ?_⟩
  · rw [posts, mirrors.posts, List.map_set]
  · have before := mirrors.begun
    omega
  · have results := sum_set_add found new (Seat.returned success)
    have before := mirrors.returned success
    have after := returned success
    omega
  · have before := mirrors.total
    omega

theorem posts_set (mirrors : Mirrors call total world seats floor) {old new : Seat}
    (found : seats[id]? = some old) (same : new.post call = old.post call) :
    floor.posts = floor.posts.set id (new.post call) := by
  obtain ⟨inside, value⟩ := List.getElem?_eq_some_iff.mp (mirrors.getElem?_posts found)
  rw [same, ← value, List.set_getElem_self]

/-- A worker in a call takes a step that does not end it. -/
theorem walks (mirrors : Mirrors call total floor.world seats floor)
    {quota succeeded left : Nat} {worker after : Worker}
    (found : seats[id]? = some (.working quota succeeded left worker))
    (midway : worker.stage.isOver = false)
    (stepped : worker.step workload backend floor.world = (world, after))
    (going : after.stage.isOver = false) :
    ∃ moves : List (Move σ), (∀ move ∈ moves, move.Follows backend call) ∧
      Mirrors call total world (seats.set id (.working quota succeeded left after))
        (Floor.run workload backend moves floor) := by
  obtain ⟨moves, follows, world, posts, calls, returns⟩ :=
    Floor.run_take (mirrors.getElem?_posts found) midway mirrors.alone stepped
  refine ⟨moves, follows, world ▸ mirrors.set _ found ?_ ?_ (fun success => ?_) rfl⟩
  · rw [posts, Post.settle_of_going going]
    rfl
  · rw [calls]
    rfl
  · rw [returns, Stage.isReturned_of_going going]
    rfl

/-- A call comes back, and the worker has done one more of its calls. -/
theorem ends (mirrors : Mirrors call total floor.world seats floor)
    {quota succeeded left : Nat} {worker after : Worker} {success : Bool}
    (found : seats[id]? = some (.working quota succeeded left worker))
    (tidy : (Seat.working quota succeeded left worker).IsTidy)
    (stepped : worker.step workload backend floor.world = (world, after))
    (ended : after.stage = .returned success) :
    ∃ (moves : List (Move σ)) (failed later : Nat),
      (∀ move ∈ moves, move.Follows backend call) ∧
      succeeded + success.toNat + failed + left = quota ∧ later + left = total ∧
      Mirrors call later world
        (seats.set id (.finished (.ok ⟨succeeded + success.toNat, failed⟩)))
        (Floor.run workload backend moves floor) := by
  obtain ⟨midway, within⟩ := tidy
  obtain ⟨moves, follows, world, posts, calls, returns⟩ :=
    Floor.run_take (mirrors.getElem?_posts found) midway mirrors.alone stepped
  -- For the moment the worker has finished what it began, and its other calls are left out.
  have one := success.toNat_le
  have whole := sum_set_add found
    (.finished (.ok ⟨succeeded + success.toNat, quota - left - (succeeded + success.toNat)⟩))
    Seat.quota
  rw [mirrors.total] at whole
  simp only [Seat.quota] at whole
  refine ⟨moves, quota - left - (succeeded + success.toNat), total - left, follows, by omega,
    by omega, world ▸ mirrors.set _ found ?_ ?_ (fun result => ?_) ?_⟩
  · rw [posts, Post.settle, ended]
    rfl
  · rw [calls]
    simp only [Seat.begun]
    omega
  · rw [returns, ended]
    cases result <;> cases success <;> simp [Stage.isReturned, Seat.returned] <;> omega
  · simp only [Seat.quota]
    omega

/-- A worker that has done some of its calls begins the next one, if there is one. -/
theorem begins (workload : Workload) (backend : Backend σ)
    (mirrors : Mirrors call total floor.world seats floor) {succeeded failed : Nat}
    (found : seats[id]? = some (.finished (.ok ⟨succeeded, failed⟩))) (left : Nat)
    (words : Words) :
    ∃ moves : List (Move σ), (∀ move ∈ moves, move.Follows backend call) ∧
      Mirrors call (total + left) floor.world
        (seats.set id (Progress.begin call (succeeded + failed + left) succeeded left words))
        (Floor.run workload backend moves floor) := by
  cases left with
  | zero =>
      have same : Progress.begin call (succeeded + failed + 0) succeeded 0 words =
          .finished (.ok ⟨succeeded, failed⟩) := by
        rw [Progress.begin, Nat.add_zero, Nat.add_sub_cancel_left]
      refine ⟨[], nofun, ?_⟩
      rw [same]
      exact mirrors.set floor found (mirrors.posts_set found rfl) rfl (fun _ => rfl) rfl
  | succ left =>
      have free := mirrors.getElem?_posts found
      let next : Floor σ :=
        ⟨floor.world, floor.posts.set id (.busy call ⟨call.firstStage, words⟩ false),
          .called id call :: floor.history⟩
      have ran : Floor.run workload backend [.call id call words] floor = next := by
        simp [Floor.run, Floor.step, free, Seat.post, next]
      refine ⟨[.call id call words], by simp [Move.Follows], ?_⟩
      rw [ran]
      refine mirrors.set next found rfl ?_ (fun success => ?_) ?_
      · have called : next.calls call = floor.calls call + 1 := by
          simp [Floor.calls, next, Event.calls]
        rw [called]
        simp only [Seat.begun, Progress.begin]
        omega
      · have kept : next.returns call success = floor.returns call success := by
          simp [Floor.returns, next, Event.returns]
        rw [kept]
        cases success <;> simp [Seat.returned, Progress.begin]
        omega
      · simp only [Seat.quota, Progress.begin]
        omega

/-- A worker at the common start begins the first of its calls. -/
theorem starts (mirrors : Mirrors call total floor.world seats floor) {quota : Nat}
    {words : Words} {opened : Except PhaseError Unit}
    (found : seats[id]? = some (.waiting quota words opened)) :
    ∃ moves : List (Move σ), (∀ move ∈ moves, move.Follows backend call) ∧
      Mirrors call total floor.world
        (seats.set id (Progress.begin call quota 0 quota words))
        (Floor.run workload backend moves floor) := by
  have whole := sum_set_add found (.finished (.ok ⟨0, 0⟩)) Seat.quota
  rw [mirrors.total] at whole
  simp only [Seat.quota] at whole
  -- A worker that waits stands for one that has finished none of its calls.
  have ready : Mirrors call (total - quota) floor.world
      (seats.set id (.finished (.ok ⟨0, 0⟩))) floor := by
    refine mirrors.set floor found (mirrors.posts_set found rfl) rfl (fun success => ?_) ?_
    · cases success <;> rfl
    · simp only [Seat.quota]
      omega
  have there : (seats.set id (.finished (.ok ⟨0, 0⟩)))[id]? = some (.finished (.ok ⟨0, 0⟩)) :=
    List.getElem?_set_self (List.getElem?_eq_some_iff.mp found).1
  obtain ⟨moves, follows, after⟩ := ready.begins workload backend there quota words
  rw [List.set_set, Nat.zero_add, Nat.sub_add_cancel (by omega)] at after
  exact ⟨moves, follows, after⟩

/-- A call comes back, and its worker begins the next one, if there is one. -/
theorem returns (mirrors : Mirrors call total floor.world seats floor)
    {quota succeeded left : Nat} {worker after : Worker} {success : Bool}
    (found : seats[id]? = some (.working quota succeeded left worker))
    (tidy : (Seat.working quota succeeded left worker).IsTidy)
    (stepped : worker.step workload backend floor.world = (world, after))
    (ended : after.stage = .returned success) :
    ∃ moves : List (Move σ), (∀ move ∈ moves, move.Follows backend call) ∧
      Mirrors call total world
        (seats.set id
          (Progress.begin call quota (succeeded + success.toNat) left after.words))
        (Floor.run workload backend moves floor) := by
  obtain ⟨moves, failed, later, follows, whole, rest, ready⟩ :=
    mirrors.ends found tidy stepped ended
  have there : (seats.set id (.finished (.ok ⟨succeeded + success.toNat, failed⟩)))[id]? =
      some (.finished (.ok ⟨succeeded + success.toNat, failed⟩)) :=
    List.getElem?_set_self (List.getElem?_eq_some_iff.mp found).1
  have here := ready.world
  rw [← here] at ready
  obtain ⟨more, goesOn, final⟩ := ready.begins workload backend there left after.words
  rw [List.set_set, whole, rest, ← Floor.run_append, here] at final
  exact ⟨moves ++ more, List.forall_mem_append.mpr ⟨follows, goesOn⟩, final⟩

end Mirrors

namespace Progress

variable {σ : Type} {workload : Workload} {backend : Backend σ} {call : Call} {total : Nat}
  {progress next : Progress σ} {floor : Floor σ} {id : Nat}

def IsMirrored (workload : Workload) (backend : Backend σ) (call : Call) (total : Nat)
    (floor : Floor σ) (progress : Progress σ) : Prop :=
  ∃ moves : List (Move σ), (∀ move ∈ moves, move.Follows backend call) ∧
    Mirrors call total progress.world progress.seats (Floor.run workload backend moves floor)

/-- A session may be refused, or the calls of a phase may lead to one that aborts. -/
def MayFail (workload : Workload) (backend : Backend σ) (call : Call) (total : Nat)
    (floor : Floor σ) : Prop :=
  (∃ store, (backend.openSession store).1 ≠ .ok ()) ∨
    ∃ moves : List (Move σ), (∀ move ∈ moves, move.Follows backend call) ∧
      (Floor.run workload backend moves floor).calls call ≤ total ∧
      ∃ words, .busy call ⟨.aborted, words⟩ false ∈ (Floor.run workload backend moves floor).posts

theorem hasFailed_begin (quota succeeded left : Nat) (words : Words) :
    (begin call quota succeeded left words).hasFailed = false := by
  cases left <;> rfl

theorem step_isMirrored (mirrors : Mirrors call total progress.world progress.seats floor)
    (tidy : progress.IsTidy) (sound : progress.IsSound)
    (made : progress.step workload backend call id = some next) :
    (IsMirrored workload backend call total floor next ∧ next.IsSound) ∨
      (¬next.IsSound ∧ MayFail workload backend call total floor) := by
  obtain ⟨seat, after, found, seats, advance⟩ := step_advance made
  have inside := (List.getElem?_eq_some_iff.mp found).1
  have member := List.mem_of_getElem? found
  have tidySeat := tidy seat member
  have soundSeat := sound seat member
  have fine (intact : after.hasFailed = false) : next.IsSound := by
    intro other there
    rw [seats] at there
    rcases List.mem_or_eq_of_mem_set there with before | rfl
    · exact sound other before
    · exact intact
  have failing (failed : after.hasFailed = true) : ¬next.IsSound := by
    intro intact
    rw [intact after (seats ▸ List.mem_set inside after)] at failed
    cases failed
  obtain ⟨world, others, done⟩ := next
  dsimp only at seats advance
  subst seats
  have here := mirrors.world
  cases advance with
  | opens opened =>
      rename_i quota words store
      let change (before : σ) : σ := (backend.openSession before).2
      have opening : (Floor.run workload backend [.outside change] floor).world =
          { progress.world with store } := by
        have after : change floor.world.store = store := by
          rw [here]
          exact congrArg Prod.snd opened
        rw [← here, ← after]
        rfl
      refine Or.inl ⟨⟨[.outside change], by simp [Move.Follows, change], ?_⟩, fine rfl⟩
      exact opening ▸ mirrors.set (Floor.run workload backend [.outside change] floor) found
        (mirrors.posts_set found rfl) rfl (fun _ => rfl) rfl
  | refused opened | loses opened =>
      refine Or.inr ⟨failing rfl, Or.inl ⟨progress.world.store, ?_⟩⟩
      rw [opened]
      exact nofun
  | begins =>
      rw [← here] at mirrors ⊢
      exact Or.inl ⟨mirrors.starts found, fine (hasFailed_begin ..)⟩
  | givesUp => cases soundSeat
  | walks stepped going =>
      rw [← here] at mirrors stepped
      exact Or.inl ⟨mirrors.walks found tidySeat.1 stepped going, fine rfl⟩
  | returns stepped ended =>
      rw [← here] at mirrors stepped
      exact Or.inl ⟨mirrors.returns found tidySeat stepped ended, fine (hasFailed_begin ..)⟩
  | aborts stepped ended =>
      rename_i quota succeeded left worker after
      rw [← here] at mirrors stepped
      obtain ⟨moves, follows, -, posts, calls, -⟩ :=
        Floor.run_take (mirrors.getElem?_posts found) tidySeat.1 mirrors.alone stepped
      obtain ⟨stage, words⟩ := after
      cases ended
      have place := (List.getElem?_eq_some_iff.mp (mirrors.getElem?_posts found)).1
      exact Or.inr ⟨failing rfl, Or.inr ⟨moves, follows, calls ▸ mirrors.calls_le, words,
        posts ▸ List.mem_set place _⟩⟩

theorem MayFail.before {moves : List (Move σ)}
    (follows : ∀ move ∈ moves, move.Follows backend call)
    (fails : MayFail workload backend call total (Floor.run workload backend moves floor)) :
    MayFail workload backend call total floor := by
  rcases fails with refused | ⟨more, goesOn, few, words, aborted⟩
  · exact Or.inl refused
  · rw [← Floor.run_append] at few aborted
    exact Or.inr ⟨moves ++ more, List.forall_mem_append.mpr ⟨follows, goesOn⟩, few, words, aborted⟩

/-- Under every schedule a phase is mirrored by a run of the floor, or it fails. -/
theorem run_isMirrored (mirrored : IsMirrored workload backend call total floor progress)
    (tidy : progress.IsTidy) (sound : progress.IsSound) (schedule : List Nat) :
    (IsMirrored workload backend call total floor (run workload backend call schedule progress) ∧
      (run workload backend call schedule progress).IsSound) ∨
    (¬(run workload backend call schedule progress).IsSound ∧
      MayFail workload backend call total floor) := by
  induction schedule generalizing progress with
  | nil => exact Or.inl ⟨mirrored, sound⟩
  | cons id schedule ih =>
      unfold run
      cases made : progress.step workload backend call id with
      | none => exact ih mirrored tidy sound
      | some next =>
          obtain ⟨moves, follows, mirrors⟩ := mirrored
          rcases step_isMirrored mirrors tidy sound made with
            ⟨⟨more, goesOn, after⟩, intact⟩ | ⟨failed, fails⟩
          · rw [← Floor.run_append] at after
            exact ih ⟨_, List.forall_mem_append.mpr ⟨follows, goesOn⟩, after⟩ (tidy.step made)
              intact
          · exact Or.inr ⟨fun intact => failed intact.before_run, fails.before follows⟩

end Progress

/-- A phase that begins is mirrored by a floor at rest. -/
theorem Mirrors.start {σ : Type} (call : Call) (runner : Runner) {total : Nat} (world : World σ)
    (words : Nat → Words) (someone : 0 < runner.crew total) :
    Mirrors call total world (runner.start total world words).seats
      (Floor.resting world (runner.crew total)) := by
  have none (weight : Seat → Nat) (nothing : ∀ quota words, weight (.opening quota words) = 0) :
      ((runner.start total world words).seats.map weight).sum = 0 := by
    refine List.sum_eq_zero fun amount member => ?_
    obtain ⟨seat, inside, rfl⟩ := List.mem_map.mp member
    obtain ⟨quota, first, rfl⟩ := runner.mem_start total world words inside
    exact nothing quota first
  refine ⟨rfl, ?_, ?_, fun success => ?_, ?_⟩
  · rw [Runner.start, List.map_map]
    exact (List.map_const' ▸ List.length_range ▸ rfl)
  · rw [none Seat.begun fun _ _ => rfl]
    rfl
  · rw [none (Seat.returned success) fun _ _ => rfl]
    rfl
  · rw [Runner.start, List.map_map]
    exact sum_share total someone

/-- At a standstill without failures the calls of a phase have all come back. -/
theorem Mirrors.ended {σ : Type} {workload : Workload} {backend : Backend σ} {call : Call}
    {total : Nat} {progress : Progress σ} {floor : Floor σ}
    (mirrors : Mirrors call total progress.world progress.seats floor)
    (still : progress.IsStill workload backend call) (sound : progress.IsSound) :
    progress.result? = some (.ok ⟨floor.returns call true, floor.returns call false⟩) ∧
      floor.calls call = total ∧ floor.returns call true + floor.returns call false = total ∧
      ∀ post ∈ floor.posts, post = .idle := by
  have finished := Progress.finished_of_isStill still sound
  refine ⟨?_, ?_, ?_, ?_⟩
  · rw [Progress.result?_of_finished finished, mirrors.returned, mirrors.returned]
  · rw [mirrors.begun, ← mirrors.total]
    refine congrArg List.sum (List.map_congr_left fun seat member => ?_)
    obtain ⟨share, rfl⟩ := finished seat member
    rfl
  · rw [mirrors.returned, mirrors.returned, ← mirrors.total, ← List.sum_map_add]
    refine congrArg List.sum (List.map_congr_left fun seat member => ?_)
    obtain ⟨share, rfl⟩ := finished seat member
    rfl
  · intro post member
    rw [mirrors.posts] at member
    obtain ⟨seat, inside, rfl⟩ := List.mem_map.mp member
    obtain ⟨share, rfl⟩ := finished seat inside
    rfl

namespace Runner

variable {σ : Type} {runner : Runner} {total : Nat}

/-- A phase is mirrored by a run of the floor that its world stands on, or it fails. -/
theorem isMirrored (someone : 0 < runner.workers) (workload : Workload) (backend : Backend σ)
    (call : Call) (world : World σ) (words : Nat → Words) (schedule : List Nat) :
    let ended := Progress.run workload backend call schedule (runner.start total world words)
    let floor := Floor.resting world (runner.crew total)
    (Progress.IsMirrored workload backend call total floor ended ∧ ended.IsSound) ∨
      (¬ended.IsSound ∧ Progress.MayFail workload backend call total floor) :=
  Progress.run_isMirrored
    ⟨[], nofun, .start call runner world words (crew_pos someone total)⟩
    (runner.isTidy_start total world words) (runner.isSound_start total world words) schedule

/-- What a phase reports that ends without failures, and the floor that says the same. -/
theorem result_of_isSound (someone : 0 < runner.workers) {workload : Workload}
    {backend : Backend σ} {call : Call} {world : World σ} {words : Nat → Words}
    {schedule : List Nat} {ended : Progress σ}
    (ran : Progress.run workload backend call schedule (runner.start total world words) = ended)
    (still : ended.IsStill workload backend call) (sound : ended.IsSound) :
    ∃ moves : List (Move σ), (∀ move ∈ moves, move.Follows backend call) ∧
      ∃ floor, Floor.run workload backend moves (Floor.resting world (runner.crew total)) = floor ∧
        floor.world = ended.world ∧
        ended.result? = some (.ok ⟨floor.returns call true, floor.returns call false⟩) ∧
        floor.calls call = total ∧ floor.returns call true + floor.returns call false = total ∧
        ∀ post ∈ floor.posts, post = .idle := by
  subst ran
  rcases isMirrored someone workload backend call world words schedule with
    ⟨⟨moves, follows, mirrors⟩, -⟩ | ⟨failed, -⟩
  · exact ⟨moves, follows, _, rfl, mirrors.world, mirrors.ended still sound⟩
  · exact absurd sound failed

end Runner

end SpatialWorkload
