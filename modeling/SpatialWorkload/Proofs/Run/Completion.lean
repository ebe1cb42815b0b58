import SpatialWorkload.Proofs.Config.Sound
import SpatialWorkload.Proofs.Draw.Choice
import SpatialWorkload.Proofs.Draw.Pause
import SpatialWorkload.Proofs.Run.Phase
import SpatialWorkload.Proofs.Run.Range
import SpatialWorkload.Proofs.Run.Reset

/-!
# Calls that come to their end

A call under way can always be moved on, by its worker or by whoever runs the reset that it
waits for, and every step brings it closer to its end.  It ends with a result unless the
backend does not come back from a call, or a pause before a retry is too long to be one.
-/

namespace SpatialWorkload

def HasLost (history : List Event) : Prop :=
  ∃ id request, Event.answered id request (.error .aborted) ∈ history

theorem HasLost.append {history : List Event} (lost : HasLost history) (news : List Event) :
    HasLost (news ++ history) := by
  obtain ⟨id, request, member⟩ := lost
  exact ⟨id, request, List.mem_append_right news member⟩

def Backend.refusing : Backend Unit where
  name := "refusing"
  openSession store := (.ok (), store)
  reset _ store := (.error (.refused (.backend "refused")), store)
  insert _ _ _ store := (.error (.refused (.backend "refused")), store)
  scan _ _ store := (.error (.refused (.backend "refused")), store)

theorem Backend.refusing_answer (request : Request) :
    refusing.answer () request = .error (.refused (.backend "refused")) := by
  cases request <;> rfl

theorem Cursor.take_ofRange {start count : UInt64} (nonempty : count ≠ 0)
    (fits : start.toNat + count.toNat < UInt64.size) :
    (Cursor.ofRange start count).take.1 = some start := by
  refine Cursor.take_of_lt (UInt64.lt_iff_toNat_lt.mpr ?_)
  rw [Cursor.toNat_finish_of_fits fits]
  exact Nat.lt_add_of_pos_right (Word.toNat_pos nonempty)

def Workload.LosesPauses (workload : Workload) : Prop :=
  ∃ words, (workload.drawPause words).1 = none

namespace Stage

def asks : Stage → Bool
  | gate => true
  | attempt .. => true
  | scan .. => true
  | _ => false

theorem stepsLeft_le_longestCall (workload : Workload) (stage : Stage) :
    stage.stepsLeft workload.config.retryLimit.toNat ≤ Worker.longestCall workload := by
  cases stage <;> simp only [stepsLeft, Worker.longestCall] <;> omega

end Stage

namespace Worker.Stride

variable {σ : Type} {workload : Workload} {backend : Backend σ} {world next : World σ}
  {words : Words} {stage : Stage} {after : Worker}

def TakesAbort (workload : Workload) (backend : Backend σ) (world : World σ) (worker : Worker) :
    Prop :=
  ∃ request, worker.request? workload world.shared.gate = some request ∧
    backend.answer world.store request = .error .aborted

/-- A worker aborts for one of three reasons. -/
theorem aborted_cases (stride : Stride workload backend world words stage next after)
    (ended : after.stage = .aborted) :
    world.shared.gate.bar = .broken ∨ TakesAbort workload backend world ⟨stage, words⟩ ∨
      workload.LosesPauses := by
  cases stride with
  | barred broken => exact Or.inl broken
  | resetLost closed asked =>
      refine Or.inr (Or.inl ⟨_, if_pos closed, ?_⟩)
      exact congrArg Prod.fst asked
  | insertLost asked => exact Or.inr (Or.inl ⟨_, rfl, congrArg Prod.fst asked⟩)
  | scanLost drawn asked =>
      refine Or.inr (Or.inl ⟨_, rfl, ?_⟩)
      simp only [Backend.answer, drawn, asked]
      rfl
  | pauseLost asked left drawn => exact Or.inr (Or.inr ⟨words, congrArg Prod.fst drawn⟩)
  | _ => cases ended

/-- The bar breaks where a reset does not come back. -/
theorem broken_cases (stride : Stride workload backend world words stage next after)
    (broken : next.shared.gate.bar = .broken) :
    world.shared.gate.bar = .broken ∨ TakesAbort workload backend world ⟨stage, words⟩ := by
  cases stride with
  | resets => cases broken
  | resetLost closed asked =>
      refine Or.inr ⟨_, if_pos closed, ?_⟩
      exact congrArg Prod.fst asked
  | _ => exact Or.inl broken

end Worker.Stride

namespace Floor

variable {σ : Type} {workload : Workload} {backend : Backend σ} {floor next : Floor σ}
  {move : Move σ}

/-- For everything that is broken off there is a reason. -/
structure Vouched (workload : Workload) (floor : Floor σ) : Prop where
  spoiled : floor.world.shared.gate.bar = .broken → HasLost floor.history
  aborted : AllBusy (fun _ worker => worker.stage = .aborted →
    HasLost floor.history ∨ workload.LosesPauses) floor.posts

theorem Vouched.ofOpening (workload : Workload) (store : σ) (crew : Nat) :
    (opening workload store crew).Vouched workload :=
  ⟨Bar.noConfusion, .replicate_idle crew⟩

theorem Vouched.turn (vouched : floor.Vouched workload)
    (turn : Turn workload backend floor move next) : next.Vouched workload := by
  cases turn with
  | calls free =>
      rename_i id call words
      refine ⟨fun broken => (vouched.spoiled broken).append [_], ?_⟩
      refine AllBusy.set_busy (vouched.aborted.imp fun _ _ reason ended => ?_) fun ended => ?_
      · exact (reason ended).imp_left fun lost => lost.append [_]
      · cases call <;> cases ended
  | asks busy asks admitted =>
      refine ⟨fun broken => (vouched.spoiled broken).append [_], ?_⟩
      refine AllBusy.set_busy (vouched.aborted.imp fun _ _ reason ended => ?_) fun ended => ?_
      · exact (reason ended).imp_left fun lost => lost.append [_]
      · exact (vouched.aborted.get busy ended).imp_left fun lost => lost.append [_]
  | takes busy ready stride =>
      rename_i id call worker waiting world after
      have heard (takes : Worker.Stride.TakesAbort workload backend floor.world worker) :
          HasLost (Event.shown id call worker.stage after.stage ++
            Event.heard id backend floor.world.store
              (worker.request? workload floor.world.shared.gate) ++ floor.history) := by
        obtain ⟨request, asked, lost⟩ := takes
        refine ⟨id, request, ?_⟩
        rw [asked, Event.heard, lost, List.append_assoc]
        exact List.mem_append_right _ List.mem_cons_self
      refine ⟨fun broken => ?_, AllBusy.set_settle (vouched.aborted.imp fun _ _ reason ended => ?_)
        fun ended => ?_⟩
      · rcases stride.broken_cases broken with before | takes
        · exact (vouched.spoiled before).append _
        · exact heard takes
      · exact (reason ended).imp_left fun lost => lost.append _
      · rcases stride.aborted_cases ended with broken | takes | pauses
        · exact Or.inl ((vouched.spoiled broken).append _)
        · exact Or.inl (heard takes)
        · exact Or.inr pauses
  | outside => exact ⟨vouched.spoiled, vouched.aborted⟩

/-- Whoever waits has asked for something. -/
def Patient (floor : Floor σ) : Prop :=
  ∀ call worker, .busy call worker true ∈ floor.posts → worker.stage.asks = true

theorem Patient.ofOpening (workload : Workload) (store : σ) (crew : Nat) :
    (opening workload store crew).Patient := by
  intro call worker member
  cases List.eq_of_mem_replicate member

theorem Patient.turn (patient : floor.Patient) (turn : Turn workload backend floor move next) :
    next.Patient := by
  intro someCall someWorker member
  cases turn with
  | calls free =>
      rcases List.mem_or_eq_of_mem_set member with before | equal
      · exact patient someCall someWorker before
      · cases equal
  | asks busy asks admitted =>
      rcases List.mem_or_eq_of_mem_set member with before | equal
      · exact patient someCall someWorker before
      · cases equal
        rcases Worker.request?_cases asks with ⟨stage, -, -⟩ | ⟨_, _, _, stage, -⟩ |
          ⟨_, _, stage, -⟩ <;> rw [stage] <;> rfl
  | takes busy ready stride =>
      rename_i id call worker waiting world after
      rcases List.mem_or_eq_of_mem_set member with before | equal
      · exact patient someCall someWorker before
      · unfold Post.settle at equal
        split at equal <;> cases equal
  | outside => exact patient someCall someWorker member

/-- Nobody waits in vain: the answer that a worker waits for is one to its request. -/
theorem Patient.request (patient : floor.Patient) (counts : floor.Counts)
    (workload : Workload) {call : Call} {worker : Worker}
    (member : .busy call worker true ∈ floor.posts) :
    (worker.request? workload floor.world.shared.gate).isSome = true := by
  have asks := patient call worker member
  obtain ⟨stage, words⟩ := worker
  cases stage with
  | attempt | scan => rfl
  | gate =>
      have closed : floor.world.shared.gate.bar = .closed := by
        by_contra moved
        have nobody := (counts.after moved).2.1
        exact absurd nobody (Nat.ne_of_gt (List.countP_pos_iff.mpr ⟨_, member, rfl⟩))
      simp [Worker.request?, closed]
  | _ => cases asks

end Floor

/-- What is left of a call, where asking and taking the answer are two moves. -/
def Post.movesLeft (workload : Workload) : Post → Nat
  | idle => 0
  | busy _ worker waiting =>
      2 * worker.stage.stepsLeft workload.config.retryLimit.toNat + if waiting then 0 else 1

theorem Post.movesLeft_le (workload : Workload) (post : Post) :
    post.movesLeft workload ≤ 2 * Worker.longestCall workload + 1 := by
  cases post with
  | idle => exact Nat.zero_le _
  | busy call worker waiting =>
      have steps := worker.stage.stepsLeft_le_longestCall workload
      cases waiting <;> simp only [movesLeft, Bool.false_eq_true, reduceIte] <;> omega

theorem Post.movesLeft_settle_le (workload : Workload) (call : Call) (worker : Worker) :
    (settle call worker).movesLeft workload ≤
      2 * worker.stage.stepsLeft workload.config.retryLimit.toNat + 1 := by
  unfold settle
  split
  · exact Nat.zero_le _
  · exact Nat.le_refl _

def Move.isOwn {σ : Type} : Move σ → Bool
  | ask _ => true
  | take _ => true
  | _ => false

namespace Floor

variable {σ : Type} {workload : Workload} {backend : Backend σ} {floor next : Floor σ}
  {move : Move σ}

def movesLeft (workload : Workload) (floor : Floor σ) : Nat :=
  (floor.posts.map (Post.movesLeft workload)).sum

theorem movesLeft_le (workload : Workload) (floor : Floor σ) :
    floor.movesLeft workload ≤ floor.posts.length * (2 * Worker.longestCall workload + 1) := by
  have each := List.sum_le_card_nsmul (floor.posts.map (Post.movesLeft workload))
    (2 * Worker.longestCall workload + 1) fun left member => by
      obtain ⟨post, -, rfl⟩ := List.mem_map.mp member
      exact post.movesLeft_le workload
  rwa [List.length_map, smul_eq_mul] at each

/-- Every move that a call makes is one of the moves it has left. -/
theorem movesLeft_lt (turn : Turn workload backend floor move next) (own : move.isOwn = true) :
    next.movesLeft workload < floor.movesLeft workload := by
  cases turn with
  | calls | outside => cases own
  | asks busy asks admitted =>
      rename_i id call worker request
      have moved := sum_set_add busy (.busy call worker true) (Post.movesLeft workload)
      simp only [Post.movesLeft, Bool.false_eq_true, reduceIte] at moved
      unfold movesLeft
      dsimp only
      omega
  | takes busy ready stride =>
      rename_i id call worker waiting world after
      have moved := sum_set_add busy (.settle call after) (Post.movesLeft workload)
      have nearer := stride.stepsLeft_lt
      have settled := Post.movesLeft_settle_le workload call after
      have before : 2 * worker.stage.stepsLeft workload.config.retryLimit.toNat ≤
          (Post.busy call worker waiting).movesLeft workload := Nat.le_add_right _ _
      unfold movesLeft
      dsimp only
      omega

/-- Whoever does not wait for the backend, or waits for an answer it will get, can take it. -/
theorem exists_take (workload : Workload) (backend : Backend σ) {floor : Floor σ} {id : Nat}
    {call : Call} {worker : Worker} {waiting : Bool}
    (busy : floor.posts[id]? = some (.busy call worker waiting))
    (going : worker.stage.isOver = false)
    (ready : waiting = (worker.request? workload floor.world.shared.gate).isSome) :
    ∃ next, floor.step workload backend (.take id) = some next := by
  refine Option.isSome_iff_exists.mp ?_
  simp [step, busy, going, ready]

/-- While a call is under way, some call can go on. -/
theorem exists_step (workload : Workload) (backend : Backend σ) {floor : Floor σ}
    (counts : floor.Counts) (patient : floor.Patient) {post : Post}
    (member : post ∈ floor.posts) (going : post.isUnderWay = true) :
    ∃ move next, move.isOwn = true ∧ floor.step workload backend move = some next := by
  have taken {id : Nat} {call : Call} {worker : Worker}
      (busy : floor.posts[id]? = some (.busy call worker true))
      (going : worker.stage.isOver = false) :
      ∃ move next, move.isOwn = true ∧ floor.step workload backend move = some next := by
    have answered := patient.request counts workload (List.mem_of_getElem? busy)
    obtain ⟨next, made⟩ := exists_take workload backend busy going answered.symm
    exact ⟨.take id, next, rfl, made⟩
  obtain ⟨id, busy⟩ := List.getElem?_of_mem member
  cases post with
  | idle => cases going
  | busy call worker waiting =>
      replace going : worker.stage.isOver = false := by
        simpa [Post.isUnderWay] using going
      cases waiting with
      | true => exact taken busy going
      | false =>
          cases asks : worker.request? workload floor.world.shared.gate with
          | none =>
              obtain ⟨next, made⟩ :=
                exists_take workload backend busy going (by rw [asks]; rfl)
              exact ⟨.take id, next, rfl, made⟩
          | some request =>
              cases admitted : floor.admits request with
              | true =>
                  have made : (floor.step workload backend (.ask id)).isSome = true := by
                    simp [step, busy, asks, admitted]
                  obtain ⟨next, made⟩ := Option.isSome_iff_exists.mp made
                  exact ⟨.ask id, next, rfl, made⟩
              | false =>
                  -- Someone else runs the reset, and its answer is there to be taken.
                  have others : floor.posts.any Post.isResetting = true := by
                    simp only [admits, Bool.not_eq_false', Bool.and_eq_true] at admitted
                    exact admitted.2
                  obtain ⟨other, there, resetting⟩ := List.any_eq_true.mp others
                  obtain ⟨place, found⟩ := List.getElem?_of_mem there
                  cases other with
                  | idle => cases resetting
                  | busy otherCall otherWorker waits =>
                      obtain ⟨atGate, rfl⟩ := Post.isResetting_busy_iff.mp resetting
                      exact taken found (by rw [atGate]; rfl)

/-- Every call that is under way can be brought to its end, in so many moves. -/
theorem exists_rest (counts : floor.Counts) (patient : floor.Patient) {moves : Nat}
    (enough : floor.movesLeft workload ≤ moves) :
    ∃ rest : List (Move σ), (∀ move ∈ rest, move.isOwn = true) ∧ rest.length ≤ moves ∧
      ∀ post ∈ (run workload backend rest floor).posts, post.isUnderWay = false := by
  induction moves generalizing floor with
  | zero =>
      refine ⟨[], List.forall_mem_nil _, Nat.le_refl 0, fun post member => ?_⟩
      refine Bool.eq_false_iff.mpr fun going => ?_
      obtain ⟨move, next, own, made⟩ :=
        exists_step workload backend counts patient member going
      exact absurd (movesLeft_lt (step_turn made) own) (by omega)
  | succ moves ih =>
      by_cases still : ∀ post ∈ floor.posts, post.isUnderWay = false
      · exact ⟨[], List.forall_mem_nil _, Nat.zero_le _, still⟩
      · simp only [not_forall, Bool.not_eq_false] at still
        obtain ⟨post, member, going⟩ := still
        obtain ⟨move, next, own, made⟩ :=
          exists_step workload backend counts patient member going
        have fewer := movesLeft_lt (step_turn made) own
        obtain ⟨rest, ownRest, short, still⟩ := ih (counts.turn (step_turn made))
          (patient.turn (step_turn made)) (by omega)
        refine ⟨move :: rest, List.forall_mem_cons.mpr ⟨own, ownRest⟩,
          Nat.succ_le_succ short, ?_⟩
        rw [run, made]
        exact still

structure IsSafe (workload : Workload) (backend : Backend σ) (floor : Floor σ) : Prop where
  bounded : floor.Bounded workload
  frontier : workload.insertStart ≤ floor.world.shared.acknowledged.frontier ∧
    floor.world.shared.acknowledged.frontier.toNat ≤ workload.insertFinish
  /-- A key that is drawn is that of a record, and none is beyond the newest one. -/
  draws : workload.CountsKeys → AllBusy (fun _ worker => ∀ kind last,
    worker.stage = .drawKey kind (some last) → ∀ words, ∃ key reference,
      (workload.keys.next (some last) words).1 = some key ∧ workload.insertStart ≤ key ∧
        key ≤ last ∧ workload.dataset.get? key = some reference) floor.posts
  aborts : AllBusy (fun _ worker => worker.stage = .aborted → HasLost floor.history ∨
    Duration.limit ≤ 1.2 * workload.config.retryInterval.toSeconds) floor.posts
  /-- The calls under way come to their end if nobody else interferes for so many moves. -/
  ends : ∃ rest : List (Move σ), (∀ move ∈ rest, move.isOwn = true) ∧
    rest.length ≤ floor.posts.length * (2 * Worker.longestCall workload + 1) ∧
      ∀ post ∈ (run workload backend rest floor).posts, post.isUnderWay = false

theorem isSafe_run (prepared : workload.IsPrepared) (backend : Backend σ) (store : σ)
    (crew : Nat) (moves : List (Move σ)) :
    (run workload backend moves (opening workload store crew)).IsSafe workload backend := by
  obtain ⟨bounded, vouched, counts, patient⟩ := run_keeps (fun _ => True)
    (fun floor => floor.Bounded workload ∧ floor.Vouched workload ∧ floor.Counts ∧ floor.Patient)
    (fun floor move next _ ⟨bounded, vouched, counts, patient⟩ turn =>
      ⟨bounded.turn prepared turn, vouched.turn turn, counts.turn turn, patient.turn turn⟩)
    moves (fun _ _ => trivial)
    ⟨.ofOpening prepared store crew, .ofOpening workload store crew,
      .ofOpening workload store crew, .ofOpening workload store crew⟩
  refine ⟨bounded, bounded.inRange.frontier, fun counted => ?_, ?_, ?_⟩
  · refine bounded.bounds.imp fun _ worker bounds kind last stage words => ?_
    rw [stage] at bounds
    exact Workload.next_found prepared counted bounds.1 bounds.2 words
  · refine vouched.aborted.imp fun _ worker reason ended => ?_
    exact (reason ended).imp_right workload.exists_drawPause_eq_none_iff.mp
  · exact exists_rest counts patient (movesLeft_le workload _)

theorem not_hasLost_run
    (comesBack : ∀ store request, backend.answer store request ≠ .error .aborted)
    (workload : Workload) (store : σ) (crew : Nat) (moves : List (Move σ)) :
    ¬HasLost (run workload backend moves (opening workload store crew)).history := by
  refine run_keeps (fun _ => True) (fun floor => ¬HasLost floor.history) ?_ moves
    (fun _ _ => trivial) ?_
  · rintro floor move next - kept turn ⟨other, request, member⟩
    cases turn with
    | calls | asks =>
        cases member with
        | tail _ before => exact kept ⟨other, request, before⟩
    | takes busy ready stride =>
        rename_i id call worker waiting world after
        rcases List.mem_append.mp member with new | before
        · rcases List.mem_append.mp new with shown | heard
          · rcases Event.mem_shown shown with ⟨_, is⟩ | ⟨_, is⟩ | ⟨_, _, is⟩ <;> cases is
          · cases asked : worker.request? workload floor.world.shared.gate with
            | none =>
                rw [asked] at heard
                cases heard
            | some question =>
                rw [asked, Event.heard, List.mem_singleton] at heard
                injection heard with _ _ lost
                exact comesBack _ _ lost.symm
        · exact kept ⟨other, request, before⟩
    | outside => exact kept ⟨other, request, member⟩
  · rintro ⟨id, request, member⟩
    cases member

/-- A pause that can be too long is so in some run, and nothing else need go wrong in it. -/
theorem exists_aborted (prepared : workload.IsPrepared)
    (retries : workload.config.retryLimit.toNat ≠ 0)
    (long : Duration.limit ≤ 1.2 * workload.config.retryInterval.toSeconds) :
    ∃ moves, let floor := run workload .refusing moves (opening workload () 1)
      ¬HasLost floor.history ∧
        ∃ worker waiting, .busy .insert worker waiting ∈ floor.posts ∧
          worker.stage = .aborted := by
  obtain ⟨words, lost⟩ := workload.exists_drawPause_eq_none_iff.mpr long
  have taken := Cursor.take_ofRange prepared.nonempty prepared.fits
  have positive : 0 < workload.insertCount.toNat :=
    UInt64.lt_iff_toNat_lt.mp (UInt64.pos_iff_ne_zero.mpr prepared.nonempty)
  obtain ⟨position, found⟩ := Option.ne_none_iff_exists'.mp
    (prepared.get?_ne_none (Nat.lt_add_of_pos_right positive : workload.insertStart.toNat < _))
  refine ⟨[.call 0 .insert words, .ask 0, .take 0, .take 0, .take 0, .ask 0, .take 0],
    not_hasLost_run (fun store request => ?_) workload () 1 _, ?_⟩
  · rw [Backend.refusing_answer]
    intro ended
    cases ended
  · simp [run, step, opening, Call.firstStage, Worker.request?, admits, Post.isResetting,
      Workload.initialShared, ResetGate.fresh, Worker.step, Worker.gateStep, Backend.refusing,
      ResetGate.lift, Worker.flagStep, Worker.fetchStep, taken, found, ResetGate.raise,
      Worker.attemptStep, retries, lost, Stage.isOver, Post.settle]

end Floor

namespace Workload

theorem ofRange?_of_isOrdered {range : Range} (ordered : range.IsOrdered) :
    UniformRange.ofRange? range = some ⟨range, ordered⟩ :=
  dif_pos ordered

/-- Only the sum of the weights can make an abort of what is made ready. -/
theorem prepare_eq_aborted_iff {config : Config} (sound : config.IsSound) (dataset : Dataset) :
    prepare config dataset = .error .aborted ↔
      (∃ range, config.resolveInsertRange dataset.size = .ok range) ∧
        (ScanChooser.total config.mix).isFinite = false := by
  cases resolved : config.resolveInsertRange dataset.size with
  | error cause =>
      have refused : prepare config dataset = .error (.refused cause) := by
        rw [prepare, resolved]
        rfl
      rw [refused]
      constructor
      · intro ended
        cases ended
      · rintro ⟨⟨range, came⟩, -⟩
        cases came
  | ok range =>
      rw [prepare, Config.bind_of_ok resolved, ← ScanChooser.ofMix?_eq_none_iff]
      obtain ⟨start, count⟩ := range
      dsimp only
      cases made : ScanChooser.ofMix? config.mix with
      | none => exact ⟨fun _ => ⟨⟨_, rfl⟩, rfl⟩, fun _ => rfl⟩
      | some chooser =>
          constructor
          · intro ended
            obtain ⟨keys, -, ended⟩ := Config.aborted_of_bind ended
            rw [ofRange?_of_isOrdered sound.neighbours, ofRange?_of_isOrdered sound.distanceKm,
              ofRange?_of_isOrdered sound.polygonKm] at ended
            cases ended
          · rintro ⟨-, none⟩
            cases none

/--
Whatever the properties and the dataset are, a workload is made ready or refused unless the
weights have no finite sum.  And whatever the backend answers, the words are and whoever
moves when, its calls come to their end, with numbers that stay in their range; none aborts
of its own accord but for a pause that is too long to be one, and where pauses can be too
long and inserts are tried again, one can.
-/
theorem calls_come_back {properties : Properties} {config : Config}
    (accepted : Config.ofProperties properties = .ok config) (dataset : Dataset) :
    (prepare config dataset = .error .aborted ↔
      (∃ range, config.resolveInsertRange dataset.size = .ok range) ∧
        (ScanChooser.total config.mix).isFinite = false) ∧
    ∀ workload, prepare config dataset = .ok workload →
      workload.insertFinish < UInt64.size ∧
      (workload.chooser.isEmpty = false → ∀ words, ∃ kind ∈ workload.chooser.kinds,
        (workload.chooser.choose words).1 = some kind) ∧
      (∀ {σ : Type} (backend : Backend σ) (store : σ) (crew : Nat) (moves : List (Move σ)),
        (Floor.run workload backend moves (.opening workload store crew)).IsSafe
          workload backend) ∧
      (config.retryLimit.toNat ≠ 0 →
        Duration.limit ≤ 1.2 * config.retryInterval.toSeconds →
          ∃ moves, let floor := Floor.run workload .refusing moves (.opening workload () 1)
            ¬HasLost floor.history ∧
              ∃ worker waiting, .busy .insert worker waiting ∈ floor.posts ∧
                worker.stage = .aborted) := by
  obtain ⟨_, read⟩ := Config.isReadFrom_of_ofProperties accepted
  refine ⟨prepare_eq_aborted_iff read.isSound dataset, fun workload made => ?_⟩
  obtain ⟨prepared, rfl, -⟩ := isPrepared_of_prepare made
  obtain ⟨-, -, -, chosen, -⟩ := prepare_spec made
  exact ⟨prepared.fits, fun some words => ScanChooser.choose_mem chosen some words,
    fun backend store crew moves => Floor.isSafe_run prepared backend store crew moves,
    Floor.exists_aborted prepared⟩

/-- One record and no settings but the defaults. -/
theorem calls_come_back_defaults :
    ∃ config workload, Config.ofProperties .empty = .ok config ∧
      prepare config ⟨#[.vertex 39.9 116.4]⟩ = .ok workload ∧
        ∀ moves, (Floor.run workload .refusing moves (.opening workload () 2)).IsSafe
          workload .refusing := by
  have accepted : Config.ofProperties .empty = .ok (_ : Config) := rfl
  refine ⟨_, _, accepted, rfl, fun moves => ?_⟩
  exact ((calls_come_back accepted ⟨#[.vertex 39.9 116.4]⟩).2 _ rfl).2.2.1 .refusing () 2 moves

/-- Two weights are accepted one by one, and their sum is not a number to choose by. -/
theorem prepare_aborts :
    ∃ config, Config.ofProperties (.ofList [("scanknnproportion", "1e308"),
        ("scanbydistanceproportion", "1e308")]) = .ok config ∧
      prepare config ⟨#[.vertex 39.9 116.4]⟩ = .error .aborted := by
  have judged : ((Config.ofProperties (.ofList [("scanknnproportion", "1e308"),
      ("scanbydistanceproportion", "1e308")])).toOption.any fun config =>
        (config.resolveInsertRange 1).toOption.isSome &&
          !(ScanChooser.total config.mix).isFinite) = true := by
    decide +kernel
  obtain ⟨config, found, holds⟩ := (Option.any_eq_true _ _).mp judged
  rw [Bool.and_eq_true, Option.isSome_iff_exists, Bool.not_eq_true'] at holds
  obtain ⟨⟨range, resolved⟩, infinite⟩ := holds
  have accepted := eq_ok_of_toOption found
  obtain ⟨_, read⟩ := Config.isReadFrom_of_ofProperties accepted
  exact ⟨config, accepted, (prepare_eq_aborted_iff read.isSound _).mpr
    ⟨⟨range, eq_ok_of_toOption resolved⟩, infinite⟩⟩

end Workload

end SpatialWorkload
