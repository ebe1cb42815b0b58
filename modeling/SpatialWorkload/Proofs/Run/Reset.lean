import SpatialWorkload.Proofs.Place
import SpatialWorkload.Proofs.Run.Floor

/-!
# One reset, and before everything else

At most one reset is asked for, whatever the backend answers and whoever moves when, and
one is as soon as an insert call has returned.  Every insert is asked for after the reset
has come back; so is every scan of a run that begins with nothing loaded, and after an
insert that went through.
-/

namespace SpatialWorkload

namespace Event

def isPastGate : Event → Bool
  | answered _ (.insert ..) _ => true
  | returned _ .insert _ => true
  | _ => false

end Event

/-- Every event of a kind comes after a past of which the condition holds. -/
def Follows (kind : Event → Bool) (past : List Event → Prop) : List Event → Prop
  | [] => True
  | event :: earlier => (kind event = true → past earlier) ∧ Follows kind past earlier

namespace Follows

variable {kind : Event → Bool} {past : List Event → Prop} {history : List Event}

theorem split {later earlier : List Event} {event : Event}
    (follows : Follows kind past (later ++ event :: earlier)) (is : kind event = true) :
    past earlier := by
  induction later with
  | nil => exact follows.1 is
  | cons first rest ih => exact ih follows.2

theorem append {news : List Event} (quiet : ∀ event ∈ news, kind event = false)
    (follows : Follows kind past history) : Follows kind past (news ++ history) := by
  induction news with
  | nil => exact follows
  | cons first rest ih =>
      refine ⟨fun is => ?_, ih fun event member => quiet event (List.mem_cons_of_mem _ member)⟩
      rw [quiet first List.mem_cons_self] at is
      cases is

end Follows

/-- A reset has come back, with an error or without. -/
def ResetIsBack (history : List Event) : Prop :=
  ∃ id table answer, Event.answered id (.reset table) answer ∈ history ∧
    answer ≠ .error .aborted

def InsertIsIn (history : List Event) : Prop :=
  ∃ id table key position, Event.answered id (.insert table key position) (.ok ()) ∈ history

theorem ResetIsBack.append {history : List Event} (back : ResetIsBack history)
    (news : List Event) : ResetIsBack (news ++ history) := by
  obtain ⟨id, table, answer, member, notLost⟩ := back
  exact ⟨id, table, answer, List.mem_append_right news member, notLost⟩

theorem InsertIsIn.append {history : List Event} (inserted : InsertIsIn history)
    (news : List Event) : InsertIsIn (news ++ history) := by
  obtain ⟨id, table, key, position, member⟩ := inserted
  exact ⟨id, table, key, position, List.mem_append_right news member⟩

namespace Stage

def isPastGate : Stage → Bool
  | flag => true
  | fetch => true
  | attempt .. => true
  | acknowledge _ => true
  | _ => false

/-- Reached only after an insert went through, if nothing was loaded before. -/
def needsInsert : Stage → Bool
  | acknowledge _ => true
  | drawKey _ acknowledged => acknowledged.isSome
  | scan .. => true
  | _ => false

def fits : Call → Stage → Bool
  | .insert, gate => true
  | .insert, stage => stage.isPastGate || stage.isOver
  | .transaction, gate => false
  | .transaction, stage => !stage.isPastGate

structure IsPlaced (bar : Bar) (call : Call) (stage : Stage) : Prop where
  fits : stage.fits call = true
  past : stage.isPastGate = true → bar = .lifted

theorem isPlaced_firstStage (bar : Bar) (call : Call) : call.firstStage.IsPlaced bar call := by
  cases call with
  | insert => exact ⟨rfl, fun behind => nomatch behind⟩
  | transaction => exact ⟨rfl, fun behind => nomatch behind⟩

theorem IsPlaced.mono {bar later : Bar} {call : Call} {stage : Stage}
    (placed : stage.IsPlaced bar call) (stays : bar = .lifted → later = .lifted) :
    stage.IsPlaced later call :=
  ⟨placed.fits, fun behind => stays (placed.past behind)⟩

end Stage

namespace Worker.Stride

variable {σ : Type} {workload : Workload} {backend : Backend σ} {world next : World σ}
  {words : Words} {stage : Stage} {after : Worker}

theorem fits (stride : Stride workload backend world words stage next after) {call : Call}
    (before : stage.fits call = true) : after.stage.fits call = true := by
  cases call <;> cases stride <;> first | rfl | cases before

theorem isPastGate (stride : Stride workload backend world words stage next after)
    (behind : after.stage.isPastGate = true) :
    stage.isPastGate = true ∨ next.shared.gate.bar = .lifted := by
  cases stride with
  | passes lifted => exact Or.inr lifted
  | resets => exact Or.inr rfl
  | raises | fetches | inserts | retries => exact Or.inl rfl
  | _ => cases behind

theorem isPlaced (stride : Stride workload backend world words stage next after) {call : Call}
    (placed : stage.IsPlaced world.shared.gate.bar call) :
    after.stage.IsPlaced next.shared.gate.bar call := by
  refine ⟨stride.fits placed.fits, fun behind => ?_⟩
  rcases stride.isPastGate behind with before | lifted
  · exact stride.staysLifted (placed.past before)
  · exact lifted

/-- A call that ends, ends behind the gate or in the middle of a transaction. -/
theorem isPastGate_of_returned (stride : Stride workload backend world words stage next after)
    (before : stage.fits .insert = true) {success : Bool}
    (ended : after.stage = .returned success) : stage.isPastGate = true := by
  cases stride with
  | comesBackEmpty | abandons | acknowledges => rfl
  | choosesNone | drawsNone | scans | scanRefused => cases before
  | _ => cases ended

theorem needsInsert (stride : Stride workload backend world words stage next after)
    (needs : after.stage.needsInsert = true) :
    stage.needsInsert = true ∨
      (∃ index position failed, stage = .attempt index position failed ∧
        (backend.insert workload.config.table position.id position world.store).1 = .ok ()) ∨
      ∃ last, world.shared.acknowledged.last? = some last := by
  cases stride with
  | inserts asked => exact Or.inr (Or.inl ⟨_, _, _, rfl, by rw [asked]⟩)
  | readsMark => exact Or.inr (Or.inr (Option.isSome_iff_exists.mp needs))
  | draws drawn found =>
      rename_i acknowledged key reference
      cases acknowledged with
      | none => cases drawn
      | some limit => exact Or.inl rfl
  | _ => cases needs

end Worker.Stride

theorem countP_append_of_quiet {kind : Event → Bool} {news history : List Event}
    (quiet : ∀ event ∈ news, kind event = false) :
    (news ++ history).countP kind = history.countP kind := by
  have none : news.countP kind = 0 :=
    List.countP_eq_zero.mpr fun event member is => by rw [quiet event member] at is; cases is
  rw [List.countP_append, none, Nat.zero_add]

namespace Floor

variable {σ : Type} {workload : Workload} {backend : Backend σ} {floor next : Floor σ}
  {move : Move σ}

def resetsAsked (floor : Floor σ) : Nat :=
  floor.history.countP (Event.asks Request.isReset)

def resetting (floor : Floor σ) : Nat :=
  floor.posts.countP Post.isResetting

/-- Nobody is behind the gate, and nothing happens there, before a reset is back. -/
structure Gated (floor : Floor σ) : Prop where
  placed : AllBusy (fun call worker => worker.stage.IsPlaced floor.world.shared.gate.bar call)
    floor.posts
  back : floor.world.shared.gate.bar = .lifted → ResetIsBack floor.history
  vouched : ∀ event ∈ floor.history, event.isPastGate = true →
    floor.world.shared.gate.bar = .lifted
  inserts : Follows (Event.asks Request.isInsert) ResetIsBack floor.history

/-- Until the bar moves a reset that was asked for is under way; there is one at most. -/
structure Counts (floor : Floor σ) : Prop where
  before : floor.world.shared.gate.bar = .closed →
    floor.resetsAsked = floor.resetting ∧ floor.resetting ≤ 1 ∧
      floor.world.shared.tally.resets = 0
  after : floor.world.shared.gate.bar ≠ .closed →
    floor.resetsAsked = 1 ∧ floor.resetting = 0 ∧ floor.world.shared.tally.resets = 1

/-- Watermark and stages vouch for an insert, when nothing was loaded before. -/
structure Fed (floor : Floor σ) : Prop where
  marked : ∀ last, floor.world.shared.acknowledged.last? = some last →
    InsertIsIn floor.history
  needs : AllBusy (fun _ worker => worker.stage.needsInsert = true → InsertIsIn floor.history)
    floor.posts
  scans : Follows (Event.asks Request.isScan)
    (fun earlier => ResetIsBack earlier ∧ InsertIsIn earlier) floor.history

namespace Gated

theorem ofOpening (workload : Workload) (store : σ) (crew : Nat) :
    (opening workload store crew).Gated :=
  ⟨.replicate_idle crew, fun lifted => (nomatch lifted), fun _ member => (nomatch member),
    trivial⟩

/-- What happens behind the gate only, a step brings about behind the gate only. -/
theorem isPastGate_of_mem {id : Nat} {call : Call} {worker after : Worker} {world : World σ}
    (fits : worker.stage.fits call = true)
    (stride : Worker.Stride workload backend floor.world worker.words worker.stage world after)
    {event : Event}
    (member : event ∈ Event.shown id call worker.stage after.stage ++
      Event.heard id backend floor.world.store
        (worker.request? workload floor.world.shared.gate))
    (behind : event.isPastGate = true) : worker.stage.isPastGate = true := by
  rcases List.mem_append.mp member with shown | heard
  · rcases Event.mem_shown shown with ⟨index, rfl⟩ | ⟨index, rfl⟩ | ⟨success, ended, rfl⟩
    · cases behind
    · cases behind
    · cases call with
      | insert => exact stride.isPastGate_of_returned fits ended
      | transaction => cases behind
  · cases asks : worker.request? workload floor.world.shared.gate with
    | none =>
        rw [asks] at heard
        cases heard
    | some request =>
        rw [asks] at heard
        rw [List.mem_singleton.mp heard] at behind
        rcases Worker.request?_cases asks with ⟨-, -, rfl⟩ | ⟨_, _, _, stage, -⟩ | ⟨_, _, -, rfl⟩
        · cases behind
        · rw [stage]
          rfl
        · cases behind

theorem turn (gated : floor.Gated) (turn : Turn workload backend floor move next) :
    next.Gated := by
  cases turn with
  | calls free =>
      rename_i id call words
      refine ⟨gated.placed.set_busy (Stage.isPlaced_firstStage _ call),
        fun lifted => (gated.back lifted).append [_], ?_, ⟨fun is => (nomatch is), gated.inserts⟩⟩
      exact List.forall_mem_cons.mpr ⟨fun is => (nomatch is), gated.vouched⟩
  | asks busy asks admitted =>
      have placed := gated.placed.get busy
      refine ⟨gated.placed.set_busy placed, fun lifted => (gated.back lifted).append [_], ?_,
        ⟨fun is => ?_, gated.inserts⟩⟩
      · exact List.forall_mem_cons.mpr ⟨fun is => (nomatch is), gated.vouched⟩
      · rcases Worker.request?_cases asks with ⟨-, -, rfl⟩ | ⟨_, _, _, stage, -⟩ | ⟨_, _, -, rfl⟩
        · cases is
        · exact gated.back (placed.past (by rw [stage]; rfl))
        · cases is
  | takes busy ready stride =>
      have placed := gated.placed.get busy
      refine ⟨?_, fun lifted => ?_, ?_, gated.inserts.append fun event member =>
        Event.asks_of_mem member Request.isInsert⟩
      · refine AllBusy.set_settle (gated.placed.imp fun _ _ old => ?_) (stride.isPlaced placed)
        exact old.mono stride.staysLifted
      · rcases stride.lifts lifted with before | ⟨atGate, closed, back⟩
        · exact (gated.back before).append _
        · rw [Worker.request?, atGate]
          dsimp only
          rw [if_pos closed, List.append_assoc]
          exact ResetIsBack.append ⟨_, _, _, List.mem_cons_self, back⟩ _
      · refine List.forall_mem_append.mpr ⟨fun event member is => ?_, fun event member is => ?_⟩
        · exact stride.staysLifted (placed.past (isPastGate_of_mem placed.fits stride member is))
        · exact stride.staysLifted (gated.vouched event member is)
  | outside => exact ⟨gated.placed, gated.back, gated.vouched, gated.inserts⟩

/-- After an insert went through, the reset is back. -/
theorem resetIsBack (gated : floor.Gated) (inserted : InsertIsIn floor.history) :
    ResetIsBack floor.history := by
  obtain ⟨id, table, key, position, member⟩ := inserted
  exact gated.back (gated.vouched _ member rfl)

end Gated

namespace Counts

theorem ofOpening (workload : Workload) (store : σ) (crew : Nat) :
    (opening workload store crew).Counts := by
  have nobody : (opening workload store crew).resetting = 0 := by
    simp [resetting, opening, List.countP_replicate, Post.isResetting]
  refine ⟨fun _ => ⟨nobody.symm, ?_, rfl⟩, fun moved => absurd rfl moved⟩
  rw [nobody]
  exact Nat.zero_le 1

/-- A move that leaves the gate and both counts alone. -/
theorem stays (counts : floor.Counts)
    (bar : next.world.shared.gate.bar = floor.world.shared.gate.bar)
    (resets : next.world.shared.tally.resets = floor.world.shared.tally.resets)
    (asked : next.resetsAsked = floor.resetsAsked) (same : next.resetting = floor.resetting) :
    next.Counts := by
  constructor
  · rw [bar, resets, asked, same]
    exact counts.before
  · rw [bar, resets, asked, same]
    exact counts.after

/-- Asking for the reset, while nobody else does. -/
theorem asks (counts : floor.Counts) (closed : floor.world.shared.gate.bar = .closed)
    (world : next.world = floor.world) (nobody : floor.resetting = 0)
    (asked : next.resetsAsked = floor.resetsAsked + 1) (one : next.resetting = 1) :
    next.Counts := by
  obtain ⟨same, -, resets⟩ := counts.before closed
  rw [← world] at closed resets
  exact ⟨fun _ => ⟨by omega, by omega, resets⟩, fun moved => absurd closed moved⟩

/-- The answer to the reset moves the bar. -/
theorem takes (counts : floor.Counts) (closed : floor.world.shared.gate.bar = .closed)
    (moved : next.world.shared.gate.bar ≠ .closed)
    (resets : next.world.shared.tally.resets = floor.world.shared.tally.resets + 1)
    (asked : next.resetsAsked = floor.resetsAsked)
    (fewer : next.resetting + 1 = floor.resetting) : next.Counts := by
  obtain ⟨same, alone, none⟩ := counts.before closed
  refine ⟨fun still => absurd still moved, fun _ => ⟨by omega, by omega, ?_⟩⟩
  rw [resets, none]
  rfl

/-- Whoever is admitted with a reset is alone with it. -/
theorem resetting_eq_zero {table : String} (admitted : floor.admits (.reset table) = true) :
    floor.resetting = 0 := by
  refine List.countP_eq_zero.mpr fun post member resetting => ?_
  have someone : floor.posts.any Post.isResetting = true :=
    List.any_eq_true.mpr ⟨post, member, resetting⟩
  simp [admits, Request.isReset, someone] at admitted

theorem turn (counts : floor.Counts) (turn : Turn workload backend floor move next) :
    next.Counts := by
  cases turn with
  | calls free =>
      rename_i id call words
      refine counts.stays rfl rfl (List.countP_cons_of_neg Bool.false_ne_true) ?_
      have moved := countP_set_add free (.busy call ⟨call.firstStage, words⟩ false)
        Post.isResetting
      have quiet : (Post.busy call ⟨call.firstStage, words⟩ false).isResetting = false := by
        cases call <;> rfl
      rwa [quiet] at moved
  | asks busy asks admitted =>
      rename_i id call worker request
      have moved := countP_set_add busy (.busy call worker true) Post.isResetting
      have before : (Post.busy call worker false).isResetting = false := by
        simp [Bool.eq_false_iff, Post.isResetting_busy_iff]
      rw [before] at moved
      rcases Worker.request?_cases asks with ⟨atGate, closed, rfl⟩ | ⟨_, _, _, stage, rfl⟩ |
        ⟨_, _, stage, rfl⟩
      · have nobody := resetting_eq_zero admitted
        have after : (Post.busy call worker true).isResetting = true :=
          Post.isResetting_busy_iff.mpr ⟨atGate, rfl⟩
        rw [after] at moved
        refine counts.asks closed rfl nobody (List.countP_cons_of_pos rfl) ?_
        exact moved.trans (congrArg (· + 1) nobody)
      · have after : (Post.busy call worker true).isResetting = false := by
          simp [Bool.eq_false_iff, Post.isResetting_busy_iff, stage]
        rw [after] at moved
        exact counts.stays rfl rfl (List.countP_cons_of_neg Bool.false_ne_true) moved
      · have after : (Post.busy call worker true).isResetting = false := by
          simp [Bool.eq_false_iff, Post.isResetting_busy_iff, stage]
        rw [after] at moved
        exact counts.stays rfl rfl (List.countP_cons_of_neg Bool.false_ne_true) moved
  | takes busy ready stride =>
      rename_i id call worker waiting world after
      have quiet : ∀ event ∈ Event.shown id call worker.stage after.stage ++
          Event.heard id backend floor.world.store
            (worker.request? workload floor.world.shared.gate),
          event.asks Request.isReset = false :=
        fun event member => Event.asks_of_mem member Request.isReset
      have moved := countP_set_add busy (.settle call after) Post.isResetting
      rw [Post.isResetting_settle] at moved
      rcases stride.gate_cases with ⟨atGate, closed, opened, resets⟩ | ⟨open_, bar, resets⟩
      · have before : (Post.busy call worker waiting).isResetting = true := by
          refine Post.isResetting_busy_iff.mpr ⟨atGate, ?_⟩
          rw [ready, Worker.request?, atGate]
          simp [closed]
        rw [before] at moved
        exact counts.takes closed opened resets (countP_append_of_quiet quiet) moved
      · have before : (Post.busy call worker waiting).isResetting = false := by
          refine Bool.eq_false_iff.mpr fun resetting => ?_
          obtain ⟨atGate, waits⟩ := Post.isResetting_busy_iff.mp resetting
          rw [ready, Worker.request?, atGate] at waits
          simp [open_ atGate] at waits
        rw [before] at moved
        exact counts.stays bar resets (countP_append_of_quiet quiet) moved
  | outside => exact counts.stays rfl rfl rfl rfl

theorem resetsAsked_le_one (counts : floor.Counts) : floor.resetsAsked ≤ 1 := by
  by_cases closed : floor.world.shared.gate.bar = .closed
  · obtain ⟨same, alone, -⟩ := counts.before closed
    rwa [same]
  · exact Nat.le_of_eq (counts.after closed).1

/-- While no call is under way, the count of resets is that of the resets asked for. -/
theorem resets_eq (counts : floor.Counts)
    (still : ∀ post ∈ floor.posts, post.isUnderWay = false) :
    floor.world.shared.tally.resets.toNat = floor.resetsAsked := by
  have nobody : floor.resetting = 0 := by
    refine List.countP_eq_zero.mpr fun post member resetting => ?_
    have moving := still post member
    unfold Post.isResetting at resetting
    split at resetting
    · cases moving
    · cases resetting
  by_cases closed : floor.world.shared.gate.bar = .closed
  · obtain ⟨same, -, none⟩ := counts.before closed
    rw [none, same, nobody]
    rfl
  · obtain ⟨one, -, some⟩ := counts.after closed
    rw [one, some]
    rfl

end Counts

namespace Fed

theorem ofOpening (fresh : workload.config.preloaded = false) (store : σ) (crew : Nat) :
    (opening workload store crew).Fed := by
  refine ⟨?_, .replicate_idle crew, trivial⟩
  intro last some
  have start : (opening workload store crew).world.shared.acknowledged =
      Watermark.ofStart workload.insertStart := by
    simp [opening, Workload.initialShared, fresh]
  rw [start] at some
  simp [Watermark.last?, Watermark.ofStart] at some

/-- What a step leads to needs no more than what it started from or what it heard. -/
theorem needs_of_stride {id : Nat} {call : Call} {worker after : Worker} {waiting : Bool}
    {world : World σ} (fed : floor.Fed)
    (busy : floor.posts[id]? = some (.busy call worker waiting))
    (stride : Worker.Stride workload backend floor.world worker.words worker.stage world after)
    (needed : after.stage.needsInsert = true) :
    InsertIsIn (Event.shown id call worker.stage after.stage ++
      Event.heard id backend floor.world.store
        (worker.request? workload floor.world.shared.gate) ++ floor.history) := by
  rcases stride.needsInsert needed with before | ⟨index, position, failed, stage, inserted⟩ |
    ⟨last, some⟩
  · exact (fed.needs.get busy before).append _
  · have asks : worker.request? workload floor.world.shared.gate =
        some (.insert workload.config.table position.id position) := by
      rw [Worker.request?, stage]
    rw [asks, List.append_assoc]
    have heard : InsertIsIn (Event.heard id backend floor.world.store
        (some (.insert workload.config.table position.id position)) ++ floor.history) := by
      refine ⟨id, workload.config.table, position.id, position, ?_⟩
      rw [Event.heard, Backend.answer, inserted]
      exact List.mem_cons_self
    exact heard.append _
  · exact (fed.marked last some).append _

theorem turn (fed : floor.Fed) (gated : floor.Gated)
    (turn : Turn workload backend floor move next) : next.Fed := by
  -- what was vouched for stays so, whatever a move adds to the history
  have marked (news : List Event) (last : UInt64)
      (some : floor.world.shared.acknowledged.last? = some last) :
      InsertIsIn (news ++ floor.history) := (fed.marked last some).append news
  have needs (news : List Event) : AllBusy (fun _ worker => worker.stage.needsInsert = true →
      InsertIsIn (news ++ floor.history)) floor.posts :=
    fed.needs.imp fun _ _ before needed => (before needed).append news
  cases turn with
  | calls free =>
      rename_i id call words
      refine ⟨marked [_], (needs [_]).set_busy fun needed => ?_,
        ⟨fun is => (nomatch is), fed.scans⟩⟩
      cases call <;> cases needed
  | asks busy asks admitted =>
      refine ⟨marked [_], (needs [_]).set_busy ((needs [_]).get busy),
        ⟨fun is => ?_, fed.scans⟩⟩
      rcases Worker.request?_cases asks with ⟨-, -, rfl⟩ | ⟨_, _, _, -, rfl⟩ | ⟨_, _, stage, -⟩
      · cases is
      · cases is
      · have inserted := fed.needs.get busy (by rw [stage]; rfl)
        exact ⟨gated.resetIsBack inserted, inserted⟩
  | takes busy ready stride =>
      rename_i id call worker waiting world after
      refine ⟨fun last some => ?_, (needs _).set_settle (fed.needs_of_stride busy stride),
        fed.scans.append fun event member => Event.asks_of_mem member Request.isScan⟩
      by_cases acknowledges : ∃ index, worker.stage = .acknowledge index
      · obtain ⟨index, stage⟩ := acknowledges
        exact needs _ _ _ _ (List.mem_of_getElem? busy) (by rw [stage]; rfl)
      · rw [stride.acknowledged_eq fun index stage => acknowledges ⟨index, stage⟩] at some
        exact marked _ last some
  | outside => exact ⟨fed.marked, fed.needs, fed.scans⟩

end Fed

theorem sound_run (workload : Workload) (backend : Backend σ) (store : σ) (crew : Nat)
    (moves : List (Move σ)) :
    let floor := run workload backend moves (opening workload store crew)
    floor.Gated ∧ floor.Counts ∧ (workload.config.preloaded = false → floor.Fed) := by
  refine run_keeps (fun _ => True)
    (fun floor => floor.Gated ∧ floor.Counts ∧ (workload.config.preloaded = false → floor.Fed))
    ?_ moves (fun _ _ => trivial) ?_
  · rintro floor move next - ⟨gated, counts, fed⟩ turn
    exact ⟨gated.turn turn, counts.turn turn, fun fresh => (fed fresh).turn gated turn⟩
  · exact ⟨.ofOpening workload store crew, .ofOpening workload store crew,
      fun fresh => .ofOpening fresh store crew⟩

/--
Whatever the backend answers and whoever moves when: at most one reset is asked for, and one
once an insert call has returned; while no call is under way it is counted; every insert is
asked for after it came back, and so is every scan, after an insert that went through, unless
the range was loaded before.
-/
theorem reset_first (workload : Workload) (backend : Backend σ) (store : σ) (crew : Nat)
    (moves : List (Move σ)) :
    let floor := run workload backend moves (opening workload store crew)
    floor.resetsAsked ≤ 1 ∧
    (∀ id success, Event.returned id .insert success ∈ floor.history →
      floor.resetsAsked = 1) ∧
    ((∀ post ∈ floor.posts, post.isUnderWay = false) →
      floor.world.shared.tally.resets.toNat = floor.resetsAsked) ∧
    (∀ later id table key position earlier,
      floor.history = later ++ .asked id (.insert table key position) :: earlier →
        ResetIsBack earlier) ∧
    (workload.config.preloaded = false → ∀ later id table query earlier,
      floor.history = later ++ .asked id (.scan table query) :: earlier →
        ResetIsBack earlier ∧ InsertIsIn earlier) := by
  obtain ⟨gated, counts, fed⟩ := sound_run workload backend store crew moves
  refine ⟨counts.resetsAsked_le_one, ?_, counts.resets_eq, ?_, ?_⟩
  · intro id success member
    refine (counts.after ?_).1
    rw [gated.vouched _ member rfl]
    exact Bar.noConfusion
  · intro later id table key position earlier history
    have follows := gated.inserts
    rw [history] at follows
    exact follows.split rfl
  · intro fresh later id table query earlier history
    have follows := (fed fresh).scans
    rw [history] at follows
    exact follows.split rfl

end Floor

end SpatialWorkload
