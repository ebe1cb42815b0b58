import SpatialWorkload.Proofs.Run.Loaded

/-!
# Indices and keys within the range

Whatever the backend answers and whatever the words are, no worker has an index or a key
beyond the insert range, and the watermark stays inside it.  So nothing that is counted up
or down from them leaves the words.
-/

namespace SpatialWorkload

namespace Workload

def Bounds (workload : Workload) : Stage → Prop
  | .attempt index position failed =>
      index.toNat < workload.insertFinish ∧ workload.dataset.get? index = some position ∧
        failed ≤ workload.config.retryLimit.toNat
  | .acknowledge index => index.toNat < workload.insertFinish
  | .drawKey _ (some last) =>
      workload.insertStart ≤ last ∧ last.toNat < workload.insertFinish
  | _ => True

/-- The cursor ends where the range does, and only indices before were acknowledged. -/
structure InRange (workload : Workload) (shared : Shared) : Prop where
  finish : shared.cursor.finish.toNat = workload.insertFinish
  marked : ∃ seen, Watermark.Tracks shared.acknowledged workload.insertStart seen ∧
    ∀ index ∈ seen, index.toNat < workload.insertFinish

variable {workload : Workload} {shared : Shared}

theorem inRange_initial (prepared : workload.IsPrepared) :
    workload.InRange workload.initialShared := by
  refine ⟨prepared.finish_initial, ?_⟩
  cases loaded : workload.config.preloaded with
  | false =>
      have mark : workload.initialShared.acknowledged = .ofStart workload.insertStart := by
        simp [initialShared, loaded]
      rw [mark]
      refine ⟨∅, Watermark.tracks_ofStart _, ?_⟩
      intro index member
      cases member
  | true =>
      have mark : workload.initialShared.acknowledged =
          .preloaded workload.insertStart workload.insertCount := by
        simp [initialShared, loaded]
      rw [mark]
      exact ⟨_, Watermark.tracks_preloaded _ _ prepared.fits, fun index member => member.2⟩

/-- The newest acknowledged record lies in the range. -/
theorem InRange.last (inRange : workload.InRange shared) (prepared : workload.IsPrepared)
    {last : UInt64} (some : shared.acknowledged.last? = some last) :
    workload.insertStart ≤ last ∧ last.toNat < workload.insertFinish := by
  obtain ⟨seen, tracks, below⟩ := inRange.marked
  have known : ∀ index ∈ seen, index < Watermark.lastWord := fun index member =>
    lt_lastWord prepared (below index member)
  obtain ⟨start, covered, -⟩ := (tracks.last?_eq_some_iff known last).mp some
  exact ⟨start, below last (covered last start (UInt64.le_refl last))⟩

/-- The first index that is not acknowledged is at most the end of the range. -/
theorem InRange.frontier (inRange : workload.InRange shared) :
    workload.insertStart ≤ shared.acknowledged.frontier ∧
      shared.acknowledged.frontier.toNat ≤ workload.insertFinish := by
  obtain ⟨seen, tracks, below⟩ := inRange.marked
  have start := tracks.frontier.start_le
  refine ⟨start, ?_⟩
  rcases Nat.eq_or_lt_of_le (UInt64.le_iff_toNat_le.mp start) with equal | begun
  · rw [← equal]
    exact Nat.le_add_right _ _
  · -- The index before the frontier was acknowledged.
    have one : (1 : UInt64) ≤ shared.acknowledged.frontier := by
      rw [UInt64.le_iff_toNat_le]
      change 1 ≤ _
      omega
    have previous : (shared.acknowledged.frontier - 1).toNat =
        shared.acknowledged.frontier.toNat - 1 :=
      UInt64.toNat_sub_of_le _ _ one
    have seenBefore := below _ (tracks.frontier.covered (shared.acknowledged.frontier - 1)
      (by rw [UInt64.le_iff_toNat_le, previous]; omega)
      (by rw [UInt64.lt_iff_toNat_lt, previous]; omega))
    omega

theorem InRange.acknowledge (inRange : workload.InRange shared) (prepared : workload.IsPrepared)
    {index : UInt64} (inside : index.toNat < workload.insertFinish) :
    workload.InRange { shared with acknowledged := shared.acknowledged.acknowledge index } := by
  obtain ⟨seen, tracks, below⟩ := inRange.marked
  have known : ∀ i ∈ seen, i < Watermark.lastWord := fun i member =>
    lt_lastWord prepared (below i member)
  refine ⟨inRange.finish, insert index seen, tracks.acknowledge known
    (lt_lastWord prepared inside), fun i member => ?_⟩
  rcases Set.mem_insert_iff.mp member with rfl | before
  · exact inside
  · exact below i before

end Workload

namespace Worker.Stride

variable {σ : Type} {workload : Workload} {backend : Backend σ} {world next : World σ}
  {words : Words} {stage : Stage} {after : Worker}

theorem inRange (stride : Stride workload backend world words stage next after)
    (prepared : workload.IsPrepared) (inRange : workload.InRange world.shared)
    (bounds : workload.Bounds stage) : workload.InRange next.shared := by
  by_cases acknowledges : ∃ index, stage = .acknowledge index
  · obtain ⟨index, rfl⟩ := acknowledges
    cases stride
    exact inRange.acknowledge prepared bounds
  · have same : next.shared.acknowledged = world.shared.acknowledged :=
      stride.acknowledged_eq fun index equal => acknowledges ⟨index, equal⟩
    refine ⟨(congrArg UInt64.toNat stride.finish_eq).trans inRange.finish, ?_⟩
    rw [same]
    exact inRange.marked

theorem bounds (stride : Stride workload backend world words stage next after)
    (prepared : workload.IsPrepared) (inRange : workload.InRange world.shared)
    (bounds : workload.Bounds stage) : workload.Bounds after.stage := by
  cases stride with
  | fetches taken found =>
      refine ⟨?_, found, Nat.zero_le _⟩
      rw [← inRange.finish]
      exact UInt64.lt_iff_toNat_lt.mp (Cursor.of_take taken).2
  | inserts => exact bounds.1
  | retries asked left => exact ⟨bounds.1, bounds.2.1, left⟩
  | readsMark =>
      cases marked : world.shared.acknowledged.last? with
      | none => trivial
      | some last => exact inRange.last prepared marked
  | _ => trivial

end Worker.Stride

namespace Floor

variable {σ : Type} {workload : Workload} {backend : Backend σ} {floor next : Floor σ}
  {move : Move σ}

structure Bounded (workload : Workload) (floor : Floor σ) : Prop where
  inRange : workload.InRange floor.world.shared
  bounds : AllBusy (fun _ worker => workload.Bounds worker.stage) floor.posts

theorem Bounded.ofOpening (prepared : workload.IsPrepared) (store : σ) (crew : Nat) :
    (opening workload store crew).Bounded workload :=
  ⟨Workload.inRange_initial prepared, .replicate_idle crew⟩

theorem Bounded.turn (bounded : floor.Bounded workload) (prepared : workload.IsPrepared)
    (turn : Turn workload backend floor move next) : next.Bounded workload := by
  cases turn with
  | calls free =>
      rename_i id call words
      refine ⟨bounded.inRange, bounded.bounds.set_busy ?_⟩
      cases call <;> trivial
  | asks busy asks admitted =>
      exact ⟨bounded.inRange, bounded.bounds.set_busy (bounded.bounds.get busy)⟩
  | takes busy ready stride =>
      have bounds := bounded.bounds.get busy
      exact ⟨stride.inRange prepared bounded.inRange bounds,
        bounded.bounds.set_settle (stride.bounds prepared bounded.inRange bounds)⟩
  | outside => exact ⟨bounded.inRange, bounded.bounds⟩

end Floor

namespace Workload

variable {workload : Workload}

/-- From a newest record of the range a key is always drawn, and its record is there. -/
theorem next_found (prepared : workload.IsPrepared) (counts : workload.CountsKeys)
    {last : UInt64} (begun : workload.insertStart ≤ last)
    (below : last.toNat < workload.insertFinish) (words : Words) :
    ∃ key reference, (workload.keys.next (some last) words).1 = some key ∧
      workload.insertStart ≤ key ∧ key ≤ last ∧
      workload.dataset.get? key = some reference := by
  obtain ⟨-, start⟩ := KeyChooser.isOrdered_of_ofLaw prepared.law
  obtain ⟨key, drawn⟩ : ∃ key, (workload.keys.next (some last) words).1 = some key := by
    unfold KeyChooser.next
    dsimp only
    rw [start, if_neg (UInt64.not_lt.mpr begun)]
    cases workload.keys <;> exact ⟨_, rfl⟩
  obtain ⟨low, high⟩ := next_mem prepared counts begun below drawn
  have inside : key.toNat < workload.insertFinish :=
    Nat.lt_of_le_of_lt (UInt64.le_iff_toNat_le.mp high) below
  obtain ⟨reference, found⟩ := Option.ne_none_iff_exists'.mp (prepared.get?_ne_none inside)
  exact ⟨key, reference, drawn, low, high, found⟩

end Workload

end SpatialWorkload
