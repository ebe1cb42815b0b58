import SpatialWorkload.Proofs.Run.Floor
import SpatialWorkload.Proofs.Run.Prepare
import SpatialWorkload.Proofs.Run.Watermark
import SpatialWorkload.Proofs.Store.Table

/-!
# Acknowledged records are in the table

On a store in memory that nobody else writes to, every record up to the newest
acknowledged one is in the table, once and as the dataset has it, and stays there.  The
invariant says of each stage what its worker may rely on; it only ever speaks of a table
behind the reset, and behind the reset a table only grows.
-/

namespace SpatialWorkload

abbrev MemoryWorld := World (MemoryStore Float)

namespace Workload

def IsOpen (world : MemoryWorld) : Prop :=
  world.shared.gate.bar = .lifted

/-- The record of an index is in the table, for good. -/
structure Keeps (workload : Workload) (world : MemoryWorld) (index : UInt64) : Prop where
  isOpen : IsOpen world
  below : index.toNat < workload.insertFinish
  stored : ∃ position, workload.dataset.get? index = some position ∧
    position ∈ world.store.positions workload.config.table

/-- The keys of the workload can be counted in doubles, if they are. -/
def CountsKeys (workload : Workload) : Prop :=
  workload.config.keyLaw = .uniform ∨ workload.dataset.size ≤ 2 * Double.leastNormal

def Relies (workload : Workload) (world : MemoryWorld) : Stage → Prop
  | .flag => IsOpen world
  | .fetch => IsOpen world
  | .attempt index position _ =>
      IsOpen world ∧ index.toNat < workload.insertFinish ∧
        workload.dataset.get? index = some position
  | .acknowledge index => workload.Keeps world index
  | .drawKey _ (some last) =>
      workload.insertStart ≤ last ∧
        ∀ index, workload.insertStart ≤ index → index ≤ last → workload.Keeps world index
  | .scan _ reference =>
      IsOpen world ∧ (workload.CountsKeys →
        reference ∈ world.store.positions workload.config.table)
  | _ => True

structure Stocks (workload : Workload) (world : MemoryWorld) : Prop where
  sound : IsOpen world → world.store.IsSoundAt workload.config.table
  finish : world.shared.cursor.finish.toNat = workload.insertFinish
  marked : ∃ seen, Watermark.Tracks world.shared.acknowledged workload.insertStart seen ∧
    ∀ index ∈ seen, workload.Keeps world index

def Grows (workload : Workload) (before after : MemoryWorld) : Prop :=
  IsOpen before → IsOpen after ∧
    ∀ position ∈ before.store.positions workload.config.table,
      position ∈ after.store.positions workload.config.table

variable {workload : Workload} {world next : MemoryWorld}

theorem Keeps.grows {index : UInt64} (keeps : workload.Keeps world index)
    (grows : workload.Grows world next) : workload.Keeps next index := by
  obtain ⟨isOpen, more⟩ := grows keeps.isOpen
  obtain ⟨position, found, member⟩ := keeps.stored
  exact ⟨isOpen, keeps.below, position, found, more position member⟩

theorem Relies.grows {stage : Stage} (relies : workload.Relies world stage)
    (grows : workload.Grows world next) : workload.Relies next stage := by
  cases stage with
  | flag | fetch => exact (grows relies).1
  | attempt index position failed => exact ⟨(grows relies.1).1, relies.2⟩
  | acknowledge index => exact Keeps.grows relies grows
  | drawKey kind acknowledged =>
      cases acknowledged with
      | none => trivial
      | some last =>
          refine ⟨relies.1, fun index low high => ?_⟩
          exact (relies.2 index low high).grows grows
  | scan kind reference =>
      obtain ⟨isOpen, more⟩ := grows relies.1
      exact ⟨isOpen, fun counts => more reference (relies.2 counts)⟩
  | _ => trivial

theorem lt_lastWord (prepared : workload.IsPrepared) {index : UInt64}
    (below : index.toNat < workload.insertFinish) : index < Watermark.lastWord := by
  have fits := prepared.fits
  rw [UInt64.lt_iff_toNat_lt]
  change index.toNat < 18446744073709551615
  change workload.insertFinish < 18446744073709551616 at fits
  omega

/-- Every index up to the newest acknowledged one is kept. -/
theorem Stocks.keeps (stocks : workload.Stocks world) (prepared : workload.IsPrepared)
    {last : UInt64} (some : world.shared.acknowledged.last? = some last) :
    workload.insertStart ≤ last ∧
      ∀ index, workload.insertStart ≤ index → index ≤ last → workload.Keeps world index := by
  obtain ⟨seen, tracks, keeps⟩ := stocks.marked
  have known : ∀ index ∈ seen, index < Watermark.lastWord := fun index member =>
    lt_lastWord prepared (keeps index member).below
  obtain ⟨start, covered, -⟩ := (tracks.last?_eq_some_iff known last).mp some
  exact ⟨start, fun index low high => keeps index (covered index low high)⟩

/-- A key up to an index of the range is drawn from the kept ones. -/
theorem next_mem (prepared : workload.IsPrepared) (counts : workload.CountsKeys)
    {last key : UInt64} (begun : workload.insertStart ≤ last)
    (below : last.toNat < workload.insertFinish) {words : Words}
    (drawn : (workload.keys.next (some last) words).1 = some key) :
    workload.insertStart ≤ key ∧ key ≤ last := by
  obtain ⟨ordered, start⟩ := KeyChooser.isOrdered_of_ofLaw prepared.law
  rw [← start] at begun ⊢
  refine KeyChooser.next_mem ordered ?_ drawn
  rcases counts with uniform | small
  · have law := prepared.law
    rw [uniform] at law
    exact KeyChooser.countsTo_of_uniform law last
  · refine KeyChooser.countsTo_of_lt begun ?_
    exact Nat.lt_of_lt_of_le below (Nat.le_trans prepared.within small)

theorem stocks_initial (prepared : workload.IsPrepared)
    (fresh : workload.config.preloaded = false) (store : MemoryStore Float) :
    workload.Stocks ⟨workload.initialShared, store, []⟩ := by
  refine ⟨fun isOpen => (nomatch isOpen), prepared.finish_initial, ∅, ?_,
    fun index member => nomatch member⟩
  have start : workload.initialShared.acknowledged =
      Watermark.ofStart workload.insertStart := by
    simp [initialShared, fresh]
  change Watermark.Tracks workload.initialShared.acknowledged _ _
  rw [start]
  exact Watermark.tracks_ofStart workload.insertStart

/-- An insert into a sound table keeps it sound, loses nothing and adds what it reports. -/
theorem memory_insert {store after : MemoryStore Float} {name : String}
    {position : Position Float} {answer : Answer Unit} (sound : store.IsSoundAt name)
    (asked : memoryBackend.insert name position.id position store = (answer, after)) :
    after.IsSoundAt name ∧
      (∀ stored ∈ store.positions name, stored ∈ after.positions name) ∧
      (answer = .ok () → position ∈ after.positions name) := by
  have outcome : (orStop (store.insert name position.id position).1,
      (store.insert name position.id position).2) = (answer, after) := asked
  rw [Prod.mk.injEq] at outcome
  obtain ⟨answered, rfl⟩ := outcome
  rcases MemoryStore.insert_cases sound position.id position with
    ⟨-, afterSound, appended⟩ | ⟨error, refused⟩
  · refine ⟨afterSound, fun stored member => ?_, fun _ => ?_⟩
    · rw [appended]
      exact List.mem_append_left _ member
    · rw [appended]
      exact List.mem_append_right _ (List.mem_singleton_self position)
  · rw [refused] at answered ⊢
    refine ⟨sound, fun stored member => member, fun ok => ?_⟩
    rw [ok] at answered
    cases answered

end Workload

namespace Worker.Stride

open Workload

variable {workload : Workload} {world next : MemoryWorld} {words : Words} {stage : Stage}
  {after : Worker}

/-- A step opens the gate at most once and takes nothing out of the table behind it. -/
theorem grows (stride : Stride workload memoryBackend world words stage next after)
    (stocks : workload.Stocks world) (relies : workload.Relies world stage) :
    workload.Grows world next ∧
      (IsOpen next → next.store.IsSoundAt workload.config.table) := by
  cases stride with
  | resets closed asked back | resetLost closed asked =>
      rename_i store
      have cleared : world.store.reset workload.config.table = store := congrArg Prod.snd asked
      subst cleared
      refine ⟨fun isOpen => ?_, fun _ => MemoryStore.isSoundAt_reset _ _⟩
      exact absurd (closed.symm.trans isOpen) Bar.noConfusion
  | inserts asked | insertLost asked | abandons asked | retries asked | pauseLost asked =>
      obtain ⟨sound, more, -⟩ := memory_insert (stocks.sound relies.1) asked
      exact ⟨fun isOpen => ⟨isOpen, more⟩, fun _ => sound⟩
  | scans drawn asked | scanRefused drawn asked | scanLost drawn asked =>
      rename_i store
      have same : world.store = store := congrArg Prod.snd asked
      subst same
      exact ⟨fun isOpen => ⟨isOpen, fun _ member => member⟩, stocks.sound⟩
  | _ => exact ⟨fun isOpen => ⟨isOpen, fun _ member => member⟩, stocks.sound⟩

theorem stocks (stride : Stride workload memoryBackend world words stage next after)
    (prepared : workload.IsPrepared) (stocks : workload.Stocks world)
    (relies : workload.Relies world stage) : workload.Stocks next := by
  obtain ⟨grows, sound⟩ := stride.grows stocks relies
  obtain ⟨seen, tracks, keeps⟩ := stocks.marked
  refine ⟨sound, (congrArg UInt64.toNat stride.finish_eq).trans stocks.finish, ?_⟩
  by_cases acknowledges : ∃ index, stage = .acknowledge index
  · obtain ⟨index, rfl⟩ := acknowledges
    have known : ∀ i ∈ seen, i < Watermark.lastWord := fun i member =>
      lt_lastWord prepared (keeps i member).below
    have kept : workload.Keeps world index := relies
    have more := tracks.acknowledge known (lt_lastWord prepared kept.below)
    cases stride
    refine ⟨insert index seen, more, fun i member => ?_⟩
    rcases Set.mem_insert_iff.mp member with rfl | before
    · exact kept.grows grows
    · exact (keeps i before).grows grows
  · have same : next.shared.acknowledged = world.shared.acknowledged :=
      stride.acknowledged_eq fun index equal => acknowledges ⟨index, equal⟩
    exact ⟨seen, same ▸ tracks, fun i member => (keeps i member).grows grows⟩

/-- A worker may rely at the next stage on what that stage needs. -/
theorem relies (stride : Stride workload memoryBackend world words stage next after)
    (prepared : workload.IsPrepared) (stocks : workload.Stocks world)
    (relies : workload.Relies world stage) : workload.Relies next after.stage := by
  cases stride with
  | passes lifted => exact lifted
  | resets => exact rfl
  | raises => exact relies
  | fetches taken found =>
      rename_i index position
      refine ⟨relies, ?_, found⟩
      rw [← stocks.finish]
      exact UInt64.lt_iff_toNat_lt.mp (Cursor.of_take taken).2
  | inserts asked =>
      rename_i index position failed store
      obtain ⟨isOpen, below, found⟩ := relies
      obtain ⟨-, -, added⟩ := memory_insert (stocks.sound isOpen) asked
      exact ⟨isOpen, below, position, found, added rfl⟩
  | retries => exact relies
  | readsMark =>
      cases marked : world.shared.acknowledged.last? with
      | none => trivial
      | some last => exact stocks.keeps prepared marked
  | draws drawn found =>
      rename_i kind acknowledged key reference
      cases acknowledged with
      | none => cases drawn
      | some last =>
          obtain ⟨begun, keeps⟩ := relies
          have newest := keeps last begun (UInt64.le_refl last)
          refine ⟨newest.isOpen, fun counts => ?_⟩
          obtain ⟨low, high⟩ := next_mem prepared counts begun newest.below drawn
          obtain ⟨position, same, member⟩ := (keeps key low high).stored
          rw [found] at same
          cases same
          exact member
  | _ => trivial

end Worker.Stride

/-- Nobody else writes to the table. -/
def Move.Spares (name : String) : Move (MemoryStore Float) → Prop
  | .outside change => ∀ store, (change store).table? name = store.table? name
  | _ => True

namespace Floor

open Workload

variable {workload : Workload} {floor next : Floor (MemoryStore Float)}
  {move : Move (MemoryStore Float)}

structure IsLoaded (workload : Workload) (floor : Floor (MemoryStore Float)) : Prop where
  stocks : workload.Stocks floor.world
  relies : AllBusy (fun _ worker => workload.Relies floor.world worker.stage) floor.posts

theorem isLoaded_opening (prepared : workload.IsPrepared)
    (fresh : workload.config.preloaded = false) (store : MemoryStore Float) (crew : Nat) :
    (opening workload store crew).IsLoaded workload :=
  ⟨stocks_initial prepared fresh store, .replicate_idle crew⟩

theorem IsLoaded.turn (loaded : floor.IsLoaded workload) (prepared : workload.IsPrepared)
    (spares : move.Spares workload.config.table)
    (turn : Turn workload memoryBackend floor move next) :
    next.IsLoaded workload ∧ workload.Grows floor.world next.world := by
  have same : workload.Grows floor.world floor.world :=
    fun isOpen => ⟨isOpen, fun _ member => member⟩
  cases turn with
  | calls free =>
      rename_i id call words
      refine ⟨⟨loaded.stocks, loaded.relies.set_busy ?_⟩, same⟩
      cases call <;> trivial
  | asks busy asks admitted =>
      exact ⟨⟨loaded.stocks, loaded.relies.set_busy (loaded.relies.get busy)⟩, same⟩
  | takes busy ready stride =>
      have relies := loaded.relies.get busy
      obtain ⟨grows, -⟩ := stride.grows loaded.stocks relies
      have others := loaded.relies.imp fun _ _ before => before.grows grows
      exact ⟨⟨stride.stocks prepared loaded.stocks relies,
        others.set_settle (stride.relies prepared loaded.stocks relies)⟩, grows⟩
  | outside =>
      rename_i change
      have kept := spares floor.world.store
      have positions : (change floor.world.store).positions workload.config.table =
          floor.world.store.positions workload.config.table := by
        rw [MemoryStore.positions, kept, MemoryStore.positions]
      have grows : workload.Grows floor.world
          { floor.world with store := change floor.world.store } :=
        fun isOpen => ⟨isOpen, fun position member => by rwa [positions]⟩
      refine ⟨⟨⟨fun isOpen => ?_, loaded.stocks.finish, ?_⟩, ?_⟩, grows⟩
      · obtain ⟨table, found, sound⟩ := loaded.stocks.sound isOpen
        exact ⟨table, kept.trans found, sound⟩
      · obtain ⟨seen, tracks, keeps⟩ := loaded.stocks.marked
        exact ⟨seen, tracks, fun index member => (keeps index member).grows grows⟩
      · exact loaded.relies.imp fun _ _ before => before.grows grows

/-- What is kept is in the table exactly once. -/
theorem IsLoaded.holdsOnce (loaded : floor.IsLoaded workload) {index : UInt64}
    (keeps : workload.Keeps floor.world index) :
    ∃ position, workload.dataset.get? index = some position ∧
      floor.world.store.HoldsOnce workload.config.table position := by
  obtain ⟨position, found, member⟩ := keeps.stored
  exact ⟨position, found, (loaded.stocks.sound keeps.isOpen).holdsOnce member⟩

theorem isLoaded_run (prepared : workload.IsPrepared) (moves : List (Move (MemoryStore Float)))
    (spares : ∀ move ∈ moves, move.Spares workload.config.table)
    (loaded : floor.IsLoaded workload) :
    (run workload memoryBackend moves floor).IsLoaded workload ∧
      ∀ index, workload.Keeps floor.world index →
        workload.Keeps (run workload memoryBackend moves floor).world index := by
  refine run_keeps (Move.Spares workload.config.table)
    (fun later => later.IsLoaded workload ∧
      ∀ index, workload.Keeps floor.world index → workload.Keeps later.world index)
    ?_ moves spares ⟨loaded, fun index keeps => keeps⟩
  rintro later move next spared ⟨laterLoaded, keeps⟩ turn
  obtain ⟨nextLoaded, grows⟩ := laterLoaded.turn prepared spared turn
  exact ⟨nextLoaded, fun index kept => (keeps index kept).grows grows⟩

end Floor

end SpatialWorkload
