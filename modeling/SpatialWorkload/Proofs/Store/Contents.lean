import Mathlib.Logic.Function.Basic
import SpatialWorkload.Proofs.Store.Table

/-!
# Contents of a store in memory

Any number of sessions write to the tables of one store.  What a table holds is a list that a
reset empties and that an insert extends at its end, unless the key is already in it.  The
positions of the store are that list, its key sets never get out of step with them, and an
insert fails exactly where the list is not extended.
-/

namespace SpatialWorkload

inductive Write where
  | reset (table : String)
  | insert (table key : String) (position : Position Float)

namespace Write

def table : Write → String
  | reset table => table
  | insert table _ _ => table

def perform : Write → MemoryStore Float → Answer Unit × MemoryStore Float
  | reset table => memoryBackend.reset table
  | insert table key position => memoryBackend.insert table key position

/-- What the call makes of the contents of the tables, by their names. -/
def specify (write : Write) (contents : String → List (Position Float)) :
    String → List (Position Float) :=
  match write with
  | reset table => Function.update contents table []
  | insert table key position =>
      if key ∈ (contents table).map Position.id then contents
      else Function.update contents table (contents table ++ [{ position with id := key }])

end Write

structure Written where
  session : Nat
  write : Write
  answer : Answer Unit

/-- The successful inserts of a table since it was last reset; the newest call comes first. -/
def insertsSinceReset (name : String) : List Written → Nat
  | [] => 0
  | newest :: older =>
      match newest.write with
      | .reset table => if table = name then 0 else insertsSinceReset name older
      | .insert table _ _ =>
          if table = name ∧ newest.answer.isOk then insertsSinceReset name older + 1
          else insertsSinceReset name older

theorem insertsSinceReset_reset (name table : String) (session : Nat) (answer : Answer Unit)
    (older : List Written) :
    insertsSinceReset name (⟨session, .reset table, answer⟩ :: older) =
      if table = name then 0 else insertsSinceReset name older :=
  rfl

theorem insertsSinceReset_insert (name table key : String) (position : Position Float)
    (session : Nat) (answer : Answer Unit) (older : List Written) :
    insertsSinceReset name (⟨session, .insert table key position, answer⟩ :: older) =
      if table = name ∧ answer.isOk then insertsSinceReset name older + 1
      else insertsSinceReset name older :=
  rfl

/-- A store in memory that sessions share, and the calls they have made, the newest first. -/
structure SharedStore where
  store : MemoryStore Float
  written : List Written

namespace SharedStore

def empty : SharedStore := ⟨.empty, []⟩

def call (shared : SharedStore) (session : Nat) (write : Write) : SharedStore :=
  let (answer, store) := write.perform shared.store
  ⟨store, ⟨session, write, answer⟩ :: shared.written⟩

def run (calls : List (Nat × Write)) : SharedStore :=
  calls.foldl (fun shared call => shared.call call.1 call.2) empty

end SharedStore

def contents (calls : List (Nat × Write)) : String → List (Position Float) :=
  calls.foldl (fun contents call => call.2.specify contents) fun _ => []

namespace Table

variable {α : Type} {table : Table α} {key : String}

theorem IsSound.insert?_of_mem (sound : table.IsSound) (member : key ∈ table.ids)
    (position : Position α) : table.insert? key position = none := by
  rw [Table.insert?, if_pos ((sound.mem_keys key).mpr member)]

theorem IsSound.insert?_of_absent (sound : table.IsSound) (absent : key ∉ table.ids)
    (position : Position α) : ∃ after, table.insert? key position = some after := by
  rw [Table.insert?, if_neg fun taken => absent ((sound.mem_keys key).mp taken)]
  exact ⟨_, rfl⟩

end Table

namespace MemoryStore

/-- A table of the store; one that was never written is empty. -/
def tableOf {α : Type} (store : MemoryStore α) (name : String) : Table α :=
  (store.table? name).getD Table.empty

theorem tableOf_eq {α : Type} {store : MemoryStore α} {name : String} {table : Table α}
    (found : store.table? name = some table) : store.tableOf name = table := by
  rw [tableOf, found, Option.getD_some]

theorem tableOf_set {α : Type} (store : MemoryStore α) (name other : String) (table : Table α) :
    (store.set name table).tableOf other = if other = name then table else store.tableOf other := by
  unfold tableOf
  rw [table?_set]
  split <;> rfl

end MemoryStore

namespace Write

variable {store : MemoryStore Float} {name key : String}

/-- A call leaves the other tables as they were. -/
theorem table?_perform (write : Write) (store : MemoryStore Float) (differs : name ≠ write.table) :
    (write.perform store).2.table? name = store.table? name := by
  cases write with
  | reset table => exact (store.table?_set table name Table.empty).trans (if_neg differs)
  | insert table key position => exact store.table?_insert_of_ne differs key position

/-- A key that the table holds is refused, and nothing changes. -/
theorem perform_insert_of_mem (sound : (store.tableOf name).IsSound)
    (member : key ∈ (store.tableOf name).ids) (position : Position Float) :
    (insert name key position).perform store =
      (.error (.refused (.unexpectedState s!"key {key} already present in {name}")), store) := by
  have refused := sound.insert?_of_mem member position
  unfold MemoryStore.tableOf at refused
  simp only [perform, memoryBackend, MemoryStore.insert, refused, orStop]

/-- Any other key is taken, and its position comes last. -/
theorem perform_insert_of_absent (sound : (store.tableOf name).IsSound)
    (absent : key ∉ (store.tableOf name).ids) (position : Position Float) :
    ∃ after, (store.tableOf name).insert? key position = some after ∧
      (insert name key position).perform store = (.ok (), store.set name after) := by
  obtain ⟨after, taken⟩ := sound.insert?_of_absent absent position
  refine ⟨after, taken, ?_⟩
  unfold MemoryStore.tableOf at taken
  simp only [perform, memoryBackend, MemoryStore.insert, taken, orStop]

end Write

namespace SharedStore

/-- The tables of a store are sound and hold what is specified, and every position is counted. -/
structure Holds (shared : SharedStore) (contents : String → List (Position Float)) : Prop where
  positions : ∀ name, (shared.store.tableOf name).positions.toList = contents name
  sound : ∀ name, (shared.store.tableOf name).IsSound
  counted : ∀ name, (contents name).length = insertsSinceReset name shared.written

variable {shared : SharedStore} {contents : String → List (Position Float)}

theorem holds_empty : empty.Holds fun _ => [] where
  positions _ := rfl
  sound _ := Table.isSound_empty
  counted _ := rfl

theorem Holds.ids (holds : shared.Holds contents) (name : String) :
    (shared.store.tableOf name).ids = (contents name).map Position.id := by
  rw [Table.ids, holds.positions name]

theorem Holds.reset (holds : shared.Holds contents) (session : Nat) (table : String) :
    (shared.call session (.reset table)).Holds ((Write.reset table).specify contents) := by
  have after (name : String) :
      (shared.call session (.reset table)).store.tableOf name =
        if name = table then Table.empty else shared.store.tableOf name :=
    shared.store.tableOf_set table name Table.empty
  constructor
  · intro name
    rw [after, Write.specify, Function.update_apply]
    split
    · rfl
    · exact holds.positions name
  · intro name
    rw [after]
    split
    · exact Table.isSound_empty
    · exact holds.sound name
  · intro name
    rw [Write.specify, Function.update_apply]
    refine Eq.trans ?_ (insertsSinceReset_reset name table session (.ok ()) _).symm
    by_cases same : name = table
    · rw [if_pos same, if_pos same.symm, List.length_nil]
    · rw [if_neg same, if_neg (Ne.symm same), holds.counted name]

theorem Holds.insert (holds : shared.Holds contents) (session : Nat) (table key : String)
    (position : Position Float) :
    (shared.call session (.insert table key position)).Holds
      ((Write.insert table key position).specify contents) := by
  have ids := holds.ids table
  by_cases member : key ∈ (contents table).map Position.id
  · have refused := Write.perform_insert_of_mem (holds.sound table) (ids ▸ member) position
    rw [Write.specify, if_pos member]
    unfold call
    rw [refused]
    refine ⟨holds.positions, holds.sound, fun name => ?_⟩
    have failed (error : Stop StoreError) :
        ¬(table = name ∧ (Except.error error : Answer Unit).isOk = true) := by
      rintro ⟨-, ⟨⟩⟩
    rw [insertsSinceReset_insert, if_neg (failed _), holds.counted name]
  · obtain ⟨after, taken, performed⟩ :=
      Write.perform_insert_of_absent (holds.sound table) (ids ▸ member) position
    have tables (name : String) : (shared.store.set table after).tableOf name =
        if name = table then after else shared.store.tableOf name :=
      shared.store.tableOf_set table name after
    rw [Write.specify, if_neg member]
    unfold call
    rw [performed]
    constructor
    · intro name
      rw [tables, Function.update_apply]
      split
      · rw [Table.positions_of_insert? taken, holds.positions table]
      · exact holds.positions name
    · intro name
      rw [tables]
      split
      · exact (holds.sound table).insert? taken
      · exact holds.sound name
    · intro name
      rw [Function.update_apply, insertsSinceReset_insert]
      by_cases same : name = table
      · subst same
        rw [if_pos rfl, if_pos ⟨rfl, rfl⟩, ← holds.counted name, List.length_append,
          List.length_singleton]
      · rw [if_neg same, if_neg fun both => same both.1.symm, holds.counted name]

theorem Holds.call (holds : shared.Holds contents) (session : Nat) (write : Write) :
    (shared.call session write).Holds (write.specify contents) := by
  cases write with
  | reset table => exact holds.reset session table
  | insert table key position => exact holds.insert session table key position

theorem holds_foldl (calls : List (Nat × Write)) (holds : shared.Holds contents) :
    (calls.foldl (fun shared call => shared.call call.1 call.2) shared).Holds
      (calls.foldl (fun contents call => call.2.specify contents) contents) := by
  induction calls generalizing shared contents with
  | nil => exact holds
  | cons call rest ih => exact ih (holds.call call.1 call.2)

theorem holds_run (calls : List (Nat × Write)) :
    (run calls).Holds (SpatialWorkload.contents calls) :=
  holds_foldl calls holds_empty

/--
After any calls of any sessions a table holds its specified contents, under distinct
identities that are its keys, and as many positions as inserts succeeded since its last reset.
Of the calls that can follow, one on another table leaves this one alone, a reset goes
through, and an insert goes through unless its key is among the contents; then it reports an
unexpected state and the whole store is as before.
-/
theorem tables_hold_contents (calls : List (Nat × Write)) (name : String) :
    let store := (run calls).store
    store.positions name = SpatialWorkload.contents calls name ∧
    (∀ table, store.table? name = some table →
      table.ids.Nodup ∧ ∀ key, table.keys.contains key = true ↔ key ∈ table.ids) ∧
    store.count name = insertsSinceReset name (run calls).written ∧
    (∀ write : Write, name ≠ write.table →
      (write.perform store).2.table? name = store.table? name) ∧
    ((Write.reset name).perform store).1 = .ok () ∧
    ∀ key position,
      (key ∉ (SpatialWorkload.contents calls name).map Position.id →
        ((Write.insert name key position).perform store).1 = .ok ()) ∧
      (key ∈ (SpatialWorkload.contents calls name).map Position.id →
        (Write.insert name key position).perform store =
          (.error (.refused (.unexpectedState s!"key {key} already present in {name}")),
            store)) := by
  intro store
  have holds := holds_run calls
  refine ⟨holds.positions name, ?_, ?_, ?_, rfl, ?_⟩
  · intro table found
    have sound := holds.sound name
    rw [MemoryStore.tableOf_eq found] at sound
    exact ⟨sound.distinct, sound.mem_keys⟩
  · rw [← holds.counted name, ← holds.positions name, Array.length_toList]
    rfl
  · exact fun write differs => write.table?_perform store differs
  · intro key position
    rw [← holds.ids name]
    refine ⟨fun absent => ?_, fun member =>
      Write.perform_insert_of_mem (holds.sound name) member position⟩
    obtain ⟨after, -, performed⟩ :=
      Write.perform_insert_of_absent (holds.sound name) absent position
    rw [performed]

/-- Two sessions insert the same key; the second of them is refused. -/
theorem tables_hold_contents_same_key (position : Position Float) :
    let calls := [(0, .reset "T"), (1, .insert "T" "a" position)]
    (Write.insert "T" "a" position).perform (run calls).store =
      (.error (.refused (.unexpectedState "key a already present in T")), (run calls).store) := by
  intro calls
  obtain ⟨-, -, -, -, -, inserts⟩ := tables_hold_contents calls "T"
  refine (inserts "a" position).2 ?_
  simp [calls, SpatialWorkload.contents, Write.specify]

end SharedStore

end SpatialWorkload
