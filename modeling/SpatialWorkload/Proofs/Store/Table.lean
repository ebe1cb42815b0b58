import Mathlib.Data.List.Nodup
import SpatialWorkload.Store.Memory

/-!
# Sound tables

A table in memory keeps its positions and its keys apart.  It is sound when the keys are
the identities of the positions and no identity occurs twice; an empty table is, and an
insertion keeps it so.  In a sound table a position is the only one with its identity.
-/

namespace SpatialWorkload

variable {α : Type}

namespace Table

def ids (table : Table α) : List String :=
  table.positions.toList.map Position.id

structure IsSound (table : Table α) : Prop where
  mem_keys : ∀ key, table.keys.contains key = true ↔ key ∈ table.ids
  distinct : table.ids.Nodup

theorem isSound_empty : (empty : Table α).IsSound := by
  constructor
  · intro key
    simp [empty, ids]
  · exact List.nodup_nil

variable {table after : Table α} {key : String} {position : Position α}

theorem positions_of_insert? (inserted : table.insert? key position = some after) :
    after.positions.toList = table.positions.toList ++ [{ position with id := key }] := by
  unfold insert? at inserted
  split at inserted
  · cases inserted
  · cases inserted
    exact Array.toList_push

theorem ids_of_insert? (inserted : table.insert? key position = some after) :
    after.ids = table.ids ++ [key] := by
  unfold ids
  rw [positions_of_insert? inserted, List.map_append]
  rfl

theorem IsSound.insert? (sound : table.IsSound)
    (inserted : table.insert? key position = some after) : after.IsSound := by
  have grown := ids_of_insert? inserted
  unfold Table.insert? at inserted
  split at inserted
  · cases inserted
  · rename_i absent
    have fresh : key ∉ table.ids := fun member => absent ((sound.mem_keys key).mpr member)
    cases inserted
    constructor
    · intro other
      rw [grown, List.mem_append, List.mem_singleton, ← sound.mem_keys other,
        Std.HashSet.contains_insert, Bool.or_eq_true, beq_iff_eq]
      constructor
      · rintro (equal | known)
        · exact Or.inr equal.symm
        · exact Or.inl known
      · rintro (known | equal)
        · exact Or.inr known
        · exact Or.inl equal.symm
    · rw [grown, List.nodup_append]
      refine ⟨sound.distinct, List.nodup_singleton key, ?_⟩
      rintro id member other same rfl
      exact fresh (List.mem_singleton.mp same ▸ member)

end Table

/-- Among positions with distinct identities, one that occurs is the only one with its identity. -/
theorem filter_id_eq_singleton {positions : List (Position α)} {position : Position α}
    (distinct : (positions.map Position.id).Nodup) (member : position ∈ positions) :
    positions.filter (fun stored => stored.id == position.id) = [position] := by
  induction positions with
  | nil => exact absurd member List.not_mem_nil
  | cons first rest ih =>
      obtain ⟨fresh, restDistinct⟩ := List.nodup_cons.mp distinct
      rcases List.mem_cons.mp member with equal | later
      · subst equal
        have others : rest.filter (fun stored => stored.id == position.id) = [] := by
          refine List.filter_eq_nil_iff.mpr fun stored inside same => fresh ?_
          exact List.mem_map.mpr ⟨stored, inside, beq_iff_eq.mp same⟩
        simp only [List.filter_cons, beq_self_eq_true, if_true, others]
      · have differs : (first.id == position.id) = false := by
          refine beq_eq_false_iff_ne.mpr fun same => fresh ?_
          exact List.mem_map.mpr ⟨position, later, same.symm⟩
        rw [List.filter_cons_of_neg (by rw [differs]; exact Bool.false_ne_true)]
        exact ih restDistinct later

namespace MemoryStore

/-- The table holds the position, and no other position with its identity. -/
def HoldsOnce (store : MemoryStore α) (name : String) (position : Position α) : Prop :=
  (store.positions name).filter (fun stored => stored.id == position.id) = [position]

def IsSoundAt (store : MemoryStore α) (name : String) : Prop :=
  ∃ table, store.table? name = some table ∧ table.IsSound

theorem isSoundAt_reset (store : MemoryStore α) (name : String) :
    (store.reset name).IsSoundAt name := by
  refine ⟨Table.empty, ?_, Table.isSound_empty⟩
  rw [reset, table?_set, if_pos rfl]

/-- A table that was just reset takes every key. -/
theorem insert_reset (store : MemoryStore α) (name key : String) (position : Position α) :
    ((store.reset name).insert name key position).1 = .ok () := by
  simp [insert, reset, table?_set, Table.insert?, Table.empty]

theorem positions_eq {store : MemoryStore α} {name : String} {table : Table α}
    (found : store.table? name = some table) : store.positions name = table.positions.toList := by
  rw [positions, found]
  rfl

theorem IsSoundAt.holdsOnce {store : MemoryStore α} {name : String} {position : Position α}
    (sound : store.IsSoundAt name) (member : position ∈ store.positions name) :
    store.HoldsOnce name position := by
  obtain ⟨table, found, tableSound⟩ := sound
  unfold HoldsOnce
  rw [positions_eq found] at member ⊢
  exact filter_id_eq_singleton tableSound.distinct member

/--
An insert either appends the position to its table and keeps the table sound, or it leaves
the whole store as it was.
-/
theorem insert_cases {store : MemoryStore α} {name : String} (sound : store.IsSoundAt name)
    (key : String) (position : Position α) :
    ((store.insert name key position).1 = .ok () ∧
      (store.insert name key position).2.IsSoundAt name ∧
      (store.insert name key position).2.positions name =
        store.positions name ++ [{ position with id := key }]) ∨
    (∃ error, store.insert name key position = (.error error, store)) := by
  obtain ⟨table, found, tableSound⟩ := sound
  cases inserted : table.insert? key position with
  | none =>
      right
      simp only [MemoryStore.insert, found, Option.getD_some, inserted]
      exact ⟨_, rfl⟩
  | some after =>
      left
      simp only [MemoryStore.insert, found, Option.getD_some, inserted]
      have there : (store.set name after).table? name = some after := by
        rw [table?_set, if_pos rfl]
      refine ⟨trivial, ⟨after, there, tableSound.insert? inserted⟩, ?_⟩
      rw [positions_eq there, positions_eq found, Table.positions_of_insert? inserted]

/-- A key that no stored position carries is taken. -/
theorem insert_of_absent {store : MemoryStore α} {name key : String} (sound : store.IsSoundAt name)
    (absent : key ∉ (store.positions name).map Position.id) (position : Position α) :
    (store.insert name key position).1 = .ok () := by
  obtain ⟨table, found, tableSound⟩ := sound
  rw [positions_eq found] at absent
  have free : table.keys.contains key = false :=
    Bool.eq_false_iff.mpr fun taken => absent ((tableSound.mem_keys key).mp taken)
  simp [insert, found, Table.insert?, free]

theorem positions_reset (store : MemoryStore α) (name : String) :
    (store.reset name).positions name = [] := by
  simp [positions, reset, table?_set, Table.empty]

theorem table?_insert_of_ne {name other : String} (differs : other ≠ name)
    (store : MemoryStore α) (key : String) (position : Position α) :
    (store.insert name key position).2.table? other = store.table? other := by
  unfold insert
  split
  · rw [table?_set, if_neg differs]
  · rfl

end MemoryStore

end SpatialWorkload
