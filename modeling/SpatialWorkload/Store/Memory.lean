import SpatialWorkload.Association
import SpatialWorkload.Ring.Basic
import SpatialWorkload.Ring.Winding
import SpatialWorkload.Scalar.Double
import SpatialWorkload.Store.Basic
import Std.Data.HashSet

/-!
# Tables in memory

The reference that other backends are compared with.  A table keeps its positions in the
order of their insertion and refuses a key that it already holds.
-/

namespace SpatialWorkload

structure Table (α : Type) where
  positions : Array (Position α)
  keys : Std.HashSet String

namespace Table

variable {α : Type}

def empty : Table α := ⟨#[], ∅⟩

instance : Inhabited (Table α) := ⟨empty⟩

/-- A stored position carries its key as its identity. -/
def insert? (table : Table α) (key : String) (position : Position α) : Option (Table α) :=
  if table.keys.contains key then none
  else some ⟨table.positions.push { position with id := key }, table.keys.insert key⟩

variable [Scalar α]

abbrev Measured (α : Type) := α × Position α

def ranks (first second : Measured α) : Bool :=
  Scalar.ranked first.1 second.1

/--
Brings what ranks lowest to the front of a list, up to and including an index.  This one
orders the whole list, and equal distances stay in the order of insertion.
-/
def selectInOrder (_index : Nat) (measured : List (Measured α)) : List (Measured α) :=
  measured.mergeSort ranks

/-- The nearest positions first; only what a selection brings to the front is put in order. -/
def nearestBy (select : Nat → List (Measured α) → List (Measured α))
    (positions : List (Position α)) (latitude longitude : α) (count : Nat) :
    List (Position α) :=
  if count = 0 then []
  else
    let measured := positions.map fun position =>
      (Sphere.distanceKm latitude longitude position.latitude position.longitude, position)
    let chosen :=
      if count < measured.length then (select (count - 1) measured).take count else measured
    (chosen.mergeSort ranks).map Prod.snd

/-- The nearest positions first, equal distances in the order of insertion. -/
def nearest (positions : List (Position α)) (latitude longitude : α) (count : Nat) :
    List (Position α) :=
  nearestBy selectInOrder positions latitude longitude count

/-- A bounding box is asked before a distance is computed. -/
def within (positions : List (Position α)) (latitude longitude km : α) : List (Position α) :=
  let box := BoundingBox.around latitude longitude km
  positions.filter fun position =>
    box.contains position.latitude position.longitude &&
      Sphere.isWithinKm latitude longitude km position

/-- The bounds of the ring are asked before its winding number. -/
def inside (positions : List (Position α)) (ring : Ring α) : List (Position α) :=
  let vertices := Ring.openRing ring
  match Ring.bounds vertices with
  | none => []
  | some box =>
      positions.filter fun position =>
        box.contains position.latitude position.longitude &&
          Ring.contains vertices position.latitude position.longitude

def scan (table : Table α) : Query α → List (Position α)
  | .nearest latitude longitude count => nearest table.positions.toList latitude longitude count
  | .within latitude longitude km => within table.positions.toList latitude longitude km
  | .inside ring => inside table.positions.toList ring

end Table

/-- Tables by name; a table that was never written is not there. -/
structure MemoryStore (α : Type) where
  tables : List (String × Table α)

namespace MemoryStore

variable {α : Type}

def empty : MemoryStore α := ⟨[]⟩

def table? (store : MemoryStore α) (name : String) : Option (Table α) :=
  store.tables.lookup name

def set (store : MemoryStore α) (name : String) (table : Table α) : MemoryStore α :=
  ⟨Association.set name table store.tables⟩

/-- Writing one table leaves every other table as it was. -/
theorem table?_set (store : MemoryStore α) (name other : String) (table : Table α) :
    (store.set name table).table? other =
      if other = name then some table else store.table? other :=
  Association.lookup_set name other table store.tables

def positions (store : MemoryStore α) (name : String) : List (Position α) :=
  ((store.table? name).getD Table.empty).positions.toList

def count (store : MemoryStore α) (name : String) : Nat :=
  ((store.table? name).getD Table.empty).positions.size

def reset (store : MemoryStore α) (name : String) : MemoryStore α :=
  store.set name Table.empty

/-- A key that the table holds already is refused, and the store stays as it was. -/
def insert (store : MemoryStore α) (name key : String) (position : Position α) :
    Except StoreError Unit × MemoryStore α :=
  match ((store.table? name).getD Table.empty).insert? key position with
  | some table => (.ok (), store.set name table)
  | none => (.error (.unexpectedState s!"key {key} already present in {name}"), store)

def scan [Scalar α] (store : MemoryStore α) (name : String) (query : Query α) :
    List (Position α) :=
  match store.table? name with
  | none => []
  | some table => table.scan query

end MemoryStore

def memoryBackend : Backend (MemoryStore Float) where
  name := "memory"
  openSession store := (.ok (), store)
  reset table store := (.ok (), store.reset table)
  insert table key position store :=
    let (result, after) := store.insert table key position
    (orStop result, after)
  scan table query store := (.ok (store.scan table query), store)

end SpatialWorkload
