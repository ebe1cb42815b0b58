import SpatialWorkload.Store.Basic

/-!
# Tallies

How many calls of each operation succeeded and failed, and how often a table was reset, an
insert retried and a record given up.  The counters are 64-bit words.
-/

namespace SpatialWorkload

structure Count where
  success : UInt64
  failure : UInt64
  deriving DecidableEq, Repr

namespace Count

def zero : Count := ⟨0, 0⟩

def record (count : Count) (status : Status) : Count :=
  if status.isOk then { count with success := count.success + 1 }
  else { count with failure := count.failure + 1 }

def total (count : Count) : UInt64 :=
  count.success + count.failure

def add (first second : Count) : Count :=
  ⟨first.success + second.success, first.failure + second.failure⟩

end Count

structure Tally where
  insert : Count
  knn : Count
  distance : Count
  polygon : Count
  resets : UInt64
  insertRetries : UInt64
  abandonedInserts : UInt64
  deriving DecidableEq, Repr

namespace Tally

def zero : Tally := ⟨.zero, .zero, .zero, .zero, 0, 0, 0⟩

def get (tally : Tally) : Operation → Count
  | .insert => tally.insert
  | .scan .knn => tally.knn
  | .scan .distance => tally.distance
  | .scan .polygon => tally.polygon

def record (tally : Tally) (operation : Operation) (status : Status) : Tally :=
  match operation with
  | .insert => { tally with insert := tally.insert.record status }
  | .scan .knn => { tally with knn := tally.knn.record status }
  | .scan .distance => { tally with distance := tally.distance.record status }
  | .scan .polygon => { tally with polygon := tally.polygon.record status }

def recordReset (tally : Tally) : Tally :=
  { tally with resets := tally.resets + 1 }

def recordRetry (tally : Tally) : Tally :=
  { tally with insertRetries := tally.insertRetries + 1 }

def recordAbandoned (tally : Tally) : Tally :=
  { tally with abandonedInserts := tally.abandonedInserts + 1 }

def scans (tally : Tally) : Count :=
  (tally.knn.add tally.distance).add tally.polygon

/-- A recorded call changes the count of its operation and no other. -/
theorem get_record (tally : Tally) (operation other : Operation) (status : Status) :
    (tally.record operation status).get other =
      if other = operation then (tally.get operation).record status else tally.get other := by
  cases operation with
  | insert =>
      cases other with
      | insert => rfl
      | scan otherKind => cases otherKind <;> rfl
  | scan kind =>
      cases other with
      | insert => cases kind <;> rfl
      | scan otherKind => cases kind <;> cases otherKind <;> rfl

end Tally

end SpatialWorkload
