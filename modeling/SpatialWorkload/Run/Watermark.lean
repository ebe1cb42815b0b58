/-!
# The acknowledged watermark

Inserts finish out of order.  An index counts as acknowledged once every index before it
has been acknowledged too; until then it waits in ascending order.
-/

namespace SpatialWorkload

structure Watermark where
  start : UInt64
  /-- The first index that the unbroken run does not cover. -/
  frontier : UInt64
  /-- Acknowledged indices above the frontier, ascending. -/
  waiting : List UInt64
  deriving DecidableEq, Repr

namespace Watermark

def ofStart (start : UInt64) : Watermark := ⟨start, start, []⟩

/-- The whole range was acknowledged before. -/
def preloaded (start count : UInt64) : Watermark := ⟨start, start + count, []⟩

def addWaiting (index : UInt64) : List UInt64 → List UInt64
  | [] => [index]
  | first :: rest =>
      if index < first then index :: first :: rest
      else if index = first then first :: rest
      else first :: addWaiting index rest

/-- Moves the frontier over every index that waits directly at it. -/
def drain (frontier : UInt64) : List UInt64 → UInt64 × List UInt64
  | [] => (frontier, [])
  | first :: rest =>
      if first = frontier then drain (frontier + 1) rest else (frontier, first :: rest)

def acknowledge (mark : Watermark) (index : UInt64) : Watermark :=
  if index < mark.frontier then mark
  else if mark.frontier < index then
    { mark with waiting := addWaiting index mark.waiting }
  else
    let (frontier, waiting) := drain (mark.frontier + 1) mark.waiting
    { mark with frontier, waiting }

/-- The last index of the unbroken run, if the run has begun. -/
def last? (mark : Watermark) : Option UInt64 :=
  if mark.start < mark.frontier then some (mark.frontier - 1) else none

/-- How many acknowledged indices wait for an earlier one. -/
def pending (mark : Watermark) : Nat :=
  mark.waiting.length

end Watermark

end SpatialWorkload
