/-!
# The insert cursor

Hands out the indices of the insert range.  The cursor is one word that every call counts
up, also past the end of the range, and that wraps at `2 ^ 64`.
-/

namespace SpatialWorkload

structure Cursor where
  next : UInt64
  finish : UInt64
  deriving DecidableEq, Repr

namespace Cursor

/-- The end of a range that would run past the last word is the last word. -/
def ofRange (start count : UInt64) : Cursor :=
  ⟨start, UInt64.ofNat (Nat.min (start.toNat + count.toNat) (UInt64.size - 1))⟩

def take (cursor : Cursor) : Option UInt64 × Cursor :=
  (if cursor.next < cursor.finish then some cursor.next else none,
    { cursor with next := cursor.next + 1 })

end Cursor

end SpatialWorkload
