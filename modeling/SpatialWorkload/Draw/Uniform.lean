import SpatialWorkload.Config
import SpatialWorkload.Draw.Words

/-!
# Uniform whole numbers

A word times the size of the range has its answer in the upper half of the product.  The
lower half decides whether the word is accepted: words past the zone would favour some
answers and are drawn again.
-/

namespace SpatialWorkload

namespace Words

/--
The offset below `size` of the first word whose lower half lies in the zone, or zero where
patience ends before it.
-/
def offsetBelow (size zone : Nat) : Nat → Words → Nat × Words
  | 0, words => (0, words)
  | patience + 1, words =>
      let (word, rest) := words.next
      let product := word.toNat * size
      if product % UInt64.size ≤ zone then (product / UInt64.size, rest)
      else offsetBelow size zone patience rest

/-- How many numbers an inclusive range holds; all `2 ^ 64` words are written as zero. -/
def sizeOfRange (range : Range) : Nat :=
  (range.max - range.min + 1).toNat

/-- A number of the range by the words that `zone` accepts for its size. -/
def inRange (zone : Nat → Nat) (range : Range) (words : Words) : UInt64 × Words :=
  let size := sizeOfRange range
  if size = 0 then words.next
  else
    let (offset, rest) := offsetBelow size (zone size) patience words
    (range.min + UInt64.ofNat offset, rest)

def exactZone (size : Nat) : Nat :=
  UInt64.size - 1 - (UInt64.size - size) % size

/-- The size shifted up to the full width, less one: cheaper, with more rejections. -/
def shiftedZone (size : Nat) : Nat :=
  size * Nat.pow 2 (63 - size.log2) - 1

end Words

/-- A range that draws can be taken from. -/
structure UniformRange where
  range : Range
  ordered : range.min ≤ range.max

namespace UniformRange

def ofRange? (range : Range) : Option UniformRange :=
  if ordered : range.min ≤ range.max then some ⟨range, ordered⟩ else none

def sample (uniform : UniformRange) (words : Words) : UInt64 × Words :=
  words.inRange Words.exactZone uniform.range

end UniformRange

end SpatialWorkload
