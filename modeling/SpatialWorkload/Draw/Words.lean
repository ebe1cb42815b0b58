/-!
# Random words

Every random choice reads 64-bit words off one stream, from the position where the choice
before it stopped.  The stream is a function, so a statement over all streams is a
statement over all sequences of words.
-/

namespace SpatialWorkload

structure Words where
  word : Nat → UInt64
  /-- How many words have been read. -/
  position : Nat

namespace Words

def next (words : Words) : UInt64 × Words :=
  (words.word words.position, { words with position := words.position + 1 })

def splitmixStep : UInt64 := 0x9E3779B97F4A7C15

/-- The finalizer of the splitmix64 generator. -/
def splitmixMix (state : UInt64) : UInt64 :=
  let first := (state ^^^ (state >>> 30)) * 0xBF58476D1CE4E5B9
  let second := (first ^^^ (first >>> 27)) * 0x94D049BB133111EB
  second ^^^ (second >>> 31)

/-- The word at an index of the splitmix64 sequence of a seed. -/
def splitmix (seed : UInt64) (index : Nat) : UInt64 :=
  splitmixMix (seed + UInt64.ofNat (index + 1) * splitmixStep)

/-- Given words first, then the splitmix64 sequence of a seed. -/
def ofArray (given : Array UInt64) (seed : UInt64) : Words where
  word index := given.getD index (splitmix seed (index - given.size))
  position := 0

def ofSeed (seed : UInt64) : Words :=
  ofArray #[] seed

/-- A number in `[0, 1)` with 52 binary places, as `(word / 2 ^ 12) / 2 ^ 52`. -/
def coarseFraction (words : Words) : Float × Words :=
  let (word, rest) := words.next
  ((word >>> 12).toFloat / Float.ofNat 4503599627370496, rest)

/-- A number in `[0, 1)` with 53 binary places, as `(word / 2 ^ 11) / 2 ^ 53`. -/
def fineFraction (words : Words) : Float × Words :=
  let (word, rest) := words.next
  ((word >>> 11).toFloat / Float.ofNat 9007199254740992, rest)

/--
Rejections after which a draw gives up and answers zero.  A draw without patience goes on, and
on a stream that is rejected for ever it has no answer; no real stream comes near.
-/
def patience : Nat := 1048576

end Words

end SpatialWorkload
