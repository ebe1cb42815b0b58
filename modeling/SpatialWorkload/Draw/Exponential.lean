import SpatialWorkload.Draw.Words
import SpatialWorkload.Draw.ZigguratTable
import SpatialWorkload.Scalar.Double

/-!
# Exponential numbers

Standard exponential numbers by the ziggurat, and whole numbers by the inverse of the
distribution function where the law is cut off at a largest value.
-/

namespace SpatialWorkload

namespace Words

open Ziggurat (ends heights tailStart)

/-- The abscissa factor of a word: 52 binary places, moved into the open unit interval. -/
def layerFraction (word : UInt64) : Float :=
  Float.ofBits ((0x3FF : UInt64) <<< 52 ||| word >>> 12) - Float.ofBits 0x3FEFFFFFFFFFFFFF

/--
The low byte of a word picks a layer, its other bits a point of the layer.  Points above the
curve are drawn again, and where patience ends before one below it the answer is zero.
-/
def exponentialWithin : Nat → Words → Float × Words
  | 0, words => (0, words)
  | patience + 1, words =>
      let (word, rest) := words.next
      let layer := (word &&& 255).toNat
      let point := layerFraction word * ends.getD layer 0
      if point < ends.getD (layer + 1) 0 then (point, rest)
      else
        let (fraction, rest) := rest.fineFraction
        if layer = 0 then (tailStart - Elementary.ln fraction, rest)
        else
          let low := heights.getD (layer + 1) 0
          let height := low + (heights.getD layer 0 - low) * fraction
          if height < Elementary.exp (-point) then (point, rest)
          else exponentialWithin patience rest

def exponential (words : Words) : Float × Words :=
  exponentialWithin patience words

end Words

/-- The probability that an exponential number of a rate lies below `greatest + 1`. -/
def truncatedMass {α : Type} [Scalar α] (rate : α) (greatest : Nat) : α :=
  Scalar.one - Scalar.exp (-rate * (Scalar.ofNat greatest + Scalar.one))

/--
The whole part of an exponential number of a rate, given that it lies below
`greatest + 1`, at the point `draw` of the unit interval.
-/
def truncatedExponential {α : Type} [Scalar α] (rate : α) (greatest : Nat) (draw : α) : Nat :=
  let number := -(Scalar.ln (Scalar.one - draw * truncatedMass rate greatest)) / rate
  Nat.min (Scalar.truncate (Scalar.floor number)) greatest

end SpatialWorkload
