import SpatialWorkload.Config
import SpatialWorkload.Draw.Words
import SpatialWorkload.Store.Basic

/-!
# Weighted choice

Picks one of the enabled scans with a probability proportional to its weight.
-/

namespace SpatialWorkload

def previousDouble (number : Float) : Float :=
  Float.ofBits (number.toBits - 1)

/-- The largest fraction that a word gives. -/
def largestFraction : Float := Float.ofNat 4503599627370495 / Float.ofNat 4503599627370496

/-- Lowers a scale until the largest fraction of it no longer passes a bound. -/
def fitScale (passes : Float → Bool) : Nat → Float → Float
  | 0, scale => scale
  | steps + 1, scale =>
      if passes (scale * largestFraction) then fitScale passes steps (previousDouble scale)
      else scale

/-- Sums of the weights up to each one but the last. -/
def cumulative (sum : Float) : List Float → List Float
  | [] => []
  | [_] => []
  | weight :: rest => (sum + weight) :: cumulative (sum + weight) rest

structure ScanChooser where
  kinds : List ScanKind
  bounds : List Float
  scale : Float

namespace ScanChooser

def enabled (mix : ScanMix) : List (ScanKind × Float) :=
  [(ScanKind.knn, mix.knn), (.distance, mix.distance), (.polygon, mix.polygon)].filter
    fun entry => decide (0 < entry.2)

/-- There is no choice where the sum of the weights is infinite. -/
def ofMix? (mix : ScanMix) : Option ScanChooser :=
  let entries := enabled mix
  let weights := entries.map Prod.snd
  let total := weights.foldl (· + ·) 0
  if total.isFinite then
    some ⟨entries.map Prod.fst, cumulative 0 weights,
      fitScale (fun reached => decide (total ≤ reached)) 64 total⟩
  else none

def isEmpty (chooser : ScanChooser) : Bool :=
  chooser.kinds.isEmpty

/-- One word per choice, also where only one scan is enabled, none where none is. -/
def choose (chooser : ScanChooser) (words : Words) : Option ScanKind × Words :=
  if chooser.isEmpty then (none, words)
  else
    let (fraction, rest) := words.coarseFraction
    let point := fraction * chooser.scale
    let index := (chooser.bounds.filter fun bound => decide (bound ≤ point)).length
    (chooser.kinds[index]?, rest)

end ScanChooser

def Words.factorBetween (low high : Float) (words : Words) : Float × Words :=
  let scale := fitScale (fun reached => decide (high < reached + low)) 64
    ((high - low) / largestFraction)
  let (fraction, rest) := words.coarseFraction
  (fraction * scale + low, rest)

end SpatialWorkload
