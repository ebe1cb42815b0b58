import SpatialWorkload.Draw.Exponential
import SpatialWorkload.Draw.Uniform

/-!
# Keys of reference records

The record about which a scan is issued is drawn among those that are acknowledged, either
uniformly or with a preference for the newest ones.  Nothing is drawn before the first
record of the range is acknowledged.
-/

namespace SpatialWorkload

inductive KeyChooser where
  | uniform (start finish : UInt64)
  /-- So many records back from the newest as an exponential number of the rate says. -/
  | exponential (start : UInt64) (rate : Float)

namespace KeyChooser

/-- The rate at which the percentile of an exponential number is `count * fraction`. -/
def rateOf (percentile fraction : Float) (count : UInt64) : Float :=
  -(Elementary.ln (1 - percentile / 100)) / (count.toFloat * fraction)

def ofLaw (law : KeyLaw) (start count : UInt64) : Except ConfigError KeyChooser :=
  if count = 0 then .error .noKeys
  else if UInt64.size ≤ start.toNat + (count.toNat - 1) then .error .insertEndOverflows
  else
    match law with
    | .uniform => .ok (.uniform start (start + (count - 1)))
    | .exponential percentile fraction =>
        let rate := rateOf percentile fraction count
        if 0 ≤ rate then .ok (.exponential start rate) else .error .invalidRate

def start : KeyChooser → UInt64
  | uniform start _ => start
  | exponential start _ => start

/-- Draws after which the cut-off law is sampled directly. -/
def rejectionDraws : Nat := 64

/-- Exponential numbers that reach past the first record are drawn again. -/
def backFrom (rate : Float) (limit span : UInt64) : Nat → Words → UInt64 × Words
  | 0, words =>
      let (fraction, rest) := words.coarseFraction
      (limit - UInt64.ofNat (truncatedExponential rate span.toNat fraction), rest)
  | draws + 1, words =>
      let (number, rest) := words.exponential
      let offset := Elementary.floor (number * (1 / rate))
      if offset ≤ span.toFloat then (limit - offset.toUInt64, rest)
      else backFrom rate limit span draws rest

/-- A key from the first record up to the newest acknowledged one. -/
def next (chooser : KeyChooser) (acknowledged : Option UInt64) (words : Words) :
    Option UInt64 × Words :=
  match acknowledged with
  | none => (none, words)
  | some limit =>
      if limit < chooser.start then (none, words)
      else
        match chooser with
        | uniform start finish =>
            let (key, rest) := words.inRange Words.shiftedZone ⟨start, min limit finish⟩
            (some key, rest)
        | exponential start rate =>
            let (key, rest) := backFrom rate limit (limit - start) rejectionDraws words
            (some key, rest)

end KeyChooser

end SpatialWorkload
