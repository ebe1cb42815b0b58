import SpatialWorkload.Decimal.Significant

/-!
# Durations

A length of time in whole nanoseconds, less than `2 ^ 64` seconds.
-/

namespace SpatialWorkload

structure Duration where
  nanoseconds : Nat
  deriving DecidableEq, Repr

namespace Duration

def nanosPerSecond : Nat := 1000000000

def wholeSeconds (duration : Duration) : Nat :=
  duration.nanoseconds / nanosPerSecond

def subsecondNanos (duration : Duration) : Nat :=
  duration.nanoseconds % nanosPerSecond

/--
The nearest nanosecond to a number of seconds, a half to the even one.  Negative numbers,
numbers from `2 ^ 64` on and what is no number have no duration.
-/
def ofSeconds? (seconds : Float) : Option Duration :=
  match Decimal.Binary.ofFloat seconds with
  | .finite negative mantissa exponent =>
      let value := Decimal.Ratio.ofBinary mantissa exponent
      if negative && mantissa != 0 then none
      else if value.denominator * UInt64.size ≤ value.numerator then none
      else
        some ⟨Decimal.roundHalfEven (value.numerator * nanosPerSecond) value.denominator⟩
  | _ => none

/-- The duration as a double: its whole seconds and the rest are rounded apart. -/
def toSeconds (duration : Duration) : Float :=
  Float.ofNat duration.wholeSeconds +
    Float.ofNat duration.subsecondNanos / Float.ofNat nanosPerSecond

def scale? (duration : Duration) (factor : Float) : Option Duration :=
  ofSeconds? (factor * duration.toSeconds)

end Duration

end SpatialWorkload
