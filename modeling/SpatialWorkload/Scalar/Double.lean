import SpatialWorkload.Scalar
import SpatialWorkload.Scalar.Elementary

/-!
# Doubles as scalars
-/

namespace SpatialWorkload

instance : Scalar Float where
  ofNat := Float.ofNat
  decimal digits places := Float.ofScientific digits true places
  pi := Float.ofBits 0x400921FB54442D18
  abs := Float.abs
  sqrt := Float.sqrt
  sin := Float.sin
  cos := Float.cos
  arcsin := Float.asin
  exp := Elementary.exp
  ln := Elementary.ln
  floor := Elementary.floor
  truncate number := number.toUInt64.toNat
  lt a b := decide (a < b)
  le a b := decide (a ≤ b)
  ranked a b := decide (Elementary.rank a ≤ Elementary.rank b)

end SpatialWorkload
