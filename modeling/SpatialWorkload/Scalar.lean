/-!
# Scalars

The numbers that coordinates, distances and rates are made of.  Geometry is written once
over this class: doubles run it, and statements about exact arithmetic read the same
definitions over the real numbers.
-/

namespace SpatialWorkload

class Scalar (α : Type) extends Add α, Sub α, Mul α, Div α, Neg α where
  /-- The whole number, rounded where it has to be. -/
  ofNat : Nat → α
  /-- The number `digits / 10 ^ places`. -/
  decimal (digits places : Nat) : α
  pi : α
  abs : α → α
  sqrt : α → α
  sin : α → α
  cos : α → α
  arcsin : α → α
  exp : α → α
  ln : α → α
  floor : α → α
  /-- The whole part of a number that is not negative, at most the largest 64-bit word. -/
  truncate : α → Nat
  lt : α → α → Bool
  le : α → α → Bool
  /-- A total order by which distances are ranked. -/
  ranked : α → α → Bool

namespace Scalar

variable {α : Type} [Scalar α]

def zero : α := ofNat 0

def one : α := ofNat 1

def two : α := ofNat 2

/-- Equal as numbers: neither is a number that cannot be compared. -/
def same (a b : α) : Bool := le a b && le b a

def isNumber (a : α) : Bool := le a a

/-- The larger of two values, of which one that is no number does not count. -/
protected def max (a b : α) : α :=
  if lt a b then b else if isNumber a then a else b

/-- The smaller of two values, of which one that is no number does not count. -/
protected def min (a b : α) : α :=
  if lt b a then b else if isNumber a then a else b

/-- Brings a value between two bounds; what is no number stays as it is. -/
def clamp (a low high : α) : α :=
  if lt a low then low else if lt high a then high else a

def square (a : α) : α := a * a

def toRadians (degrees : α) : α := degrees * (pi / ofNat 180)

end Scalar

end SpatialWorkload
