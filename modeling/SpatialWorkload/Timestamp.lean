/-!
# Timestamps

A date of the proleptic Gregorian calendar with a time of day and no zone.  Second 60 is a
leap second; it may stand in any minute and is kept.
-/

namespace SpatialWorkload

def isLeapYear (year : Int) : Bool :=
  year % 4 == 0 && (year % 100 != 0 || year % 400 == 0)

def daysInMonth (year : Int) (month : Nat) : Nat :=
  match month with
  | 2 => if isLeapYear year then 29 else 28
  | 4 | 6 | 9 | 11 => 30
  | _ => 31

theorem daysInMonth_le (year : Int) (month : Nat) : daysInMonth year month ≤ 31 := by
  unfold daysInMonth
  split
  · split <;> decide
  all_goals decide

/-- The parts of a timestamp as they are read, before anything relates them. -/
structure TimestampFields where
  year : Int
  month : Nat
  day : Nat
  hour : Nat
  minute : Nat
  second : Nat
  nanosecond : Nat
  deriving DecidableEq, Repr

namespace TimestampFields

/-- The parts name a moment: a day of its month, in a year the calendar reaches. -/
def Names (fields : TimestampFields) : Prop :=
  (-262143 ≤ fields.year ∧ fields.year ≤ 262142) ∧
    (1 ≤ fields.month ∧ fields.month ≤ 12) ∧
    (1 ≤ fields.day ∧ fields.day ≤ daysInMonth fields.year fields.month) ∧
    fields.hour ≤ 23 ∧ fields.minute ≤ 59 ∧ fields.second ≤ 60 ∧
    fields.nanosecond < 1000000000

instance (fields : TimestampFields) : Decidable fields.Names :=
  inferInstanceAs (Decidable (_ ∧ _))

end TimestampFields

structure Timestamp where
  fields : TimestampFields
  names : fields.Names

namespace Timestamp

instance : DecidableEq Timestamp := fun first second =>
  if same : first.fields = second.fields then
    isTrue (by cases first; cases second; cases same; rfl)
  else isFalse (fun equal => same (congrArg fields equal))

def ofFields? (fields : TimestampFields) : Option Timestamp :=
  if names : fields.Names then some ⟨fields, names⟩ else none

theorem ofFields?_fields (stamp : Timestamp) : ofFields? stamp.fields = some stamp := by
  simp [ofFields?, stamp.names]

def epoch : Timestamp :=
  ⟨⟨1970, 1, 1, 0, 0, 0, 0⟩, by decide⟩

instance : Inhabited Timestamp := ⟨epoch⟩

end Timestamp

end SpatialWorkload
