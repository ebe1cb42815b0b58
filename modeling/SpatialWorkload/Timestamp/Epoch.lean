import SpatialWorkload.Timestamp

/-!
# Milliseconds since 1970

Days are counted in eras of 400 years that begin in March, so that a leap day is the last
day of its year.  A leap second counts as the thousand milliseconds after second 59, that
is, as the first second of the next minute.
-/

namespace SpatialWorkload.Timestamp

/-- Days before the month that stands `index` months after March. -/
def daysBeforeMonth (index : Int) : Int :=
  (153 * index + 2) / 5

/-- The number of days from the first of January 1970. -/
def dayNumber (year : Int) (month day : Nat) : Int :=
  let marchYear := if month ≤ 2 then year - 1 else year
  let era := marchYear / 400
  let yearOfEra := marchYear % 400
  let dayOfYear := daysBeforeMonth ((month + 9) % 12 : Nat) + day - 1
  era * 146097 + (yearOfEra * 365 + yearOfEra / 4 - yearOfEra / 100 + dayOfYear) - 719468

def dateOfDayNumber (number : Int) : Int × Nat × Nat :=
  let shifted := number + 719468
  let era := shifted / 146097
  let dayOfEra := shifted % 146097
  let yearOfEra :=
    (dayOfEra - dayOfEra / 1460 + dayOfEra / 36524 - dayOfEra / 146096) / 365
  let dayOfYear := dayOfEra - (365 * yearOfEra + yearOfEra / 4 - yearOfEra / 100)
  let index := (5 * dayOfYear + 2) / 153
  let day := dayOfYear - daysBeforeMonth index + 1
  let month := if index < 10 then index + 3 else index - 9
  let year := era * 400 + yearOfEra + if month ≤ 2 then 1 else 0
  (year, month.toNat, day.toNat)

def toMillis (stamp : Timestamp) : Int :=
  let fields := stamp.fields
  let seconds := fields.hour * 3600 + fields.minute * 60 + fields.second
  (dayNumber fields.year fields.month fields.day * 86400 + seconds) * 1000 +
    (fields.nanosecond / 1000000 : Nat)

/-- Refuses a moment whose year the calendar does not reach. -/
def ofMillis? (millis : Int) : Option Timestamp :=
  let (year, month, day) := dateOfDayNumber (millis / 86400000)
  let ofDay := (millis % 86400000).toNat
  ofFields?
    { year, month, day
      hour := ofDay / 3600000
      minute := ofDay / 60000 % 60
      second := ofDay / 1000 % 60
      nanosecond := ofDay % 1000 * 1000000 }

end SpatialWorkload.Timestamp
