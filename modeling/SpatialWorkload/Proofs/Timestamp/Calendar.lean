import SpatialWorkload.Timestamp.Epoch

/-!
# Days of the calendar

Every date is found again from its number, and the date after it has the next number.  So the
milliseconds of a timestamp tell of its date and time of day up to the millisecond; those of a
leap second tell of the minute after it.
-/

namespace SpatialWorkload

theorem isLeapYear_iff (year : Int) :
    isLeapYear year = true ↔ year % 4 = 0 ∧ (year % 100 ≠ 0 ∨ year % 400 = 0) := by
  simp [isLeapYear]

theorem daysInMonth_two (year : Int) :
    daysInMonth year 2 = 28 ∧ isLeapYear year = false ∨
      daysInMonth year 2 = 29 ∧ isLeapYear year = true := by
  unfold daysInMonth
  cases isLeapYear year
  · exact Or.inl ⟨rfl, rfl⟩
  · exact Or.inr ⟨rfl, rfl⟩

namespace Timestamp

def marchYear (year : Int) (month : Nat) : Int :=
  if month ≤ 2 then year - 1 else year

def marchIndex (month : Nat) : Int :=
  ((month + 9) % 12 : Nat)

/-- How many days after the first of March a day is. -/
def dayOfYear (month day : Nat) : Int :=
  daysBeforeMonth (marchIndex month) + day - 1

def daysBeforeYear (yearOfEra : Int) : Int :=
  yearOfEra * 365 + yearOfEra / 4 - yearOfEra / 100

section Days

variable {year : Int} {month day : Nat}

theorem dayNumber_eq (year : Int) (month day : Nat) :
    dayNumber year month day =
      marchYear year month / 400 * 146097 +
        (daysBeforeYear (marchYear year month % 400) + dayOfYear month day) - 719468 :=
  rfl

/-- But for February, a month ends where the next begins. -/
theorem daysBeforeMonth_succ (year : Int) (months : 1 ≤ month ∧ month ≤ 12)
    (notFebruary : month ≠ 2) :
    daysBeforeMonth (marchIndex month + 1) =
      daysBeforeMonth (marchIndex month) + daysInMonth year month := by
  have each : month = 1 ∨ month = 3 ∨ month = 4 ∨ month = 5 ∨ month = 6 ∨ month = 7 ∨
      month = 8 ∨ month = 9 ∨ month = 10 ∨ month = 11 ∨ month = 12 := by omega
  rcases each with rfl | rfl | rfl | rfl | rfl | rfl | rfl | rfl | rfl | rfl | rfl <;> rfl

/-- A day of a month is before the next month. -/
theorem dayOfYear_lt (within : day ≤ daysInMonth year month)
    (months : 1 ≤ month ∧ month ≤ 12) :
    dayOfYear month day < daysBeforeMonth (marchIndex month + 1) := by
  unfold dayOfYear
  by_cases february : month = 2
  · subst february
    have before : daysBeforeMonth (marchIndex 2) = 337 := by decide
    have after : daysBeforeMonth (marchIndex 2 + 1) = 367 := by decide
    have short := daysInMonth_two year
    omega
  · have long := daysBeforeMonth_succ year months february
    omega

/-- The last day that a year can have is the end of a February in a leap year. -/
theorem dayOfYear_le (within : day ≤ daysInMonth year month)
    (months : 1 ≤ month ∧ month ≤ 12) :
    dayOfYear month day ≤ 365 ∧
      (dayOfYear month day = 365 → month = 2 ∧ isLeapYear year = true) := by
  by_cases february : month = 2
  · subst february
    have before : daysBeforeMonth (marchIndex 2) = 337 := by decide
    unfold dayOfYear
    rcases daysInMonth_two year with ⟨length, -⟩ | ⟨length, leap⟩
    · omega
    · exact ⟨by omega, fun _ => ⟨rfl, leap⟩⟩
  · have before := dayOfYear_lt within months
    have index : marchIndex month ≤ 10 := by
      unfold marchIndex
      omega
    unfold daysBeforeMonth at before
    omega

/-- The month of a day of the year. -/
theorem index_of_day {index dayOfYear : Int} (low : daysBeforeMonth index ≤ dayOfYear)
    (high : dayOfYear < daysBeforeMonth (index + 1)) : (5 * dayOfYear + 2) / 153 = index := by
  unfold daysBeforeMonth at low high
  omega

/--
The year of a day of the era.  Each year of 365 days is made up for its leap days, and the
last day of a leap year is still of its year.
-/
theorem year_of_day {yearOfEra dayOfYear : Int} (years : 0 ≤ yearOfEra ∧ yearOfEra ≤ 399)
    (days : 0 ≤ dayOfYear ∧ dayOfYear ≤ 365)
    (long : dayOfYear = 365 → isLeapYear (yearOfEra + 1) = true) :
    let dayOfEra := daysBeforeYear yearOfEra + dayOfYear
    (dayOfEra - dayOfEra / 1460 + dayOfEra / 36524 - dayOfEra / 146096) / 365 = yearOfEra := by
  intro dayOfEra
  rw [isLeapYear_iff] at long
  -- An era has four centuries, a century 25 leap cycles of four years.
  obtain ⟨century, cycle, rest, parts, hundreds, fours, ones⟩ :
      ∃ century cycle rest, yearOfEra = 100 * century + 4 * cycle + rest ∧
        (0 ≤ century ∧ century ≤ 3) ∧ (0 ≤ cycle ∧ cycle ≤ 24) ∧ 0 ≤ rest ∧ rest ≤ 3 :=
    ⟨yearOfEra / 100, yearOfEra % 100 / 4, yearOfEra % 4, by omega⟩
  have counted : dayOfEra = 36524 * century + 1461 * cycle + 365 * rest + dayOfYear := by
    unfold dayOfEra daysBeforeYear
    omega
  have leap : dayOfYear = 365 → rest = 3 ∧ (cycle = 24 → century = 3) := by omega
  have last : dayOfEra / 146096 = 0 ∧ dayOfEra / 36524 = century ∨ dayOfEra = 146096 := by
    omega
  rcases last with ⟨before, centuries⟩ | last
  · have cycles : dayOfEra / 1460 = 25 * century + cycle ∧ dayOfYear ≤ 364 ∨
        dayOfEra / 1460 = 25 * century + cycle + 1 ∧ 1 ≤ dayOfYear := by omega
    omega
  · omega

theorem dayOfYear_nonneg (first : 1 ≤ day) : 0 ≤ dayOfYear month day := by
  unfold dayOfYear marchIndex daysBeforeMonth
  omega

/-- A number that counts the days of eras, years and months is taken apart into them. -/
theorem dateOfDayNumber_eq {number era yearOfEra dayOfYear index : Int}
    (counted : number + 719468 = era * 146097 + (daysBeforeYear yearOfEra + dayOfYear))
    (years : 0 ≤ yearOfEra ∧ yearOfEra ≤ 399) (days : 0 ≤ dayOfYear ∧ dayOfYear ≤ 365)
    (long : dayOfYear = 365 → isLeapYear (yearOfEra + 1) = true)
    (months : daysBeforeMonth index ≤ dayOfYear ∧ dayOfYear < daysBeforeMonth (index + 1)) :
    dateOfDayNumber number =
      let month := if index < 10 then index + 3 else index - 9
      (era * 400 + yearOfEra + if month ≤ 2 then 1 else 0, month.toNat,
        (dayOfYear - daysBeforeMonth index + 1).toNat) := by
  have yearOfDay := year_of_day years days long
  have rest : daysBeforeYear yearOfEra + dayOfYear -
      (365 * yearOfEra + yearOfEra / 4 - yearOfEra / 100) = dayOfYear := by
    unfold daysBeforeYear
    omega
  have inEra : 0 ≤ daysBeforeYear yearOfEra + dayOfYear ∧
      daysBeforeYear yearOfEra + dayOfYear < 146097 := by
    unfold daysBeforeYear
    omega
  generalize daysBeforeYear yearOfEra + dayOfYear = dayOfEra at counted yearOfDay rest inEra
  have theEra : (number + 719468) / 146097 = era := by omega
  have ofEra : (number + 719468) % 146097 = dayOfEra := by omega
  unfold dateOfDayNumber
  dsimp only
  rw [theEra, ofEra, yearOfDay, rest, index_of_day months.1 months.2]

/-- Every date has a number of its own, from which it is found again. -/
theorem dateOfDayNumber_dayNumber (months : 1 ≤ month ∧ month ≤ 12)
    (days : 1 ≤ day ∧ day ≤ daysInMonth year month) :
    dateOfDayNumber (dayNumber year month day) = (year, month, day) := by
  obtain ⟨within, long⟩ := dayOfYear_le days.2 months
  have leap : dayOfYear month day = 365 →
      isLeapYear (marchYear year month % 400 + 1) = true := by
    intro last
    obtain ⟨february, leap⟩ := long last
    have march : marchYear year month = year - 1 := if_pos (by omega)
    rw [isLeapYear_iff] at leap ⊢
    omega
  have fromMonth : daysBeforeMonth (marchIndex month) ≤ dayOfYear month day := by
    unfold dayOfYear
    omega
  have counted : dayNumber year month day + 719468 = marchYear year month / 400 * 146097 +
      (daysBeforeYear (marchYear year month % 400) + dayOfYear month day) := by
    rw [dayNumber_eq]
    omega
  have theMonth : (if marchIndex month < 10 then marchIndex month + 3 else marchIndex month - 9) =
      (month : Int) := by
    unfold marchIndex
    split <;> omega
  have theDay : dayOfYear month day - daysBeforeMonth (marchIndex month) + 1 = (day : Int) := by
    unfold dayOfYear
    omega
  have theYear : marchYear year month / 400 * 400 + marchYear year month % 400 +
      (if (month : Int) ≤ 2 then 1 else 0) = year := by
    unfold marchYear
    split <;> omega
  rw [dateOfDayNumber_eq counted (by omega) ⟨dayOfYear_nonneg days.1, within⟩ leap
    ⟨fromMonth, dayOfYear_lt days.2 months⟩, theMonth, theDay]
  dsimp only
  rw [theYear, Int.toNat_natCast, Int.toNat_natCast]

theorem dayNumber_succ (year : Int) (month day : Nat) :
    dayNumber year month (day + 1) = dayNumber year month day + 1 := by
  rw [dayNumber_eq, dayNumber_eq]
  unfold dayOfYear
  omega

/-- But for February, the last day of a month is followed by the first of the next. -/
theorem dayNumber_of_marchIndex_succ {nextYear : Int} {nextMonth : Nat}
    (months : 1 ≤ month ∧ month ≤ 12) (notFebruary : month ≠ 2)
    (sameYear : marchYear nextYear nextMonth = marchYear year month)
    (next : marchIndex nextMonth = marchIndex month + 1) :
    dayNumber nextYear nextMonth 1 = dayNumber year month (daysInMonth year month) + 1 := by
  have length := daysBeforeMonth_succ year months notFebruary
  rw [dayNumber_eq, dayNumber_eq, sameYear]
  unfold dayOfYear
  rw [next, length]
  omega

/-- Counted from the year zero, there are no eras. -/
theorem daysBeforeYear_era (year : Int) :
    year / 400 * 146097 + daysBeforeYear (year % 400) =
      year * 365 + year / 4 - year / 100 + year / 400 := by
  unfold daysBeforeYear
  omega

/-- A year that begins with March is one day longer where its February is. -/
theorem dayNumber_first_march (year : Int) :
    dayNumber year 3 1 = dayNumber year 2 (daysInMonth year 2) + 1 := by
  have before : marchYear year 2 = year - 1 := rfl
  have after : marchYear year 3 = year := rfl
  have january : dayOfYear 2 (daysInMonth year 2) = 337 + daysInMonth year 2 - 1 := rfl
  have march : dayOfYear 3 1 = 0 := rfl
  have length := daysInMonth_two year
  rw [← Bool.not_eq_true, isLeapYear_iff] at length
  rw [dayNumber_eq, dayNumber_eq, ← Int.add_assoc, ← Int.add_assoc, daysBeforeYear_era,
    daysBeforeYear_era, before, after, january, march]
  omega

end Days

end Timestamp

namespace TimestampFields

def nextDay (fields : TimestampFields) : TimestampFields :=
  if fields.day < daysInMonth fields.year fields.month then
    { fields with day := fields.day + 1 }
  else if fields.month < 12 then { fields with month := fields.month + 1, day := 1 }
  else { fields with year := fields.year + 1, month := 1, day := 1 }

def nextMinute (fields : TimestampFields) : TimestampFields :=
  if fields.minute < 59 then { fields with minute := fields.minute + 1, second := 0 }
  else if fields.hour < 23 then
    { fields with hour := fields.hour + 1, minute := 0, second := 0 }
  else nextDay { fields with hour := 0, minute := 0, second := 0 }

def IsDate (fields : TimestampFields) : Prop :=
  (1 ≤ fields.month ∧ fields.month ≤ 12) ∧
    (1 ≤ fields.day ∧ fields.day ≤ daysInMonth fields.year fields.month)

/-- A time of day that is in no leap second. -/
def IsOrdinary (fields : TimestampFields) : Prop :=
  fields.hour ≤ 23 ∧ fields.minute ≤ 59 ∧ fields.second ≤ 59 ∧ fields.nanosecond < 1000000000

def millis (fields : TimestampFields) : Int :=
  let seconds := fields.hour * 3600 + fields.minute * 60 + fields.second
  (Timestamp.dayNumber fields.year fields.month fields.day * 86400 + seconds) * 1000 +
    (fields.nanosecond / 1000000 : Nat)

/-- What is left of a moment that is told in milliseconds. -/
def cut (fields : TimestampFields) : TimestampFields :=
  { fields with nanosecond := fields.nanosecond / 1000000 * 1000000 }

variable {fields : TimestampFields}

theorem one_le_daysInMonth (year : Int) (month : Nat) : 1 ≤ daysInMonth year month := by
  unfold daysInMonth
  split
  · split <;> decide
  all_goals decide

theorem isDate_nextDay (date : fields.IsDate) : fields.nextDay.IsDate := by
  obtain ⟨months, days⟩ := date
  unfold nextDay
  split
  · exact ⟨months, Nat.le_add_left _ _, by assumption⟩
  · split
    · exact ⟨⟨Nat.le_add_left _ _, by assumption⟩, Nat.le_refl _, one_le_daysInMonth _ _⟩
    · exact ⟨⟨Nat.le_refl 1, (by decide : 1 ≤ 12)⟩, Nat.le_refl _, one_le_daysInMonth _ _⟩

/-- The day after has the next number, and its time of day is the same. -/
theorem millis_nextDay (date : fields.IsDate) :
    fields.nextDay.millis = fields.millis + 86400000 := by
  obtain ⟨months, days⟩ := date
  have number {nextYear : Int} {nextMonth nextDay : Nat}
      (next : Timestamp.dayNumber nextYear nextMonth nextDay =
        Timestamp.dayNumber fields.year fields.month fields.day + 1) :
      millis { fields with year := nextYear, month := nextMonth, day := nextDay } =
        fields.millis + 86400000 := by
    unfold millis
    dsimp only
    rw [next]
    omega
  -- Days are counted from March on, so that a year ends with February and not with December.
  unfold nextDay
  split
  · exact number (Timestamp.dayNumber_succ _ _ _)
  · have last : fields.day = daysInMonth fields.year fields.month := by omega
    split
    · by_cases february : fields.month = 2
      · apply number
        rw [last, february]
        exact Timestamp.dayNumber_first_march _
      · apply number
        rw [last]
        apply Timestamp.dayNumber_of_marchIndex_succ months february
        · unfold Timestamp.marchYear
          split <;> split <;> omega
        · unfold Timestamp.marchIndex
          omega
    · have december : fields.month = 12 := by omega
      apply number
      rw [last, december]
      apply Timestamp.dayNumber_of_marchIndex_succ (by decide) (by decide)
      · exact Int.add_sub_cancel _ _
      · rfl

theorem isDate_nextMinute (date : fields.IsDate) : fields.nextMinute.IsDate := by
  unfold nextMinute
  split
  · exact date
  · split
    · exact date
    · exact isDate_nextDay date

theorem time_nextDay (fields : TimestampFields) :
    fields.nextDay.hour = fields.hour ∧ fields.nextDay.minute = fields.minute ∧
      fields.nextDay.second = fields.second ∧ fields.nextDay.nanosecond = fields.nanosecond := by
  unfold nextDay
  split
  · exact ⟨rfl, rfl, rfl, rfl⟩
  · split <;> exact ⟨rfl, rfl, rfl, rfl⟩

theorem isOrdinary_nextMinute (hours : fields.hour ≤ 23)
    (small : fields.nanosecond < 1000000000) : fields.nextMinute.IsOrdinary := by
  unfold nextMinute
  split
  · exact ⟨hours, by assumption, Nat.zero_le _, small⟩
  · split
    · exact ⟨by assumption, Nat.zero_le _, Nat.zero_le _, small⟩
    · obtain ⟨hour, minute, second, nanosecond⟩ :=
        time_nextDay { fields with hour := 0, minute := 0, second := 0 }
      unfold IsOrdinary
      rw [hour, minute, second, nanosecond]
      exact ⟨Nat.zero_le _, Nat.zero_le _, Nat.zero_le _, small⟩

theorem seconds_nextMinute (fields : TimestampFields) :
    fields.nextMinute.second = 0 ∧ fields.nextMinute.nanosecond = fields.nanosecond := by
  unfold nextMinute
  split
  · exact ⟨rfl, rfl⟩
  · split
    · exact ⟨rfl, rfl⟩
    · exact (time_nextDay _).2.2

/-- A minute is sixty seconds long. -/
theorem millis_nextMinute (date : fields.IsDate) (hours : fields.hour ≤ 23)
    (minutes : fields.minute ≤ 59) :
    fields.nextMinute.millis = millis { fields with second := 60 } := by
  unfold nextMinute
  split
  · unfold millis
    dsimp only
    omega
  · split
    · unfold millis
      dsimp only
      omega
    · have today : IsDate { fields with hour := 0, minute := 0, second := 0 } := date
      rw [millis_nextDay today]
      unfold millis
      dsimp only
      omega

theorem names_iff :
    fields.Names ↔ (-262143 ≤ fields.year ∧ fields.year ≤ 262142) ∧ fields.IsDate ∧
      fields.hour ≤ 23 ∧ fields.minute ≤ 59 ∧ fields.second ≤ 60 ∧
        fields.nanosecond < 1000000000 := by
  constructor
  · rintro ⟨years, months, days, time⟩
    exact ⟨years, ⟨months, days⟩, time⟩
  · rintro ⟨years, ⟨months, days⟩, time⟩
    exact ⟨years, months, days, time⟩

theorem year_nextDay (date : fields.IsDate) :
    fields.nextDay.year =
      if fields.month = 12 ∧ fields.day = 31 then fields.year + 1 else fields.year := by
  obtain ⟨months, days⟩ := date
  have december : fields.month = 12 → daysInMonth fields.year fields.month = 31 := by
    intro last
    rw [last]
    rfl
  unfold nextDay
  split
  · exact (if_neg (by omega)).symm
  · split
    · exact (if_neg (by omega)).symm
    · exact (if_pos (by omega)).symm

/-- The calendar reaches the minute after every minute but its last. -/
theorem names_nextMinute_iff (names : fields.Names) :
    fields.nextMinute.Names ↔
      ¬(fields.year = 262142 ∧ fields.month = 12 ∧ fields.day = 31 ∧ fields.hour = 23 ∧
        fields.minute = 59) := by
  obtain ⟨years, date, hours, minutes, -, small⟩ := names_iff.mp names
  obtain ⟨hour, minute, second, nanosecond⟩ := isOrdinary_nextMinute hours small
  have reached : fields.nextMinute.Names ↔
      -262143 ≤ fields.nextMinute.year ∧ fields.nextMinute.year ≤ 262142 := by
    rw [names_iff]
    constructor
    · intro next
      exact next.1
    · intro year
      exact ⟨year, isDate_nextMinute date, hour, minute, Nat.le_trans second (by decide),
        nanosecond⟩
  have year : fields.nextMinute.year =
      if fields.minute = 59 ∧ fields.hour = 23 ∧ fields.month = 12 ∧ fields.day = 31 then
        fields.year + 1 else fields.year := by
    unfold nextMinute
    split
    · exact (if_neg (by omega)).symm
    · split
      · exact (if_neg (by omega)).symm
      · have today : IsDate { fields with hour := 0, minute := 0, second := 0 } := date
        rw [year_nextDay today]
        dsimp only
        split <;> split <;> omega
  rw [reached, year]
  split <;> omega

end TimestampFields

namespace Timestamp

variable {fields : TimestampFields}

/-- The date and the time of day are read from the milliseconds up to the millisecond. -/
theorem ofMillis?_millis (date : fields.IsDate) (ordinary : fields.IsOrdinary) :
    ofMillis? fields.millis = ofFields? fields.cut := by
  obtain ⟨hours, minutes, seconds, small⟩ := ordinary
  let ofDay := fields.hour * 3600000 + fields.minute * 60000 + fields.second * 1000 +
    fields.nanosecond / 1000000
  have counted : fields.millis =
      dayNumber fields.year fields.month fields.day * 86400000 + ofDay := by
    unfold TimestampFields.millis ofDay
    dsimp only
    omega
  have theDay : fields.millis / 86400000 = dayNumber fields.year fields.month fields.day := by
    omega
  have theTime : (fields.millis % 86400000).toNat = ofDay := by omega
  have hour : ofDay / 3600000 = fields.hour := by omega
  have minute : ofDay / 60000 % 60 = fields.minute := by omega
  have second : ofDay / 1000 % 60 = fields.second := by omega
  have nanosecond : ofDay % 1000 * 1000000 = fields.nanosecond / 1000000 * 1000000 := by omega
  unfold ofMillis?
  rw [theDay, dateOfDayNumber_dayNumber date.1 date.2, theTime]
  dsimp only
  rw [hour, minute, second, nanosecond]
  rfl

/-- Milliseconds tell all of a timestamp of whole milliseconds but that its second is leap. -/
theorem ofMillis?_toMillis (stamp : Timestamp) (whole : stamp.fields.nanosecond % 1000000 = 0) :
    ofMillis? stamp.toMillis =
      if stamp.fields.second < 60 then some stamp else ofFields? stamp.fields.nextMinute := by
  obtain ⟨-, date, hours, minutes, seconds, small⟩ := TimestampFields.names_iff.mp stamp.names
  have uncut {fields : TimestampFields}
      (same : fields.nanosecond = stamp.fields.nanosecond) : fields.cut = fields := by
    have product : fields.nanosecond / 1000000 * 1000000 = fields.nanosecond := by omega
    unfold TimestampFields.cut
    rw [product]
  change ofMillis? stamp.fields.millis = _
  split
  · rename_i ordinary
    rw [ofMillis?_millis date ⟨hours, minutes, Nat.le_of_lt_succ ordinary, small⟩, uncut rfl,
      ofFields?_fields]
  · rename_i leap
    have second : { stamp.fields with second := 60 } = stamp.fields := by
      have sixty : stamp.fields.second = 60 := by omega
      rw [← sixty]
    have next := TimestampFields.millis_nextMinute date hours minutes
    rw [second] at next
    rw [← next, ofMillis?_millis (TimestampFields.isDate_nextMinute date)
      (TimestampFields.isOrdinary_nextMinute hours small),
      uncut (TimestampFields.seconds_nextMinute stamp.fields).2]

end Timestamp

end SpatialWorkload
