import SpatialWorkload.GeoSet.Session
import SpatialWorkload.Proofs.Text.Trim

/-!
# Written timestamps

A number that is written with a least width is read back where no digit follows it or its
width is all that is read.  So every layout whose pieces keep apart reads back what it writes
of a timestamp, and the layout of data files, which has no fraction, reads back the timestamps
of whole seconds: years with and without a sign, and leap seconds.
-/

namespace SpatialWorkload.Timestamp

def NoDigitAhead (text : List Char) : Prop :=
  ∀ c ∈ text.head?, c.isDigit = false

def NoBlankAhead (text : List Char) : Prop :=
  ∀ c ∈ text.head?, Text.isBlank c = false

section Digits

variable {digits rest : List Char} {width most value : Nat}

/-- Further digits make no number smaller. -/
theorem le_ofDigitChars (digits : List Char) (value : Nat) :
    value ≤ Nat.ofDigitChars 10 digits value := by
  induction digits generalizing value with
  | nil => exact Nat.le_refl value
  | cons c digits ih =>
      rw [Nat.ofDigitChars_cons]
      have longer := ih (10 * value + (c.toNat - '0'.toNat))
      omega

/-- Digits are read as the number they write, where they are all that is read of them. -/
theorem readDigits_append (all : ∀ c ∈ digits, c.isDigit = true) (fits : digits.length ≤ width)
    (ends : digits.length = width ∨ NoDigitAhead rest)
    (bounded : Nat.ofDigitChars 10 digits value ≤ largestNumber) :
    readDigits width value (digits ++ rest) = .ok (Nat.ofDigitChars 10 digits value, rest) := by
  induction digits generalizing width value with
  | nil =>
      cases width with
      | zero => rfl
      | succ width =>
          cases rest with
          | nil => rfl
          | cons c rest =>
              have ahead := ends.resolve_left (Nat.succ_ne_zero width).symm
              have stops : c.isDigit = false := ahead c rfl
              simp [readDigits, stops]
  | cons c digits ih =>
      cases width with
      | zero => exact absurd fits (Nat.not_succ_le_zero _)
      | succ width =>
          have digit := all c List.mem_cons_self
          rw [Nat.ofDigitChars_cons] at bounded ⊢
          have below := Nat.le_trans (le_ofDigitChars digits _) bounded
          rw [List.cons_append, readDigits, if_pos digit]
          dsimp only
          rw [if_neg (Nat.not_lt.mpr below)]
          apply ih
          · intro d member
            exact all d (List.mem_cons_of_mem c member)
          · exact Nat.le_of_succ_le_succ fits
          · exact ends.imp Nat.succ.inj id
          · exact bounded

theorem isDigit_of_mem_padded {c : Char} (member : c ∈ padded width value) :
    c.isDigit = true := by
  rcases List.mem_append.mp member with zero | digit
  · rw [List.eq_of_mem_replicate zero]
    rfl
  · exact Nat.isDigit_of_mem_toDigits (by decide) (Nat.le_refl 10) digit

/-- The zeros in front say nothing. -/
theorem ofDigitChars_padded (width value : Nat) :
    Nat.ofDigitChars 10 (padded width value) 0 = value := by
  rw [padded, Nat.ofDigitChars_append, Nat.ofDigitChars_replicate_zero, Nat.mul_zero,
    Nat.ofDigitChars_ten_toDigits]

theorem length_padded (positive : 0 < width) (small : value < Nat.pow 10 width) :
    (padded width value).length = width := by
  have fits := (Nat.length_toDigits_le_iff (by decide : 1 < 10) positive).mpr small
  rw [padded, List.length_append, List.length_replicate]
  omega

theorem exists_padded (width value : Nat) :
    ∃ c rest, padded width value = c :: rest ∧ c.isDigit = true := by
  cases written : padded width value with
  | nil =>
      exact absurd (List.append_eq_nil_iff.mp written).2 Nat.toDigits_ne_nil
  | cons c rest =>
      exact ⟨c, rest, rfl, isDigit_of_mem_padded (written ▸ List.mem_cons_self)⟩

theorem readNumber_padded (bounded : value ≤ largestNumber)
    (fits : (padded width value).length ≤ most)
    (ends : (padded width value).length = most ∨ NoDigitAhead rest) :
    readNumber most (padded width value ++ rest) = .ok (value, rest) := by
  have number := ofDigitChars_padded width value
  have read : readDigits most 0 (padded width value ++ rest) = .ok (value, rest) := by
    rw [readDigits_append (fun c => isDigit_of_mem_padded) fits ends (number.symm ▸ bounded),
      number]
  obtain ⟨c, others, written, digit⟩ := exists_padded width value
  rw [written] at read ⊢
  rw [List.cons_append, readNumber, if_pos digit]
  exact read

theorem isBlank_of_isDigit {c : Char} (digit : c.isDigit = true) : Text.isBlank c = false := by
  have bounds : 48 ≤ c.toNat ∧ c.toNat ≤ 57 := by
    simpa [Char.isDigit, UInt32.le_iff_toNat_le] using digit
  simp only [Text.isBlank]
  generalize c.toNat = code at bounds
  simp
  omega

theorem trimStart_of_noBlankAhead (stands : NoBlankAhead rest) : Text.trimStart rest = rest := by
  cases rest with
  | nil => rfl
  | cons c rest =>
      exact List.dropWhile_cons_of_neg (Bool.eq_false_iff.mp (stands c rfl))

theorem noBlankAhead_padded (width value : Nat) (rest : List Char) :
    NoBlankAhead (padded width value ++ rest) := by
  obtain ⟨c, others, written, digit⟩ := exists_padded width value
  rw [written]
  rintro first ⟨⟩
  exact isBlank_of_isDigit digit

/-- A field of two digits is read whatever follows it. -/
theorem readBetween_padded {least greatest : Nat} (low : least ≤ value) (high : value ≤ greatest)
    (small : value < 100) (rest : List Char) :
    readBetween least greatest 2 (Text.trimStart (padded 2 value ++ rest)) = .ok (value, rest) := by
  have width : (padded 2 value).length = 2 := length_padded (by decide) small
  have bounded : value ≤ largestNumber := Nat.le_trans (Nat.le_of_lt small) (by decide)
  rw [trimStart_of_noBlankAhead (noBlankAhead_padded 2 value rest), readBetween,
    readNumber_padded bounded (Nat.le_of_eq width) (Or.inl width)]
  have inside : ¬(value < least ∨ greatest < value) := by omega
  exact if_neg inside

end Digits

section Years

variable {number : Nat} {digits rest : List Char}

/-- A digit is no sign. -/
theorem readYear_digit {c : Char} (digit : c.isDigit = true)
    (told : readNumber 4 (c :: digits) = .ok (number, rest)) (small : number ≤ 2147483647) :
    readYear (c :: digits) = .ok ((number : Int), rest) := by
  have within : ¬((number : Int) < -2147483648 ∨ 2147483647 < (number : Int)) := by omega
  unfold readYear
  split
  · rename_i minus
    cases minus
    cases digit
  · rename_i plus
    cases plus
    cases digit
  · rw [told]
    exact if_neg within

theorem readYear_minus (told : readNumber digits.length digits = .ok (number, rest))
    (small : number ≤ 2147483647) : readYear ('-' :: digits) = .ok (-(number : Int), rest) := by
  have within : ¬(-(number : Int) < -2147483648 ∨ 2147483647 < -(number : Int)) := by omega
  rw [readYear, told]
  exact if_neg within

theorem readYear_plus (told : readNumber digits.length digits = .ok (number, rest))
    (small : number ≤ 2147483647) : readYear ('+' :: digits) = .ok ((number : Int), rest) := by
  have within : ¬((number : Int) < -2147483648 ∨ 2147483647 < (number : Int)) := by omega
  rw [readYear, told]
  exact if_neg within

/-- A signed year has as many digits as there are, so that nothing but a digit ends it. -/
theorem readNumber_signed (bounded : number ≤ largestNumber) (ends : NoDigitAhead rest) :
    readNumber (padded 4 number ++ rest).length (padded 4 number ++ rest) =
      .ok (number, rest) := by
  apply readNumber_padded bounded _ (Or.inr ends)
  rw [List.length_append]
  exact Nat.le_add_right _ _

theorem readYear_writeYear {year : Int} (low : -262143 ≤ year) (high : year ≤ 262142)
    (ends : NoDigitAhead rest) : readYear (writeYear year ++ rest) = .ok (year, rest) := by
  have small : year.natAbs ≤ 2147483647 := by omega
  have signed := readNumber_signed (Nat.le_trans small (by decide)) ends
  unfold writeYear
  split
  · rename_i unsigned
    have absolute : (year.toNat : Int) = year := Int.toNat_of_nonneg unsigned.1
    have few : year.toNat < 10000 := by omega
    have width : (padded 4 year.toNat).length = 4 := length_padded (by decide) few
    have bounded : year.toNat ≤ largestNumber := Nat.le_trans (Nat.le_of_lt few) (by decide)
    have told : readNumber 4 (padded 4 year.toNat ++ rest) = .ok (year.toNat, rest) :=
      readNumber_padded bounded (Nat.le_of_eq width) (Or.inl width)
    obtain ⟨c, others, written, digit⟩ := exists_padded 4 year.toNat
    rw [written, List.cons_append] at told ⊢
    rw [readYear_digit digit told (by omega), absolute]
  · split
    · have absolute : -(year.natAbs : Int) = year := by omega
      rw [List.cons_append, readYear_minus signed small, absolute]
    · have absolute : (year.natAbs : Int) = year := by omega
      rw [List.cons_append, readYear_plus signed small, absolute]

end Years

theorem noBlankAhead_writeYear (year : Int) (rest : List Char) :
    NoBlankAhead (writeYear year ++ rest) := by
  unfold writeYear
  split
  · exact noBlankAhead_padded 4 year.toNat rest
  · split
    all_goals
      rintro first ⟨⟩
      rfl

/-- A fraction of so many digits is read as that many decimal places. -/
theorem readFraction_padded {width value : Nat} {rest : List Char} (positive : 0 < width)
    (fits : width ≤ 9) (small : value < Nat.pow 10 width) (ends : NoDigitAhead rest) :
    readFraction ('.' :: padded width value ++ rest) =
      .ok (value * Nat.pow 10 (9 - width), rest) := by
  have length := length_padded positive small
  have bounded : value ≤ largestNumber := by
    apply Nat.le_of_lt
    apply Nat.lt_of_lt_of_le small
    exact Nat.le_trans (Nat.pow_le_pow_right (by decide) fits) (by decide)
  have number : readNumber 9 (padded width value ++ rest) = .ok (value, rest) :=
    readNumber_padded bounded (length.symm ▸ fits) (Or.inr ends)
  have ended : rest.dropWhile Char.isDigit = rest := by
    cases rest with
    | nil => rfl
    | cons c rest => exact List.dropWhile_cons_of_neg (Bool.eq_false_iff.mp (ends c rfl))
  rw [List.cons_append, readFraction, number]
  change Except.ok (value * Nat.pow 10 (9 - ((padded width value ++ rest).length - rest.length)),
    rest.dropWhile Char.isDigit) = _
  rw [ended, List.length_append, length, Nat.add_sub_cancel]

theorem readFraction_writeFraction {nanosecond : Nat} (small : nanosecond < 1000000000)
    {rest : List Char} (ends : NoDigitAhead rest) (noPoint : rest.head? ≠ some '.') :
    readFraction (writeFraction nanosecond ++ rest) = .ok (nanosecond, rest) := by
  unfold writeFraction
  split
  · rename_i none
    cases rest with
    | nil => rw [none]; rfl
    | cons c rest =>
        rw [none, List.nil_append, readFraction]
        rintro others ⟨⟩
        exact noPoint rfl
  · split
    · rename_i milliseconds
      have places : nanosecond / 1000000 < Nat.pow 10 3 := by
        change nanosecond / 1000000 < 1000
        omega
      rw [readFraction_padded (by decide) (by decide) places ends]
      have whole : nanosecond / 1000000 * 1000000 = nanosecond := by omega
      exact congrArg (fun n => Except.ok (n, rest)) whole
    · split
      · rename_i microseconds
        have places : nanosecond / 1000 < Nat.pow 10 6 := by
          change nanosecond / 1000 < 1000000
          omega
        rw [readFraction_padded (by decide) (by decide) places ends]
        have whole : nanosecond / 1000 * 1000 = nanosecond := by omega
        exact congrArg (fun n => Except.ok (n, rest)) whole
      · rw [readFraction_padded (by decide) (by decide) small ends]
        exact congrArg (fun n => Except.ok (n, rest)) (Nat.mul_one nanosecond)

namespace Piece

def copy (source fields : TimestampFields) : Piece → TimestampFields
  | year => { fields with year := source.year }
  | month => { fields with month := source.month }
  | day => { fields with day := source.day }
  | hour => { fields with hour := source.hour }
  | minute => { fields with minute := source.minute }
  | second => { fields with second := source.second }
  | fraction => { fields with nanosecond := source.nanosecond }
  | mark _ => fields
  | space => fields
  | gap => fields

/-- A piece before this text is told apart from it. -/
def EndsBefore (rest : List Char) : Piece → Prop
  | year => NoDigitAhead rest
  | fraction => NoDigitAhead rest ∧ rest.head? ≠ some '.'
  | space => NoBlankAhead rest
  | gap => NoBlankAhead rest
  | _ => True

/-- Every piece is read back from what it writes, and nothing after it is read. -/
theorem read_write (stamp : Timestamp) (fields : TimestampFields) {piece : Piece}
    {rest : List Char} (ends : piece.EndsBefore rest) :
    piece.read fields (piece.write stamp.fields ++ rest) =
      .ok (piece.copy stamp.fields fields, rest) := by
  obtain ⟨years, months, days, hours, minutes, seconds, nanoseconds⟩ := stamp.names
  have longest := daysInMonth_le stamp.fields.year stamp.fields.month
  cases piece with
  | year =>
      have number := readYear_writeYear years.1 years.2 ends
      rw [read, write, trimStart_of_noBlankAhead (noBlankAhead_writeYear _ rest), number]
      rfl
  | month =>
      rw [read, write, readBetween_padded months.1 months.2 (by omega)]
      rfl
  | day =>
      rw [read, write, readBetween_padded days.1 (by omega) (by omega)]
      rfl
  | hour =>
      rw [read, write, readBetween_padded (Nat.zero_le _) hours (by omega)]
      rfl
  | minute =>
      rw [read, write, readBetween_padded (Nat.zero_le _) minutes (by omega)]
      rfl
  | second =>
      rw [read, write, readBetween_padded (Nat.zero_le _) seconds (by omega)]
      rfl
  | fraction =>
      rw [read, write, readFraction_writeFraction nanoseconds ends.1 ends.2]
      rfl
  | mark symbol =>
      have taken : readMark symbol (symbol :: rest) = .ok rest := if_pos rfl
      rw [read, write, List.singleton_append, taken]
      rfl
  | space =>
      have passed : Text.trimStart (' ' :: rest) = Text.trimStart rest := rfl
      rw [read, write, List.singleton_append, passed, trimStart_of_noBlankAhead ends]
      rfl
  | gap =>
      rw [read, write, List.nil_append, trimStart_of_noBlankAhead ends]
      rfl

end Piece

theorem ok_of_map {β γ : Type} {result : Except ReadError β} {change : β → γ} {value : γ}
    (came : result.map change = .ok value) :
    ∃ inner, result = .ok inner ∧ change inner = value := by
  cases result with
  | error cause => cases came
  | ok inner => exact ⟨inner, rfl, Except.ok.inj came⟩

/-- Only a fraction says anything of less than a second. -/
theorem Piece.nanosecond_of_read {piece : Piece} {fields after : TimestampFields}
    {text rest : List Char} (noFraction : piece ≠ .fraction)
    (came : piece.read fields text = .ok (after, rest)) :
    after.nanosecond = fields.nanosecond := by
  cases piece with
  | fraction => exact absurd rfl noFraction
  | space | gap =>
      cases came
      rfl
  | year | month | day | hour | minute | second | mark =>
      obtain ⟨inner, -, same⟩ := ok_of_map came
      cases same
      rfl

theorem nanosecond_of_readPieces {layout : Layout} {fields after : TimestampFields}
    {text rest : List Char} (noFraction : .fraction ∉ layout)
    (came : readPieces layout fields text = .ok (after, rest)) :
    after.nanosecond = fields.nanosecond := by
  induction layout generalizing fields text with
  | nil =>
      cases came
      rfl
  | cons piece layout ih =>
      rw [readPieces] at came
      cases first : piece.read fields text with
      | error cause =>
          rw [first] at came
          cases came
      | ok next =>
          obtain ⟨between, others⟩ := next
          rw [first] at came
          have kept : between.nanosecond = fields.nanosecond := by
            apply Piece.nanosecond_of_read _ first
            rintro rfl
            exact noFraction List.mem_cons_self
          rw [← kept]
          apply ih _ came
          intro member
          exact noFraction (List.mem_cons_of_mem piece member)

theorem fields_of_ofFields? {fields : TimestampFields} {stamp : Timestamp}
    (named : ofFields? fields = some stamp) : stamp.fields = fields := by
  unfold ofFields? at named
  split at named
  · cases named
    rfl
  · cases named

/-- What is read without a fraction is of whole seconds. -/
theorem nanosecond_of_read {layout : Layout} {text : List Char} {stamp : Timestamp}
    (noFraction : .fraction ∉ layout) (came : read layout text = .ok stamp) :
    stamp.fields.nanosecond = 0 := by
  unfold read at came
  cases pieces : readPieces layout epoch.fields text with
  | error cause =>
      rw [pieces] at came
      cases came
  | ok told =>
      obtain ⟨fields, rest⟩ := told
      rw [pieces] at came
      dsimp only [bind, Except.bind] at came
      split at came
      · cases came
      · cases came
      · rename_i named
        cases came
        rw [fields_of_ofFields? named, nanosecond_of_readPieces noFraction pieces]
        rfl

namespace Layout

/-- Each piece is told apart from what is written after it. -/
def KeepsApart (source : TimestampFields) : Layout → Prop
  | [] => True
  | piece :: layout =>
      piece.EndsBefore (layout.flatMap (Piece.write source)) ∧ KeepsApart source layout

def copy (source : TimestampFields) (layout : Layout) (fields : TimestampFields) :
    TimestampFields :=
  layout.foldl (fun fields piece => piece.copy source fields) fields

/-- The date has no number of its own width but the year, and after that stands a dash. -/
theorem keepsApart_recordLayout (source : TimestampFields) :
    KeepsApart source recordLayout := by
  have dash : NoDigitAhead ('-' :: (recordLayout.drop 2).flatMap (Piece.write source)) := by
    rintro first ⟨⟩
    rfl
  have time : NoBlankAhead ((recordLayout.drop 6).flatMap (Piece.write source)) :=
    noBlankAhead_padded 2 source.hour _
  exact ⟨dash, trivial, trivial, trivial, trivial, time, trivial, trivial, trivial, trivial,
    trivial, trivial⟩

theorem keepsApart_isoLayout (source : TimestampFields) : KeepsApart source isoLayout := by
  have mark {symbol : Char} {rest : List Char} (noDigit : symbol.isDigit = false) :
      NoDigitAhead (symbol :: rest) := by
    rintro first ⟨⟩
    exact noDigit
  have stands {symbol : Char} {rest : List Char} (noBlank : Text.isBlank symbol = false) :
      NoBlankAhead (symbol :: rest) := by
    rintro first ⟨⟩
    exact noBlank
  have nothing : NoDigitAhead [] := by
    rintro first ⟨⟩
  have noPoint : ([] : List Char).head? ≠ some '.' := by
    rintro ⟨⟩
  have noBlank : NoBlankAhead [] := by
    rintro first ⟨⟩
  exact ⟨mark rfl, stands rfl, trivial, trivial, stands rfl, trivial, trivial, stands rfl,
    trivial, trivial, stands rfl, trivial, trivial, stands rfl, trivial, trivial,
    ⟨nothing, noPoint⟩, noBlank, trivial⟩

end Layout

theorem readPieces_write (stamp : Timestamp) {layout : Layout} (fields : TimestampFields)
    (apart : layout.KeepsApart stamp.fields) :
    readPieces layout fields (layout.flatMap (Piece.write stamp.fields)) =
      .ok (layout.copy stamp.fields fields, []) := by
  induction layout generalizing fields with
  | nil => rfl
  | cons piece layout ih =>
      rw [List.flatMap_cons, readPieces, Piece.read_write stamp fields apart.1]
      exact ih _ apart.2

/-- A layout whose pieces keep apart and say everything reads back what it writes. -/
theorem read_write {stamp : Timestamp} {layout : Layout}
    (apart : layout.KeepsApart stamp.fields)
    (whole : layout.copy stamp.fields epoch.fields = stamp.fields) :
    read layout (write layout stamp).toList = .ok stamp := by
  rw [write, String.toList_ofList, read, readPieces_write stamp epoch.fields apart, whole]
  dsimp only [bind, Except.bind]
  rw [ofFields?_fields]

/-- Structured data lose nothing of a timestamp. -/
theorem read_write_isoLayout (stamp : Timestamp) :
    read isoLayout (write isoLayout stamp).toList = .ok stamp :=
  read_write (Layout.keepsApart_isoLayout stamp.fields) rfl

theorem read_write_recordLayout {stamp : Timestamp} (whole : stamp.fields.nanosecond = 0) :
    read recordLayout (write recordLayout stamp).toList = .ok stamp := by
  apply read_write (Layout.keepsApart_recordLayout stamp.fields)
  calc
    Layout.copy stamp.fields recordLayout epoch.fields =
        { stamp.fields with nanosecond := 0 } := rfl
    _ = stamp.fields := by rw [← whole]

end SpatialWorkload.Timestamp
