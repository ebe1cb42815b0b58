import Mathlib.Logic.Relation
import SpatialWorkload.Proofs.Dataset.Records

/-!
# What a file may be rewritten to

A file can be written in many ways that say the same: under another header, with other line
ends, with blank lines between its rows, with white space around their columns, and with
anything in the columns that are not read.  One step of rewriting leaves what the lines say
as it is, and so do all of them together.
-/

namespace SpatialWorkload

namespace Record

variable {old new : List (List Char)} {record : Position Float} {line : List Char}

/-- One column written in another way that says the same, or further columns. -/
inductive SaysTheSame : List (List Char) → List (List Char) → Prop where
  | padded (front rest : List (List Char)) (text : List Char) {before behind : List Char}
      (left : Text.isBlankText before = true) (right : Text.isBlankText behind = true) :
      SaysTheSame (front ++ text :: rest) (front ++ (before ++ text ++ behind) :: rest)
  | replaced (front rest : List (List Char)) (old new : List Char)
      (unread : front.length ∈ [1, 2, 4, 5] ∨ 8 ≤ front.length) :
      SaysTheSame (front ++ old :: rest) (front ++ new :: rest)
  | appended (columns more : List (List Char)) : SaysTheSame columns (columns ++ more)

/-- Columns say no more than their fields. -/
theorem ofColumns_congr (same : ∀ column, field new column = field old column) :
    ofColumns new = ofColumns old := by
  simp only [ofColumns, same]

theorem field_congr {column : Column} (same : new[column.index]? = old[column.index]?) :
    field new column = field old column := by
  unfold field
  rw [same]

theorem ofColumns_of_saysTheSame (change : SaysTheSame old new)
    (came : ofColumns (old.map Text.trim) = .ok record) :
    ofColumns (new.map Text.trim) = .ok record := by
  rw [← came]
  refine ofColumns_congr fun column => field_congr ?_
  cases change with
  | padded front rest text left right =>
      rw [List.map_append, List.map_append, List.map_cons, List.map_cons,
        Text.trim_padded left text right]
  | replaced front rest old new unread =>
      have other : column.index ≠ (front.map Text.trim).length := by
        rw [List.length_map]
        rintro same
        rw [← same] at unread
        cases column <;> simp [Column.index] at unread
      simp only [List.map_append, List.map_cons, List.getElem?_append, List.getElem?_cons]
      split
      · rfl
      · rename_i behind
        rw [if_neg (by omega), if_neg (by omega)]
  | appended columns more =>
      obtain ⟨text, -, -, -, found, -⟩ := exists_fields came
      obtain ⟨there, -⟩ := List.getElem?_eq_some_iff.mp (getElem?_of_field (found column))
      rw [List.map_append, List.getElem?_append_left there]

/-- A line of which a record is read is not blank. -/
theorem isBlankText_of_ofColumns (came : ofColumns (columns line) = .ok record) :
    Text.isBlankText line = false := by
  refine Bool.eq_false_iff.mpr fun blank => ?_
  have none : columns line = [[]] := columns_append_right [] blank
  rw [none] at came
  cases came

end Record

open SourceLine (splitBytes splitBytes_append splitBytes_ne_nil encode)

namespace Dataset

open Record (SaysTheSame)

variable {options : Options} {skipMalformed : Bool} {dataset : Dataset}

/-- The end of a file, or what a line feed begins. -/
inductive EndsALine : List UInt8 → Prop where
  | file : EndsALine []
  | feed (rest : List UInt8) : EndsALine (10 :: rest)

/--
A step of rewriting: another header; a carriage return before a line feed, or none; a blank
line behind a line, or behind the last line feed; or a row whose columns say the same.
-/
inductive Rewrites : List UInt8 → List UInt8 → Prop where
  | header {old new rest : List UInt8} (oldLine : 10 ∉ old) (newLine : 10 ∉ new)
      (ends : EndsALine rest) : Rewrites (old ++ rest) (new ++ rest)
  | carriageReturn (before rest : List UInt8) :
      Rewrites (before ++ 10 :: rest) (before ++ 13 :: 10 :: rest)
  | noCarriageReturn (before rest : List UInt8) :
      Rewrites (before ++ 13 :: 10 :: rest) (before ++ 10 :: rest)
  | blank (before : List UInt8) {rest : List UInt8} {line : List Char} (noFeed : '\n' ∉ line)
      (blank : Text.isBlankText line = true) (ends : EndsALine rest) :
      Rewrites (before ++ rest) (before ++ 10 :: (encode line ++ rest))
  | lastBlank (before : List UInt8) {line : List Char} (noFeed : '\n' ∉ line)
      (blank : Text.isBlankText line = true) :
      Rewrites (before ++ [10]) (before ++ 10 :: encode line)
  | row (before : List UInt8) {old new : List Char} {rest : List UInt8} {place : Nat}
      {position : Position Float} (oldLine : '\n' ∉ old) (newLine : '\n' ∉ new)
      (reads : Record.read old place = .ok position)
      (change : SaysTheSame (Text.splitAt ',' old) (Text.splitAt ',' new))
      (ends : EndsALine rest) :
      Rewrites (before ++ 10 :: (encode old ++ rest)) (before ++ 10 :: (encode new ++ rest))

theorem said?_carriageReturn (skipMalformed : Bool) (line : SourceLine) :
    said? skipMalformed (line.map (· ++ ['\r'])) = said? skipMalformed line := by
  cases line with
  | error fault => rfl
  | ok text =>
      have ending : Text.isBlankText ['\r'] = true := rfl
      change said? skipMalformed (.ok (text ++ ['\r'])) = _
      rw [said?, said?, Text.isBlankText_append, ending, Bool.and_true,
        Record.columns_append_right text ending]

theorem said?_ofByteLine_carriageReturn (skipMalformed : Bool) (line : List UInt8) :
    said? skipMalformed (SourceLine.ofByteLine (line ++ [13])) =
      said? skipMalformed (SourceLine.ofByteLine line) := by
  rw [SourceLine.ofByteLine_carriageReturn, said?_carriageReturn]

theorem said?_ofCompleteLine (skipMalformed : Bool) (line : List UInt8) :
    said? skipMalformed (SourceLine.ofCompleteLine line) =
      said? skipMalformed (SourceLine.ofByteLine line) := by
  unfold SourceLine.ofCompleteLine
  split
  · rename_i ends
    obtain ⟨before, rfl⟩ := List.getLast?_eq_some_iff.mp ends
    rw [List.dropLast_concat, said?_ofByteLine_carriageReturn]
  · rfl

def said (skipMalformed : Bool) (lines : List (List UInt8)) : List (Option (Position Float)) :=
  lines.filterMap fun line => said? skipMalformed (SourceLine.ofByteLine line)

theorem said_append (skipMalformed : Bool) (lines rest : List (List UInt8)) :
    said skipMalformed (lines ++ rest) = said skipMalformed lines ++ said skipMalformed rest :=
  List.filterMap_append

theorem said_blank {line : List Char} (blank : Text.isBlankText line = true) :
    said skipMalformed [encode line] = [] := by
  refine List.filterMap_cons_none ?_
  rw [SourceLine.ofByteLine_encode, said?, blank]
  rfl

theorem said_row {line : List Char} {record : Position Float}
    (came : Record.ofColumns (Record.columns line) = .ok record) :
    said skipMalformed [encode line] = [some record] := by
  refine List.filterMap_cons_some ?_
  rw [SourceLine.ofByteLine_encode, said?, Record.isBlankText_of_ofColumns came, came]
  rfl

/-- The lines of a file say what stands between its line feeds. -/
theorem entries_ofBytes (skipMalformed : Bool) (file : List UInt8) :
    entries skipMalformed (SourceLine.ofBytes file).tail =
      said skipMalformed (splitBytes file).tail := by
  obtain ⟨before, last, pieces⟩ := SourceLine.exists_last_line file
  have complete (lines : List (List UInt8)) :
      entries skipMalformed (lines.map SourceLine.ofCompleteLine) = said skipMalformed lines := by
    rw [entries, List.filterMap_map]
    exact List.filterMap_congr fun line _ => said?_ofCompleteLine skipMalformed line
  have ending : entries skipMalformed (if last = [] then [] else [SourceLine.ofByteLine last]) =
      said skipMalformed [last] := by
    split
    · rename_i none
      rw [none]
      exact (said_blank (show Text.isBlankText [] = true from rfl)).symm
    · rfl
  rw [SourceLine.ofBytes_of_splitBytes pieces, pieces]
  cases before with
  | nil => split <;> rfl
  | cons header rows =>
      rw [List.map_cons, List.cons_append, List.cons_append, List.tail_cons, List.tail_cons,
        said_append, ← complete, ← ending]
      exact List.filterMap_append

/-- Behind the end of a line the lines stay, whatever stands before it. -/
theorem EndsALine.exists_splitBytes_append {rest : List UInt8} (ends : EndsALine rest) :
    ∃ others, ∀ file, splitBytes (file ++ rest) = splitBytes file ++ others := by
  cases ends with
  | file => exact ⟨[], fun file => by rw [List.append_nil, List.append_nil]⟩
  | feed rest => exact ⟨splitBytes rest, fun file => splitBytes_append file rest⟩

theorem said_carriageReturn (skipMalformed : Bool) (before rest : List UInt8) :
    said skipMalformed (splitBytes (before ++ 13 :: 10 :: rest)).tail =
      said skipMalformed (splitBytes (before ++ 10 :: rest)).tail := by
  obtain ⟨front, last, pieces, longer⟩ :=
    SourceLine.splitBytes_append_of_not_mem before (show 10 ∉ [13] by decide)
  rw [List.append_cons before 13, splitBytes_append, splitBytes_append, pieces, longer]
  cases front with
  | nil => rfl
  | cons header rows =>
      have ending : said skipMalformed [last ++ [13]] = said skipMalformed [last] := by
        unfold said
        rw [List.filterMap_cons, List.filterMap_cons, said?_ofByteLine_carriageReturn]
      simp only [List.cons_append, List.tail_cons, said_append, ending]

/-- A step of rewriting leaves what the lines behind the header say. -/
theorem said_of_rewrites {first second : List UInt8} (step : Rewrites first second) :
    said skipMalformed (splitBytes second).tail = said skipMalformed (splitBytes first).tail := by
  have behind (before : List UInt8) (lines : List (List UInt8)) :
      (splitBytes before ++ lines).tail = (splitBytes before).tail ++ lines :=
    List.tail_append_of_ne_nil (splitBytes_ne_nil before)
  have whole {line : List Char} (noFeed : '\n' ∉ line) :
      splitBytes (encode line) = [encode line] := by
    rw [SourceLine.splitBytes_encode, Text.splitAt_of_not_mem noFeed, List.map_singleton]
  cases step with
  | header oldLine newLine ends =>
      obtain ⟨others, split⟩ := ends.exists_splitBytes_append
      rw [split, split, SourceLine.splitBytes_of_not_mem oldLine,
        SourceLine.splitBytes_of_not_mem newLine]
      rfl
  | carriageReturn before rest => exact said_carriageReturn skipMalformed before rest
  | noCarriageReturn before rest => exact (said_carriageReturn skipMalformed before rest).symm
  | blank before noFeed blank ends =>
      obtain ⟨others, split⟩ := ends.exists_splitBytes_append
      rw [splitBytes_append, split, split, whole noFeed, behind, behind, said_append, said_append,
        said_append, said_blank blank, List.nil_append]
  | lastBlank before noFeed blank =>
      rw [splitBytes_append, splitBytes_append, whole noFeed, behind, behind, said_append,
        said_append, said_blank blank]
      exact congrArg (_ ++ ·) (said_blank (show Text.isBlankText [] = true from rfl)).symm
  | row before oldLine newLine reads change ends =>
      obtain ⟨others, split⟩ := ends.exists_splitBytes_append
      obtain ⟨record, came, -⟩ := Record.exists_ofColumns_of_read reads
      have changed := Record.ofColumns_of_saysTheSame change came
      rw [splitBytes_append, splitBytes_append, split, split, whole oldLine, whole newLine, behind,
        behind, said_append, said_append, said_append, said_append, said_row came,
        said_row changed]

/-- However often a file is rewritten, it is read as the same dataset. -/
theorem load_of_rewritten (options : Options) (dataset : Dataset) {first second : List UInt8}
    (steps : Relation.ReflTransGen Rewrites first second) :
    load options (SourceLine.ofBytes first) = .ok dataset ↔
      load options (SourceLine.ofBytes second) = .ok dataset := by
  refine load_congr ?_
  rw [entries_ofBytes, entries_ofBytes]
  induction steps with
  | refl => rfl
  | tail _ step ih => rw [said_of_rewrites step, ih]

def rowOf (id note : List Char) : List Char :=
  [','].intercalate
    (id :: note :: ["", "2008-02-02 13:30:49", "", "", "39.9", "116.4"].map String.toList)

theorem load_of_rewritten_padded :
    ∃ dataset,
      load ⟨some 3, false⟩ (SourceLine.ofBytes (encode ("id\n".toList ++ rowOf ['7'] ['a']))) =
        .ok dataset ∧
      load ⟨some 3, false⟩
          (SourceLine.ofBytes (encode ("raw\r\n \n".toList ++ rowOf ['7', ' '] []))) =
        .ok dataset ∧
      dataset.positions.toList.map Position.id = ["7-0"] := by
  have reads (id note : List Char) (some : (Record.read (rowOf id note) 0).toOption.isSome) :
      ∃ position, Record.read (rowOf id note) 0 = .ok position := by
    obtain ⟨position, found⟩ := Option.isSome_iff_exists.mp some
    exact ⟨position, Workload.eq_ok_of_toOption found⟩
  have padded : SaysTheSame (Text.splitAt ',' (rowOf ['7'] ['a']))
      (Text.splitAt ',' (rowOf ['7', ' '] ['a'])) := by
    rw [rowOf, rowOf, Text.splitAt_intercalate (List.cons_ne_nil _ _) (by decide +kernel),
      Text.splitAt_intercalate (List.cons_ne_nil _ _) (by decide +kernel)]
    exact .padded [] _ ['7'] (show Text.isBlankText [] = true from rfl)
      (show Text.isBlankText [' '] = true from rfl)
  have filled : SaysTheSame (Text.splitAt ',' (rowOf ['7', ' '] ['a']))
      (Text.splitAt ',' (rowOf ['7', ' '] [])) := by
    rw [rowOf, rowOf, Text.splitAt_intercalate (List.cons_ne_nil _ _) (by decide +kernel),
      Text.splitAt_intercalate (List.cons_ne_nil _ _) (by decide +kernel)]
    exact .replaced [['7', ' ']] _ ['a'] [] (by decide)
  obtain ⟨first, firstReads⟩ := reads ['7'] ['a'] (by decide +kernel)
  obtain ⟨second, secondReads⟩ := reads ['7', ' '] ['a'] (by decide +kernel)
  have pad : Rewrites (encode "id".toList ++ 10 :: (encode (rowOf ['7'] ['a']) ++ []))
      (encode "id".toList ++ 10 :: (encode (rowOf ['7', ' '] ['a']) ++ [])) :=
    .row _ (by decide +kernel) (by decide +kernel) firstReads padded .file
  have fill : Rewrites (encode "id".toList ++ 10 :: (encode (rowOf ['7', ' '] ['a']) ++ []))
      (encode "id".toList ++ 10 :: (encode (rowOf ['7', ' '] []) ++ [])) :=
    .row _ (by decide +kernel) (by decide +kernel) secondReads filled .file
  have header (rest : List UInt8) : Rewrites (encode "id".toList ++ 10 :: rest)
      (encode "raw".toList ++ 10 :: rest) :=
    .header (by decide) (by decide) (.feed rest)
  have ending (rest : List UInt8) : Rewrites (encode "raw".toList ++ 10 :: rest)
      (encode "raw\r".toList ++ 10 :: rest) :=
    .carriageReturn (encode "raw".toList) rest
  have blank (rest : List UInt8) : Rewrites (encode "raw\r".toList ++ 10 :: rest)
      (encode "raw\r".toList ++ 10 :: (encode [' '] ++ 10 :: rest)) :=
    .blank _ (by decide) (by decide) (.feed rest)
  have plain : encode ("id\n".toList ++ rowOf ['7'] ['a']) =
      encode "id".toList ++ 10 :: (encode (rowOf ['7'] ['a']) ++ []) := by
    decide +kernel
  have dressed : encode ("raw\r\n \n".toList ++ rowOf ['7', ' '] []) =
      encode "raw\r".toList ++
        10 :: (encode [' '] ++ 10 :: (encode (rowOf ['7', ' '] []) ++ [])) := by
    decide +kernel
  have steps : Relation.ReflTransGen Rewrites (encode ("id\n".toList ++ rowOf ['7'] ['a']))
      (encode ("raw\r\n \n".toList ++ rowOf ['7', ' '] [])) := by
    rw [plain, dressed]
    exact (((Relation.ReflTransGen.single pad).tail fill).tail (header _)).tail (ending _) |>.tail
      (blank _)
  have loaded : (load ⟨some 3, false⟩
      (SourceLine.ofBytes (encode ("id\n".toList ++ rowOf ['7'] ['a'])))).toOption.any
        (fun dataset => dataset.positions.toList.map Position.id == ["7-0"]) = true := by
    decide +kernel
  obtain ⟨dataset, came, ids⟩ := (Option.any_eq_true _ _).mp loaded
  replace came := Workload.eq_ok_of_toOption came
  exact ⟨dataset, came, (load_of_rewritten _ dataset steps).mp came, beq_iff_eq.mp ids⟩

end Dataset

end SpatialWorkload
