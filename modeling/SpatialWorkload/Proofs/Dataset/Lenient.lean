import SpatialWorkload.Proofs.Dataset.Records

/-!
# Malformed lines passed over

To pass over lines that are no records is to read the text in which they do not stand.  The
others keep their order, and the places of the records are those of the text without them;
where malformed lines are not passed over, reading fails at the first of them, unless the
limit is reached before it.
-/

namespace SpatialWorkload

namespace Record

/-- A line that is not blank, and at some place no record. -/
def IsRefused (line : List Char) : Prop :=
  Text.isBlankText line = false ∧ ∃ place reason, read line place = .error reason

/-- What a line is refused for at one place it is refused for everywhere. -/
theorem read_eq_error_iff {line : List Char} {place : Nat} {reason : RecordError} :
    read line place = .error reason ↔ ofColumns (columns line) = .error reason := by
  rw [read_eq]
  cases ofColumns (columns line) with
  | error cause => exact Iff.rfl
  | ok record =>
      constructor
      · intro refused
        cases refused
      · intro refused
        cases refused

theorem isRefused_iff {line : List Char} :
    IsRefused line ↔
      Text.isBlankText line = false ∧ ∃ reason, ofColumns (columns line) = .error reason := by
  simp only [IsRefused, read_eq_error_iff, exists_const]

instance (line : List Char) : Decidable (IsRefused line) :=
  decidable_of_iff
    (Text.isBlankText line = false ∧ (ofColumns (columns line)).toOption.isNone = true) <| by
    rw [isRefused_iff]
    refine and_congr_right fun _ => ?_
    cases ofColumns (columns line) with
    | error cause => exact ⟨fun _ => ⟨cause, rfl⟩, fun _ => rfl⟩
    | ok record => exact ⟨nofun, fun ⟨_, same⟩ => nomatch same⟩

end Record

namespace Dataset

open Record (IsRefused)

variable {options : Options} {skipMalformed : Bool} {line : List Char} {lines : List (List Char)}

/-- The text without the lines behind its header that are no records, blank ones apart. -/
def withoutRefused (text : List Char) : List Char :=
  match Text.rawLines text with
  | [] => []
  | header :: rows => (header :: rows.filter fun row => ¬IsRefused (Text.unended row)).flatten

/-- Only the lines that are no records are left out. -/
theorem tail_lines_withoutRefused (text : List Char) :
    (Text.lines (withoutRefused text)).tail =
      (Text.lines text).tail.filter fun line => ¬IsRefused line := by
  have raw := Text.areRawLines_rawLines text
  rw [← Text.map_unended_rawLines text, withoutRefused]
  split
  · rename_i none
    rw [none]
    rfl
  · rename_i header rows some
    rw [some] at raw ⊢
    have inside : (header :: rows.filter fun row => ¬IsRefused (Text.unended row)).Sublist
        (header :: rows) :=
      List.Sublist.cons_cons header List.filter_sublist
    rw [(raw.sublist inside).lines_flatten, List.map_cons, List.map_cons, List.tail_cons,
      List.tail_cons, List.filter_map]
    rfl

/-- A line that is no record is where reading ends, unless it is passed over. -/
theorem said?_eq_stop_iff : said? false (.ok line) = some none ↔ IsRefused line := by
  rw [Record.isRefused_iff, said?]
  cases Text.isBlankText line with
  | true =>
      constructor
      · intro stops
        cases stops
      · rintro ⟨notBlank, -⟩
        cases notBlank
  | false =>
      cases Record.ofColumns (Record.columns line) with
      | error reason => exact ⟨fun _ => ⟨rfl, reason, rfl⟩, fun _ => rfl⟩
      | ok record =>
          constructor
          · intro stops
            cases stops
          · rintro ⟨-, reason, same⟩
            cases same

theorem said?_skip (line : List Char) :
    said? true (.ok line) = if IsRefused line then none else said? false (.ok line) := by
  by_cases refused : IsRefused line
  · obtain ⟨notBlank, reason, came⟩ := Record.isRefused_iff.mp refused
    rw [if_pos refused, said?, notBlank, came]
    rfl
  · rw [if_neg refused]
    have goesOn := mt said?_eq_stop_iff.mp refused
    unfold said? at goesOn ⊢
    dsimp only at goesOn ⊢
    split
    · rfl
    · rename_i notBlank
      rw [if_neg notBlank] at goesOn
      cases came : Record.ofColumns (Record.columns line) with
      | error reason =>
          rw [came] at goesOn
          exact absurd rfl goesOn
      | ok record => rfl

def IsRecord (line : List Char) : Prop :=
  Text.isBlankText line = false ∧ ¬IsRefused line

instance (line : List Char) : Decidable (IsRecord line) :=
  inferInstanceAs (Decidable (_ ∧ _))

theorem isSome_said?_iff :
    ((said? false (.ok line)).map Option.isSome).getD false = true ↔ IsRecord line := by
  rw [IsRecord, Record.isRefused_iff, said?]
  cases Text.isBlankText line with
  | true =>
      constructor
      · intro some
        cases some
      · rintro ⟨notBlank, -⟩
        cases notBlank
  | false =>
      cases Record.ofColumns (Record.columns line) with
      | error reason =>
          constructor
          · intro some
            cases some
          · exact fun record => absurd ⟨rfl, reason, rfl⟩ record.2
      | ok record =>
          refine ⟨fun _ => ⟨rfl, ?_⟩, fun _ => rfl⟩
          rintro ⟨-, reason, same⟩
          cases same

theorem entries_skip (lines : List (List Char)) :
    entries true (lines.map .ok) =
      entries false ((lines.filter fun line => ¬IsRefused line).map .ok) := by
  unfold entries
  rw [List.filterMap_map, List.filterMap_map, List.filterMap_filter]
  congr 1
  funext line
  change said? true (.ok line) = _
  rw [said?_skip]
  by_cases refused : IsRefused line <;> simp [refused]

theorem none_not_mem_entries_skip (lines : List (List Char)) :
    none ∉ entries true (lines.map .ok) := by
  intro member
  rw [entries, List.filterMap_map] at member
  obtain ⟨line, -, stops⟩ := List.mem_filterMap.mp member
  change said? true (.ok line) = some none at stops
  rw [said?_skip] at stops
  split at stops
  · cases stops
  · rename_i notRefused
    exact notRefused (said?_eq_stop_iff.mp stops)

/-- Where some entry cannot be read, the records in front of the first such are leading. -/
theorem exists_leading {said : List (Option (Position Float))} (member : none ∈ said) :
    ∃ rest, said = (leading said).map some ++ none :: rest := by
  induction said with
  | nil => cases member
  | cons entry later ih =>
      cases entry with
      | none => exact ⟨later, rfl⟩
      | some record =>
          obtain ⟨rest, same⟩ := ih ((List.mem_cons.mp member).resolve_left nofun)
          exact ⟨rest, congrArg (some record :: ·) same⟩

theorem length_leading_le (before rest : List (Option (Position Float))) :
    (leading (before ++ none :: rest)).length ≤ before.countP Option.isSome := by
  induction before with
  | nil => exact Nat.le_refl _
  | cons entry before ih =>
      cases entry with
      | none => exact Nat.zero_le _
      | some record =>
          rw [List.cons_append, leading, List.length_cons, List.countP_cons_of_pos rfl]
          exact Nat.succ_le_succ ih

theorem countP_entries (lines : List (List Char)) :
    (entries false (lines.map .ok)).countP Option.isSome =
      lines.countP fun line => IsRecord line := by
  rw [entries, List.filterMap_map, List.countP_filterMap]
  refine List.countP_congr fun line _ => ?_
  exact isSome_said?_iff.trans decide_eq_true_iff.symm

/-- An entry that cannot be read comes from a line that is no record. -/
theorem exists_line_of_entries {before rest : List (Option (Position Float))}
    (said : entries false (lines.map .ok) = before ++ none :: rest) :
    ∃ earlier line later, lines = earlier ++ line :: later ∧ IsRefused line ∧
      entries false (earlier.map .ok) = before := by
  unfold entries at said ⊢
  rw [List.filterMap_map] at said
  obtain ⟨first, second, rfl, firstSaid, secondSaid⟩ := List.filterMap_eq_append_iff.mp said
  obtain ⟨passed, line, later, rfl, silent, stops, -⟩ := List.filterMap_eq_cons_iff.mp secondSaid
  refine ⟨first ++ passed, line, later, (List.append_assoc _ _ _).symm,
    said?_eq_stop_iff.mp stops, ?_⟩
  rw [List.filterMap_map, List.filterMap_append, firstSaid,
    List.filterMap_eq_nil_iff.mpr silent, List.append_nil]

theorem entries_of_refused {earlier later : List (List Char)} (refused : IsRefused line) :
    entries false ((earlier ++ line :: later).map .ok) =
      entries false (earlier.map .ok) ++ none :: entries false (later.map .ok) := by
  unfold entries
  rw [List.map_append, List.filterMap_append, List.map_cons,
    List.filterMap_cons_some (said?_eq_stop_iff.mpr refused)]

/-- Reading ends at a line that is no record exactly where one comes before the limit. -/
theorem stops_iff (options : Options) (lines : List (List Char)) :
    none ∈ entries false (lines.map .ok) ∧
        ¬options.isFull (leading (entries false (lines.map .ok))).length = true ↔
      ∃ earlier line later, lines = earlier ++ line :: later ∧ IsRefused line ∧
        ¬options.isFull (earlier.countP fun line => IsRecord line) = true := by
  constructor
  · rintro ⟨member, below⟩
    obtain ⟨rest, said⟩ := exists_leading member
    obtain ⟨earlier, line, later, same, refused, front⟩ := exists_line_of_entries said
    refine ⟨earlier, line, later, same, refused, ?_⟩
    have counted : (leading (entries false (lines.map .ok))).length =
        earlier.countP fun line => IsRecord line := by
      rw [← countP_entries, front, List.countP_map]
      exact (List.countP_eq_length.mpr fun _ _ => rfl).symm
    exact counted ▸ below
  · rintro ⟨earlier, line, later, rfl, refused, below⟩
    rw [entries_of_refused refused]
    refine ⟨List.mem_append_right _ List.mem_cons_self, fun full => below ?_⟩
    rw [← countP_entries]
    exact isFull_mono full (length_leading_le _ _)

theorem map_ok_eq_append {lines : List (List Char)} {before rest : List SourceLine}
    {last : SourceLine} (same : lines.map .ok = before ++ last :: rest) :
    ∃ earlier line later, lines = earlier ++ line :: later ∧ before = earlier.map .ok ∧
      last = .ok line := by
  obtain ⟨earlier, others, rfl, rfl, behind⟩ := List.map_eq_append_iff.mp same
  obtain ⟨line, later, rfl, rfl, -⟩ := List.map_eq_cons_iff.mp behind
  exact ⟨earlier, line, later, rfl, rfl, rfl⟩

/-- A line that cannot be read, and that is not passed over, is no record. -/
theorem malformed_of_readLine {number : Nat} {read : Array (Position Float)} {error : LoadError}
    (failed : readLine false number read (.ok line) = .error error) :
    ∃ reason, IsRefused line ∧ (∀ place, Record.read line place = .error reason) ∧
      error = .malformed number reason := by
  unfold readLine at failed
  dsimp only at failed
  split at failed
  · cases failed
  · rename_i some
    rw [Record.read_trimEnd] at failed
    cases came : Record.read line read.size with
    | ok record =>
        rw [came] at failed
        cases failed
    | error reason =>
        rw [came] at failed
        cases failed
        refine ⟨reason, ⟨Bool.eq_false_iff.mpr some, _, reason, came⟩, fun place => ?_, rfl⟩
        exact Record.read_eq_error_iff.mpr (Record.read_eq_error_iff.mp came)

/-- Where malformed lines are not passed over, the first of them is named. -/
theorem malformed_of_collect {limit : Option Nat} {number : Nat} {error : LoadError}
    (failed : collect ⟨limit, false⟩ number #[] (lines.map .ok) = .error error) :
    ∃ before line rest reason, lines = before ++ line :: rest ∧
      (∀ earlier ∈ before, ¬IsRefused earlier) ∧ IsRefused line ∧
      (∀ place, Record.read line place = .error reason) ∧
      error = .malformed (number + before.length) reason := by
  obtain ⟨first, last, rest, next, same, came, below, cause⟩ := exists_line_of_collect failed
  obtain ⟨before, line, later, rfl, rfl, rfl⟩ := map_ok_eq_append same
  obtain ⟨reason, refused, fails, rfl⟩ := malformed_of_readLine cause
  obtain ⟨reached, rfl⟩ := (collect_eq_ok_iff (cut_nil _)).mp came
  refine ⟨before, line, later, reason, rfl, fun earlier member isRefused => ?_, refused, fails,
    ?_⟩
  · have stops : none ∈ entries false (before.map .ok) :=
      List.mem_filterMap.mpr
        ⟨_, List.mem_map_of_mem member, said?_eq_stop_iff.mpr isRefused⟩
    rw [size_numbered] at below
    exact Bool.eq_false_iff.mp below (isFull_cut (reached stops))
  · rw [List.length_map]

theorem tail_ofText (text : List Char) :
    (SourceLine.ofText text).tail = (Text.lines text).tail.map .ok :=
  List.map_tail.symm

/-- Where a line stands behind the first one, there is a first one. -/
theorem exists_header {before rest : List (List Char)}
    (same : lines.tail = before ++ line :: rest) :
    ∃ header, lines = header :: before ++ line :: rest := by
  cases lines with
  | nil => exact absurd same (List.append_ne_nil_of_right_ne_nil _ (List.cons_ne_nil _ _)).symm
  | cons header others => exact ⟨header, congrArg (header :: ·) same⟩

/-- The limit is not reached if every limit that is given lies above. -/
theorem not_isFull_iff {count : Nat} :
    ¬options.isFull count = true ↔ ∀ most, options.limit = some most → count < most := by
  rw [isFull_iff]
  constructor
  · intro notFull most given
    exact Nat.lt_of_not_le fun reached => notFull ⟨most, given, reached⟩
  · rintro under ⟨most, given, reached⟩
    exact Nat.not_le_of_lt (under most given) reached

/--
Malformed lines are passed over as if they did not stand in the text: with any limit, the
text is read like the one without them.  Where they are not passed over, reading fails
exactly if one of them comes before as many records as the limit allows, and the first of
them is named by its number in the text.
-/
theorem skipping_is_leaving_out (limit : Option Nat) (text : List Char) :
    (∃ dataset,
      load ⟨limit, true⟩ (SourceLine.ofBytes (SourceLine.encode text)) = .ok dataset ∧
      load ⟨limit, false⟩ (SourceLine.ofBytes (SourceLine.encode (withoutRefused text))) =
        .ok dataset) ∧
    ((∃ error,
        load ⟨limit, false⟩ (SourceLine.ofBytes (SourceLine.encode text)) = .error error) ↔
      ∃ header before line rest, Text.lines text = header :: before ++ line :: rest ∧
        IsRefused line ∧ ∀ most, limit = some most →
          before.countP (fun line => IsRecord line) < most) ∧
    ∀ error, load ⟨limit, false⟩ (SourceLine.ofBytes (SourceLine.encode text)) = .error error →
      ∃ header before line rest reason,
        Text.lines text = header :: before ++ line :: rest ∧
        (∀ earlier ∈ before, ¬IsRefused earlier) ∧ IsRefused line ∧
        (∀ place, Record.read line place = .error reason) ∧
        error = .malformed ((header :: before).length + 1) reason ∧
        error.message = s!"line {(header :: before).length + 1}: {reason.message}" := by
  simp only [SourceLine.ofBytes_encode]
  refine ⟨?_, ?_, fun error failed => ?_⟩
  · have passed := none_not_mem_entries_skip (Text.lines text).tail
    refine ⟨⟨numbered (Options.cut ⟨limit, true⟩
      (leading (entries true ((Text.lines text).tail.map .ok))))⟩, ?_, ?_⟩
    · rw [load_eq_ok_iff_leading, tail_ofText]
      exact ⟨fun stops => absurd stops passed, rfl⟩
    · rw [load_eq_ok_iff_leading, tail_ofText, tail_lines_withoutRefused]
      rw [entries_skip] at passed ⊢
      exact ⟨fun stops => absurd stops passed, rfl⟩
  · rw [exists_load_eq_error_iff, tail_ofText, stops_iff]
    constructor
    · rintro ⟨before, line, rest, same, refused, notFull⟩
      obtain ⟨header, whole⟩ := exists_header same
      exact ⟨header, before, line, rest, whole, refused, not_isFull_iff.mp notFull⟩
    · rintro ⟨header, before, line, rest, whole, refused, under⟩
      refine ⟨before, line, rest, ?_, refused, not_isFull_iff.mpr under⟩
      rw [whole]
      rfl
  · rw [load_eq_error_iff, tail_ofText] at failed
    obtain ⟨before, line, rest, reason, same, earlier, refused, fails, rfl⟩ :=
      malformed_of_collect failed
    obtain ⟨header, whole⟩ := exists_header same
    have number : 2 + before.length = (header :: before).length + 1 := by
      rw [List.length_cons]
      omega
    rw [number]
    exact ⟨header, before, line, rest, reason, whole, earlier, refused, fails, rfl, rfl⟩

/-- Rows of which one, behind a blank one, is no record. -/
def brokenRows : List Char :=
  "id\n7,,,2008-02-02 13:30:49,,,39.9,116.4\n \n7,noon\n8,,,2008-02-02 13:31:49,,,-90,180".toList

theorem skipping_is_leaving_out_broken :
    (∃ dataset,
      load ⟨none, true⟩ (SourceLine.ofBytes (SourceLine.encode brokenRows)) = .ok dataset ∧
      load ⟨none, false⟩ (SourceLine.ofBytes (SourceLine.encode (withoutRefused brokenRows))) =
        .ok dataset ∧
      dataset.positions.toList.map Position.id = ["7-0", "8-1"]) ∧
    ∃ error,
      load ⟨none, false⟩ (SourceLine.ofBytes (SourceLine.encode brokenRows)) = .error error ∧
      error.message = "line 4: missing timestamp (column 4)" := by
  obtain ⟨⟨dataset, skipped, leftOut⟩, fails, -⟩ := skipping_is_leaving_out none brokenRows
  have refused : Record.IsRefused "7,noon".toList := by decide +kernel
  have lines : Text.lines brokenRows =
      "id".toList :: ["7,,,2008-02-02 13:30:49,,,39.9,116.4".toList, [' ']] ++
        "7,noon".toList :: ["8,,,2008-02-02 13:31:49,,,-90,180".toList] := by
    decide +kernel
  obtain ⟨error, failed⟩ := fails.mpr ⟨_, _, _, _, lines, refused, nofun⟩
  refine ⟨⟨dataset, skipped, leftOut, ?_⟩, error, failed, ?_⟩
  · have ids : (load ⟨none, true⟩ (SourceLine.ofBytes (SourceLine.encode brokenRows))).toOption.map
        (fun dataset => dataset.positions.toList.map Position.id) = some ["7-0", "8-1"] := by
      decide +kernel
    rw [skipped] at ids
    exact Option.some.inj ids
  · have said : (match load ⟨none, false⟩ (SourceLine.ofBytes (SourceLine.encode brokenRows)) with
        | .error error => some error.message
        | .ok _ => none) = some "line 4: missing timestamp (column 4)" := by
      decide +kernel
    rw [failed] at said
    exact Option.some.inj said

end Dataset

end SpatialWorkload
