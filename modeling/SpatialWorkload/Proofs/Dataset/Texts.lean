import SpatialWorkload.Proofs.Dataset.Lenient

/-!
# Record lines of a source

A source has as many records as it has lines that are records, wherever a limit may lie.  What
is loaded of it are the first of them, and only a limit keeps the others out.
-/

namespace SpatialWorkload

namespace Dataset

variable {options : Options} {lines : List SourceLine} {dataset : Dataset}

def recordText? : SourceLine → Option (List Char)
  | .ok text => if IsRecord text then some text else none
  | .error _ => none

/-- The lines of a source that are records, in their order, wherever a limit may lie. -/
def recordTexts (lines : List SourceLine) : List (List Char) :=
  lines.tail.filterMap recordText?

theorem isRecord_iff {text : List Char} :
    IsRecord text ↔ Text.isBlankText text = false ∧
      ∃ record, Record.ofColumns (Record.columns text) = .ok record := by
  rw [IsRecord, Record.isRefused_iff]
  refine and_congr_right fun notBlank => ?_
  cases Record.ofColumns (Record.columns text) with
  | ok record =>
      constructor
      · intro _
        exact ⟨record, rfl⟩
      · rintro - ⟨-, reason, same⟩
        cases same
  | error reason =>
      constructor
      · intro fine
        exact absurd ⟨notBlank, reason, rfl⟩ fine
      · rintro ⟨record, same⟩
        cases same

/-- What a line says is the record of its text, if it is one. -/
theorem join_said? (skipMalformed : Bool) (line : SourceLine) :
    ((said? skipMalformed line).join).map Except.ok =
      (recordText? line).map fun text => Record.ofColumns (Record.columns text) := by
  cases line with
  | error fault => rfl
  | ok text =>
      by_cases isRecord : IsRecord text
      · obtain ⟨notBlank, record, came⟩ := isRecord_iff.mp isRecord
        simp [recordText?, said?, isRecord, notBlank, came]
      · have refused := mt isRecord_iff.mpr isRecord
        cases notBlank : Text.isBlankText text with
        | true => simp [recordText?, said?, isRecord, notBlank]
        | false =>
            cases came : Record.ofColumns (Record.columns text) with
            | ok record => exact absurd ⟨notBlank, record, came⟩ refused
            | error reason =>
                cases skipMalformed <;> simp [recordText?, said?, isRecord, notBlank, came]

/-- The records of a source are those of its record lines, malformed lines passed over or not. -/
theorem reduceOption_entries (skipMalformed : Bool) (lines : List SourceLine) :
    (entries skipMalformed lines.tail).reduceOption.map Except.ok =
      (recordTexts lines).map fun text => Record.ofColumns (Record.columns text) := by
  unfold entries recordTexts List.reduceOption
  rw [List.filterMap_filterMap, List.map_filterMap, List.map_filterMap]
  refine List.filterMap_congr fun line _ => ?_
  rw [← join_said? skipMalformed line]
  cases said? skipMalformed line with
  | none => rfl
  | some said => cases said <;> rfl

theorem leading_isPrefix (said : List (Option (Position Float))) :
    leading said <+: said.reduceOption := by
  induction said with
  | nil => exact List.prefix_refl _
  | cons entry rest ih =>
      cases entry with
      | none => exact List.nil_prefix
      | some record => exact List.prefix_cons_inj record |>.mpr ih

theorem leading_of_not_mem {said : List (Option (Position Float))} (all : none ∉ said) :
    leading said = said.reduceOption := by
  induction said with
  | nil => rfl
  | cons entry rest ih =>
      cases entry with
      | none => exact absurd List.mem_cons_self all
      | some record =>
          exact congrArg (record :: ·) (ih fun member => all (List.mem_cons_of_mem _ member))

theorem length_recordTexts (skipMalformed : Bool) (lines : List SourceLine) :
    (recordTexts lines).length = (entries skipMalformed lines.tail).reduceOption.length := by
  have same := congrArg List.length (reduceOption_entries skipMalformed lines)
  rw [List.length_map, List.length_map] at same
  exact same.symm

/-- What is loaded of a source are its first records. -/
theorem exists_first_records (loaded : load options lines = .ok dataset) :
    ∃ first, first <+: (entries options.skipMalformed lines.tail).reduceOption ∧
      dataset.positions = numbered first ∧
      first = options.cut (leading (entries options.skipMalformed lines.tail)) :=
  ⟨_, (isPrefix_cut _ _).trans (leading_isPrefix _), (load_eq_ok_iff_leading.mp loaded).2, rfl⟩

theorem size_le_length_recordTexts (loaded : load options lines = .ok dataset) :
    dataset.size ≤ (recordTexts lines).length := by
  obtain ⟨first, inFront, positions, -⟩ := exists_first_records loaded
  rw [length_recordTexts options.skipMalformed, size, positions, size_numbered]
  exact inFront.length_le

/-- Only the limit keeps records of a source out of what is loaded. -/
theorem le_size_of_load (loaded : load options lines = .ok dataset) {count : Nat}
    (there : count ≤ (recordTexts lines).length)
    (under : ∀ limit, options.limit = some limit → count ≤ limit) : count ≤ dataset.size := by
  obtain ⟨first, -, positions, cut⟩ := exists_first_records loaded
  rw [size, positions, size_numbered, cut]
  by_cases stops : none ∈ entries options.skipMalformed lines.tail
  · obtain ⟨limit, given, reached⟩ :=
      isFull_iff.mp (isFull_cut ((load_eq_ok_iff_leading.mp loaded).1 stops))
    exact Nat.le_trans (under limit given) reached
  · rw [length_recordTexts options.skipMalformed] at there
    rw [leading_of_not_mem stops, Options.cut]
    cases given : options.limit with
    | none => exact there
    | some limit => exact List.length_take ▸ Nat.le_min.mpr ⟨under limit given, there⟩

/-- At each place of a loaded dataset is the record of that number in the source. -/
theorem exists_recordText (loaded : load options lines = .ok dataset) {place : Nat}
    (below : place < dataset.size) :
    ∃ text position, (recordTexts lines)[place]? = some text ∧
      dataset.positions[place]? = some position ∧ Record.read text place = .ok position := by
  obtain ⟨first, inFront, positions, -⟩ := exists_first_records loaded
  rw [size, positions, size_numbered] at below
  obtain ⟨record, found⟩ : ∃ record, first[place]? = some record :=
    ⟨_, List.getElem?_eq_getElem below⟩
  have there : (entries options.skipMalformed lines.tail).reduceOption[place]? = some record := by
    obtain ⟨rest, whole⟩ := inFront
    rw [← whole, List.getElem?_append_left below, found]
  have said := congrArg (·[place]?) (reduceOption_entries options.skipMalformed lines)
  simp only [List.getElem?_map, there, Option.map_some] at said
  obtain ⟨text, textThere, came⟩ := Option.map_eq_some_iff.mp said.symm
  refine ⟨text, record.numbered place, textThere, ?_, ?_⟩
  · rw [positions, getElem?_numbered, found]
    rfl
  · rw [Record.read_eq, came]
    rfl

end Dataset

end SpatialWorkload
