import SpatialWorkload.Proofs.Dataset.Lines
import SpatialWorkload.Proofs.Run.Prepare
import SpatialWorkload.Proofs.Text.Trim

/-!
# Records apart from their places

What a line says does not depend on where it stands; its place is only appended to the raw
identity.  So a loaded dataset is given by the records of its lines in order, those up to the
limit, each with its place, and a file can be read if no line that cannot be read comes
before the limit is reached.
-/

namespace SpatialWorkload

def Position.numbered {α : Type} (position : Position α) (place : Nat) : Position α :=
  { position with id := s!"{position.id}-{place}" }

namespace Record

/-- What columns say, wherever their line stands. -/
def ofColumns (columns : List (List Char)) : Except RecordError (Position Float) := do
  let raw ← field columns .id
  let timestamp ← readTimestamp (← field columns .timestamp)
  let latitude ← readCoordinate .latitude 90 (← field columns .latitude)
  let longitude ← readCoordinate .longitude 180 (← field columns .longitude)
  return ⟨String.ofList raw, latitude, longitude, timestamp⟩

theorem getElem?_of_field {columns : List (List Char)} {column : Column} {text : List Char}
    (found : field columns column = .ok text) : columns[column.index]? = some text := by
  unfold field at found
  split at found
  · rename_i there
    cases found
    exact there
  · cases found

/-- What is read of columns, each field found where it stands. -/
theorem exists_fields {columns : List (List Char)} {record : Position Float}
    (came : ofColumns columns = .ok record) :
    ∃ (text : Column → List Char) (timestamp : Timestamp) (latitude longitude : Float),
      (∀ column, field columns column = .ok (text column)) ∧
      readTimestamp (text .timestamp) = .ok timestamp ∧
      readCoordinate .latitude 90 (text .latitude) = .ok latitude ∧
      readCoordinate .longitude 180 (text .longitude) = .ok longitude ∧
      record = ⟨String.ofList (text .id), latitude, longitude, timestamp⟩ := by
  obtain ⟨raw, idThere, came⟩ := Workload.ok_of_bind came
  obtain ⟨stampText, stampThere, came⟩ := Workload.ok_of_bind came
  obtain ⟨stamp, timed, came⟩ := Workload.ok_of_bind came
  obtain ⟨latitudeText, latitudeThere, came⟩ := Workload.ok_of_bind came
  obtain ⟨latitude, northSouth, came⟩ := Workload.ok_of_bind came
  obtain ⟨longitudeText, longitudeThere, came⟩ := Workload.ok_of_bind came
  obtain ⟨longitude, eastWest, came⟩ := Workload.ok_of_bind came
  cases came
  refine ⟨fun column => column.casesOn raw stampText latitudeText longitudeText, stamp, latitude,
    longitude, fun column => ?_, timed, northSouth, eastWest, rfl⟩
  cases column with
  | id => exact idThere
  | timestamp => exact stampThere
  | latitude => exact latitudeThere
  | longitude => exact longitudeThere

theorem read_eq (line : List Char) (place : Nat) :
    read line place = (ofColumns (columns line)).map (·.numbered place) := by
  change _ = (fun position => position.numbered place) <$> ofColumns (columns line)
  simp only [ofColumns, map_bind, map_pure]
  rfl

theorem exists_ofColumns_of_read {line : List Char} {place : Nat} {position : Position Float}
    (reads : read line place = .ok position) :
    ∃ record, ofColumns (columns line) = .ok record ∧ position = record.numbered place := by
  rw [read_eq] at reads
  cases came : ofColumns (columns line) with
  | error reason =>
      rw [came] at reads
      cases reads
  | ok record =>
      rw [came] at reads
      exact ⟨record, rfl, (Except.ok.inj reads).symm⟩

theorem columns_append_right (line : List Char) {blank : List Char}
    (behind : Text.isBlankText blank = true) : columns (line ++ blank) = columns line := by
  have absent : ',' ∉ blank := fun member => by
    have comma := Text.isBlankText_iff.mp behind ',' member
    cases comma
  obtain ⟨before, last, pieces, longer⟩ := Text.splitAt_append_of_not_mem line absent
  rw [columns, columns, pieces, longer, List.map_append, List.map_append, List.map_singleton,
    List.map_singleton, Text.trim_append_right last behind]

theorem columns_trimEnd (line : List Char) : columns (Text.trimEnd line) = columns line := by
  obtain ⟨blank, behind, same⟩ := Text.exists_trimEnd line
  conv => rhs; rw [← same, columns_append_right _ behind]

theorem read_trimEnd (line : List Char) (place : Nat) :
    read (Text.trimEnd line) place = read line place := by
  rw [read_eq, read_eq, columns_trimEnd]

end Record

namespace Dataset

variable {options : Options} {skipMalformed : Bool} {number : Nat}
  {records : List (Position Float)} {lines : List SourceLine}

/-- What a line that is not passed over says: a record, or nothing that can be read. -/
def said? (skipMalformed : Bool) : SourceLine → Option (Option (Position Float))
  | .error _ => some none
  | .ok text =>
      if Text.isBlankText text then none
      else
        match Record.ofColumns (Record.columns text) with
        | .ok record => some (some record)
        | .error _ => if skipMalformed then none else some none

def entries (skipMalformed : Bool) (lines : List SourceLine) : List (Option (Position Float)) :=
  lines.filterMap (said? skipMalformed)

/-- The records in front of the first entry that cannot be read. -/
def leading : List (Option (Position Float)) → List (Position Float)
  | [] => []
  | none :: _ => []
  | some record :: entries => record :: leading entries

def numbered (records : List (Position Float)) : Array (Position Float) :=
  (records.mapIdx fun place record => record.numbered place).toArray

theorem size_numbered (records : List (Position Float)) :
    (numbered records).size = records.length :=
  List.length_mapIdx

theorem getElem?_numbered (records : List (Position Float)) (place : Nat) :
    (numbered records)[place]? = records[place]?.map (·.numbered place) := by
  rw [numbered, List.getElem?_toArray, List.getElem?_mapIdx]

theorem numbered_concat (records : List (Position Float)) (record : Position Float) :
    numbered (records ++ [record]) =
      (numbered records).push (record.numbered records.length) := by
  unfold numbered
  rw [List.mapIdx_concat, List.push_toArray]

def Options.cut (options : Options) (records : List (Position Float)) : List (Position Float) :=
  match options.limit with
  | none => records
  | some limit => records.take limit

theorem isPrefix_cut (options : Options) (records : List (Position Float)) :
    options.cut records <+: records := by
  unfold Options.cut
  split
  · exact List.prefix_refl _
  · exact List.take_prefix _ _

theorem length_cut_le {limit : Nat} (given : options.limit = some limit)
    (records : List (Position Float)) : (options.cut records).length ≤ limit := by
  unfold Options.cut
  rw [given]
  exact List.length_take_le _ _

theorem cut_nil (options : Options) : options.cut [] = [] :=
  List.prefix_nil.mp (isPrefix_cut options [])

/-- No more is read where there is a limit and it is reached. -/
theorem isFull_iff {count : Nat} :
    options.isFull count = true ↔ ∃ limit, options.limit = some limit ∧ limit ≤ count := by
  unfold Options.isFull
  simp only [Option.any_eq_true, decide_eq_true_eq]

theorem isFull_mono {few many : Nat} (full : options.isFull few = true) (le : few ≤ many) :
    options.isFull many = true := by
  obtain ⟨limit, given, reached⟩ := isFull_iff.mp full
  exact isFull_iff.mpr ⟨limit, given, Nat.le_trans reached le⟩

theorem cut_of_isFull (full : options.isFull records.length = true)
    (within : options.cut records = records) (more : List (Position Float)) :
    options.cut (records ++ more) = records := by
  obtain ⟨limit, given, reached⟩ := isFull_iff.mp full
  unfold Options.cut at within ⊢
  rw [given] at within ⊢
  dsimp only at within ⊢
  rw [List.take_append_of_le_length reached, within]

/-- The records up to a limit that they reach still reach it. -/
theorem isFull_cut {records : List (Position Float)}
    (full : options.isFull records.length = true) :
    options.isFull (options.cut records).length = true := by
  obtain ⟨limit, given, reached⟩ := isFull_iff.mp full
  refine isFull_iff.mpr ⟨limit, given, ?_⟩
  rw [Options.cut, given]
  exact Nat.le_of_eq (List.length_take_of_le reached).symm

theorem cut_concat (notFull : ¬options.isFull records.length = true) (record : Position Float) :
    options.cut (records ++ [record]) = records ++ [record] := by
  unfold Options.cut
  cases given : options.limit with
  | none => rfl
  | some limit =>
      refine List.take_of_length_le ?_
      rw [List.length_append]
      exact Nat.lt_of_not_le fun reached => notFull (isFull_iff.mpr ⟨limit, given, reached⟩)

/-- A line is passed over, adds its record, or cannot be read. -/
theorem readLine_numbered (skipMalformed : Bool) (number : Nat)
    (records : List (Position Float)) (line : SourceLine) :
    (said? skipMalformed line = none ∧
      readLine skipMalformed number (numbered records) line = .ok (numbered records)) ∨
    (∃ record, said? skipMalformed line = some (some record) ∧
      readLine skipMalformed number (numbered records) line =
        .ok (numbered (records ++ [record]))) ∨
    (∃ error, said? skipMalformed line = some none ∧
      readLine skipMalformed number (numbered records) line = .error error) := by
  cases line with
  | error fault => exact Or.inr (Or.inr ⟨_, rfl, rfl⟩)
  | ok text =>
      simp only [said?, readLine, Record.read_eq, Record.columns_trimEnd, size_numbered]
      split
      · exact Or.inl ⟨rfl, rfl⟩
      · cases Record.ofColumns (Record.columns text) with
        | ok record =>
            refine Or.inr (Or.inl ⟨record, rfl, ?_⟩)
            rw [numbered_concat]
            rfl
        | error reason =>
            cases skipMalformed with
            | true => exact Or.inl ⟨rfl, rfl⟩
            | false => exact Or.inr (Or.inr ⟨_, rfl, rfl⟩)

/--
Reading on comes to an end where every entry is a record or the limit is reached before the
first that is none, and then it adds the records in front of it up to the limit.
-/
theorem collect_eq_ok_iff {all : Array (Position Float)}
    (within : options.cut records = records) :
    collect options number (numbered records) lines = .ok all ↔
      (none ∈ entries options.skipMalformed lines →
        options.isFull
          (records ++ leading (entries options.skipMalformed lines)).length = true) ∧
      all = numbered (options.cut (records ++ leading (entries options.skipMalformed lines))) := by
  induction lines generalizing number records with
  | nil =>
      rw [collect, entries, List.filterMap_nil, leading, List.append_nil, within]
      exact ⟨fun came => ⟨fun member => absurd member List.not_mem_nil, (Except.ok.inj came).symm⟩,
        fun given => given.2 ▸ rfl⟩
  | cons line rest ih =>
      rw [collect_cons, size_numbered]
      by_cases full : options.isFull records.length = true
      · rw [if_pos full, cut_of_isFull full within]
        have reached (more : List (Position Float)) :
            options.isFull (records ++ more).length = true :=
          isFull_mono full (List.length_append ▸ Nat.le_add_right _ _)
        exact ⟨fun came => ⟨fun _ => reached _, (Except.ok.inj came).symm⟩,
          fun given => given.2 ▸ rfl⟩
      · rw [if_neg full]
        rcases readLine_numbered options.skipMalformed number records line with
          ⟨passed, came⟩ | ⟨record, added, came⟩ | ⟨error, stops, came⟩
        · have same : entries options.skipMalformed (line :: rest) =
              entries options.skipMalformed rest :=
            List.filterMap_cons_none passed
          rw [came, same]
          exact ih within
        · have next : entries options.skipMalformed (line :: rest) =
              some record :: entries options.skipMalformed rest :=
            List.filterMap_cons_some added
          have later : none ∈ some record :: entries options.skipMalformed rest ↔
              none ∈ entries options.skipMalformed rest :=
            List.mem_cons.trans (or_iff_right (Option.some_ne_none record).symm)
          rw [came, next, leading, later, List.append_cons records record (leading _)]
          exact ih (cut_concat full record)
        · have next : entries options.skipMalformed (line :: rest) =
              none :: entries options.skipMalformed rest :=
            List.filterMap_cons_some stops
          rw [came, next, leading, List.append_nil]
          constructor
          · intro came
            cases came
          · exact fun given => absurd (given.1 List.mem_cons_self) full

/-- What is read of lines is given by what they say, one after the other. -/
theorem load_eq_ok_iff_leading {dataset : Dataset} :
    load options lines = .ok dataset ↔
      (none ∈ entries options.skipMalformed lines.tail →
        options.isFull (leading (entries options.skipMalformed lines.tail)).length = true) ∧
      dataset.positions =
        numbered (options.cut (leading (entries options.skipMalformed lines.tail))) := by
  rw [load_eq_ok_iff]
  exact collect_eq_ok_iff (cut_nil options)

/-- Reading fails where an entry cannot be read and the limit is not reached before it. -/
theorem exists_load_eq_error_iff :
    (∃ error, load options lines = .error error) ↔
      none ∈ entries options.skipMalformed lines.tail ∧
        ¬options.isFull (leading (entries options.skipMalformed lines.tail)).length = true := by
  rw [← Classical.not_imp]
  constructor
  · rintro ⟨error, failed⟩ reached
    have came : load options lines = .ok ⟨_⟩ := load_eq_ok_iff_leading.mpr ⟨reached, rfl⟩
    rw [failed] at came
    cases came
  · intro stops
    cases came : load options lines with
    | error error => exact ⟨error, rfl⟩
    | ok dataset => exact absurd (load_eq_ok_iff_leading.mp came).1 stops

/-- Lines that say the same are read alike. -/
theorem load_congr {other : List SourceLine} {dataset : Dataset}
    (same : entries options.skipMalformed lines.tail = entries options.skipMalformed other.tail) :
    load options lines = .ok dataset ↔ load options other = .ok dataset := by
  rw [load_eq_ok_iff_leading, load_eq_ok_iff_leading, same]

end Dataset

end SpatialWorkload
