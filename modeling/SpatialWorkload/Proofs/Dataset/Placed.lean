import SpatialWorkload.Proofs.Dataset
import SpatialWorkload.Proofs.Dataset.Records
import SpatialWorkload.Proofs.Scalar.Order

/-!
# Records of a loaded dataset

Every record of a dataset was read from a line of the file, one behind the other, and lies
on the earth.  Its identity is the first column of that line with the place of the record
behind it, whatever dashes and digits stand in the column; so no two identities are equal.
-/

namespace SpatialWorkload

open Double

structure Position.IsOnEarth (position : Position Float) : Prop where
  latitude_isFinite : position.latitude.isFinite = true
  latitude_mem : -90 ≤ position.latitude ∧ position.latitude ≤ 90
  longitude_isFinite : position.longitude.isFinite = true
  longitude_mem : -180 ≤ position.longitude ∧ position.longitude ≤ 180

namespace Record

theorem coordinate_of_readCoordinate {column : Column} {bound value : Float} {text : List Char}
    (came : readCoordinate column bound text = .ok value) :
    value.isFinite = true ∧ ¬bound < value.abs := by
  unfold readCoordinate at came
  split at came
  · cases came
  · split at came
    · rename_i within
      cases came
      exact within
    · cases came

/-- What columns give that can be read. -/
theorem ofColumns_spec {columns : List (List Char)} {record : Position Float}
    (came : ofColumns columns = .ok record) :
    record.IsOnEarth ∧ ∃ raw, columns[0]? = some raw ∧ record.id = String.ofList raw := by
  obtain ⟨text, timestamp, latitude, longitude, there, -, northSouth, eastWest, rfl⟩ :=
    exists_fields came
  obtain ⟨latitudeFinite, latitudeWithin⟩ := coordinate_of_readCoordinate northSouth
  obtain ⟨longitudeFinite, longitudeWithin⟩ := coordinate_of_readCoordinate eastWest
  refine ⟨⟨latitudeFinite, ?_, longitudeFinite, ?_⟩, text .id,
    getElem?_of_field (there .id), rfl⟩
  · exact mem_of_not_lt_abs latitudeFinite latitudeWithin (.ofNat 90) nofun rfl
  · exact mem_of_not_lt_abs longitudeFinite longitudeWithin (.ofNat 180) nofun rfl

end Record

namespace Dataset

variable {options : Options} {skipMalformed : Bool} {lines : List SourceLine}

/-- The records in front of the first line that cannot be read come from lines in order. -/
theorem exists_rows (skipMalformed : Bool) (lines : List SourceLine) :
    ∃ rows : List (List Char), (rows.map Except.ok).Sublist lines ∧
      rows.map (fun row => Record.ofColumns (Record.columns row)) =
        (leading (entries skipMalformed lines)).map Except.ok := by
  induction lines with
  | nil => exact ⟨[], List.Sublist.slnil, rfl⟩
  | cons line rest ih =>
      obtain ⟨rows, inside, records⟩ := ih
      cases entry : said? skipMalformed line with
      | none =>
          refine ⟨rows, inside.cons line, ?_⟩
          rw [entries, List.filterMap_cons_none entry]
          exact records
      | some said =>
          rw [entries, List.filterMap_cons_some entry]
          cases said with
          | none => exact ⟨[], List.nil_sublist _, rfl⟩
          | some record =>
              obtain ⟨text, rfl, came⟩ : ∃ text, line = .ok text ∧
                  Record.ofColumns (Record.columns text) = .ok record := by
                unfold said? at entry
                split at entry
                · cases entry
                · rename_i text
                  refine ⟨text, rfl, ?_⟩
                  split at entry
                  · cases entry
                  · split at entry
                    · rename_i came
                      rw [came, Option.some.inj (Option.some.inj entry)]
                    · split at entry <;> cases entry
              refine ⟨text :: rows, inside.cons_cons _, ?_⟩
              rw [List.map_cons, leading, List.map_cons, came]
              exact congrArg (Except.ok record :: ·) records

/--
Of a file that can be read, no two records share an identity, and there are no more than the
limit.  The records come from lines behind the header in order: the one at a place is what
its line is read as, its identity the first column, a dash and the place, and it lies within
the bounds of both coordinates.
-/
theorem records_are_placed (options : Options) (bytes : List UInt8) (dataset : Dataset)
    (came : load options (SourceLine.ofBytes bytes) = .ok dataset) :
    (dataset.positions.toList.map Position.id).Nodup ∧
    (∀ limit, options.limit = some limit → dataset.size ≤ limit) ∧
    (∀ position ∈ dataset.positions, position.IsOnEarth) ∧
    ∃ rows : List (List Char), (rows.map Except.ok).Sublist (SourceLine.ofBytes bytes).tail ∧
      rows.length = dataset.size ∧
      ∀ (place : Nat) (row : List Char) (position : Position Float),
        rows[place]? = some row → dataset.positions[place]? = some position →
        Record.read row place = .ok position ∧
        ∃ raw, (Record.columns row)[0]? = some raw ∧
          position.id = s!"{String.ofList raw}-{place}" := by
  have distinct := nodup_of_load came
  obtain ⟨-, loaded⟩ := load_eq_ok_iff_leading.mp came
  obtain ⟨all, inside, records⟩ := exists_rows options.skipMalformed
    (SourceLine.ofBytes bytes).tail
  generalize leading (entries options.skipMalformed (SourceLine.ofBytes bytes).tail) = every
    at loaded records
  obtain ⟨later, split⟩ := isPrefix_cut options every
  generalize kept : options.cut every = first at loaded split
  have size : dataset.size = first.length := by
    rw [size, loaded, size_numbered]
  have rows : (all.take first.length).map (fun row => Record.ofColumns (Record.columns row)) =
      first.map Except.ok := by
    rw [List.map_take, records, ← split, List.map_append,
      List.take_left' (List.length_map _)]
  have counted : (all.take first.length).length = first.length := by
    simpa only [List.length_map] using congrArg List.length rows
  -- A place of the dataset holds the record that its row says, numbered.
  have recorded {place : Nat} {position : Position Float}
      (there : dataset.positions[place]? = some position) :
      ∃ record, first[place]? = some record ∧ position = record.numbered place := by
    rw [loaded, getElem?_numbered] at there
    obtain ⟨record, found, same⟩ := Option.map_eq_some_iff.mp there
    exact ⟨record, found, same.symm⟩
  have said {place : Nat} {record : Position Float} (found : first[place]? = some record) :
      ∃ row, (all.take first.length)[place]? = some row ∧
        Record.ofColumns (Record.columns row) = .ok record := by
    have columns := congrArg (·[place]?) rows
    simp only [List.getElem?_map, found, Option.map_some] at columns
    exact Option.map_eq_some_iff.mp columns
  refine ⟨distinct, fun limit given => ?_, fun position member => ?_, all.take first.length,
    ?_, counted.trans size.symm, fun place row position rowThere there => ?_⟩
  · rw [size, ← kept]
    exact length_cut_le given every
  · obtain ⟨place, there⟩ := Array.mem_iff_getElem?.mp member
    obtain ⟨record, found, rfl⟩ := recorded there
    obtain ⟨row, -, came⟩ := said found
    obtain ⟨latitude, south, longitude, west⟩ := (Record.ofColumns_spec came).1
    exact ⟨latitude, south, longitude, west⟩
  · rw [List.map_take]
    exact (List.take_sublist _ _).trans inside
  · obtain ⟨record, found, rfl⟩ := recorded there
    obtain ⟨other, otherThere, came⟩ := said found
    cases Option.some.inj (rowThere.symm.trans otherThere)
    obtain ⟨raw, column, id⟩ := (Record.ofColumns_spec came).2
    refine ⟨?_, raw, column, ?_⟩
    · rw [Record.read_eq, came]
      rfl
    · rw [Position.numbered, id]

/-- A raw identity that ends in a place, and one that with its place becomes the same. -/
def dashedRows : List UInt8 :=
  "id\n7-1,,,2008-02-02 13:30:49,,,39.9,116.4\n7,,,2008-02-02 13:31:49,,,-90,180".toUTF8.toList

theorem records_are_placed_dashed :
    ∃ dataset, load ⟨some 2, true⟩ (SourceLine.ofBytes dashedRows) = .ok dataset ∧
      dataset.positions.toList.map Position.id = ["7-1-0", "7-1"] ∧
      (dataset.positions.toList.map Position.id).Nodup ∧ dataset.size ≤ 2 ∧
      ∀ position ∈ dataset.positions, position.IsOnEarth := by
  have judged : ((load ⟨some 2, true⟩ (SourceLine.ofBytes dashedRows)).toOption.any
      fun dataset => dataset.positions.toList.map Position.id == ["7-1-0", "7-1"]) = true := by
    decide +kernel
  obtain ⟨dataset, loaded, ids⟩ := (Option.any_eq_true _ _).mp judged
  replace loaded := Workload.eq_ok_of_toOption loaded
  obtain ⟨distinct, within, earth, -⟩ := records_are_placed ⟨some 2, true⟩ dashedRows dataset loaded
  exact ⟨dataset, loaded, beq_iff_eq.mp ids, distinct, within 2 rfl, earth⟩

end Dataset

end SpatialWorkload
