import SpatialWorkload.Document.Position
import SpatialWorkload.Proofs.Dataset.Texts
import SpatialWorkload.Proofs.Timestamp.Calendar
import SpatialWorkload.Proofs.Timestamp.Written

/-!
# Documents read back

A document tells the place of its position as it is, and the time in milliseconds.  So a
record of a loaded dataset comes back under its key unless its second is leap, which no number
of milliseconds tells; then it comes back with the minute after, or not at all where the
calendar ends.
-/

namespace SpatialWorkload

namespace Record

/-- The time of a record is that of its line, which tells of whole seconds. -/
theorem nanosecond_of_read {line : List Char} {place : Nat} {position : Position Float}
    (came : read line place = .ok position) : position.timestamp.fields.nanosecond = 0 := by
  obtain ⟨record, columns, rfl⟩ := exists_ofColumns_of_read came
  obtain ⟨text, stamp, latitude, longitude, -, timed, -, -, rfl⟩ := exists_fields columns
  unfold readTimestamp at timed
  split at timed
  · rename_i told
    cases timed
    exact Timestamp.nanosecond_of_read (by decide) told
  · cases timed

end Record

namespace Dataset

theorem nanosecond_of_load {options : Options} {lines : List SourceLine} {dataset : Dataset}
    (loaded : load options lines = .ok dataset) {position : Position Float}
    (member : position ∈ dataset.positions) : position.timestamp.fields.nanosecond = 0 := by
  obtain ⟨place, there⟩ := Array.mem_iff_getElem?.mp member
  obtain ⟨below, -⟩ := Array.getElem?_eq_some_iff.mp there
  obtain ⟨text, found, -, same, came⟩ := exists_recordText loaded below
  cases Option.some.inj (there.symm.trans same)
  exact Record.nanosecond_of_read came

end Dataset

namespace Document

/-- All but the time of a position comes back as it was. -/
theorem toPosition_ofPosition (key : String) (position : Position Float) :
    toPosition (ofPosition key position) =
      (Timestamp.ofMillis? position.timestamp.toMillis).elim (.error (.badTime key))
        fun timestamp => .ok { position with id := key, timestamp } := by
  have identity : read DocumentValue.text? (ofPosition key position) "id" = .ok key := rfl
  have location : read DocumentValue.object? (ofPosition key position) "location" =
      .ok (ofPoint position.latitude position.longitude) := rfl
  have items : read DocumentValue.array? (ofPoint position.latitude position.longitude)
      "coordinates" = .ok [.double position.longitude, .double position.latitude] := rfl
  have time : read DocumentValue.millis? (ofPosition key position) "time_of_record" =
      .ok position.timestamp.toMillis := rfl
  simp only [toPosition, identity, location, items, time, coordinate, bind, Except.bind]
  cases Timestamp.ofMillis? position.timestamp.toMillis <;> rfl

variable {key : String} {position : Position Float}

theorem toPosition_ordinary (whole : position.timestamp.fields.nanosecond % 1000000 = 0)
    (ordinary : position.timestamp.fields.second < 60) :
    toPosition (ofPosition key position) = .ok { position with id := key } := by
  rw [toPosition_ofPosition, Timestamp.ofMillis?_toMillis _ whole, if_pos ordinary]
  rfl

theorem toPosition_leap (whole : position.timestamp.fields.nanosecond % 1000000 = 0)
    (leap : position.timestamp.fields.second = 60) :
    toPosition (ofPosition key position) =
      (Timestamp.ofFields? position.timestamp.fields.nextMinute).elim (.error (.badTime key))
        fun timestamp => .ok { position with id := key, timestamp } := by
  have notOrdinary : ¬position.timestamp.fields.second < 60 := Nat.not_lt.mpr leap.ge
  rw [toPosition_ofPosition, Timestamp.ofMillis?_toMillis _ whole, if_neg notOrdinary]

/--
Of a file that can be read, every record whose second is not leap comes back from its document
with its place and its time as they were, under the key that it was given.  One whose second is
leap comes back with the start of the minute after, if there is one in the calendar, and else
is refused for its time.
-/
theorem record_comes_back (options : Dataset.Options) (bytes : List UInt8) (dataset : Dataset)
    (came : Dataset.load options (SourceLine.ofBytes bytes) = .ok dataset) (key : String)
    (position : Position Float) (member : position ∈ dataset.positions) :
    let fields := position.timestamp.fields
    let back := toPosition (ofPosition key position)
    (fields.second < 60 ↔ back = .ok { position with id := key }) ∧
    (fields.second = 60 →
      (∀ next : Timestamp, next.fields = fields.nextMinute →
        back = .ok { position with id := key, timestamp := next }) ∧
      (¬fields.nextMinute.Names → back = .error (.badTime key)) ∧
      (fields.nextMinute.Names ↔ ¬(fields.year = 262142 ∧ fields.month = 12 ∧
        fields.day = 31 ∧ fields.hour = 23 ∧ fields.minute = 59))) := by
  intro fields back
  have whole : fields.nanosecond % 1000000 = 0 := by
    rw [Dataset.nanosecond_of_load came member]
  have seconds : fields.second ≤ 60 := position.timestamp.names.2.2.2.2.2.1
  have read (leap : fields.second = 60) : back =
      (Timestamp.ofFields? fields.nextMinute).elim (.error (.badTime key))
        fun timestamp => .ok { position with id := key, timestamp } :=
    toPosition_leap whole leap
  refine ⟨⟨toPosition_ordinary whole, ?_⟩, fun leap => ⟨?_, ?_, ?_⟩⟩
  · intro same
    by_contra notOrdinary
    have leap : fields.second = 60 := Nat.le_antisymm seconds (Nat.le_of_not_lt notOrdinary)
    rw [read leap] at same
    cases told : Timestamp.ofFields? fields.nextMinute with
    | none =>
        rw [told] at same
        cases same
    | some next =>
        rw [told] at same
        have stamp : next = position.timestamp :=
          congrArg Position.timestamp (Except.ok.inj same)
        have second : next.fields.second = 0 := by
          rw [Timestamp.fields_of_ofFields? told]
          exact (TimestampFields.seconds_nextMinute fields).1
        rw [stamp] at second
        exact absurd (leap.symm.trans second) (by decide)
  · intro next same
    rw [read leap, ← same, Timestamp.ofFields?_fields]
    rfl
  · intro ended
    rw [read leap, Timestamp.ofFields?, dif_neg ended]
    rfl
  · exact TimestampFields.names_nextMinute_iff position.timestamp.names

/-- Records of an ordinary second, of a leap second, and of the last one of the calendar. -/
def leapRows : List UInt8 :=
  ("id\n7,,,2008-02-02 13:30:49,,,39.9,116.4\n7,,,2008-02-02 13:30:60,,,39.9,116.4\n" ++
    "7,,,+262142-12-31 23:59:60,,,39.9,116.4").toUTF8.toList

theorem exists_leapRows :
    ∃ dataset, Dataset.load ⟨none, false⟩ (SourceLine.ofBytes leapRows) = .ok dataset ∧
      ∃ first second last, dataset.positions = #[first, second, last] ∧
        first.timestamp.fields = ⟨2008, 2, 2, 13, 30, 49, 0⟩ ∧
        second.timestamp.fields = ⟨2008, 2, 2, 13, 30, 60, 0⟩ ∧
        last.timestamp.fields = ⟨262142, 12, 31, 23, 59, 60, 0⟩ := by
  have judged : ((Dataset.load ⟨none, false⟩ (SourceLine.ofBytes leapRows)).toOption.any
      fun dataset => dataset.positions.toList.map (fun position => position.timestamp.fields) ==
        [⟨2008, 2, 2, 13, 30, 49, 0⟩, ⟨2008, 2, 2, 13, 30, 60, 0⟩,
          ⟨262142, 12, 31, 23, 59, 60, 0⟩]) = true := by
    decide +kernel
  obtain ⟨dataset, loaded, times⟩ := (Option.any_eq_true _ _).mp judged
  obtain ⟨first, rest, positions, firstTime, others⟩ :=
    List.map_eq_cons_iff.mp (beq_iff_eq.mp times)
  obtain ⟨second, rest, rfl, secondTime, others⟩ := List.map_eq_cons_iff.mp others
  obtain ⟨last, none, rfl, lastTime, ended⟩ := List.map_eq_cons_iff.mp others
  cases List.map_eq_nil_iff.mp ended
  exact ⟨dataset, Workload.eq_ok_of_toOption loaded, first, second, last,
    Array.toList_inj.mp positions, firstTime, secondTime, lastTime⟩

/-- The first comes back, the second is in the minute after, and the third is refused. -/
theorem record_comes_back_leap :
    ∃ dataset, Dataset.load ⟨none, false⟩ (SourceLine.ofBytes leapRows) = .ok dataset ∧
      ∃ first second last, dataset.positions = #[first, second, last] ∧
        toPosition (ofPosition "a" first) = .ok { first with id := "a" } ∧
        toPosition (ofPosition "b" second) = .ok { second with
          id := "b", timestamp := ⟨⟨2008, 2, 2, 13, 31, 0, 0⟩, by decide⟩ } ∧
        toPosition (ofPosition "c" last) = .error (.badTime "c") := by
  obtain ⟨dataset, loaded, first, second, last, positions, firstTime, secondTime, lastTime⟩ :=
    exists_leapRows
  have comesBack := record_comes_back ⟨none, false⟩ leapRows dataset loaded
  rw [positions] at comesBack
  refine ⟨dataset, loaded, first, second, last, positions, ?_, ?_, ?_⟩
  · apply (comesBack "a" first (by simp)).1.mp
    rw [firstTime]
    decide
  · have leap : second.timestamp.fields.second = 60 := by
      rw [secondTime]
    apply ((comesBack "b" second (by simp)).2 leap).1
    rw [secondTime]
    decide
  · have leap : last.timestamp.fields.second = 60 := by
      rw [lastTime]
    apply ((comesBack "c" last (by simp)).2 leap).2.1
    rw [lastTime]
    decide

/-- A record of a leap second comes back with another time. -/
theorem leap_second_is_not_told :
    ∃ dataset, Dataset.load ⟨none, false⟩ (SourceLine.ofBytes leapRows) = .ok dataset ∧
      ∃ position ∈ dataset.positions,
        position.timestamp.fields = ⟨2008, 2, 2, 13, 30, 60, 0⟩ ∧
        toPosition (ofPosition "7-1" position) ≠ .ok { position with id := "7-1" } := by
  obtain ⟨dataset, loaded, first, second, last, positions, -, time, -⟩ := exists_leapRows
  refine ⟨dataset, loaded, second, by simp [positions], time, ?_⟩
  intro same
  have whole : second.timestamp.fields.nanosecond % 1000000 = 0 := by
    rw [time]
    rfl
  have leap : second.timestamp.fields.second = 60 := by
    rw [time]
  have next : Timestamp.ofFields? second.timestamp.fields.nextMinute =
      some ⟨⟨2008, 2, 2, 13, 31, 0, 0⟩, by decide⟩ := by
    rw [time]
    decide
  rw [toPosition_leap whole leap, next] at same
  have stamp := congrArg Position.timestamp (Except.ok.inj same)
  rw [← stamp] at leap
  cases leap

end Document

end SpatialWorkload
