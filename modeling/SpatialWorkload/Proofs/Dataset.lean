import SpatialWorkload.Proofs.Dataset.Lines
import SpatialWorkload.Proofs.Run.Prepare

/-!
# Identities of a loaded dataset

A raw identity may repeat along a trajectory, and may hold dashes of its own.  What stands
behind the last dash of the identity that a record is given is its place in the dataset, in
decimal digits and nothing else, and so no two records of a loaded dataset share one.
-/

namespace SpatialWorkload

namespace Record

def placeText (id : String) : List Char :=
  (id.toList.reverse.takeWhile (· != '-')).reverse

theorem placeText_append (raw : String) (place : Nat) :
    placeText s!"{raw}-{place}" = Nat.toDigits 10 place := by
  have letters : s!"{raw}-{place}".toList =
      raw.toList ++ '-' :: Nat.toDigits 10 place := by
    simp [toString]
  have noDash : '-' ∉ (Nat.toDigits 10 place).reverse := by
    intro member
    have digit := Nat.isDigit_of_mem_toDigits (by decide) (Nat.le_refl 10)
      (List.mem_reverse.mp member)
    cases digit
  have reversed : (raw.toList ++ '-' :: Nat.toDigits 10 place).reverse =
      (Nat.toDigits 10 place).reverse ++ '-' :: raw.toList.reverse := by
    simp
  rw [placeText, letters, reversed, Text.takeWhile_append_cons noDash, List.reverse_reverse]

/-- A record that was read carries its place. -/
theorem placeText_of_read {line : List Char} {place : Nat} {position : Position Float}
    (came : read line place = .ok position) : placeText position.id = Nat.toDigits 10 place := by
  obtain ⟨raw, -, came⟩ := Workload.ok_of_bind came
  obtain ⟨stampText, -, came⟩ := Workload.ok_of_bind came
  obtain ⟨stamp, -, came⟩ := Workload.ok_of_bind came
  obtain ⟨latitudeText, -, came⟩ := Workload.ok_of_bind came
  obtain ⟨latitude, -, came⟩ := Workload.ok_of_bind came
  obtain ⟨longitudeText, -, came⟩ := Workload.ok_of_bind came
  obtain ⟨longitude, -, came⟩ := Workload.ok_of_bind came
  cases came
  exact placeText_append _ place

end Record

namespace Dataset

def IsNumbered (positions : Array (Position Float)) : Prop :=
  positions.toList.map (fun position => Record.placeText position.id) =
    (List.range positions.size).map (Nat.toDigits 10)

theorem IsNumbered.push {positions : Array (Position Float)} (numbered : IsNumbered positions)
    {position : Position Float}
    (next : Record.placeText position.id = Nat.toDigits 10 positions.size) :
    IsNumbered (positions.push position) := by
  rw [IsNumbered, Array.toList_push, Array.size_push, List.map_append, numbered,
    List.range_succ, List.map_append, List.map_singleton, List.map_singleton, next]

/-- Different places are written differently. -/
theorem IsNumbered.nodup {positions : Array (Position Float)} (numbered : IsNumbered positions) :
    (positions.toList.map Position.id).Nodup := by
  refine List.Nodup.of_map Record.placeText ?_
  rw [List.map_map, Function.comp_def, numbered]
  refine List.nodup_range.map fun first second same => ?_
  calc
    first = Nat.ofDigitChars 10 (Nat.toDigits 10 first) 0 := Nat.ofDigitChars_ten_toDigits.symm
    _ = Nat.ofDigitChars 10 (Nat.toDigits 10 second) 0 := by rw [same]
    _ = second := Nat.ofDigitChars_ten_toDigits

/-- Reading on keeps the records numbered, whatever is passed over. -/
theorem isNumbered_collect {options : Options} {lines : List SourceLine} {number : Nat}
    {positions all : Array (Position Float)} (numbered : IsNumbered positions)
    (came : collect options number positions lines = .ok all) : IsNumbered all := by
  induction lines generalizing number positions with
  | nil =>
      cases came
      exact numbered
  | cons line rest ih =>
      rw [collect_cons] at came
      split at came
      · cases came
        exact numbered
      · cases added : readLine options.skipMalformed number positions line with
        | error error =>
            rw [added] at came
            cases came
        | ok next =>
            rw [added] at came
            refine ih ?_ came
            rcases readLine_cases added with rfl | ⟨text, position, -, recorded, rfl⟩
            · exact numbered
            · exact numbered.push (Record.placeText_of_read recorded)

/-- No two records of a loaded dataset carry one identity. -/
theorem nodup_of_load {options : Options} {lines : List SourceLine} {dataset : Dataset}
    (came : load options lines = .ok dataset) :
    (dataset.positions.toList.map Position.id).Nodup := by
  have first : IsNumbered #[] := rfl
  exact (isNumbered_collect first (load_eq_ok_iff.mp came)).nodup

end Dataset

end SpatialWorkload
