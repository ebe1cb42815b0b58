import SpatialWorkload.Proofs.Draw.Key
import SpatialWorkload.Proofs.Run.Prepare

/-!
# Keys before the first record

Every key lies between the first record and the newest acknowledged one, with one exception:
where the exponential law rounds the number of records between them up, a draw that equals
the rounded number is accepted, and the key lies before the first record.
-/

namespace SpatialWorkload.KeyChooser

/-- Words by which the way back is found longer than there are records on it. -/
def Overshoots (limit : UInt64) (words : Words) : KeyChooser → Prop
  | uniform _ _ => False
  | exponential start rate => Exceeds rate (limit - start) rejectionDraws words

/-- A way back that exceeds the span is as long as the span is when rounded. -/
theorem backFrom_of_exceeds {rate : Float} {span : UInt64} {draws : Nat} {words : Words}
    (exceeds : Exceeds rate span draws words) (limit : UInt64) :
    (backFrom rate limit span draws words).1 = limit - span.toFloat.toUInt64 := by
  obtain ⟨-, number, accepted, above⟩ := exceeds
  obtain ⟨offset, came, ⟨none, -⟩ | ⟨other, same, below, rfl⟩⟩ :=
    backFrom_cases rate limit span draws words
  · rw [none] at accepted
    cases accepted
  · rw [accepted] at same
    cases same
    have sign := Double.NotNegative.ofUInt64 span
    have equal : number.toUInt64 = span.toFloat.toUInt64 :=
      UInt64.le_antisymm (Double.toUInt64_mono (sign.of_le above) below)
        (Double.toUInt64_mono sign above)
    rw [came, equal]

theorem next_eq_none_iff (chooser : KeyChooser) (acknowledged : Option UInt64) (words : Words) :
    (chooser.next acknowledged words).1 = none ↔
      acknowledged = none ∨ ∃ limit, acknowledged = some limit ∧ limit < chooser.start := by
  cases acknowledged with
  | none => exact ⟨fun _ => Or.inl rfl, fun _ => rfl⟩
  | some limit =>
      constructor
      · intro nothing
        refine Or.inr ⟨limit, rfl, by_contra fun notBefore => ?_⟩
        unfold next at nothing
        dsimp only at nothing
        rw [if_neg notBefore] at nothing
        cases chooser <;> cases nothing
      · rintro (absent | ⟨other, same, before⟩)
        · cases absent
        · cases same
          exact next_eq_none (fun _ equal => Option.some.inj equal ▸ before) words

/--
No key is drawn exactly where no record of the range is acknowledged.  Otherwise there is
one, between the first record and the newest acknowledged one, unless the draws overshoot;
then the key is the newest record less the rounded number of records.  The uniform law
never overshoots and stays in its range, nor does the exponential one where the records
can be counted in 53 bits.
-/
theorem key_in_range_unless_overshoot (law : KeyLaw) (start count : UInt64)
    (chooser : KeyChooser) (made : ofLaw law start count = .ok chooser)
    (acknowledged : Option UInt64) (words : Words) :
    ((chooser.next acknowledged words).1 = none ↔
      acknowledged = none ∨ ∃ limit, acknowledged = some limit ∧ limit < start) ∧
    ∀ limit, acknowledged = some limit → start ≤ limit →
      ∃ key, (chooser.next acknowledged words).1 = some key ∧
        (start ≤ key ∧ key ≤ limit ↔ ¬chooser.Overshoots limit words) ∧
        (chooser.Overshoots limit words →
          key = limit - (limit - start).toFloat.toUInt64) ∧
        ((limit - start).toNat < 9007199254740992 → ¬chooser.Overshoots limit words) ∧
        (law = .uniform → ¬chooser.Overshoots limit words ∧
          key.toNat < start.toNat + count.toNat) := by
  refine ⟨?_, ?_⟩
  · rw [next_eq_none_iff, (isOrdered_of_ofLaw made).2]
  · rintro limit rfl begun
    cases law with
    | uniform =>
        obtain ⟨finish, rfl, ordered, last⟩ := uniform_of_ofLaw made
        obtain ⟨key, drawn, low, high, within⟩ := next_uniform ordered begun words
        refine ⟨key, drawn, ⟨fun _ => nofun, fun _ => ⟨low, high⟩⟩, nofun, fun _ => nofun,
          fun _ => ⟨nofun, ?_⟩⟩
        exact Nat.lt_of_le_of_lt (UInt64.le_iff_toNat_le.mp within) last
    | exponential percentile fraction =>
        obtain ⟨rate, rfl⟩ := exponential_of_ofLaw made
        exact ⟨_, next_exponential begun rate words,
          backFrom_mem_iff begun rate rejectionDraws words,
          fun exceeds => backFrom_of_exceeds exceeds limit,
          fun short exceeds => Double.not_roundsUp_of_lt short exceeds.1, nofun⟩

/-- Ten records, the first of them at fifty, and the law that is used where none is given. -/
theorem key_in_range_unless_overshoot_ten_records :
    ∃ chooser key, ofLaw (.exponential 95 0.8571428571) 50 10 = .ok chooser ∧
      (chooser.next (some 59) (.ofSeed 11)).1 = some key ∧ 50 ≤ key ∧ key ≤ 59 := by
  have accepted : (ofLaw (.exponential 95 0.8571428571) 50 10).toOption.isSome = true := by
    decide +kernel
  obtain ⟨chooser, found⟩ := Option.isSome_iff_exists.mp accepted
  have made := Workload.eq_ok_of_toOption found
  obtain ⟨-, draws⟩ := key_in_range_unless_overshoot _ 50 10 chooser made (some 59) (.ofSeed 11)
  obtain ⟨key, drawn, inside, -, short, -⟩ := draws 59 rfl (by decide)
  exact ⟨chooser, key, made, drawn, inside.mpr (short (by decide))⟩

/-- A range of `2 ^ 60` records from one on, of which as many as a draw goes back are there. -/
theorem key_before_first_record :
    ∃ chooser, ofLaw (.exponential 50 1) 1 1152921504606846976 = .ok chooser ∧
      (chooser.next (some 400085134499787264) ⟨fun _ => 576460752303423489, 0⟩).1 = some 0 ∧
      ¬(1 : UInt64) ≤ 0 := by
  have judged : ((ofLaw (.exponential 50 1) 1 1152921504606846976).toOption.any fun chooser =>
      (chooser.next (some 400085134499787264) ⟨fun _ => 576460752303423489, 0⟩).1 == some 0) =
        true := by
    decide +kernel
  obtain ⟨chooser, found, drawn⟩ := (Option.any_eq_true _ _).mp judged
  exact ⟨chooser, Workload.eq_ok_of_toOption found, beq_iff_eq.mp drawn, by decide⟩

end SpatialWorkload.KeyChooser
