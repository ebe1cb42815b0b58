import Mathlib.Algebra.BigOperators.Group.List.Basic
import Mathlib.Tactic.Abel

/-!
# One place of a list

What stands in a list after one of its places has been written, and what that does to a count
and to a sum over all places.
-/

namespace SpatialWorkload

variable {α : Type} {places : List α} {id : Nat}

/-- After a write a place holds what was written, or it is another place and as it was. -/
theorem getElem?_set_cases {other : Nat} {new found : α}
    (there : (places.set id new)[other]? = some found) :
    other = id ∧ found = new ∨ other ≠ id ∧ places[other]? = some found := by
  by_cases same : other = id
  · subst same
    have inside : other < places.length := by
      have := (List.getElem?_eq_some_iff.mp there).1
      rwa [List.length_set] at this
    rw [List.getElem?_set_self inside] at there
    exact Or.inl ⟨rfl, (Option.some.inj there).symm⟩
  · rw [List.getElem?_set_ne (Ne.symm same)] at there
    exact Or.inr ⟨same, there⟩

/-- Writing one place of a list moves a count by what stood there and what stands there now. -/
theorem countP_set_add {old : α} (found : places[id]? = some old) (new : α) (p : α → Bool) :
    (places.set id new).countP p + (p old).toNat = places.countP p + (p new).toNat := by
  obtain ⟨inside, value⟩ := List.getElem?_eq_some_iff.mp found
  have old_le : (p old).toNat ≤ places.countP p := by
    cases holds : p old with
    | false => exact Nat.zero_le _
    | true => exact List.countP_pos_iff.mpr ⟨old, List.mem_of_getElem? found, holds⟩
  rw [List.countP_set inside, value]
  generalize p old = held at old_le ⊢
  cases held <;> cases p new <;>
    simp only [Bool.toNat_false, Bool.toNat_true, Bool.false_eq_true, reduceIte] at old_le ⊢ <;>
    omega

/-- Writing one place of a list moves a sum by what stood there and what stands there now. -/
theorem sum_set_add {M : Type} [AddCommMonoid M] {old : α} (found : places[id]? = some old)
    (new : α) (weight : α → M) :
    ((places.set id new).map weight).sum + weight old =
      (places.map weight).sum + weight new := by
  induction places generalizing id with
  | nil => cases found
  | cons first rest ih =>
      cases id with
      | zero =>
          cases found
          simp only [List.set_cons_zero, List.map_cons, List.sum_cons]
          abel
      | succ id =>
          simp only [List.set_cons_succ, List.map_cons, List.sum_cons]
          rw [add_assoc, ih found, add_assoc]

end SpatialWorkload
