/-!
# Association lists

Maps from names to values as lists of pairs with distinct names, in the order in which the
names were first bound.
-/

namespace SpatialWorkload.Association

variable {β : Type}

/-- Replaces the value of a name in place, or adds the name at the end. -/
def set (name : String) (value : β) : List (String × β) → List (String × β)
  | [] => [(name, value)]
  | (known, old) :: rest =>
      if known = name then (name, value) :: rest else (known, old) :: set name value rest

/-- Only the bound name changes. -/
theorem lookup_set (name other : String) (value : β) (entries : List (String × β)) :
    (set name value entries).lookup other =
      if other = name then some value else entries.lookup other := by
  induction entries with
  | nil =>
      by_cases equal : other = name
      · simp [set, equal]
      · have differs : (other == name) = false := by simp [equal]
        simp [set, List.lookup_cons, differs, equal]
  | cons entry rest ih =>
      obtain ⟨known, old⟩ := entry
      by_cases equal : other = known
      · subst equal
        by_cases found : other = name <;> simp [set, found]
      · have differs : (other == known) = false := by simp [equal]
        by_cases found : known = name
        · subst found
          simp [set, List.lookup_cons, differs, equal]
        · simp [set, List.lookup_cons, differs, found, ih]

/-- Without a name, every other name keeps its value. -/
theorem lookup_filter_ne (name other : String) (entries : List (String × β)) :
    (entries.filter fun entry => entry.1 != name).lookup other =
      if other = name then none else entries.lookup other := by
  induction entries with
  | nil => simp
  | cons entry rest ih =>
      obtain ⟨known, value⟩ := entry
      by_cases equal : other = known
      · subst equal
        by_cases found : other = name
        · rw [List.filter_cons_of_neg (by simp [found]), ih, if_pos found, if_pos found]
        · simp [found]
      · have differs : (other == known) = false := by simp [equal]
        by_cases found : known = name
        · rw [List.filter_cons_of_neg (by simp [found]), ih, List.lookup_cons, differs]
        · rw [List.filter_cons_of_pos (by simp [found]), List.lookup_cons, differs, ih,
            List.lookup_cons, differs]

theorem map_fst_set (name : String) (value : β) (entries : List (String × β)) :
    (set name value entries).map Prod.fst =
      if name ∈ entries.map Prod.fst then entries.map Prod.fst
      else entries.map Prod.fst ++ [name] := by
  induction entries with
  | nil => rfl
  | cons entry rest ih =>
      obtain ⟨known, old⟩ := entry
      by_cases found : known = name
      · simp [set, found]
      · have other : name ≠ known := fun equal => found equal.symm
        by_cases later : name ∈ rest.map Prod.fst
        · rw [if_pos later] at ih
          simp [set, found, ih, List.mem_cons, later]
        · rw [if_neg later] at ih
          simp [set, found, ih, List.mem_cons, later, other]

/-- Of two values the later one stays. -/
theorem set_set (name : String) (old value : β) (entries : List (String × β)) :
    set name value (set name old entries) = set name value entries := by
  induction entries with
  | nil => simp [set]
  | cons entry rest ih =>
      obtain ⟨known, older⟩ := entry
      by_cases found : known = name
      · simp [set, found]
      · simp [set, found, ih]

/-- A name that is bound can be bound anew before or after another one. -/
theorem set_comm {name other : String} (differs : other ≠ name) (value new : β)
    {entries : List (String × β)} (bound : name ∈ entries.map Prod.fst) :
    set name value (set other new entries) = set other new (set name value entries) := by
  induction entries with
  | nil => cases bound
  | cons entry rest ih =>
      obtain ⟨known, old⟩ := entry
      by_cases found : known = name
      · subst found
        simp [set, differs.symm]
      · have later : name ∈ rest.map Prod.fst :=
          (List.mem_cons.mp bound).resolve_left fun same => found same.symm
        by_cases same : known = other
        · subst same
          simp [set, differs]
        · simp [set, found, same, ih later]

end SpatialWorkload.Association
