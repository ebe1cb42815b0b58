import SpatialWorkload.Text.Blank

/-!
# Trimmed texts

A text is what is left of it when it is trimmed, with white space before and behind.  White
space at an end says nothing: put there or taken away, it leaves the trimmed text as it is.
-/

namespace SpatialWorkload.Text

variable {text blank : List Char}

theorem isBlankText_iff : isBlankText text = true ↔ ∀ c ∈ text, isBlank c = true :=
  List.all_eq_true

theorem isBlankText_append (text blank : List Char) :
    isBlankText (text ++ blank) = (isBlankText text && isBlankText blank) :=
  List.all_append

theorem trimStart_append_left (before : isBlankText blank = true) (text : List Char) :
    trimStart (blank ++ text) = trimStart text :=
  List.dropWhile_append_of_pos (isBlankText_iff.mp before)

theorem trimEnd_append_right (text : List Char) (behind : isBlankText blank = true) :
    trimEnd (text ++ blank) = trimEnd text := by
  have reversed : ∀ c ∈ blank.reverse, isBlank c = true := fun c member =>
    isBlankText_iff.mp behind c (List.mem_reverse.mp member)
  rw [trimEnd, List.reverse_append, List.dropWhile_append_of_pos reversed]
  rfl

theorem trim_append_left (before : isBlankText blank = true) (text : List Char) :
    trim (blank ++ text) = trim text :=
  congrArg trimEnd (trimStart_append_left before text)

theorem trim_of_isBlankText (all : isBlankText text = true) : trim text = [] := by
  rw [trim, trimStart_eq_nil.mpr all]
  rfl

/-- A text that is not blank goes on where it is trimmed at its start. -/
theorem trimStart_append (some : isBlankText text = false) (rest : List Char) :
    trimStart (text ++ rest) = trimStart text ++ rest := by
  have left : trimStart text ≠ [] := fun none => by
    rw [trimStart_eq_nil.mp none] at some
    cases some
  unfold trimStart at left ⊢
  rw [List.dropWhile_append, if_neg (mt List.isEmpty_iff.mp left)]

/-- Nothing in front of a character that is not blank goes where the end is trimmed. -/
theorem trimEnd_append_cons (text rest : List Char) {c : Char} (some : isBlank c = false) :
    trimEnd (text ++ c :: rest) = text ++ c :: trimEnd rest := by
  have stops : (c :: text.reverse).dropWhile isBlank = c :: text.reverse :=
    List.dropWhile_cons_of_neg (Bool.eq_false_iff.mp some)
  rw [trimEnd, List.reverse_append, List.reverse_cons, List.append_assoc, List.singleton_append,
    List.dropWhile_append, stops, trimEnd]
  split
  · rename_i none
    rw [List.isEmpty_iff.mp none, List.reverse_cons, List.reverse_reverse]
    rfl
  · rw [List.reverse_append, List.reverse_cons, List.reverse_reverse, List.append_assoc]
    rfl

theorem trim_append_right (text : List Char) (behind : isBlankText blank = true) :
    trim (text ++ blank) = trim text := by
  cases all : isBlankText text with
  | true =>
      have both : isBlankText (text ++ blank) = true := by
        rw [isBlankText_append, all, behind]
        rfl
      rw [trim_of_isBlankText both, trim_of_isBlankText all]
  | false =>
      rw [trim, trimStart_append all blank, trimEnd_append_right _ behind]
      rfl

/-- White space around a text goes when it is trimmed. -/
theorem trim_padded {before behind : List Char} (left : isBlankText before = true)
    (text : List Char) (right : isBlankText behind = true) :
    trim (before ++ text ++ behind) = trim text := by
  rw [trim_append_right _ right, trim_append_left left]

theorem exists_trimStart (text : List Char) :
    ∃ blank, isBlankText blank = true ∧ blank ++ trimStart text = text :=
  ⟨text.takeWhile isBlank, List.all_takeWhile, List.takeWhile_append_dropWhile⟩

theorem exists_trimEnd (text : List Char) :
    ∃ blank, isBlankText blank = true ∧ trimEnd text ++ blank = text := by
  refine ⟨(text.reverse.takeWhile isBlank).reverse, ?_, ?_⟩
  · exact List.all_reverse.trans List.all_takeWhile
  · rw [trimEnd, ← List.reverse_append, List.takeWhile_append_dropWhile, List.reverse_reverse]

/-- What is trimmed stands in the text, between white space. -/
theorem exists_trim (text : List Char) :
    ∃ before behind, isBlankText before = true ∧ isBlankText behind = true ∧
      before ++ trim text ++ behind = text := by
  obtain ⟨before, left, started⟩ := exists_trimStart text
  obtain ⟨behind, right, ended⟩ := exists_trimEnd (trimStart text)
  refine ⟨before, behind, left, right, ?_⟩
  rw [List.append_assoc, trim, ended, started]

theorem trim_trimStart (text : List Char) : trim (trimStart text) = trim text := by
  obtain ⟨blank, before, same⟩ := exists_trimStart text
  conv => rhs; rw [← same, trim_append_left before]

theorem trim_trimEnd (text : List Char) : trim (trimEnd text) = trim text := by
  obtain ⟨blank, behind, same⟩ := exists_trimEnd text
  conv => rhs; rw [← same, trim_append_right _ behind]

@[simp]
theorem trim_trim (text : List Char) : trim (trim text) = trim text := by
  obtain ⟨before, behind, left, right, same⟩ := exists_trim text
  conv => rhs; rw [← same, trim_padded left _ right]

theorem trim_eq_nil_iff : trim text = [] ↔ isBlankText text = true := by
  refine ⟨fun none => ?_, trim_of_isBlankText⟩
  obtain ⟨before, behind, left, right, same⟩ := exists_trim text
  rw [← same, none, isBlankText_append, isBlankText_append, left, right]
  rfl

theorem head?_trim (some : isBlankText text = false) :
    (trim text).head? = (trimStart text).head? := by
  obtain ⟨blank, -, same⟩ := exists_trimEnd (trimStart text)
  have left : trim text ≠ [] := fun none => by
    rw [trim_eq_nil_iff.mp none] at some
    cases some
  obtain ⟨c, rest, first⟩ := List.exists_cons_of_ne_nil left
  rw [← same]
  change (trim text).head? = (trim text ++ blank).head?
  rw [first]
  rfl

theorem isBlankText_trim (text : List Char) : isBlankText (trim text) = isBlankText text := by
  rw [Bool.eq_iff_iff, ← trim_eq_nil_iff, ← trim_eq_nil_iff, trim_trim]

end SpatialWorkload.Text
