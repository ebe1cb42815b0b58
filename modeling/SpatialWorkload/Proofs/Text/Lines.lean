import Mathlib.Data.List.TakeWhile
import SpatialWorkload.Text.Blank

/-!
# Pieces and lines of a text

A text is split at a separator into pieces, and joined again from them.  Its lines are the
pieces at its line feeds, without a carriage return at their ends and without an empty piece
at the end of the text; to whoever passes over empty lines and does not mind the carriage
returns, lines and pieces say the same.
-/

namespace SpatialWorkload.Text

variable {separator : Char} {text before rest : List Char} {β : Type}

/-! ## Up to the first separator -/

theorem bne_of_not_mem (absent : separator ∉ text) : ∀ c ∈ text, (c != separator) = true :=
  fun _ member => bne_iff_ne.mpr fun same => absent (same ▸ member)

theorem takeWhile_append_cons (absent : separator ∉ before) (rest : List Char) :
    (before ++ separator :: rest).takeWhile (· != separator) = before := by
  rw [List.takeWhile_append_of_pos (bne_of_not_mem absent),
    List.takeWhile_cons_of_neg (by simp), List.append_nil]

theorem dropWhile_append_cons (absent : separator ∉ before) (rest : List Char) :
    (before ++ separator :: rest).dropWhile (· != separator) = separator :: rest := by
  rw [List.dropWhile_append_of_pos (bne_of_not_mem absent),
    List.dropWhile_cons_of_neg (by simp)]

theorem dropWhile_of_not_mem (absent : separator ∉ text) :
    text.dropWhile (· != separator) = [] :=
  List.dropWhile_eq_nil_iff.mpr (bne_of_not_mem absent)

/-! ## Pieces -/

theorem splitAt_eq_splitOn (separator : Char) (text : List Char) :
    splitAt separator text = text.splitOn separator := by
  induction text with
  | nil => rfl
  | cons c rest ih =>
      unfold List.splitOn at ih ⊢
      rw [splitAt, List.splitOnP_cons_eq_if_modifyHead, ih]
      by_cases same : c = separator
      · rw [if_pos same, if_pos (beq_iff_eq.mpr same)]
      · rw [if_neg same, if_neg (mt beq_iff_eq.mp same)]
        cases pieces : List.splitOnP (· == separator) rest with
        | nil => exact absurd pieces (List.splitOnP_ne_nil _ _)
        | cons first others => rfl

theorem splitAt_ne_nil (separator : Char) (text : List Char) : splitAt separator text ≠ [] := by
  rw [splitAt_eq_splitOn]
  exact List.splitOnP_ne_nil _ _

/-- A separator ends a piece, whatever stands around it. -/
theorem splitAt_append (separator : Char) (text rest : List Char) :
    splitAt separator (text ++ separator :: rest) =
      splitAt separator text ++ splitAt separator rest := by
  simp only [splitAt_eq_splitOn]
  exact List.splitOnP_append_cons _ _ (beq_self_eq_true separator)

theorem splitAt_of_not_mem (absent : separator ∉ text) : splitAt separator text = [text] := by
  rw [splitAt_eq_splitOn]
  refine List.splitOnP_eq_singleton fun c member => beq_eq_false_iff_ne.mpr ?_
  rintro rfl
  exact absent member

/-- What holds no separator and is put at the end belongs to the last piece. -/
theorem splitOn_append_of_not_mem {α : Type} [BEq α] [LawfulBEq α] {separator : α}
    (text : List α) {rest : List α} (absent : separator ∉ rest) :
    ∃ before last, text.splitOn separator = before ++ [last] ∧
      (text ++ rest).splitOn separator = before ++ [last ++ rest] := by
  induction text with
  | nil =>
      refine ⟨[], [], rfl, List.splitOnP_eq_singleton fun c member => beq_eq_false_iff_ne.mpr ?_⟩
      rintro rfl
      exact absent member
  | cons c text ih =>
      obtain ⟨before, last, pieces, longer⟩ := ih
      unfold List.splitOn at pieces longer ⊢
      rw [List.cons_append, List.splitOnP_cons_eq_if_modifyHead,
        List.splitOnP_cons_eq_if_modifyHead, pieces, longer]
      split
      · exact ⟨[] :: before, last, rfl, rfl⟩
      · cases before with
        | nil => exact ⟨[], c :: last, rfl, rfl⟩
        | cons first before => exact ⟨(c :: first) :: before, last, rfl, rfl⟩

theorem splitAt_append_of_not_mem (text : List Char) (absent : separator ∉ rest) :
    ∃ before last, splitAt separator text = before ++ [last] ∧
      splitAt separator (text ++ rest) = before ++ [last ++ rest] := by
  simp only [splitAt_eq_splitOn]
  exact splitOn_append_of_not_mem text absent

/-- Pieces joined by a separator are the pieces of what they are joined to. -/
theorem splitAt_intercalate {pieces : List (List Char)} (some : pieces ≠ [])
    (absent : ∀ piece ∈ pieces, separator ∉ piece) :
    splitAt separator ([separator].intercalate pieces) = pieces := by
  rw [splitAt_eq_splitOn]
  exact List.splitOn_intercalate separator absent some

def chomp (line : List Char) : List Char :=
  if line.getLast? = some '\r' then line.dropLast else line

/-- A carriage return at the end is all that may be taken away. -/
theorem chomp_cases (line : List Char) : chomp line = line ∨ chomp line ++ ['\r'] = line := by
  unfold chomp
  split
  · rename_i ends
    obtain ⟨before, rfl⟩ := List.getLast?_eq_some_iff.mp ends
    exact Or.inr (congrArg (· ++ ['\r']) List.dropLast_concat)
  · exact Or.inl rfl

/-- The lines of a text whose last piece is known. -/
theorem lines_of_splitAt {before : List (List Char)} {last : List Char}
    (pieces : splitAt '\n' text = before ++ [last]) :
    lines text = before.map chomp ++ if last = [] then [] else [last] := by
  unfold lines
  simp only [pieces, List.dropLast_concat, List.getLast?_concat]
  cases last with
  | nil => exact (List.append_nil _).symm
  | cons c last => rfl

theorem exists_last_piece (separator : Char) (text : List Char) :
    ∃ before last, splitAt separator text = before ++ [last] := by
  obtain ⟨before, last, pieces⟩ :=
    (List.eq_nil_or_concat (splitAt separator text)).resolve_left (splitAt_ne_nil _ _)
  exact ⟨before, last, pieces.trans List.concat_eq_append⟩

/-- The lines of a text that ends with a line feed stay when it is written on. -/
theorem lines_append (text rest : List Char) :
    lines (text ++ '\n' :: rest) = (splitAt '\n' text).map chomp ++ lines rest := by
  obtain ⟨before, last, pieces⟩ := exists_last_piece '\n' rest
  have all : splitAt '\n' (text ++ '\n' :: rest) = (splitAt '\n' text ++ before) ++ [last] := by
    rw [splitAt_append, pieces, List.append_assoc]
  rw [lines_of_splitAt all, lines_of_splitAt pieces, List.map_append, List.append_assoc]

/-- Who passes over empty lines and carriage returns at their ends may read the pieces. -/
theorem filterMap_lines {f : List Char → Option β} (empty : f [] = none)
    (chomped : ∀ line, f (line ++ ['\r']) = f line) (text : List Char) :
    (lines text).filterMap f = (splitAt '\n' text).filterMap f := by
  obtain ⟨before, last, pieces⟩ := exists_last_piece '\n' text
  have same (line : List Char) : f (chomp line) = f line := by
    rcases chomp_cases line with equal | longer
    · rw [equal]
    · rw [← chomped, longer]
  rw [lines_of_splitAt pieces, pieces, List.filterMap_append, List.filterMap_append,
    List.filterMap_map, funext (f := f ∘ chomp) same]
  congr 1
  split
  · rename_i none
    rw [none, List.filterMap_cons_none empty]
  · rfl

/-- The lines of a text as they stand in it, each with the line feed that ends it. -/
def rawLines : List Char → List (List Char)
  | [] => []
  | c :: rest =>
      if c = '\n' then [c] :: rawLines rest
      else
        match rawLines rest with
        | [] => [[c]]
        | first :: others => (c :: first) :: others

def unended (line : List Char) : List Char :=
  if line.getLast? = some '\n' then chomp line.dropLast else line

/-- Texts that stand one behind the other as the lines of one text. -/
inductive AreRawLines : List (List Char) → Prop where
  | none : AreRawLines []
  | last {line : List Char} (absent : '\n' ∉ line) (some : line ≠ []) : AreRawLines [line]
  | ended {line : List Char} {more : List (List Char)} (absent : '\n' ∉ line)
      (others : AreRawLines more) : AreRawLines ((line ++ ['\n']) :: more)

theorem areRawLines_rawLines (text : List Char) : AreRawLines (rawLines text) := by
  induction text with
  | nil => exact .none
  | cons c rest ih =>
      unfold rawLines
      split
      · rename_i feed
        exact feed ▸ AreRawLines.ended List.not_mem_nil ih
      · rename_i other
        have before {line : List Char} (absent : '\n' ∉ line) : '\n' ∉ c :: line := fun member =>
          (List.mem_cons.mp member).elim (fun same => other same.symm) absent
        generalize rawLines rest = lines at ih
        cases ih with
        | none => exact .last (before List.not_mem_nil) (List.cons_ne_nil _ _)
        | last absent some => exact .last (before absent) (List.cons_ne_nil _ _)
        | ended absent others => exact .ended (before absent) others

theorem flatten_rawLines (text : List Char) : (rawLines text).flatten = text := by
  induction text with
  | nil => rfl
  | cons c rest ih =>
      unfold rawLines
      split
      · rw [List.flatten_cons, ih]
        rfl
      · cases raw : rawLines rest with
        | nil =>
            rw [raw] at ih
            exact congrArg (c :: ·) ih
        | cons first others =>
            rw [raw] at ih
            exact congrArg (c :: ·) ih

/-- Lines can be left out. -/
theorem AreRawLines.sublist {raw kept : List (List Char)} (lines : AreRawLines raw)
    (inside : kept.Sublist raw) : AreRawLines kept := by
  induction lines generalizing kept with
  | none =>
      rw [List.sublist_nil.mp inside]
      exact .none
  | last absent some =>
      cases inside with
      | cons _ rest =>
          rw [List.sublist_nil.mp rest]
          exact .none
      | cons_cons _ rest =>
          rw [List.sublist_nil.mp rest]
          exact .last absent some
  | ended absent others ih =>
      cases inside with
      | cons _ rest => exact ih rest
      | cons_cons _ rest => exact .ended absent (ih rest)

/-- The lines of a text that is put together from lines. -/
theorem AreRawLines.lines_flatten {raw : List (List Char)} (are : AreRawLines raw) :
    lines raw.flatten = raw.map unended := by
  induction are with
  | none => rfl
  | last absent some =>
      rename_i line
      have whole : unended line = line :=
        if_neg fun ends => absent (List.mem_of_getLast? ends)
      have pieces : splitAt '\n' [line].flatten = [] ++ [line] := by
        rw [List.flatten_singleton]
        exact splitAt_of_not_mem absent
      rw [lines_of_splitAt pieces, if_neg some, List.map_singleton, whole]
      rfl
  | ended absent others ih =>
      rename_i line more
      have closed : unended (line ++ ['\n']) = chomp line := by
        rw [unended, List.getLast?_concat, if_pos rfl, List.dropLast_concat]
      rw [List.flatten_cons, List.append_assoc, List.singleton_append, lines_append,
        splitAt_of_not_mem absent, ih]
      exact congrArg (· :: more.map unended) closed.symm

theorem map_unended_rawLines (text : List Char) : (rawLines text).map unended = lines text := by
  rw [← (areRawLines_rawLines text).lines_flatten, flatten_rawLines]

end SpatialWorkload.Text
