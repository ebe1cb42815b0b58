import SpatialWorkload.Proofs.Config.Sound

/-!
# Words and signs

A word is a run of letters, digits and underscores that no further one of them adjoins; a
character that belongs to no word is a sign.  A text is cut into its words and signs in one
way only.
-/

namespace SpatialWorkload

def IsWordLetter (c : Char) : Prop :=
  IsLetter c ∨ IsDigit c ∨ c = '_'

instance (c : Char) : Decidable (IsLetter c) :=
  decidable_of_iff _ (isAsciiLetter_iff c)

instance (c : Char) : Decidable (IsDigit c) :=
  decidable_of_iff _ (isDigit_iff c)

instance (c : Char) : Decidable (IsWordLetter c) :=
  inferInstanceAs (Decidable (_ ∨ _ ∨ _))

inductive Token where
  | word (letters : List Char)
  | sign (c : Char)
  deriving DecidableEq, Repr

namespace Token

variable {text run : List Char} {tokens : List Token}

def sign? : Token → Option Char
  | word _ => none
  | sign c => some c

/-- A run in front of tokens becomes one with the word that they start with. -/
def join (run : List Char) : List Token → List Token
  | word letters :: rest => word (run ++ letters) :: rest
  | others => word run :: others

def cut : List Char → List Token
  | [] => []
  | c :: text => if IsWordLetter c then join [c] (cut text) else sign c :: cut text

/-- The tokens of a text, by the longest runs that it has. -/
inductive IsCut : List Char → List Token → Prop where
  | nil : IsCut [] []
  | sign {c : Char} {text : List Char} {tokens : List Token} (alone : ¬IsWordLetter c)
      (rest : IsCut text tokens) : IsCut (c :: text) (sign c :: tokens)
  | word {run text : List Char} {tokens : List Token} (some : run ≠ [])
      (letters : ∀ c ∈ run, IsWordLetter c) (ends : ∀ c ∈ text.head?, ¬IsWordLetter c)
      (rest : IsCut text tokens) : IsCut (run ++ text) (word run :: tokens)

theorem join_append (first second : List Char) (tokens : List Token) :
    join (first ++ second) tokens = join first (join second tokens) := by
  cases tokens with
  | nil => rfl
  | cons token rest =>
      cases token with
      | word letters => exact congrArg (word · :: rest) (List.append_assoc ..)
      | sign c => rfl

/-- Letters in front of a text are one run, and nothing behind the first word changes. -/
theorem cut_append (text : List Char) (some : run ≠ []) (letters : ∀ c ∈ run, IsWordLetter c) :
    cut (run ++ text) = join run (cut text) := by
  induction run with
  | nil => exact absurd rfl some
  | cons c run ih =>
      obtain ⟨first, others⟩ := List.forall_mem_cons.mp letters
      rw [List.cons_append, cut, if_pos first]
      by_cases last : run = []
      · rw [last, List.nil_append]
      · rw [ih last others]
        exact (join_append [c] run (cut text)).symm

theorem join_cut (run : List Char) (ends : ∀ c ∈ text.head?, ¬IsWordLetter c) :
    join run (cut text) = word run :: cut text := by
  cases text with
  | nil => rfl
  | cons c text =>
      rw [cut, if_neg (ends c rfl)]
      rfl

theorem isCut_cut (text : List Char) : IsCut text (cut text) := by
  induction text with
  | nil => exact .nil
  | cons c text ih =>
      rw [cut]
      split
      case isFalse alone => exact .sign alone ih
      case isTrue letter =>
        have single : ∀ first ∈ [c], IsWordLetter first := List.forall_mem_singleton.mpr letter
        generalize cut text = tokens at ih
        cases ih with
        | nil => exact .word (List.cons_ne_nil c []) single (by simp) .nil
        | sign alone rest =>
            refine .word (List.cons_ne_nil c []) single ?_ (.sign alone rest)
            rintro _ ⟨⟩
            exact alone
        | word some letters ends rest =>
            exact .word (List.cons_ne_nil c _) (List.forall_mem_cons.mpr ⟨letter, letters⟩) ends
              rest

theorem cut_eq_iff : cut text = tokens ↔ IsCut text tokens := by
  constructor
  · rintro rfl
    exact isCut_cut text
  · intro runs
    induction runs with
    | nil => rfl
    | sign alone rest ih => rw [cut, if_neg alone, ih]
    | word some letters ends rest ih => rw [cut_append _ some letters, join_cut _ ends, ih]

example : cut "DROP t_1;".toList =
    [.word ['D', 'R', 'O', 'P'], .sign ' ', .word ['t', '_', '1'], .sign ';'] := by
  decide

end Token

end SpatialWorkload
