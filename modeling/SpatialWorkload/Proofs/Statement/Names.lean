import SpatialWorkload.Proofs.Statement.Tokens
import SpatialWorkload.Statement.Cypher
import SpatialWorkload.Statement.Sql

/-!
# Names in statements

Whatever name fills a statement, its signs and the places of its words are the same: a name
is always the start of a word of its own, so it cannot run into what stands before it, and
nothing in it ends a word.  Names that could do otherwise are refused.
-/

namespace SpatialWorkload

open Token (cut join cut_append)

/-- A token of a statement whose table has no name yet. -/
inductive Piece where
  | sign (c : Char)
  | constant (letters : List Char)
  | named (suffix : List Char)
  deriving DecidableEq, Repr

namespace Piece

variable {name text letters : List Char} {c : Char} {pieces more : List Piece}

def fill (name : List Char) : Piece → Token
  | sign c => .sign c
  | constant letters => .word letters
  | named suffix => .word (name ++ suffix)

theorem sign?_fill (piece : Piece) (name other : List Char) :
    (piece.fill name).sign? = (piece.fill other).sign? := by
  cases piece <;> rfl

/-- A letter becomes one with the word after it, unless that word is to begin with the name. -/
def putLetter (c : Char) : List Piece → Option (List Piece)
  | constant letters :: rest => some (constant (c :: letters) :: rest)
  | named _ :: _ => none
  | others => some (constant [c] :: others)

def putText : List Char → List Piece → Option (List Piece)
  | [], pieces => some pieces
  | c :: text, pieces =>
      (putText text pieces).bind fun pieces =>
        if IsWordLetter c then putLetter c pieces else some (sign c :: pieces)

/-- The name takes the word after it for its suffix. -/
def putName : List Piece → Option (List Piece)
  | constant letters :: rest => some (named letters :: rest)
  | named _ :: _ => none
  | others => some (named [] :: others)

theorem join_putLetter (put : putLetter c pieces = some more) (name : List Char) :
    join [c] (pieces.map (fill name)) = more.map (fill name) := by
  cases pieces with
  | nil => cases put; rfl
  | cons piece rest => cases piece <;> cases put <;> rfl

theorem join_putName (put : putName pieces = some more) (name : List Char) :
    join name (pieces.map (fill name)) = more.map (fill name) := by
  cases pieces with
  | nil =>
      cases put
      exact congrArg (fun word => [Token.word word]) (List.append_nil name).symm
  | cons piece rest =>
      cases piece with
      | sign c =>
          cases put
          exact congrArg (fun word => Token.word word :: _) (List.append_nil name).symm
      | constant letters => cases put; rfl
      | named suffix => cases put

theorem cut_putText (put : putText letters pieces = some more)
    (after : cut text = pieces.map (fill name)) :
    cut (letters ++ text) = more.map (fill name) := by
  induction letters generalizing more with
  | nil => cases put; exact after
  | cons c letters ih =>
      obtain ⟨between, putRest, put⟩ := Option.bind_eq_some_iff.mp put
      rw [List.cons_append, cut, ih putRest]
      split at put
      · rename_i letter
        rw [if_pos letter]
        exact join_putLetter put name
      · rename_i alone
        cases put
        rw [if_neg alone]
        rfl

end Piece

/-- A name with nothing in it, with a digit in front, or with a sign in it. -/
inductive IsUnfit : List Char → Prop where
  | empty : IsUnfit []
  | digit {first : Char} {rest : List Char} (digit : IsDigit first) : IsUnfit (first :: rest)
  | sign {name : List Char} {c : Char} (member : c ∈ name) (alone : ¬IsWordLetter c) :
      IsUnfit name

theorem IsPlainName.isWordLetter {name : List Char} (plain : IsPlainName name) :
    ∀ c ∈ name, IsWordLetter c := by
  cases plain with
  | intro start others =>
      refine List.forall_mem_cons.mpr ⟨?_, others⟩
      exact start.imp_right .inr

theorem IsPlainName.ne_nil {name : List Char} (plain : IsPlainName name) : name ≠ [] := by
  cases plain with
  | intro start others => exact List.cons_ne_nil _ _

theorem not_isDigit_of_start {c : Char} (start : IsLetter c ∨ c = '_') : ¬IsDigit c := by
  unfold IsLetter at start
  unfold IsDigit
  rcases start with letter | rfl
  · omega
  · decide

theorem isPlainName_iff_not_isUnfit (name : List Char) : IsPlainName name ↔ ¬IsUnfit name := by
  constructor
  · intro plain unfit
    cases unfit with
    | empty => exact plain.ne_nil rfl
    | digit digit =>
        cases plain with
        | intro start others => exact not_isDigit_of_start start digit
    | sign member alone => exact alone (plain.isWordLetter _ member)
  · intro fit
    have letters : ∀ c ∈ name, IsWordLetter c := fun c member =>
      not_not.mp fun alone => fit (.sign member alone)
    cases name with
    | nil => exact absurd .empty fit
    | cons first rest =>
        obtain ⟨letter, others⟩ := List.forall_mem_cons.mp letters
        refine .intro ?_ others
        rcases letter with letter | digit | underscore
        · exact .inl letter
        · exact absurd (.digit digit) fit
        · exact .inr underscore

theorem checkTable_eq_ok_iff {table : String} :
    checkTable table = .ok () ↔ IsPlainName table.toList := by
  rw [← checkIdentifier_eq_ok_iff]
  unfold checkTable
  cases checkIdentifier table with
  | ok passed => exact iff_of_true rfl rfl
  | error error =>
      constructor
      · intro passed; cases passed
      · intro passed; cases passed

variable {table : String}

def Fragment.put : Fragment → List Piece → Option (List Piece)
  | text fixed => Piece.putText fixed.toList
  | .table => Piece.putName

theorem Fragment.cut_put {fragment : Fragment} {text : List Char} {pieces more : List Piece}
    (plain : IsPlainName table.toList) (put : fragment.put pieces = some more)
    (after : cut text = pieces.map (Piece.fill table.toList)) :
    cut (fragment.fill table ++ text) = more.map (Piece.fill table.toList) := by
  cases fragment with
  | text fixed => exact Piece.cut_putText put after
  | table =>
      rw [fill, cut_append text plain.ne_nil plain.isWordLetter, after]
      exact Piece.join_putName put table.toList

namespace Template

variable {template : Template} {shape : List Piece}

/-- The tokens of a template, if the name never runs into a word before it. -/
def shape? : Template → Option (List Piece)
  | [] => some []
  | fragment :: rest => (shape? rest).bind fragment.put

theorem cut_fill (shaped : template.shape? = some shape) (plain : IsPlainName table.toList) :
    cut (template.fill table).toList = shape.map (Piece.fill table.toList) := by
  rw [toList_fill]
  induction template generalizing shape with
  | nil => cases shaped; rfl
  | cons fragment rest ih =>
      obtain ⟨between, shapedRest, put⟩ := Option.bind_eq_some_iff.mp shaped
      exact Fragment.cut_put plain put (ih shapedRest)

inductive IsSent : Template → Prop where
  | reset : IsSent Sql.resetScript
  | sql (operation : Operation) : IsSent (Sql.statement operation)
  | cypher (name : String) : IsSent (Cypher.statement name)

theorem IsSent.exists_shape (sent : template.IsSent) : ∃ shape, template.shape? = some shape := by
  apply Option.isSome_iff_exists.mp
  rcases sent with _ | (_ | _ | _ | _) | name
  on_goal 6 =>
    unfold Cypher.statement
    split
  all_goals
    simp only [Sql.resetScript, Sql.statement, Sql.selection, Sql.reference, Cypher.reference,
      Cypher.selection, List.cons_append, List.nil_append, shape?, Fragment.put,
      String.toList_append]
    -- The letters of a literal are in it already; evaluation would decode them from its bytes.
    repeat rw [String.toList_ofList]
    decide +kernel

theorem statementFor_of_isPlainName (template : Template) (plain : IsPlainName table.toList) :
    template.statementFor table = .ok (template.fill table) := by
  rw [statementFor, checkTable_eq_ok_iff.mpr plain]
  rfl

theorem statementFor_of_isUnfit (template : Template) (unfit : IsUnfit table.toList) :
    ∃ message, checkTable table = .error (.backend message) ∧
      template.statementFor table = .error (.backend message) := by
  have strange : isIdentifier table.toList ≠ true := fun plain =>
    (isPlainName_iff_not_isUnfit _).mp ((isIdentifier_iff _).mp plain) unfit
  have refused : checkTable table =
      .error (.backend (ConfigError.notIdentifier table).message) := by
    rw [checkTable, checkIdentifier, if_neg strange]
    rfl
  refine ⟨_, refused, ?_⟩
  rw [statementFor, refused]
  rfl

/--
One list of signs, fixed words and words that start with the name stands for what is sent under
every name that passes, so that two of them are sent with the same signs and with words in the
same places.  The names that pass are those that are fit.
-/
theorem sent_keeps_shape (sent : template.IsSent) :
    ∃ shape : List Piece, ∀ table : String,
      (checkTable table = .ok () →
        template.statementFor table = .ok (template.fill table) ∧
        cut (template.fill table).toList = shape.map (Piece.fill table.toList) ∧
        ∀ other : String, checkTable other = .ok () →
          (cut (template.fill table).toList).map Token.sign? =
            (cut (template.fill other).toList).map Token.sign?) ∧
      (¬IsUnfit table.toList → checkTable table = .ok ()) ∧
      (IsUnfit table.toList → ∃ message, checkTable table = .error (.backend message) ∧
        template.statementFor table = .error (.backend message)) := by
  obtain ⟨shape, shaped⟩ := sent.exists_shape
  have filled (table : String) (passed : checkTable table = .ok ()) :
      cut (template.fill table).toList = shape.map (Piece.fill table.toList) :=
    cut_fill shaped (checkTable_eq_ok_iff.mp passed)
  refine ⟨shape, fun table => ⟨fun passed => ⟨?_, filled table passed, ?_⟩, ?_,
    template.statementFor_of_isUnfit⟩⟩
  · exact template.statementFor_of_isPlainName (checkTable_eq_ok_iff.mp passed)
  · intro other otherPassed
    rw [filled table passed, filled other otherPassed, List.map_map, List.map_map]
    exact List.map_congr_left fun piece _ => piece.sign?_fill _ _
  · intro fit
    exact checkTable_eq_ok_iff.mpr ((isPlainName_iff_not_isUnfit _).mpr fit)

theorem sent_keeps_shape_reset : ∃ shape : List Piece,
    cut (Sql.resetScript.fill "GEOPOINTS").toList = shape.map (Piece.fill "GEOPOINTS".toList) ∧
    (cut (Sql.resetScript.fill "GEOPOINTS").toList).map Token.sign? =
      (cut (Sql.resetScript.fill "_t1").toList).map Token.sign? ∧
    ∃ message, Sql.resetScript.statementFor "1a" = .error (.backend message) := by
  obtain ⟨shape, keeps⟩ := sent_keeps_shape .reset
  obtain ⟨-, filled, same⟩ := (keeps "GEOPOINTS").1 rfl
  obtain ⟨message, -, refused⟩ := (keeps "1a").2.2 (.digit (by decide))
  exact ⟨shape, filled, same "_t1" rfl, message, refused⟩

end Template

end SpatialWorkload
