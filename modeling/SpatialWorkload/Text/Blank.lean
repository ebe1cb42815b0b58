/-!
# Blank characters

White space is the Unicode property of that name: twenty-five characters, among them the
next-line control, the no-break space and the ideographic space.
-/

namespace SpatialWorkload.Text

/-- The Unicode property White_Space. -/
def isBlank (c : Char) : Bool :=
  let n := c.toNat
  (9 ≤ n && n ≤ 13) || n == 0x20 || n == 0x85 || n == 0xA0 || n == 0x1680 ||
    (0x2000 ≤ n && n ≤ 0x200A) || n == 0x2028 || n == 0x2029 || n == 0x202F ||
    n == 0x205F || n == 0x3000

theorem isBlank_of_isWhitespace {c : Char} (h : c.isWhitespace = true) : isBlank c = true := by
  simp only [Char.isWhitespace, Bool.or_eq_true, decide_eq_true_eq] at h
  rcases h with ((rfl | rfl) | rfl) | rfl <;> decide

def trimStart (text : List Char) : List Char :=
  text.dropWhile isBlank

def trimEnd (text : List Char) : List Char :=
  (text.reverse.dropWhile isBlank).reverse

def trim (text : List Char) : List Char :=
  trimEnd (trimStart text)

def strip (text : String) : String :=
  String.ofList (trim text.toList)

def isBlankText (text : List Char) : Bool :=
  text.all isBlank

theorem trimStart_eq_nil {text : List Char} : trimStart text = [] ↔ isBlankText text = true := by
  induction text with
  | nil => simp [trimStart, isBlankText]
  | cons c rest ih =>
      cases blank : isBlank c with
      | false => simp [trimStart, isBlankText, blank]
      | true =>
          have skipped : trimStart (c :: rest) = trimStart rest := by simp [trimStart, blank]
          rw [skipped, ih]
          simp [isBlankText, blank]

/--
Splits at every occurrence of a separator; there is always one piece more than there are
separators.
-/
def splitAt (separator : Char) : List Char → List (List Char)
  | [] => [[]]
  | c :: rest =>
      if c = separator then [] :: splitAt separator rest
      else
        match splitAt separator rest with
        | [] => [[c]]
        | first :: others => (c :: first) :: others

/--
The lines of a text.  A line ends at a line feed, and a carriage return before it goes
with it; the end of the text ends a last line that is not empty.
-/
def lines (text : List Char) : List (List Char) :=
  let pieces := splitAt '\n' text
  let complete := pieces.dropLast.map fun line =>
    if line.getLast? = some '\r' then line.dropLast else line
  match pieces.getLast? with
  | some (c :: rest) => complete ++ [c :: rest]
  | _ => complete

end SpatialWorkload.Text
