import SpatialWorkload.Proofs.Text.Lines
import SpatialWorkload.Source

/-!
# The lines of a file

A file is bytes.  Its lines are cut before anything is decoded, at the byte of a line feed;
since no other character has that byte in its encoding, the lines of an encoded text are the
encoded lines of the text.  What no text is encoded to is no line of text.
-/

namespace SpatialWorkload.SourceLine

variable {bytes rest : List UInt8} {text : List Char}

theorem splitBytes_eq_splitOn (bytes : List UInt8) : splitBytes bytes = bytes.splitOn 10 := by
  induction bytes with
  | nil => rfl
  | cons byte rest ih =>
      unfold List.splitOn at ih ⊢
      rw [splitBytes, List.splitOnP_cons_eq_if_modifyHead, ih]
      by_cases same : byte = 10
      · rw [if_pos same, if_pos (beq_iff_eq.mpr same)]
      · rw [if_neg same, if_neg (mt beq_iff_eq.mp same)]
        cases pieces : List.splitOnP (· == 10) rest with
        | nil => exact absurd pieces (List.splitOnP_ne_nil _ _)
        | cons first others => rfl

theorem splitBytes_ne_nil (bytes : List UInt8) : splitBytes bytes ≠ [] := by
  rw [splitBytes_eq_splitOn]
  exact List.splitOnP_ne_nil _ _

/-- A line feed ends a line, whatever stands behind it. -/
theorem splitBytes_append (bytes rest : List UInt8) :
    splitBytes (bytes ++ 10 :: rest) = splitBytes bytes ++ splitBytes rest := by
  simp only [splitBytes_eq_splitOn]
  exact List.splitOnP_append_cons _ _ (beq_self_eq_true (10 : UInt8))

theorem splitBytes_of_not_mem (absent : 10 ∉ bytes) : splitBytes bytes = [bytes] := by
  rw [splitBytes_eq_splitOn]
  refine List.splitOnP_eq_singleton fun byte member => beq_eq_false_iff_ne.mpr ?_
  rintro rfl
  exact absent member

/-- What holds no line feed and is put in front belongs to the first line. -/
theorem splitBytes_append_left (absent : 10 ∉ bytes) (rest : List UInt8) :
    splitBytes (bytes ++ rest) = (splitBytes rest).modifyHead (bytes ++ ·) := by
  induction bytes with
  | nil => exact (congrFun List.modifyHead_id _).symm
  | cons byte bytes ih =>
      have other : byte ≠ 10 := fun same => absent (same ▸ List.mem_cons_self)
      rw [List.cons_append, splitBytes, if_neg other,
        ih fun member => absent (List.mem_cons_of_mem _ member)]
      cases pieces : splitBytes rest with
      | nil => exact absurd pieces (splitBytes_ne_nil rest)
      | cons first others => rfl

/-- What holds no line feed and is put at the end belongs to the last line. -/
theorem splitBytes_append_of_not_mem (bytes : List UInt8) (absent : 10 ∉ rest) :
    ∃ before last, splitBytes bytes = before ++ [last] ∧
      splitBytes (bytes ++ rest) = before ++ [last ++ rest] := by
  simp only [splitBytes_eq_splitOn]
  exact Text.splitOn_append_of_not_mem bytes absent

theorem exists_last_line (bytes : List UInt8) :
    ∃ before last, splitBytes bytes = before ++ [last] := by
  obtain ⟨before, last, pieces⟩ :=
    (List.eq_nil_or_concat (splitBytes bytes)).resolve_left (splitBytes_ne_nil _)
  exact ⟨before, last, pieces.trans List.concat_eq_append⟩

/-- A line that a line feed ends, without the carriage return before it. -/
def ofCompleteLine (line : List UInt8) : SourceLine :=
  ofByteLine (if line.getLast? = some 13 then line.dropLast else line)

/-- The lines of a file whose last one is known. -/
theorem ofBytes_of_splitBytes {before : List (List UInt8)} {last : List UInt8}
    (pieces : splitBytes bytes = before ++ [last]) :
    ofBytes bytes = before.map ofCompleteLine ++ if last = [] then [] else [ofByteLine last] := by
  unfold ofBytes
  simp only [pieces, List.dropLast_concat, List.getLast?_concat]
  cases last with
  | nil => exact (List.append_nil _).symm
  | cons byte last => rfl

theorem ofBytes_lineFeed (bytes : List UInt8) :
    ofBytes (bytes ++ [10]) = (splitBytes bytes).map ofCompleteLine := by
  have pieces : splitBytes (bytes ++ [10]) = splitBytes bytes ++ [[]] := splitBytes_append bytes []
  rw [ofBytes_of_splitBytes pieces, if_pos rfl, List.append_nil]

theorem ofBytes_lineFeed_ne_nil (bytes : List UInt8) : ofBytes (bytes ++ [10]) ≠ [] := by
  rw [ofBytes_lineFeed]
  exact mt List.map_eq_nil_iff.mp (splitBytes_ne_nil bytes)

/-- The lines of a text that ends with a line feed stay when it is written on. -/
theorem ofBytes_append (bytes rest : List UInt8) :
    ofBytes (bytes ++ 10 :: rest) = ofBytes (bytes ++ [10]) ++ ofBytes rest := by
  obtain ⟨before, last, pieces⟩ := exists_last_line rest
  have all : splitBytes (bytes ++ 10 :: rest) = (splitBytes bytes ++ before) ++ [last] := by
    rw [splitBytes_append, pieces, List.append_assoc]
  rw [ofBytes_of_splitBytes all, ofBytes_of_splitBytes pieces, ofBytes_lineFeed, List.map_append,
    List.append_assoc]

def encode (text : List Char) : List UInt8 :=
  text.flatMap String.utf8EncodeChar

theorem encode_append (text rest : List Char) :
    encode (text ++ rest) = encode text ++ encode rest :=
  List.flatMap_append

theorem encode_singleton (c : Char) : encode [c] = String.utf8EncodeChar c :=
  List.append_nil _

theorem length_encode_cons (c : Char) (rest : List Char) :
    (encode (c :: rest)).length = c.utf8Size + (encode rest).length := by
  rw [encode, List.flatMap_cons, List.length_append, String.length_utf8EncodeChar]
  rfl

theorem encode_eq_nil_iff : encode text = [] ↔ text = [] := by
  refine ⟨fun none => ?_, fun none => none ▸ rfl⟩
  cases text with
  | nil => rfl
  | cons c text => exact absurd (List.append_eq_nil_iff.mp none).1 String.utf8EncodeChar_ne_nil

theorem getLast?_encode_concat (text : List Char) (c : Char) :
    (encode text ++ String.utf8EncodeChar c).getLast? = (String.utf8EncodeChar c).getLast? := by
  rw [List.getLast?_append, Option.or_of_isSome]
  exact List.getLast?_isSome.mpr String.utf8EncodeChar_ne_nil

/-- A byte below 128 stands for the character of that number, and for no other. -/
theorem eq_singleton_of_mem_utf8EncodeChar {c : Char} {byte : UInt8}
    (member : byte ∈ String.utf8EncodeChar c) (low : byte.toNat < 128) :
    String.utf8EncodeChar c = [byte] ∧ c.toNat = byte.toNat := by
  have high (number : Nat) (least : 128 ≤ number) (most : number < 256) :
      byte ≠ UInt8.ofNat number := by
    rintro rfl
    rw [UInt8.toNat_ofNat', Nat.mod_eq_of_lt most] at low
    omega
  unfold String.utf8EncodeChar at member ⊢
  dsimp only at member ⊢
  split at member
  · rename_i single
    have found := List.mem_singleton.mp member
    refine ⟨by rw [if_pos single, found], ?_⟩
    rw [found, UInt8.toNat_ofNat', Nat.mod_eq_of_lt (Nat.lt_of_le_of_lt single (by decide))]
    rfl
  · exfalso
    split at member
    · simp only [List.mem_cons, List.not_mem_nil, or_false] at member
      rcases member with found | found <;> exact high _ (by omega) (by omega) found
    · split at member
      · simp only [List.mem_cons, List.not_mem_nil, or_false] at member
        rcases member with found | found | found <;> exact high _ (by omega) (by omega) found
      · simp only [List.mem_cons, List.not_mem_nil, or_false] at member
        rcases member with found | found | found | found <;>
          exact high _ (by omega) (by omega) found

theorem eq_of_mem_utf8EncodeChar {c other : Char} {byte : UInt8}
    (member : byte ∈ String.utf8EncodeChar c) (low : byte.toNat < 128)
    (same : byte.toNat = other.toNat) : c = other :=
  Char.toNat_inj.mp ((eq_singleton_of_mem_utf8EncodeChar member low).2.trans same)

/-- The lines of an encoded text are the encoded lines. -/
theorem splitBytes_encode (text : List Char) :
    splitBytes (encode text) = (Text.splitAt '\n' text).map encode := by
  induction text with
  | nil => rfl
  | cons c text ih =>
      by_cases feed : c = '\n'
      · subst feed
        change [] :: splitBytes (encode text) = _
        rw [ih]
        rfl
      · have absent : 10 ∉ String.utf8EncodeChar c := fun member =>
          feed (eq_of_mem_utf8EncodeChar member (by decide) rfl)
        change splitBytes (String.utf8EncodeChar c ++ encode text) = _
        rw [splitBytes_append_left absent, ih, Text.splitAt, if_neg feed]
        cases pieces : Text.splitAt '\n' text with
        | nil => exact absurd pieces (Text.splitAt_ne_nil _ _)
        | cons first others => rfl

theorem mk_toArray_encode (text : List Char) :
    ByteArray.mk (encode text).toArray = text.utf8Encode :=
  ByteArray.ext List.data_toByteArray.symm

theorem ofByteLine_encode (text : List Char) : ofByteLine (encode text) = .ok text := by
  unfold ofByteLine decode
  rw [mk_toArray_encode, String.fromUTF8?, dif_pos ByteArray.isValidUTF8_utf8Encode]
  change Except.ok (String.ofList text).toList = _
  rw [String.toList_ofList]

/-- Bytes that are those of no text are no line. -/
theorem ofByteLine_of_forall_ne (none : ∀ text, bytes ≠ encode text) :
    ofByteLine bytes = .error .notText := by
  have invalid : ¬(ByteArray.mk bytes.toArray).IsValidUTF8 := by
    rintro ⟨text, valid⟩
    rw [← mk_toArray_encode] at valid
    exact none text (Array.toList_inj.mpr (congrArg ByteArray.data valid))
  unfold ofByteLine decode
  rw [String.fromUTF8?, dif_neg invalid]
  rfl

/-- Bytes are read as the text whose bytes they are. -/
theorem decode_eq_ok_iff {string : String} :
    decode bytes = .ok string ↔ bytes = encode string.toList := by
  constructor
  · intro decoded
    have line : ofByteLine bytes = .ok string.toList := by
      rw [ofByteLine, decoded]
      rfl
    by_cases encoded : ∃ text, bytes = encode text
    · obtain ⟨text, rfl⟩ := encoded
      rw [ofByteLine_encode] at line
      rw [Except.ok.inj line]
    · rw [ofByteLine_of_forall_ne (not_exists.mp encoded)] at line
      cases line
  · rintro rfl
    have line := ofByteLine_encode string.toList
    unfold ofByteLine at line
    cases decoded : decode (encode string.toList) with
    | error fault =>
        rw [decoded] at line
        cases line
    | ok other =>
        rw [decoded] at line
        exact congrArg Except.ok (String.toList_injective (Except.ok.inj line))

/-- A carriage return at the end stands in the text, or there is none. -/
theorem ofByteLine_carriageReturn (line : List UInt8) :
    ofByteLine (line ++ [13]) = (ofByteLine line).map (· ++ ['\r']) := by
  by_cases encoded : ∃ text, line = encode text
  · obtain ⟨text, rfl⟩ := encoded
    rw [ofByteLine_encode]
    change ofByteLine (encode text ++ encode ['\r']) = _
    rw [← encode_append, ofByteLine_encode]
    rfl
  · have none : ∀ text, line ≠ encode text := fun text same => encoded ⟨text, same⟩
    have longer : ∀ text, line ++ [13] ≠ encode text := by
      intro text same
      rcases List.eq_nil_or_concat text with rfl | ⟨before, c, rfl⟩
      · exact absurd same (by simp [encode])
      · rw [List.concat_eq_append, encode_append, encode_singleton] at same
        have member : (13 : UInt8) ∈ String.utf8EncodeChar c := by
          have ends := congrArg List.getLast? same
          rw [List.getLast?_concat, getLast?_encode_concat] at ends
          exact List.mem_of_getLast? ends.symm
        rw [(eq_singleton_of_mem_utf8EncodeChar member (by decide)).1] at same
        exact none before (List.append_inj_left' same rfl)
    rw [ofByteLine_of_forall_ne none, ofByteLine_of_forall_ne longer]
    rfl

theorem ofCompleteLine_encode (line : List Char) :
    ofCompleteLine (encode line) = .ok (Text.chomp line) := by
  unfold ofCompleteLine Text.chomp
  rcases List.eq_nil_or_concat line with rfl | ⟨before, c, rfl⟩
  · exact ofByteLine_encode []
  · rw [List.concat_eq_append, encode_append, encode_singleton, List.getLast?_concat,
      getLast?_encode_concat]
    by_cases ends : c = '\r'
    · subst ends
      change ofByteLine (encode before ++ [13]).dropLast = .ok (before ++ ['\r']).dropLast
      rw [List.dropLast_concat, List.dropLast_concat, ofByteLine_encode]
    · have other : (String.utf8EncodeChar c).getLast? ≠ some 13 := fun last =>
        ends (eq_of_mem_utf8EncodeChar (List.mem_of_getLast? last) (by decide) rfl)
      rw [if_neg other, if_neg fun same => ends (Option.some.inj same), ← encode_singleton,
        ← encode_append, ofByteLine_encode]

/-- The lines of an encoded text are those of the text. -/
theorem ofBytes_encode (text : List Char) : ofBytes (encode text) = ofText text := by
  obtain ⟨before, last, pieces⟩ := Text.exists_last_piece '\n' text
  have bytes : splitBytes (encode text) = before.map encode ++ [encode last] := by
    rw [splitBytes_encode, pieces, List.map_append]
    rfl
  rw [ofBytes_of_splitBytes bytes, ofText, Text.lines_of_splitAt pieces, List.map_append,
    List.map_map, List.map_map, funext (f := ofCompleteLine ∘ encode) ofCompleteLine_encode]
  congr 1
  by_cases none : last = []
  · rw [if_pos none, if_pos (encode_eq_nil_iff.mpr none)]
    rfl
  · rw [if_neg none, if_neg (mt encode_eq_nil_iff.mp none), ofByteLine_encode]
    rfl

end SpatialWorkload.SourceLine
