import SpatialWorkload.GeoSet.Address
import SpatialWorkload.Json.Text
import SpatialWorkload.Proofs.Config.Sound
import SpatialWorkload.Proofs.Source

/-!
# Passwords in addresses

Whoever connects by an address reads it as a URL.  The password that was put into it comes
back if it holds no mark that ends an authority and nothing that reads as an escape; colons and
at signs do no harm, and neither does a percent sign that no two hexadecimal digits follow.
-/

namespace SpatialWorkload

namespace Decimal

theorem digitsValue_eq_ofDigitChars (value : Nat) (digits : List Char) :
    digitsValue value digits = Nat.ofDigitChars 10 digits value := by
  induction digits generalizing value with
  | nil => rfl
  | cons c digits ih =>
      rw [Nat.ofDigitChars_cons]
      exact ih _

theorem natural?_toDigits (number : Nat) :
    natural? (Nat.toDigits 10 number) = some number := by
  have digits : (Nat.toDigits 10 number).all Char.isDigit = true :=
    List.all_eq_true.mpr fun c => Nat.isDigit_of_mem_toDigits (by decide) (Nat.le_refl 10)
  have some : (Nat.toDigits 10 number).isEmpty = false :=
    List.isEmpty_eq_false_iff.mpr Nat.toDigits_ne_nil
  rw [natural?, digits, some, digitsValue_eq_ofDigitChars, Nat.ofDigitChars_ten_toDigits,
    if_neg (by decide)]

end Decimal

namespace GeoSet

structure Endpoint where
  password : Option String
  host : String
  port : Nat
  deriving DecidableEq, Repr

namespace Address

open SourceLine (encode decode encode_append length_encode_cons decode_eq_ok_iff)

variable {mark : Char} {text before after secret host : List Char}

/-! ## Reading a URL -/

def endsAuthority (c : Char) : Bool :=
  c == '/' || c == '?' || c == '#'

/-- What stands behind the two slashes, up to the mark that ends it. -/
def authority? : List Char → Option (List Char)
  | '/' :: '/' :: rest => some (rest.takeWhile fun c => !endsAuthority c)
  | _ :: rest => authority? rest
  | [] => none

def cutFirst? (mark : Char) (text : List Char) : Option (List Char × List Char) :=
  match text.dropWhile (· != mark) with
  | [] => none
  | _ :: after => some (text.takeWhile (· != mark), after)

def cutLast? (mark : Char) (text : List Char) : Option (List Char × List Char) :=
  (cutFirst? mark text.reverse).map fun (after, before) => (before.reverse, after.reverse)

/-- The bytes of a text whose percent escapes stand for one byte each. -/
def unescape : List Char → List UInt8
  | '%' :: high :: low :: rest =>
      match Json.StringPart.hexDigit? high, Json.StringPart.hexDigit? low with
      | some first, some second => UInt8.ofNat (16 * first + second) :: unescape rest
      | _, _ => 37 :: unescape (high :: low :: rest)
  | c :: rest => String.utf8EncodeChar c ++ unescape rest
  | [] => []

def password? (user : List Char) : Option String :=
  (cutFirst? ':' user).bind fun (_, secret) => (decode (unescape secret)).toOption

def ofPlace? (user : Option (List Char)) (place : List Char) : Option Endpoint := do
  let (host, port) ← cutFirst? ':' place
  let port ← Decimal.natural? port
  return ⟨user.bind password?, String.ofList host, port⟩

/-- Up to its last at sign an authority tells the user, and behind it the place. -/
def ofAuthority? (authority : List Char) : Option Endpoint :=
  match cutLast? '@' authority with
  | some (user, place) => ofPlace? (some user) place
  | none => ofPlace? none authority

def read? (url : String) : Option Endpoint :=
  (authority? url.toList).bind ofAuthority?

/-! ## Cutting at a mark -/

theorem cutFirst?_append (absent : mark ∉ before) (after : List Char) :
    cutFirst? mark (before ++ mark :: after) = some (before, after) := by
  rw [cutFirst?, Text.dropWhile_append_cons absent, Text.takeWhile_append_cons absent]

theorem cutFirst?_of_not_mem (absent : mark ∉ text) : cutFirst? mark text = none := by
  rw [cutFirst?, Text.dropWhile_of_not_mem absent]

theorem cutLast?_append (before : List Char) (absent : mark ∉ after) :
    cutLast? mark (before ++ mark :: after) = some (before, after) := by
  have reversed : (before ++ mark :: after).reverse = after.reverse ++ mark :: before.reverse := by
    simp
  rw [cutLast?, reversed, cutFirst?_append (mt List.mem_reverse.mp absent), Option.map_some]
  dsimp only
  rw [List.reverse_reverse, List.reverse_reverse]

theorem cutLast?_of_not_mem (absent : mark ∉ text) : cutLast? mark text = none := by
  rw [cutLast?, cutFirst?_of_not_mem (mt List.mem_reverse.mp absent)]
  rfl

/-- A text without a mark, or cut at its last one. -/
theorem cutLast?_cases (mark : Char) (text : List Char) :
    cutLast? mark text = none ∨
      ∃ before after, text = before ++ mark :: after ∧
        cutLast? mark text = some (before, after) := by
  by_cases member : mark ∈ text.reverse
  · obtain ⟨after, before, reversed, absent⟩ := List.eq_append_cons_of_mem member
    have same : text = before.reverse ++ mark :: after.reverse := by
      rw [← List.reverse_reverse text, reversed]
      simp
    refine Or.inr ⟨before.reverse, after.reverse, same, ?_⟩
    rw [same, cutLast?_append _ (mt List.mem_reverse.mp absent)]
  · exact Or.inl (cutLast?_of_not_mem (mt List.mem_reverse.mpr member))

/-! ## Escapes -/

def IsHexDigit (c : Char) : Prop :=
  (Json.StringPart.hexDigit? c).isSome

/-- A percent sign somewhere, and two hexadecimal digits behind it. -/
inductive HasEscape : List Char → Prop where
  | here {high low : Char} {rest : List Char} (first : IsHexDigit high) (second : IsHexDigit low) :
      HasEscape ('%' :: high :: low :: rest)
  | later {c : Char} {rest : List Char} (inner : HasEscape rest) : HasEscape (c :: rest)

theorem encode_percent (rest : List Char) :
    encode ('%' :: rest) = 37 :: encode rest :=
  rfl

theorem length_unescape_le (text : List Char) :
    (unescape text).length ≤ (encode text).length := by
  fun_induction unescape text with
  | case1 high low rest first second isLow isHigh ih =>
      rw [encode_percent, List.length_cons, List.length_cons, length_encode_cons,
        length_encode_cons]
      omega
  | case2 high low rest plain ih =>
      rw [encode_percent, List.length_cons, List.length_cons]
      exact Nat.succ_le_succ ih
  | case3 c rest other ih =>
      rw [length_encode_cons, List.length_append, String.length_utf8EncodeChar]
      exact Nat.add_le_add_left ih _
  | case4 => exact Nat.le_refl 0

/-- An escape stands for fewer bytes than it is written with. -/
theorem length_unescape_lt (escaped : HasEscape text) :
    (unescape text).length < (encode text).length := by
  fun_induction unescape text with
  | case1 high low rest first second isLow isHigh =>
      have shorter := length_unescape_le rest
      have longHigh := high.utf8Size_pos
      rw [encode_percent, List.length_cons, List.length_cons, length_encode_cons,
        length_encode_cons]
      omega
  | case2 high low rest plain ih =>
      rw [encode_percent, List.length_cons, List.length_cons]
      cases escaped with
      | here first second =>
          obtain ⟨_, isHigh⟩ := Option.isSome_iff_exists.mp first
          obtain ⟨_, isLow⟩ := Option.isSome_iff_exists.mp second
          exact absurd isLow (plain _ _ isHigh)
      | later inner => exact Nat.succ_lt_succ (ih inner)
  | case3 c rest other ih =>
      cases escaped with
      | here first second => exact absurd rfl (other _ _ _ rfl)
      | later inner =>
          rw [length_encode_cons, List.length_append, String.length_utf8EncodeChar]
          exact Nat.add_lt_add_left (ih inner) _
  | case4 => cases escaped

/-- Without an escape every character stands for itself. -/
theorem unescape_of_not_hasEscape (plain : ¬HasEscape text) :
    unescape text = encode text := by
  fun_induction unescape text with
  | case1 high low rest first second isLow isHigh =>
      refine absurd (.here ?_ ?_) plain
      · exact Option.isSome_iff_exists.mpr ⟨first, isHigh⟩
      · exact Option.isSome_iff_exists.mpr ⟨second, isLow⟩
  | case2 high low rest noDigits ih =>
      rw [ih fun inner => plain (.later inner), encode_percent]
  | case3 c rest other ih =>
      rw [ih fun inner => plain (.later inner)]
      rfl
  | case4 => rfl

theorem unescape_eq_encode_iff : unescape text = encode text ↔ ¬HasEscape text := by
  refine ⟨fun same escaped => ?_, unescape_of_not_hasEscape⟩
  have shorter := length_unescape_lt escaped
  rw [same] at shorter
  exact Nat.lt_irrefl _ shorter

instance : Decidable (HasEscape text) :=
  decidable_of_iff (¬unescape text = encode text)
    (not_congr unescape_eq_encode_iff |>.trans Classical.not_not)

/-! ## Passwords -/

theorem password?_cons (secret : List Char) :
    password? (':' :: secret) = (decode (unescape secret)).toOption := by
  have cut : cutFirst? ':' (':' :: secret) = some ([], secret) :=
    cutFirst?_append List.not_mem_nil secret
  rw [password?, cut]
  rfl

/-- The password of a user is the text whose bytes are left when its escapes are decoded. -/
theorem password?_eq_some_iff {password : String} :
    password? (':' :: secret) = some password ↔
      unescape secret = encode password.toList := by
  rw [password?_cons, ← decode_eq_ok_iff]
  cases decode (unescape secret) <;> simp [Except.toOption]

/-! ## Addresses with a password -/

/--
Letters, digits, dots and hyphens; whatever is not ASCII may be a letter of some alphabet.
-/
def IsHostLetter (c : Char) : Prop :=
  IsLetter c ∨ IsDigit c ∨ c = '.' ∨ c = '-' ∨ 128 ≤ c.toNat

theorem IsHostLetter.ne {c mark : Char} (letter : IsHostLetter c)
    (isMark : mark ∈ ['/', '?', '#', '@', ':']) : c ≠ mark := by
  rintro rfl
  simp only [List.mem_cons, List.not_mem_nil, or_false] at isMark
  rcases isMark with rfl | rfl | rfl | rfl | rfl <;> revert letter <;>
    simp [IsHostLetter, IsLetter, IsDigit]

theorem not_endsAuthority_of_isHostLetter {c : Char} (letter : IsHostLetter c) :
    endsAuthority c = false := by
  simp [endsAuthority, letter.ne]

inductive NamesPort (properties : Properties) : UInt16 → Prop where
  | absent (none : properties.get? "redis.port" = none) : NamesPort properties 6379
  | given {raw : String} {port : UInt16} (some : properties.get? "redis.port" = some raw)
      (reads : Decimal.word16? (Text.trim raw.toList) = Option.some port) :
      NamesPort properties port

def hostOf (properties : Properties) : String :=
  (properties.get? "redis.host").getD "127.0.0.1"

variable {properties : Properties} {password : String} {port : UInt16}

theorem connectionUrl_of_password (noUrl : properties.get? "redis.url" = none)
    (given : properties.get? "redis.password" = some password)
    (named : NamesPort properties port) :
    connectionUrl properties =
      .ok s!"redis://:{password}@{hostOf properties}:{port.toNat}/" := by
  have read : properties.readOr Decimal.word16? "redis.port" 6379 = .ok port := by
    cases named with
    | absent none => simp [Properties.readOr, Properties.read?, none, Except.map]
    | given some reads => simp [Properties.readOr, Properties.read?, some, reads, Except.map]
  rw [connectionUrl, noUrl]
  dsimp only
  rw [read, given]
  rfl

theorem ofPlace?_append (user : Option (List Char)) (noColon : ':' ∉ host) (port : Nat) :
    ofPlace? user (host ++ ':' :: Nat.toDigits 10 port) =
      some ⟨user.bind password?, String.ofList host, port⟩ := by
  rw [ofPlace?, cutFirst?_append noColon, Option.bind_eq_bind, Option.bind_some]
  dsimp only
  rw [Decimal.natural?_toDigits]
  rfl

theorem password_of_ofPlace? {user : Option (List Char)} {endpoint : Endpoint}
    (read : ofPlace? user text = some endpoint) : endpoint.password = user.bind password? := by
  obtain ⟨_, _, read⟩ := Option.bind_eq_some_iff.mp read
  obtain ⟨_, _, read⟩ := Option.bind_eq_some_iff.mp read
  cases read
  rfl

def placeOf (host : String) (port : Nat) : List Char :=
  host.toList ++ ':' :: Nat.toDigits 10 port

theorem mem_placeOf {host : String} {port : Nat} {c : Char}
    (letters : ∀ c ∈ host.toList, IsHostLetter c) (member : c ∈ placeOf host port) :
    c = ':' ∨ IsHostLetter c := by
  rcases List.mem_append.mp member with inHost | behind
  · exact Or.inr (letters c inHost)
  · rcases List.mem_cons.mp behind with colon | digit
    · exact Or.inl colon
    · have isDigit := Nat.isDigit_of_mem_toDigits (by decide) (Nat.le_refl 10) digit
      exact Or.inr (Or.inr (Or.inl ((isDigit_iff c).mp isDigit)))

/-- The authority of an address begins with the password and goes on to the first end. -/
theorem read?_url (password host : String) (port : Nat) :
    read? s!"redis://:{password}@{host}:{port}/" =
      ofAuthority? (':' :: (password.toList ++ '@' :: (placeOf host port ++ ['/'])).takeWhile
        fun c => !endsAuthority c) := by
  have letters : s!"redis://:{password}@{host}:{port}/".toList =
      ['r', 'e', 'd', 'i', 's', ':', '/', '/', ':'] ++
        (password.toList ++ '@' :: (placeOf host port ++ ['/'])) := by
    simp [toString, placeOf]
  rw [read?, letters]
  rfl

/-- With no end in the password the whole authority is read. -/
theorem read?_of_unended {host : String} (port : Nat)
    (unended : ∀ c ∈ password.toList, endsAuthority c = false)
    (letters : ∀ c ∈ host.toList, IsHostLetter c) :
    read? s!"redis://:{password}@{host}:{port}/" =
      some ⟨(decode (unescape password.toList)).toOption, host, port⟩ := by
  have noAt : '@' ∉ placeOf host port := fun member =>
    (mem_placeOf letters member).elim (by decide) fun letter => letter.ne (by decide) rfl
  have noColon : ':' ∉ host.toList := fun member => (letters _ member).ne (by decide) rfl
  have whole : (password.toList ++ '@' :: (placeOf host port ++ ['/'])).takeWhile
      (fun c => !endsAuthority c) = password.toList ++ '@' :: placeOf host port := by
    rw [← List.cons_append, ← List.append_assoc, List.takeWhile_append_of_pos]
    · exact List.append_nil _
    · intro c member
      rw [Bool.not_eq_true']
      rcases List.mem_append.mp member with inPassword | behind
      · exact unended c inPassword
      · rcases List.mem_cons.mp behind with rfl | inPlace
        · rfl
        · rcases mem_placeOf letters inPlace with rfl | letter
          · rfl
          · exact not_endsAuthority_of_isHostLetter letter
  rw [read?_url, whole, ← List.cons_append, ofAuthority?, cutLast?_append _ noAt]
  dsimp only
  rw [placeOf, ofPlace?_append _ noColon, Option.bind_some, password?_cons,
    String.ofList_toList]

/-- An end in the password cuts the authority short. -/
theorem read?_of_ended (host : String) (port : Nat)
    (same : password.toList = before ++ mark :: after) (ends : endsAuthority mark = true)
    (unended : ∀ c ∈ before, endsAuthority c = false) :
    read? s!"redis://:{password}@{host}:{port}/" = ofAuthority? (':' :: before) := by
  rw [read?_url, same, List.append_assoc, List.takeWhile_append_of_pos, List.cons_append,
    List.takeWhile_cons_of_neg, List.append_nil]
  · simp [ends]
  · intro c member
    rw [unended c member]
    rfl

/-- A password that is cut short does not come back. -/
theorem ofAuthority?_ne {endpoint : Endpoint}
    (same : password.toList = before ++ mark :: after)
    (read : ofAuthority? (':' :: before) = some endpoint) :
    endpoint.password ≠ some password := by
  unfold ofAuthority? at read
  rcases cutLast?_cases '@' (':' :: before) with none | ⟨user, place, cut, found⟩
  · rw [none] at read
    rw [password_of_ofPlace? read]
    exact nofun
  · rw [found] at read
    rw [password_of_ofPlace? read]
    rcases List.cons_eq_append_iff.mp cut with ⟨-, absurd⟩ | ⟨secret, rfl, rest⟩
    · cases absurd
    · intro comes
      -- What is read ends before the at sign, and decoding makes nothing longer.
      have bytes := password?_eq_some_iff.mp comes
      have shorter := length_unescape_le secret
      rw [bytes, same, rest, List.append_assoc, encode_append, List.length_append,
        List.cons_append, length_encode_cons] at shorter
      have one := '@'.utf8Size_pos
      omega

theorem read?_eq_iff {host : String} (port : Nat)
    (letters : ∀ c ∈ host.toList, IsHostLetter c) :
    read? s!"redis://:{password}@{host}:{port}/" = some ⟨password, host, port⟩ ↔
      (∀ c ∈ password.toList, endsAuthority c = false) ∧ ¬HasEscape password.toList := by
  cases found : password.toList.find? endsAuthority with
  | some mark =>
      obtain ⟨ends, before, after, same, unended⟩ := List.find?_eq_some_iff_append.mp found
      have member : mark ∈ password.toList := List.mem_of_find?_eq_some found
      rw [read?_of_ended host port same ends fun c inside => by simpa using unended c inside]
      constructor
      · intro read
        exact absurd rfl (ofAuthority?_ne same read)
      · intro harmless
        rw [harmless.1 mark member] at ends
        cases ends
  | none =>
      have unended : ∀ c ∈ password.toList, endsAuthority c = false := fun c member =>
        Bool.eq_false_iff.mpr (List.find?_eq_none.mp found c member)
      rw [read?_of_unended port unended letters, ← password?_cons]
      constructor
      · intro read
        have comes := congrArg Endpoint.password (Option.some.inj read)
        exact ⟨unended, unescape_eq_encode_iff.mp (password?_eq_some_iff.mp comes)⟩
      · rintro ⟨-, plain⟩
        rw [password?_eq_some_iff.mpr (unescape_eq_encode_iff.mpr plain)]

/--
There is an address for every password.  From it host and port come back, and of the password
what is left of it when escapes are decoded, unless it holds a mark that ends an authority.  The
three come back as they are if and only if it holds no such mark and no escape.
-/
theorem password_comes_back_iff (noUrl : properties.get? "redis.url" = none)
    (given : properties.get? "redis.password" = some password)
    (letters : ∀ c ∈ (hostOf properties).toList, IsHostLetter c)
    (named : NamesPort properties port) :
    ∃ url, connectionUrl properties = .ok url ∧
      ((∀ c ∈ password.toList, endsAuthority c = false) →
        read? url = some ⟨(decode (unescape password.toList)).toOption,
          hostOf properties, port.toNat⟩) ∧
      (read? url = some ⟨password, hostOf properties, port.toNat⟩ ↔
        (∀ c ∈ password.toList, endsAuthority c = false) ∧ ¬HasEscape password.toList) :=
  ⟨_, connectionUrl_of_password noUrl given named,
    fun unended => read?_of_unended _ unended letters, read?_eq_iff _ letters⟩

/-- Colons, at signs and lone percent signs come back. -/
theorem password_comes_back_iff_marked :
    let properties := Properties.ofList
      [("redis.host", "cache-1.local"), ("redis.port", "6380"), ("redis.password", "p@s:s%4w")]
    properties.get? "redis.url" = none ∧
    properties.get? "redis.password" = some "p@s:s%4w" ∧
    (∀ c ∈ (hostOf properties).toList, IsHostLetter c) ∧ NamesPort properties 6380 ∧
    ∃ url, connectionUrl properties = .ok url ∧
      read? url = some ⟨some "p@s:s%4w", "cache-1.local", 6380⟩ := by
  intro properties
  have noUrl : properties.get? "redis.url" = none := rfl
  have given : properties.get? "redis.password" = some "p@s:s%4w" := rfl
  have letters : ∀ c ∈ (hostOf properties).toList, IsHostLetter c := by
    change ∀ c ∈ "cache-1.local".toList, IsHostLetter c
    rw [String.toList_ofList]
    simp [IsHostLetter, IsLetter, IsDigit]
  have port : properties.get? "redis.port" = some "6380" := rfl
  have named : NamesPort properties 6380 := .given port rfl
  obtain ⟨url, made, -, comes⟩ := password_comes_back_iff noUrl given letters named
  refine ⟨noUrl, given, letters, named, url, made, comes.mpr ?_⟩
  rw [String.toList_ofList]
  exact ⟨by simp [endsAuthority], by decide⟩

/-- A slash in a password ends the authority. -/
theorem slash_ends_password :
    connectionUrl (Properties.ofList [("redis.password", "a/b")]) =
        .ok "redis://:a/b@127.0.0.1:6379/" ∧
      read? "redis://:a/b@127.0.0.1:6379/" = none ∧
      read? "redis://:a%2Fb@127.0.0.1:6379/" = some ⟨some "a/b", "127.0.0.1", 6379⟩ := by
  refine ⟨by cbv, ?_, ?_⟩
  · rw [read?, String.toList_ofList]
    decide +kernel
  · rw [read?, String.toList_ofList]
    decide +kernel

end Address

end GeoSet

end SpatialWorkload
