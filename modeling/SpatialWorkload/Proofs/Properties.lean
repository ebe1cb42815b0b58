import Mathlib.Data.List.Induction
import Mathlib.Data.List.Nodup
import SpatialWorkload.Proofs.Text.Lines
import SpatialWorkload.Proofs.Text.Trim
import SpatialWorkload.Properties

/-!
# Bindings of property texts

What a line and an argument bind, in terms of the characters that stand in them.  Bindings
made one after the other leave to every key the value of its last one; so texts can be
joined before or after they are read.
-/

namespace SpatialWorkload.Properties

variable {properties : Properties} {bindings : List (String × String)} {key value : String}
  {text line before after : List Char} {mark : Char}

/-! ## Binding again -/

theorem extend_append (properties : Properties) (first second : List (String × String)) :
    properties.extend (first ++ second) = (properties.extend first).extend second :=
  List.foldl_append

theorem extend_concat (properties : Properties) (bindings : List (String × String))
    (last : String × String) :
    properties.extend (bindings ++ [last]) = (properties.extend bindings).bind last.1 last.2 :=
  extend_append properties bindings [last]

/-- Each key has the value of its last binding, or the one it had before. -/
theorem lookup?_extend (properties : Properties) (bindings : List (String × String))
    (key : String) :
    (properties.extend bindings).lookup? key =
      (bindings.reverse.lookup key).or (properties.lookup? key) := by
  induction bindings using List.reverseRecOn with
  | nil => rfl
  | append_singleton bindings last ih =>
      rw [extend_concat, lookup?_bind, ih, List.reverse_concat, List.lookup_cons]
      by_cases same : key = last.1
      · rw [if_pos same, beq_iff_eq.mpr same]
        rfl
      · rw [if_neg same, beq_eq_false_iff_ne.mpr same]

def keys (properties : Properties) : List String :=
  properties.bindings.map Prod.fst

theorem keys_bind (properties : Properties) (key value : String) :
    (properties.bind key value).keys =
      if key ∈ properties.keys then properties.keys else properties.keys ++ [key] :=
  Association.map_fst_set key value properties.bindings

theorem mem_keys_bind (properties : Properties) (key value : String) :
    key ∈ (properties.bind key value).keys := by
  rw [keys_bind]
  split
  · assumption
  · exact List.mem_concat_self

theorem nodup_keys_bind (distinct : properties.keys.Nodup) (key value : String) :
    (properties.bind key value).keys.Nodup := by
  rw [keys_bind]
  split
  · exact distinct
  · rename_i absent
    exact List.concat_eq_append ▸ distinct.concat absent

theorem nodup_keys_extend (distinct : properties.keys.Nodup)
    (bindings : List (String × String)) : (properties.extend bindings).keys.Nodup := by
  induction bindings generalizing properties with
  | nil => exact distinct
  | cons binding rest ih => exact ih (nodup_keys_bind distinct binding.1 binding.2)

/-- A key that is bound and not bound anew can as well be bound before. -/
theorem bind_extend (bound : key ∈ properties.keys) (value : String)
    (absent : key ∉ bindings.map Prod.fst) :
    (properties.extend bindings).bind key value = (properties.bind key value).extend bindings := by
  induction bindings generalizing properties with
  | nil => rfl
  | cons binding rest ih =>
      have differs : binding.1 ≠ key := fun same => absent (same ▸ List.mem_cons_self)
      have still : key ∈ (properties.bind binding.1 binding.2).keys := by
        rw [keys_bind]
        split
        · exact bound
        · exact List.mem_append_left _ bound
      have swapped : (properties.bind binding.1 binding.2).bind key value =
          (properties.bind key value).bind binding.1 binding.2 :=
        congrArg Properties.mk (Association.set_comm differs value binding.2 bound)
      change ((properties.bind binding.1 binding.2).extend rest).bind key value = _
      rw [ih still fun member => absent (List.mem_cons_of_mem _ member), swapped]
      rfl

/-- To bind a key anew and then to extend by all is to extend and then to bind it. -/
theorem extend_set (properties : Properties) (key value : String)
    (distinct : (bindings.map Prod.fst).Nodup) :
    properties.extend (Association.set key value bindings) =
      (properties.extend bindings).bind key value := by
  induction bindings generalizing properties with
  | nil => rfl
  | cons binding rest ih =>
      obtain ⟨known, old⟩ := binding
      obtain ⟨absent, others⟩ := List.nodup_cons.mp distinct
      rw [Association.set]
      split
      · rename_i same
        subst same
        have again : (properties.bind known old).bind known value = properties.bind known value :=
          congrArg Properties.mk (Association.set_set known old value properties.bindings)
        change (properties.bind known value).extend rest =
          ((properties.bind known old).extend rest).bind known value
        rw [bind_extend (mem_keys_bind properties known old) value absent, again]
      · exact ih (properties.bind known old) others

/-- Bindings and the map that they make extend a map alike. -/
theorem extend_ofList (properties : Properties) (bindings : List (String × String)) :
    properties.extend (ofList bindings).bindings = properties.extend bindings := by
  induction bindings using List.reverseRecOn with
  | nil => rfl
  | append_singleton bindings last ih =>
      have none : empty.keys.Nodup := List.nodup_nil
      have distinct : ((ofList bindings).bindings.map Prod.fst).Nodup :=
        nodup_keys_extend none bindings
      have made : (ofList (bindings ++ [last])).bindings =
          Association.set last.1 last.2 (ofList bindings).bindings :=
        congrArg Properties.bindings (extend_concat empty bindings last)
      rw [made, extend_set properties last.1 last.2 distinct, ih, extend_concat]

/-! ## Lines -/

def IsBinding (line : List Char) : Prop :=
  Text.isBlankText line = false ∧
    (Text.trim line).head? ≠ some '#' ∧ (Text.trim line).head? ≠ some '!'

/-- What a line binds: what stands before and behind its first mark, or all of it to nothing. -/
inductive LineBinds (line : List Char) : String → String → Prop where
  | marked {before after : List Char} {mark : Char} (binding : IsBinding line)
      (isMark : mark = '=' ∨ mark = ':') (first : ∀ c ∈ before, c ≠ '=' ∧ c ≠ ':')
      (same : Text.trim line = before ++ mark :: after) :
      LineBinds line (String.ofList (Text.trim before)) (String.ofList (Text.trim after))
  | bare (binding : IsBinding line) (unmarked : ∀ c ∈ Text.trim line, c ≠ '=' ∧ c ≠ ':') :
      LineBinds line (String.ofList (Text.trim line)) ""

theorem splitBinding_append (isMark : mark = '=' ∨ mark = ':')
    (first : ∀ c ∈ before, c ≠ '=' ∧ c ≠ ':') (after : List Char) :
    splitBinding (before ++ mark :: after) = (before, after) := by
  induction before with
  | nil => exact if_pos isMark
  | cons c before ih =>
      have other : ¬(c = '=' ∨ c = ':') :=
        not_or.mpr (first c List.mem_cons_self)
      rw [List.cons_append, splitBinding, if_neg other,
        ih fun d member => first d (List.mem_cons_of_mem c member)]

theorem splitBinding_of_unmarked (unmarked : ∀ c ∈ text, c ≠ '=' ∧ c ≠ ':') :
    splitBinding text = (text, []) := by
  induction text with
  | nil => rfl
  | cons c text ih =>
      have other : ¬(c = '=' ∨ c = ':') :=
        not_or.mpr (unmarked c List.mem_cons_self)
      rw [splitBinding, if_neg other, ih fun d member => unmarked d (List.mem_cons_of_mem c member)]

/-- A text has no mark, or a first one. -/
theorem unmarked_or_exists_first (text : List Char) :
    (∀ c ∈ text, c ≠ '=' ∧ c ≠ ':') ∨
      ∃ before mark after, text = before ++ mark :: after ∧ (mark = '=' ∨ mark = ':') ∧
        ∀ c ∈ before, c ≠ '=' ∧ c ≠ ':' := by
  induction text with
  | nil => exact Or.inl nofun
  | cons c text ih =>
      by_cases isMark : c = '=' ∨ c = ':'
      · exact Or.inr ⟨[], c, text, rfl, isMark, nofun⟩
      · have other := not_or.mp isMark
        rcases ih with unmarked | ⟨before, mark, after, rfl, isMark, first⟩
        · exact Or.inl (List.forall_mem_cons.mpr ⟨other, unmarked⟩)
        · exact Or.inr ⟨c :: before, mark, after, rfl, isMark,
            List.forall_mem_cons.mpr ⟨other, first⟩⟩

theorem bindingOfLine?_of_isBinding (binding : IsBinding line) :
    bindingOfLine? line =
      some (String.ofList (Text.trim (splitBinding (Text.trim line)).1),
        String.ofList (Text.trim (splitBinding (Text.trim line)).2)) := by
  obtain ⟨some, noHash, noBang⟩ := binding
  rw [← Text.isBlankText_trim] at some
  unfold bindingOfLine?
  generalize Text.trim line = trimmed at some noHash noBang
  split
  · cases some
  · exact absurd rfl noHash
  · exact absurd rfl noBang
  · rfl

theorem isBinding_of_bindingOfLine? {binding : String × String}
    (bound : bindingOfLine? line = some binding) : IsBinding line := by
  refine ⟨Bool.eq_false_iff.mpr fun blank => ?_, fun starts => ?_, fun starts => ?_⟩
  · rw [bindingOfLine?, Text.trim_of_isBlankText blank] at bound
    cases bound
  · obtain ⟨rest, same⟩ := List.head?_eq_some_iff.mp starts
    rw [bindingOfLine?, same] at bound
    cases bound
  · obtain ⟨rest, same⟩ := List.head?_eq_some_iff.mp starts
    rw [bindingOfLine?, same] at bound
    cases bound

/-- A line is read as what it binds. -/
theorem bindingOfLine?_eq_some_iff :
    bindingOfLine? line = some (key, value) ↔ LineBinds line key value := by
  constructor
  · intro bound
    have binding := isBinding_of_bindingOfLine? bound
    rw [bindingOfLine?_of_isBinding binding] at bound
    rcases unmarked_or_exists_first (Text.trim line) with
      unmarked | ⟨before, mark, after, same, isMark, first⟩
    · rw [splitBinding_of_unmarked unmarked, Text.trim_trim] at bound
      cases bound
      exact .bare binding unmarked
    · rw [same, splitBinding_append isMark first] at bound
      cases bound
      exact .marked binding isMark first same
  · intro binds
    cases binds with
    | marked binding isMark first same =>
        rw [bindingOfLine?_of_isBinding binding, same, splitBinding_append isMark first]
    | bare binding unmarked =>
        rw [bindingOfLine?_of_isBinding binding, splitBinding_of_unmarked unmarked, Text.trim_trim]
        rfl

theorem bindingOfLine?_carriageReturn (line : List Char) :
    bindingOfLine? (line ++ ['\r']) = bindingOfLine? line := by
  unfold bindingOfLine?
  rw [Text.trim_append_right line (show Text.isBlankText ['\r'] = true from rfl)]

theorem bindingsOfText_eq (text : List Char) :
    bindingsOfText text = (Text.splitAt '\n' text).filterMap bindingOfLine? :=
  Text.filterMap_lines rfl bindingOfLine?_carriageReturn text

/-- The bindings of texts joined by a line feed are those of both. -/
theorem bindingsOfText_append (first second : List Char) :
    bindingsOfText (first ++ '\n' :: second) = bindingsOfText first ++ bindingsOfText second := by
  rw [bindingsOfText_eq, bindingsOfText_eq, bindingsOfText_eq, Text.splitAt_append,
    List.filterMap_append]

/-- To read joined texts is to read the one and to extend it by the other. -/
theorem ofText_append (first second : String) :
    ofText (first ++ "\n" ++ second) = (ofText first).extend (ofText second).bindings := by
  have joined : (first ++ "\n" ++ second).toList = first.toList ++ '\n' :: second.toList := by
    rw [String.toList_append, String.toList_append, List.append_assoc]
    rfl
  rw [ofText, joined, bindingsOfText_append, ofText, ofText, extend_ofList]
  exact extend_append empty _ _

/-! ## Arguments -/

/-- What an argument binds: what stands before and behind its first equals sign. -/
inductive ArgumentBinds (argument : List Char) : String → String → Prop where
  | marked {before after : List Char} (same : argument = before ++ '=' :: after)
      (first : '=' ∉ before) (some : Text.isBlankText before = false) :
      ArgumentBinds argument (String.ofList (Text.trim before)) (String.ofList (Text.trim after))

theorem bindingOfArgument?_append (first : '=' ∉ before) (after : List Char) :
    bindingOfArgument? (before ++ '=' :: after) =
      if Text.isBlankText before then none
      else some (String.ofList (Text.trim before), String.ofList (Text.trim after)) := by
  rw [bindingOfArgument?, Text.takeWhile_append_cons first, Text.dropWhile_append_cons first]
  rfl

theorem bindingOfArgument?_eq_some_iff {argument : List Char} :
    bindingOfArgument? argument = some (key, value) ↔ ArgumentBinds argument key value := by
  constructor
  · intro bound
    by_cases marked : '=' ∈ argument
    · obtain ⟨before, after, rfl, first⟩ := List.eq_append_cons_of_mem marked
      rw [bindingOfArgument?_append first] at bound
      split at bound
      · cases bound
      · rename_i some
        cases bound
        exact .marked rfl first (Bool.eq_false_iff.mpr some)
    · rw [bindingOfArgument?, Text.dropWhile_of_not_mem marked] at bound
      cases bound
  · intro binds
    cases binds with
    | marked same first some =>
        rw [same, bindingOfArgument?_append first, some]
        rfl

/-- An argument binds what it binds as a line, where it is no comment and no colon comes first. -/
theorem binding_eq {key : List Char} (some : Text.isBlankText key = false)
    (unmarked : ∀ c ∈ key, c ≠ '=' ∧ c ≠ ':') (noHash : (Text.trim key).head? ≠ Option.some '#')
    (noBang : (Text.trim key).head? ≠ Option.some '!') (value : List Char) :
    bindingOfArgument? (key ++ '=' :: value) =
        Option.some (String.ofList (Text.trim key), String.ofList (Text.trim value)) ∧
      bindingOfLine? (key ++ '=' :: value) =
        Option.some (String.ofList (Text.trim key), String.ofList (Text.trim value)) := by
  have trimmed : Text.trim (key ++ '=' :: value) =
      Text.trimStart key ++ '=' :: Text.trimEnd value := by
    rw [Text.trim, Text.trimStart_append some, Text.trimEnd_append_cons _ _ (by decide)]
  have inside : ∀ c ∈ Text.trimStart key, c ≠ '=' ∧ c ≠ ':' := fun c member =>
    unmarked c ((List.dropWhile_suffix _).subset member)
  have start : (Text.trim (key ++ '=' :: value)).head? = (Text.trim key).head? := by
    have left : Text.trimStart key ≠ [] := fun none => by
      rw [Text.trimStart_eq_nil.mp none] at some
      cases some
    obtain ⟨c, rest, first⟩ := List.exists_cons_of_ne_nil left
    rw [trimmed, Text.head?_trim some, first]
    rfl
  have binding : IsBinding (key ++ '=' :: value) := by
    refine ⟨?_, start ▸ noHash, start ▸ noBang⟩
    rw [Text.isBlankText_append, some]
    rfl
  constructor
  · exact bindingOfArgument?_eq_some_iff.mpr (.marked rfl (fun member => (unmarked _ member).1 rfl)
      some)
  · have binds := LineBinds.marked binding (Or.inl rfl) inside trimmed
    rw [Text.trim_trimEnd, Text.trim_trimStart] at binds
    exact bindingOfLine?_eq_some_iff.mpr binds

/-! ## The last of many bindings -/

/-- What can bind a key: a line of a text, or an argument. -/
inductive Mention where
  | line (text : List Char)
  | argument (text : List Char)

namespace Mention

def binding? : Mention → Option (String × String)
  | .line text => bindingOfLine? text
  | .argument text => bindingOfArgument? text

def Binds : Mention → String → String → Prop
  | .line text => LineBinds text
  | .argument text => ArgumentBinds text

theorem binding?_eq_some_iff {mention : Mention} :
    mention.binding? = some (key, value) ↔ mention.Binds key value := by
  cases mention with
  | line text => exact bindingOfLine?_eq_some_iff
  | argument text => exact bindingOfArgument?_eq_some_iff

def value? (mention : Mention) (key : String) : Option String :=
  mention.binding?.bind fun binding => if key = binding.1 then some binding.2 else none

theorem value?_eq_some_iff {mention : Mention} :
    mention.value? key = some value ↔ mention.Binds key value := by
  rw [← binding?_eq_some_iff, value?, Option.bind_eq_some_iff]
  constructor
  · rintro ⟨⟨known, bound⟩, found, same⟩
    split at same
    · rename_i equal
      cases same
      exact equal ▸ found
    · cases same
  · exact fun found => ⟨(key, value), found, if_pos rfl⟩

theorem lookup_filterMap (all : List Mention) (key : String) :
    (all.filterMap binding?).lookup key = all.findSome? (·.value? key) := by
  induction all with
  | nil => rfl
  | cons mention rest ih =>
      rw [List.filterMap_cons, List.findSome?_cons, value?]
      cases mention.binding? with
      | none => exact ih
      | some binding =>
          rw [List.lookup_cons, Option.bind_some]
          by_cases same : key = binding.1
          · rw [if_pos same, beq_iff_eq.mpr same]
          · rw [if_neg same, beq_eq_false_iff_ne.mpr same, ih]

/-- What is looked up among bindings from behind was bound last. -/
theorem lookup_reverse_filterMap {all : List Mention} :
    (all.filterMap binding?).reverse.lookup key = some value ↔
      ∃ before last after, all = before ++ last :: after ∧ last.Binds key value ∧
        ∀ later ∈ after, ∀ other, ¬later.Binds key other := by
  have silent (mention : Mention) :
      mention.value? key = none ↔ ∀ other, ¬mention.Binds key other := by
    simp only [← value?_eq_some_iff]
    exact Option.eq_none_iff_forall_ne_some
  rw [← List.filterMap_reverse, lookup_filterMap, List.findSome?_eq_some_iff]
  constructor
  · rintro ⟨after, last, before, same, bound, others⟩
    refine ⟨before.reverse, last, after.reverse, ?_, value?_eq_some_iff.mp bound,
      fun later member => (silent later).mp (others later (List.mem_reverse.mp member))⟩
    rw [List.reverse_eq_append_iff.mp same, List.reverse_cons, List.append_assoc]
    rfl
  · rintro ⟨before, last, after, rfl, bound, others⟩
    refine ⟨after.reverse, last, before.reverse, ?_, value?_eq_some_iff.mpr bound,
      fun later member => (silent later).mpr (others later (List.mem_reverse.mp member))⟩
    rw [List.reverse_append, List.reverse_cons, List.append_assoc]
    rfl

end Mention

def mentions (texts raws : List String) : List Mention :=
  texts.flatMap (fun text => (Text.lines text.toList).map Mention.line) ++
    raws.map fun raw => .argument raw.toList

theorem filterMap_mentions {raws : List String} (texts : List String)
    (accepted : raws.map (fun raw => bindingOfArgument? raw.toList) = bindings.map some) :
    (mentions texts raws).filterMap Mention.binding? =
      texts.flatMap (fun text => bindingsOfText text.toList) ++ bindings := by
  have lines (text : String) :
      ((Text.lines text.toList).map Mention.line).filterMap Mention.binding? =
        bindingsOfText text.toList :=
    List.filterMap_map
  have arguments : (raws.map fun raw => Mention.argument raw.toList).filterMap Mention.binding? =
      bindings := by
    have all := congrArg (List.filterMap id) accepted
    rw [List.filterMap_map, List.filterMap_map] at all
    rw [List.filterMap_map]
    exact all.trans List.filterMap_some
  rw [mentions, List.filterMap_append, List.filterMap_flatMap, arguments]
  simp only [lines]

end SpatialWorkload.Properties
