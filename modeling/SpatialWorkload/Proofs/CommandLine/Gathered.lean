import SpatialWorkload.CommandLine.Execution
import SpatialWorkload.Proofs.Properties

/-!
# Gathered properties

A command gathers its properties from files and then from arguments.  Where every file can
be read, a key has the value of its last binding in that order.
-/

namespace SpatialWorkload

theorem run_bind_of_ok {ε β γ : Type} {first : ExceptT ε Id β} {value : β}
    (came : first.run.run = .ok value) (rest : β → ExceptT ε Id γ) :
    (first >>= rest).run.run = (rest value).run.run := by
  change first = Except.ok value at came
  rw [came]
  rfl

namespace Arguments

open Properties (Mention bindingsOfText bindingOfArgument? bindingOfLine? ofText mentions)

variable {read : String → Id Source} {texts : List String}

def extendByFile (read : String → Id Source) (properties : Properties) (path : String) :
    ExceptT (Stop Failure) Id Properties := do
  match (← (Source.follow read path : Id Source)).text with
  | .ok text => return properties.extend (bindingsOfText text.toList)
  | .error fault => throw (.refused (.settings (.unreadableProperties path fault)))

theorem properties_eq (arguments : Arguments) (read : String → Id Source) :
    arguments.properties read =
      arguments.propertyFiles.foldlM (extendByFile read) Properties.empty >>= fun files =>
        pure (files.extend arguments.bindings) :=
  rfl

theorem extendByFile_eq {path text : String}
    (led : (Source.follow read path).run.text = .ok text) (properties : Properties) :
    (extendByFile read properties path).run.run =
      .ok (properties.extend (bindingsOfText text.toList)) := by
  have followed : (liftM (Source.follow read path) : ExceptT (Stop Failure) Id Source).run.run =
      .ok (Source.follow read path).run := rfl
  refine (run_bind_of_ok followed _).trans ?_
  rw [led]
  rfl

/-- Files that can be read extend properties by what stands in them, in order. -/
theorem foldlM_extendByFile {paths : List String}
    (led : paths.map (fun path => (Source.follow read path).run.text) = texts.map .ok)
    (properties : Properties) :
    (paths.foldlM (extendByFile read) properties).run.run =
      .ok (properties.extend (texts.flatMap fun text => bindingsOfText text.toList)) := by
  induction paths generalizing texts properties with
  | nil =>
      rw [List.map_eq_nil_iff.mp led.symm]
      rfl
  | cons path paths ih =>
      obtain ⟨text, rest, rfl, first, others⟩ := List.map_eq_cons_iff.mp led.symm
      rw [List.foldlM_cons, run_bind_of_ok (extendByFile_eq first.symm properties),
        ih others.symm, List.flatMap_cons, Properties.extend_append]

theorem properties_run {arguments : Arguments}
    (led : arguments.propertyFiles.map (fun path => (Source.follow read path).run.text) =
      texts.map .ok) :
    (arguments.properties read).run.run =
      .ok (Properties.ofList
        (texts.flatMap (fun text => bindingsOfText text.toList) ++ arguments.bindings)) := by
  rw [properties_eq, run_bind_of_ok (foldlM_extendByFile led _), Properties.ofList,
    Properties.extend_append]
  rfl

/--
Where every file can be read and every argument is accepted, a key has the value of its last
binding, the lines of the files in their order before the arguments.  A text of two texts is
read like the one and then the other; and an argument of a key and a value binds what the
same line of a file binds, unless the line is a comment.
-/
theorem last_binding_counts (arguments : Arguments) (read : String → Id Source)
    (texts raws : List String)
    (led : arguments.propertyFiles.map (fun path => (Source.follow read path).run.text) =
      texts.map .ok)
    (accepted : raws.map (fun raw => bindingOfArgument? raw.toList) =
      arguments.bindings.map some) :
    (∃ properties, (arguments.properties read).run.run = .ok properties ∧
      ∀ key value, properties.lookup? key = some value ↔
        ∃ before last after, mentions texts raws = before ++ last :: after ∧
          last.Binds key value ∧ ∀ later ∈ after, ∀ other, ¬later.Binds key other) ∧
    (∀ first second : String,
      ofText (first ++ "\n" ++ second) = (ofText first).extend (ofText second).bindings) ∧
    ∀ key value : List Char, Text.isBlankText key = false →
      (∀ c ∈ key, c ≠ '=' ∧ c ≠ ':' ∧ c ≠ '\n') → (Text.trim key).head? ≠ some '#' →
      (Text.trim key).head? ≠ some '!' → '\n' ∉ value →
      ∃ binding, bindingOfArgument? (key ++ '=' :: value) = some binding ∧
        bindingOfLine? (key ++ '=' :: value) = some binding ∧
        bindingsOfText (key ++ '=' :: value) = [binding] := by
  refine ⟨⟨_, properties_run led, fun key value => ?_⟩, Properties.ofText_append,
    fun key value notBlank plain noHash noBang noFeed => ?_⟩
  · have unbound : Properties.empty.lookup? key = none := rfl
    rw [Properties.ofList, Properties.lookup?_extend, unbound, Option.or_none,
      ← Properties.filterMap_mentions texts accepted]
    exact Mention.lookup_reverse_filterMap
  · obtain ⟨argument, line⟩ := Properties.binding_eq notBlank
      (fun c member => ⟨(plain c member).1, (plain c member).2.1⟩) noHash noBang value
    have whole : '\n' ∉ key ++ '=' :: value := by
      simp only [List.mem_append, List.mem_cons, not_or]
      exact ⟨fun member => (plain _ member).2.2 rfl, by decide, noFeed⟩
    refine ⟨_, argument, line, ?_⟩
    rw [Properties.bindingsOfText_eq, Text.splitAt_of_not_mem whole,
      List.filterMap_cons_some line, List.filterMap_nil]

def shadowed : Arguments :=
  ⟨.load, ["first", "second"], [("table", "C")], none⟩

def shadowedFile (path : String) : Id Source :=
  if path = "first" then pure (.file "# first\nrecordcount=1000\ntable : A\n".toUTF8.toList)
  else pure (.file "recordcount: 2000".toUTF8.toList)

theorem last_binding_counts_shadowed :
    ∃ properties, (shadowed.properties shadowedFile).run.run = .ok properties ∧
      properties.lookup? "recordcount" = some "2000" := by
  obtain ⟨⟨properties, gathered, bound⟩, -⟩ := last_binding_counts shadowed shadowedFile
    ["# first\nrecordcount=1000\ntable : A\n", "recordcount: 2000"] ["table=C"]
    (by decide +kernel) (by decide +kernel)
  refine ⟨properties, gathered, (bound _ _).mpr ⟨["# first", "recordcount=1000", "table : A"].map
    (.line ·.toList), .line "recordcount: 2000".toList, [.argument "table=C".toList], ?_,
    Mention.binding?_eq_some_iff.mp (by decide +kernel), fun later member other binds => ?_⟩⟩
  · have first : Text.lines "# first\nrecordcount=1000\ntable : A\n".toList =
        ["# first", "recordcount=1000", "table : A"].map String.toList := by
      decide +kernel
    have second : Text.lines "recordcount: 2000".toList = ["recordcount: 2000".toList] := by
      decide +kernel
    simp only [mentions, List.flatMap_cons, List.flatMap_nil, first, second]
    rfl
  · rw [List.mem_singleton.mp member] at binds
    have argument : Mention.binding? (.argument "table=C".toList) = some ("table", "C") := by
      decide +kernel
    rw [← Mention.binding?_eq_some_iff, argument] at binds
    have same : "table" = "recordcount" := congrArg Prod.fst (Option.some.inj binds)
    exact absurd same (by decide)

end Arguments

end SpatialWorkload
