import JavaScribe.Call
import Mathlib

/-!
# What calls are made of

Rules for showing that all steps of a list have a property, one for each of the functions that a
call is put together from.
-/
namespace JavaScribe
variable {p : Step → Prop}

namespace Step

lemma forall_after {α : Type} {checked : Except Fault α} {steps : α → List Step} :
    (∀ x ∈ after checked steps, p x) ↔
      (∀ a, checked = .ok a → ∀ x ∈ steps a, p x) ∧
        ∀ fault, checked = .error fault → p (.fail fault) := by
  cases checked <;> simp [after]

lemma forall_spell {shown : Except FormatError String} {steps : String → List Step} :
    (∀ x ∈ spell shown steps, p x) ↔
      (∀ text, shown = .ok text → ∀ x ∈ steps text, p x) ∧
        ∀ e, shown = .error e → p (.fail (.format e)) := by
  cases shown <;> simp [spell, after, Except.mapError]

/-- The rule for the text of a value, which can only be missing where an integer is too long. -/
lemma forall_spell_asText {v : Value} {steps : String → List Step}
    (hn : ∀ text, v.asText = .ok text → ∀ x ∈ steps text, p x)
    (hf : p (.fail (.format .integerTooLong))) : ∀ x ∈ spell v.asText steps, p x :=
  forall_spell.mpr ⟨hn, fun _ he => Value.asText_eq_error he ▸ hf⟩

lemma forall_line (text : String) : (∀ x ∈ line text, p x) ↔ p (.indent 0) ∧ p (.write text) := by
  simp [line]

lemma forall_typeList {types : List Value} (ht : ∀ t ∈ types, p (.writeType t))
    (hs : p (.write ", ")) : ∀ x ∈ typeList types, p x := by
  fun_induction typeList types with
  | case1 => simp
  | case2 t => simpa using ht
  | case3 t rest _ ih =>
    simp only [List.forall_mem_cons] at ht ⊢
    exact ⟨ht.1, hs, ih ht.2⟩

lemma forall_clause {keyword : String} {types : List Value} (ht : ∀ t ∈ types, p (.writeType t))
    (hs : p (.write ", ")) (hl : p (.write "\n")) (hi : p (.indent 0))
    (hk : p (.write ("    " ++ keyword ++ " "))) : ∀ x ∈ clause keyword types, p x := by
  unfold clause
  split
  · simp
  · simp only [List.forall_mem_append, List.forall_mem_cons]
    exact ⟨⟨hl, hi, hk, by simp⟩, forall_typeList ht hs⟩

end Step

namespace Annotation

/-- The texts that stand for a value. -/
def printed : Value → List String
  | .list vs | .tuple vs => vs.flatMap fun v => (elementText v).toOption.toList
  | v => (elementText v).toOption.toList

lemma printed_of_single {v : Value} (h : v.isArray = false) :
    printed v = (elementText v).toOption.toList := by
  cases v <;> first | rfl | simp [Value.isArray] at h

/-- The texts that stand for an attribute. -/
def entryTexts (e : Value × Value) : List String := e.1.asText.toOption.toList ++ printed e.2

/-- The texts that stand after the name of an annotation. -/
def texts : Value → List String
  | .none => []
  | .map es => es.flatMap entryTexts
  | v => printed v

lemma elementText_eq_error {v : Value} {e : FormatError} (h : elementText v = .error e) :
    e = .integerTooLong := by
  cases v with
  | bool b => simp [elementText] at h
  | _ => exact Value.asText_eq_error h

end Annotation

namespace Call

lemma forall_modifierSteps {ms : List Modifier} :
    (∀ x ∈ modifierSteps ms, p x) ↔ ∀ m ∈ ms, p (.write (m.keyword ++ " ")) := by
  simp [modifierSteps]

lemma forall_parameterSteps {parameters : List Value} (ht : ∀ t ∈ parameters, p (.writeType t))
    (hb : p (.write " ")) (hs : p (.write ", ")) : ∀ x ∈ parameterSteps parameters, p x := by
  fun_induction parameterSteps parameters with
  | case1 type name rest ih =>
    simp only [List.forall_mem_cons, List.forall_mem_append] at ht ⊢
    refine ⟨⟨⟨ht.1, hb, ht.2.1, by simp⟩, ?_⟩, ih ht.2.2⟩
    split <;> simp [hs]
  | case2 => simp

lemma forall_constantStep {v : Value} {mark : String} (hi : p (.indent 0))
    (hw : ∀ text, v.asText = .ok text → p (.write (text ++ mark)))
    (hf : p (.fail (.format .integerTooLong))) : ∀ x ∈ constantStep v mark, p x := by
  rw [constantStep, List.forall_mem_cons]
  exact ⟨hi, Step.forall_spell_asText (fun text ht => by simpa using hw text ht) hf⟩

lemma constantStep_text (name mark : String) :
    constantStep (.text name) mark = Step.line (name ++ mark) := rfl

lemma forall_constantSteps {vs : List Value} (hi : p (.indent 0))
    (hw : ∀ v ∈ vs, ∀ text, v.asText = .ok text →
      p (.write (text ++ ",\n")) ∧ p (.write (text ++ ";\n")))
    (hf : p (.fail (.format .integerTooLong))) : ∀ x ∈ constantSteps vs, p x := by
  fun_induction constantSteps vs with
  | case1 => simp
  | case2 v => exact forall_constantStep hi (fun text ht => (hw v (by simp) text ht).2) hf
  | case3 v vs _ ih =>
    rw [List.forall_mem_cons] at hw
    rw [List.forall_mem_append]
    exact ⟨forall_constantStep hi (fun text ht => (hw.1 text ht).1) hf, ih hw.2⟩

lemma forall_importSteps {keyword : String} {names : List Value}
    (hn : ∀ ns, Argument.imports names = .ok ns →
      ∀ n ∈ ns, p (.register n) ∧ p (.write (keyword ++ " " ++ n ++ ";\n")))
    (hf : ∀ fault, Argument.imports names = .error fault → p (.fail fault)) :
    ∀ x ∈ importSteps keyword names, p x := by
  refine Step.forall_after.mpr ⟨fun ns hs x hx => ?_, hf⟩
  obtain ⟨n, hm, hx⟩ := List.mem_flatMap.mp hx
  obtain ⟨hr, hw⟩ := hn ns hs n hm
  simp only [List.mem_cons, List.not_mem_nil, or_false] at hx
  rcases hx with rfl | rfl
  · exact hr
  · exact hw

lemma forall_packageHead {name : Value} (hr : p (.requireNoPackage name))
    (hw : name.truthy = true → ∀ text, name.asText = .ok text →
      p (.write ("package " ++ text ++ ";\n\n")))
    (hl : p (.fail (.format .integerTooLong))) (hf : p (.fail (.notAppendable name.kind))) :
    ∀ x ∈ packageHead name, p x := by
  unfold packageHead
  rw [List.forall_mem_cons]
  refine ⟨hr, ?_⟩
  split
  · rename_i ht
    refine Step.forall_spell_asText (fun text hs => ?_) hl
    rw [List.forall_mem_cons]
    refine ⟨hw ht text hs, ?_⟩
    cases name <;> simp [hf]
  · simp

lemma forall_packageSteps {name : Value} (hr : p (.requireNoPackage name))
    (hw : name.truthy = true → ∀ text, name.asText = .ok text →
      p (.write ("package " ++ text ++ ";\n\n")))
    (hl : p (.fail (.format .integerTooLong))) (hf : p (.fail (.notAppendable name.kind)))
    (hs : p (.setPackage name)) : ∀ x ∈ packageSteps name, p x := by
  rw [packageSteps, List.forall_mem_append, List.forall_mem_singleton]
  exact ⟨forall_packageHead hr hw hl hf, hs⟩

lemma forall_fieldSteps {type modifiers : Value} {name : String} {initial : Option String}
    (hi : p (.indent 0)) (hm : ∀ m : Modifier, p (.write (m.keyword ++ " ")))
    (ht : p (.writeType type)) (hn : p (.write (" " ++ name)))
    (hv : ∀ v, initial = some v → p (.write (" = " ++ v))) (he : p (.write ";\n"))
    (hf : ∀ fault, Argument.modifiers modifiers = .error fault → p (.fail fault)) :
    ∀ x ∈ fieldSteps type name modifiers initial, p x := by
  refine Step.forall_after.mpr ⟨fun ms _ => ?_, hf⟩
  simp only [List.forall_mem_append, List.forall_mem_cons]
  refine ⟨⟨⟨⟨⟨hi, by simp⟩, forall_modifierSteps.mpr fun m _ => hm m⟩, ht, hn, by simp⟩, ?_⟩,
    he, by simp⟩
  cases initial with
  | none => simp
  | some v => simpa using hv v rfl

/-- The lines of a statement, two units deeper after the first. -/
def hangingSteps : List String → List Step
  | [] => []
  | first :: more =>
    Step.line first ++ more.flatMap (fun l => [.write "\n", .indent 2, .write l]) ++
      [.write ";\n"]

lemma forall_hangingSteps {lines : List String} (hi : ∀ deeper, p (.indent deeper))
    (hl : ∀ l ∈ lines, p (.write l)) (hn : p (.write "\n")) (he : p (.write ";\n")) :
    ∀ x ∈ hangingSteps lines, p x := by
  cases lines with
  | nil => simp [hangingSteps]
  | cons first more =>
    rw [List.forall_mem_cons] at hl
    simp only [hangingSteps, List.forall_mem_append, Step.forall_line, List.forall_mem_singleton,
      List.forall_mem_flatMap, List.forall_mem_cons]
    refine ⟨⟨⟨hi 0, hl.1⟩, fun l hm => ?_⟩, he⟩
    exact ⟨hn, hi 2, hl.2 l hm⟩

lemma statementSteps_eq (pattern : Value) (arguments : List Value) :
    statementSteps pattern arguments = statementPlace "emit_statement" ::
      Step.after (Argument.filledText pattern arguments) fun text =>
        hangingSteps (Text.lines text) := rfl

lemma forall_statementSteps {pattern : Value} {arguments : List Value}
    (hp : p (statementPlace "emit_statement")) (hi : ∀ deeper, p (.indent deeper))
    (hl : ∀ text, Argument.filledText pattern arguments = .ok text →
      ∀ l ∈ Text.lines text, p (.write l))
    (hn : p (.write "\n")) (he : p (.write ";\n"))
    (hf : ∀ fault, Argument.filledText pattern arguments = .error fault → p (.fail fault)) :
    ∀ x ∈ statementSteps pattern arguments, p x := by
  rw [statementSteps_eq, List.forall_mem_cons]
  exact ⟨hp, Step.forall_after.mpr
    ⟨fun text ht => forall_hangingSteps hi (hl text ht) hn he, hf⟩⟩

lemma forall_javadocSteps {pattern : Value} {arguments : List Value} (hi : p (.indent 0))
    (ho : p (.write "/**\n")) (hc : p (.write " */\n")) (hb : p (.write " *\n"))
    (hl : ∀ text, Argument.filledText pattern arguments = .ok text →
      ∀ l ∈ Text.lines text, p (.write (" * " ++ l ++ "\n")))
    (hf : ∀ fault, Argument.filledText pattern arguments = .error fault → p (.fail fault)) :
    ∀ x ∈ javadocSteps pattern arguments, p x := by
  refine Step.forall_after.mpr ⟨fun text ht => ?_, hf⟩
  simp only [List.forall_mem_append, Step.forall_line, List.forall_mem_flatMap]
  refine ⟨⟨⟨hi, ho⟩, fun l hm => ⟨hi, ?_⟩⟩, hi, hc⟩
  split
  · exact hb
  · refine hl text ht l ?_
    split at hm
    · exact hm
    · have hd := List.mem_reverse.mp hm
      exact List.mem_reverse.mp ((List.dropWhile_sublist _).mem hd)

lemma forall_commentSteps {pattern : Value} {arguments : List Value} (hi : p (.indent 0))
    (hw : ∀ v, Argument.filled pattern arguments = .ok v → ∀ text, v.asText = .ok text →
      p (.write ("// " ++ text ++ "\n")))
    (hl : ∀ v, Argument.filled pattern arguments = .ok v → v.isOverlong = true →
      p (.fail (.format .integerTooLong)))
    (hf : ∀ fault, Argument.filled pattern arguments = .error fault → p (.fail fault)) :
    ∀ x ∈ commentSteps pattern arguments, p x := by
  simp only [commentSteps, List.forall_mem_append, List.forall_mem_singleton]
  refine ⟨hi, Step.forall_after.mpr ⟨fun v hv => ?_, hf⟩⟩
  cases ho : v.isOverlong with
  | true =>
    have ht := Value.asText_of_isOverlong ho
    simpa [Step.spell, ht, Except.mapError, Step.after] using hl v hv ho
  | false =>
    have ht := Value.asText_of_not_isOverlong ho
    simpa [Step.spell, ht, Except.mapError, Step.after] using hw v hv _ ht

/-- What follows the name of a type that extends another. -/
def extension : Value → List Step
  | .none => []
  | s => [.write " extends ", .writeType s]

/-- The name of a method after its result, or alone. -/
def headline (name : Value) : Value → List Step
  | .none => [.writeType name]
  | r => .writeType r :: Step.spell name.asText fun text => [.write (" " ++ text)]

lemma headline_of_ne_none {name result : Value} (h : result ≠ .none) :
    headline name result =
      .writeType result :: Step.spell name.asText fun text => [.write (" " ++ text)] := by
  cases result with
  | none => exact absurd rfl h
  | _ => rfl

section
open Annotation Step
variable (hw : ∀ text, p (.write text)) (hi : ∀ deeper, p (.indent deeper))
  (he : ∀ scope, p (.enter scope)) (hl : ∀ operation expected, p (.leave operation expected))
  (hf : p (.fail (.format .integerTooLong)))

include hw hf in
lemma forall_element (v : Value) : ∀ x ∈ element v, p x :=
  forall_spell.mpr ⟨fun _ _ => by simp [hw], fun _ h => elementText_eq_error h ▸ hf⟩

include hw hf in
lemma forall_key (k : Value) : ∀ x ∈ key k, p x :=
  forall_spell_asText (fun _ _ => by simp [hw]) hf

include hw hi he hl hf

lemma forall_value (v : Value) : ∀ x ∈ value v, p x := by
  have helements : ∀ vs separator, ∀ x ∈ elements separator vs, p x := by
    intro vs
    induction vs with
    | nil => simp [elements]
    | cons v vs ih =>
      intro separator
      simpa [elements, or_imp, forall_and, hw, hi] using
        And.intro (forall_element hw hf v) (ih ",\n")
  cases v with
  | list vs | tuple vs =>
    simpa [value, array, or_imp, forall_and, hw, hi, he, hl] using helements vs "\n"
  | _ => exact forall_element hw hf _

lemma forall_attributes (es : List (Value × Value)) : ∀ x ∈ attributes es, p x := by
  have hv := forall_value hw hi he hl hf
  have hsplit : ∀ es separator, ∀ x ∈ splitAttributes separator es, p x := by
    intro es
    induction es with
    | nil => simp [splitAttributes]
    | cons e es ih =>
      intro separator
      simpa [splitAttributes, or_imp, forall_and, hw, hi] using
        And.intro (forall_key hw hf e.1) (And.intro (hv e.2) (ih ",\n"))
  have hinline : ∀ es separator, ∀ x ∈ inlineAttributes separator es, p x := by
    intro es
    induction es with
    | nil => simp [inlineAttributes]
    | cons e es ih =>
      intro separator
      simpa [inlineAttributes, or_imp, forall_and, hw] using
        And.intro (forall_key hw hf e.1) (And.intro (hv e.2) (ih ", "))
  match es with
  | [] => simp [attributes]
  | [(k, v)] =>
    simp only [attributes, List.forall_mem_append, List.forall_mem_singleton]
    refine ⟨⟨⟨hw _, ?_⟩, hv v⟩, hw _⟩
    split
    · simp
    · exact forall_key hw hf k
  | e :: e' :: es =>
    simp only [attributes, List.forall_mem_append, List.forall_mem_singleton]
    refine ⟨⟨⟨⟨by simp [hw, he], ?_⟩, hl _ _⟩, ?_⟩, hw _⟩
    · split
      · exact hsplit _ _
      · exact hinline _ _
    · split <;> simp [hw, hi]

lemma forall_annotationSteps {name : Value} (hn : p (.writeType name)) (v : Value) :
    ∀ x ∈ Annotation.steps name v, p x := by
  have hv := forall_value hw hi he hl hf
  have hone : ∀ v, ∀ x ∈ [write "("] ++ value v ++ [write ")\n"], p x := by
    intro v
    simpa [or_imp, forall_and, hw] using hv v
  refine List.forall_mem_append.mpr ⟨by simp [hw, hi, hn], ?_⟩
  cases v with
  | none => simp [ending, hw]
  | map es =>
    exact List.forall_mem_append.mpr ⟨forall_attributes hw hi he hl hf es, by simp [hw]⟩
  | _ => exact hone _

end

/-- The rule for what stands before the brace of a type. -/
lemma forall_typeHead {ms : List Modifier} {name superclass : Value} {kind : String}
    {interfaces : List Value} (hi : p (.indent 0))
    (hm : ∀ m : Modifier, p (.write (m.keyword ++ " "))) (hk : p (.write (kind ++ " ")))
    (hn : p (.writeType name)) (he : p (.write " extends "))
    (hp : superclass ≠ .none → p (.writeType superclass)) (ht : ∀ t ∈ interfaces, p (.writeType t))
    (hs : p (.write ", ")) (hl : p (.write "\n"))
    (hc : p (.write ("    " ++ "implements" ++ " "))) :
    ∀ x ∈ [Step.indent 0] ++ modifierSteps ms ++ [Step.write (kind ++ " "), .writeType name] ++
      extension superclass ++ Step.clause "implements" interfaces, p x := by
  simp only [List.forall_mem_append, List.forall_mem_cons]
  refine ⟨⟨⟨⟨⟨hi, by simp⟩, forall_modifierSteps.mpr fun m _ => hm m⟩, hk, hn, by simp⟩, ?_⟩,
    Step.forall_clause ht hs hl hi hc⟩
  cases superclass with
  | none => simp [extension]
  | _ => simpa [extension, he] using hp

/-- The rule for what stands before the body of a method. -/
lemma forall_methodHead {ms : List Modifier} {result name : Value} {parameters throws : List Value}
    (hi : p (.indent 0)) (hm : ∀ m : Modifier, p (.write (m.keyword ++ " ")))
    (hr : result ≠ .none → p (.writeType result) ∧
      ∀ text, name.asText = .ok text → p (.write (" " ++ text)))
    (hf : p (.fail (.format .integerTooLong)))
    (hn : result = .none → p (.writeType name)) (ho : p (.write "(")) (hc : p (.write ")"))
    (hp : ∀ t ∈ parameters, p (.writeType t)) (ht : ∀ t ∈ throws, p (.writeType t))
    (hb : p (.write " ")) (hs : p (.write ", ")) (hl : p (.write "\n"))
    (hk : p (.write ("    " ++ "throws" ++ " "))) :
    ∀ x ∈ [Step.indent 0] ++ modifierSteps ms ++ headline name result ++
      [Step.write "("] ++ parameterSteps parameters ++ [Step.write ")"] ++
      Step.clause "throws" throws, p x := by
  simp only [List.forall_mem_append, List.forall_mem_singleton]
  refine ⟨⟨⟨⟨⟨⟨hi, forall_modifierSteps.mpr fun m _ => hm m⟩, ?_⟩, ho⟩,
    forall_parameterSteps hp hb hs⟩, hc⟩, Step.forall_clause ht hs hl hi hk⟩
  by_cases h : result = .none
  · subst h
    simpa [headline] using hn rfl
  · obtain ⟨ht, hn⟩ := hr h
    rw [headline_of_ne_none h, List.forall_mem_cons]
    exact ⟨ht, Step.forall_spell_asText (fun text hs => by simpa using hn text hs) hf⟩

/-! ## What a call is given -/

/-- The names that a value stands for, if it stands for any. -/
def listed (v : Value) : List Value := (Argument.names v).toOption.getD []

/-- The values that a call writes as types. The names of parameters are among them, and so is the
name of a method without a result. -/
def types : Call → List Value
  | openType name _ _ superclass interfaces =>
    name :: (if superclass = .none then [] else [superclass]) ++ listed interfaces
  | openMethod result name _ parameters throws =>
    (if result = .none then name else result) :: listed parameters ++ listed throws
  | openConstructor _ parameters throws => listed parameters ++ listed throws
  | field type _ _ _ => [type]
  | annotation name _ => [name]
  | _ => []

/-- The texts among these. No other value is ever written as a type. -/
def typeTexts (c : Call) : List String :=
  c.types.filterMap fun type => (Argument.text type).toOption

/-- The texts that a call writes for its arguments as they are, patterns filled and values
printed. -/
def texts : Call → List String
  | package name => if name.truthy then name.asText.toOption.toList else []
  | imports names | staticImports names => (Argument.imports names).toOption.getD []
  | openType _ kind _ _ _ => [kind]
  | openMethod result name _ _ _ => if result = .none then [] else name.asText.toOption.toList
  | field _ name _ initial => name :: initial.toList
  | enumConstant name | lastEnumConstant name => [name]
  | enumConstants names =>
    ((Argument.items names).toOption.getD []).flatMap fun v => v.asText.toOption.toList
  | statement pattern arguments | javadoc pattern arguments =>
    (Argument.filledText pattern arguments).toOption.toList
  | comment pattern arguments =>
    (Argument.filled pattern arguments).toOption.toList.flatMap fun v => v.asText.toOption.toList
  | openBlock header | nextBlock header => [header]
  | closeBlock tail => tail.toList
  | openSwitch subject => [subject]
  | annotation _ value => Annotation.texts value
  | _ => []

lemma listed_of_names {v : Value} {names : List Value} (h : Argument.names v = .ok names) :
    listed v = names := by
  simp [listed, h, Except.toOption]

end Call
end JavaScribe
