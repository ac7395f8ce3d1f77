import JavaScribe.Proofs.CallSteps

/-!
# The faults of arguments

What can be wrong with an argument, for each kind of argument: `FailsOnly p` says that whatever is
wrong has the property `p`, and the rules here ask for it of the faults that there are and of no
others. With them `Call.Admits` says what a step of a call may be.
-/
namespace JavaScribe

def FailsOnly {α ε : Type} (p : ε → Prop) (checked : Except ε α) : Prop :=
  ∀ fault, checked = .error fault → p fault

namespace FailsOnly
variable {α β ε : Type} {p : ε → Prop}

lemma ok (a : α) : FailsOnly p (.ok a : Except ε α) := by simp [FailsOnly]

lemma error {fault : ε} (h : p fault) : FailsOnly p (.error fault : Except ε α) := by
  rintro _ ⟨⟩
  exact h

lemma bind {checked : Except ε α} {f : α → Except ε β} (hc : FailsOnly p checked)
    (hf : ∀ a, FailsOnly p (f a)) : FailsOnly p (checked >>= f) := by
  cases checked with
  | ok a => exact hf a
  | error fault => exact error (hc fault rfl)

lemma map {checked : Except ε α} {f : α → β} (hc : FailsOnly p checked) :
    FailsOnly p (checked.map f) := by
  cases checked with
  | ok a => exact ok _
  | error fault => exact error (hc fault rfl)

lemma mapM {f : α → Except ε β} {xs : List α} (h : ∀ x ∈ xs, FailsOnly p (f x)) :
    FailsOnly p (xs.mapM f) := by
  induction xs with
  | nil => exact ok []
  | cons x xs ih =>
    rw [List.forall_mem_cons] at h
    rw [List.mapM_cons]
    exact h.1.bind fun b => (ih h.2).bind fun bs => ok (b :: bs)

end FailsOnly

namespace Argument
open FailsOnly
variable {p : Fault → Prop} {v : Value}

lemma failsOnly_items (h : ∀ kind, p (.notIterable kind)) : FailsOnly p (items v) := by
  unfold items
  split
  · exact ok _
  · exact error (h _)

lemma failsOnly_modifier (hu : ∀ keyword, p (.unknownModifier keyword))
    (hl : ∀ kind, p (.noLetterCase kind)) : FailsOnly p (modifier v) := by
  unfold modifier
  split
  · exact ok _
  · split
    · exact ok _
    · exact error (hu _)
  · exact error (hl _)

lemma failsOnly_modifiers (hu : ∀ keyword, p (.unknownModifier keyword))
    (hl : ∀ kind, p (.noLetterCase kind)) (hi : ∀ kind, p (.notIterable kind)) :
    FailsOnly p (modifiers v) := by
  have hall : ∀ v : Value, FailsOnly p
      (do let vs ← items v; return Modifier.ordered (← vs.mapM modifier)) := fun v =>
    (failsOnly_items hi).bind fun vs =>
      (mapM fun _ _ => failsOnly_modifier hu hl).bind fun _ => ok _
  unfold modifiers
  split
  · exact ok _
  · cases v with
    | text => exact (failsOnly_modifier hu hl).map
    | modifier => exact ok _
    | _ => exact hall _

lemma failsOnly_names (hi : ∀ kind, p (.notIterable kind)) : FailsOnly p (names v) := by
  unfold names
  split
  · exact ok _
  · split
    · exact failsOnly_items hi
    · exact ok _

lemma failsOnly_filled {arguments : List Value} (hf : ∀ e, p (.format e))
    (hn : ∀ kind, p (.notFillable kind)) : FailsOnly p (filled v arguments) := by
  have hpattern : ∀ s, FailsOnly p ((interpolate s arguments).mapError Fault.format) := by
    intro s
    cases interpolate s arguments with
    | ok text => exact ok text
    | error e => exact error (hf e)
  unfold filled
  split
  · exact (hpattern _).map
  · split
    · exact ok _
    · exact error (hn _)

lemma failsOnly_filledText {arguments : List Value} (hf : ∀ e, p (.format e))
    (hn : ∀ kind, p (.notFillable kind)) (hl : ∀ kind, p (.noLines kind)) :
    FailsOnly p (filledText v arguments) := by
  refine (failsOnly_filled hf hn).bind fun w => ?_
  cases w with
  | text => exact ok _
  | _ => exact error (hl _)

lemma failsOnly_importItems (hi : ∀ kind, p (.notIterable kind))
    (hu : ∀ kind, p (.unhashable kind)) : FailsOnly p (importItems v) := by
  have hmember : ∀ v, FailsOnly p (member v) := by
    intro v
    unfold member
    split
    · exact error (hu _)
    · exact ok _
  cases v with
  | text => exact ok _
  | _ => exact (failsOnly_items hi).bind fun vs => mapM fun v _ => hmember v

lemma failsOnly_imports {args : List Value} (hi : ∀ kind, p (.notIterable kind))
    (hu : ∀ kind, p (.unhashable kind)) (ho : ∀ left right, p (.unordered left right))
    (ht : ∀ kind, p (.notText kind)) : FailsOnly p (imports args) := by
  have htext : ∀ v, FailsOnly p (text v) := by
    intro v
    cases v with
    | text => exact ok _
    | _ => exact error (ht _)
  refine (mapM fun _ _ => failsOnly_importItems hi hu).bind fun vs => ?_
  split
  · exact mapM fun v _ => htext v
  · exact error (ho _ _)

end Argument

/-- Whether a fault says what is wrong with an argument. -/
def Fault.ofArgument : Fault → Bool
  | unevenParameters _ | unknownModifier _ | noLetterCase _ | notIterable _ | unhashable _
  | unordered _ _ | notText _ | notAppendable _ | notFillable _ | noLines _ | format _ => true
  | _ => false

namespace Call
open Step Argument

/-- The keyword of the lines that an import call writes. -/
def importKeyword? : Call → Option String
  | imports _ => some "import"
  | staticImports _ => some "import static"
  | _ => none

/-- What a step of a call may be where so much is open. What it writes as types are the values that
it is given or the name of an open type. Only the call that asks for a display, imports, packages
and the ends of types have a step of their own. What is wrong is an argument, or that a constructor
has no type to be named for. -/
def Admits (c : Call) (n : Nesting) : Step → Prop
  | .writeType type => type ∈ c.types ∨ ∃ owner, type = .text owner
  | .display type => c = .displayType type
  | .register _ => c.importKeyword? ≠ none
  | .setPackage name => c = .package name
  | .popName => c = .closeType
  | .fail fault =>
    fault.ofArgument = true ∨ fault = .noOpenType ∧ n.types = [] ∧
      ∃ modifiers parameters throws, c = .openConstructor modifiers parameters throws
  | _ => True

section
variable {c : Call} {n : Nesting}

lemma admits_fail {α : Type} {checked : Except Fault α} {fault : Fault}
    (hc : FailsOnly (·.ofArgument = true) checked) (h : checked = .error fault) :
    c.Admits n (.fail fault) :=
  Or.inl (hc fault h)

lemma admits_listed {v : Value} {names : List Value} (hs : ∀ t ∈ listed v, t ∈ c.types)
    (hn : Argument.names v = .ok names) : ∀ t ∈ names, c.Admits n (.writeType t) :=
  fun t ht => Or.inl (hs t (listed_of_names hn ▸ ht))

lemma admits_typeSteps (name : Value) (kind : String) (modifiers superclass interfaces : Value) :
    ∀ x ∈ typeSteps name kind modifiers superclass interfaces,
      (openType name kind modifiers superclass interfaces).Admits n x := by
  simp only [typeSteps, List.forall_mem_append, List.forall_mem_singleton]
  refine ⟨trivial, forall_after.mpr ⟨fun ms _ => forall_after.mpr ⟨fun is his => ?_, ?_⟩, ?_⟩⟩
  · refine List.forall_mem_append.mpr ⟨?_, by simp [Admits]⟩
    exact forall_typeHead trivial (fun _ => trivial) trivial (Or.inl (by simp [types])) trivial
      (fun hs => Or.inl (by simp [types, hs]))
      (admits_listed (fun t ht => by simp [types, ht]) his) trivial trivial trivial
  · exact fun _ => admits_fail (failsOnly_names fun _ => rfl)
  · exact fun _ => admits_fail (failsOnly_modifiers (fun _ => rfl) (fun _ => rfl) fun _ => rfl)

lemma admits_methodSteps {result name modifiers parameters throws : Value}
    (hr : result ≠ .none → c.Admits n (.writeType result))
    (hn : result = .none → c.Admits n (.writeType name))
    (hp : ∀ t ∈ listed parameters, t ∈ c.types) (ht : ∀ t ∈ listed throws, t ∈ c.types) :
    ∀ x ∈ methodSteps result name modifiers parameters throws, c.Admits n x := by
  simp only [methodSteps, List.forall_mem_append, List.forall_mem_singleton]
  refine ⟨trivial, forall_after.mpr ⟨fun ps hps => forall_after.mpr ⟨fun ts hts => ?_, ?_⟩, ?_⟩⟩
  · split
    · simp [Admits, Fault.ofArgument]
    refine forall_after.mpr ⟨fun ms _ => List.forall_mem_append.mpr ⟨?_, ?_⟩, ?_⟩
    · exact forall_methodHead trivial (fun _ => trivial) (fun h => ⟨hr h, fun _ _ => trivial⟩)
        (Or.inl rfl) hn trivial trivial (admits_listed hp hps) (admits_listed ht hts)
        trivial trivial trivial trivial
    · split <;> simp [Admits]
    · exact fun _ => admits_fail (failsOnly_modifiers (fun _ => rfl) (fun _ => rfl) fun _ => rfl)
  · exact fun _ => admits_fail (failsOnly_names fun _ => rfl)
  · exact fun _ => admits_fail (failsOnly_names fun _ => rfl)

end

theorem admits_steps (c : Call) (n : Nesting) : ∀ x ∈ c.steps n, c.Admits n x := by
  cases c with
  | package name =>
    exact forall_packageSteps trivial (fun _ _ _ => trivial) (Or.inl rfl) (Or.inl rfl) rfl
  | imports names | staticImports names =>
    exact forall_importSteps (fun _ _ _ _ => ⟨by simp [Admits, importKeyword?], trivial⟩) fun _ =>
      admits_fail (failsOnly_imports (fun _ => rfl) (fun _ => rfl) (fun _ _ => rfl) fun _ => rfl)
  | openType => exact admits_typeSteps _ _ _ _ _
  | openMethod result name modifiers parameters throws =>
    exact admits_methodSteps (fun h => Or.inl (by simp [types, h]))
      (fun h => Or.inl (by simp [types, h])) (fun t ht => by simp [types, ht])
      fun t ht => by simp [types, ht]
  | openConstructor modifiers parameters throws =>
    refine List.forall_mem_append.mpr ⟨by simp [Admits], ?_⟩
    cases ht : n.types.head? with
    | none =>
      have hn : n.types = [] := List.head?_eq_none_iff.mp ht
      exact List.forall_mem_singleton.mpr (Or.inr ⟨rfl, hn, _, _, _, rfl⟩)
    | some owner =>
      exact admits_methodSteps (fun h => absurd rfl h) (fun _ => Or.inr ⟨owner, rfl⟩)
        (fun t ht => by simp [types, ht]) fun t ht => by simp [types, ht]
  | field type name modifiers initial =>
    exact forall_fieldSteps trivial (fun _ => trivial) (Or.inl (by simp [types])) trivial
      (fun _ _ => trivial) trivial fun _ =>
        admits_fail (failsOnly_modifiers (fun _ => rfl) (fun _ => rfl) fun _ => rfl)
  | enumConstants names =>
    exact forall_after.mpr ⟨fun _ _ => forall_constantSteps trivial
      (fun _ _ _ _ => ⟨trivial, trivial⟩) (Or.inl rfl),
      fun _ => admits_fail (failsOnly_items fun _ => rfl)⟩
  | enumConstant name | lastEnumConstant name => exact (forall_line _).mpr ⟨trivial, trivial⟩
  | statement pattern arguments =>
    exact forall_statementSteps trivial (fun _ => trivial) (fun _ _ _ _ => trivial) trivial
      trivial fun _ => admits_fail
        (failsOnly_filledText (fun _ => rfl) (fun _ => rfl) fun _ => rfl)
  | javadoc pattern arguments =>
    exact forall_javadocSteps trivial trivial trivial trivial (fun _ _ _ _ => trivial) fun _ =>
      admits_fail (failsOnly_filledText (fun _ => rfl) (fun _ => rfl) fun _ => rfl)
  | comment pattern arguments =>
    exact forall_commentSteps trivial (fun _ _ _ _ => trivial) (fun _ _ _ => Or.inl rfl) fun _ =>
      admits_fail (failsOnly_filled (fun _ => rfl) fun _ => rfl)
  | annotation name value =>
    exact forall_annotationSteps (fun _ => trivial) (fun _ => trivial) (fun _ => trivial)
      (fun _ _ => trivial) (Or.inl rfl) (Or.inl (by simp [types])) value
  | closeMethod =>
    refine List.forall_mem_append.mpr ⟨by simp [Admits], ?_⟩
    split <;> simp [closingBrace, line, Admits]
  | closeBlock tail => cases tail <;> simp [steps, closingBrace, line, Admits]
  | displayType type => simp [steps, Admits]
  | _ => simp [steps, statementPlace, closingBrace, line, Admits]

end Call
end JavaScribe
