import JavaScribe.Proofs.Braces
import JavaScribe.Proofs.OpenTypes

/-!
# The braces of each call

A call whose texts have no braces of their own leaves as many braces open as there are open scopes
that have one, which is all but those of abstract methods, if it was so before (`leads_steps`). This
also goes for calls that break off after some of their text: but for a refusal of the sink and a
value without a text, a call can only fail before its first brace.
-/
namespace JavaScribe

/-- No text that the call is given and no value that it prints has a brace. -/
def Call.Unbraced (c : Call) : Prop :=
  (∀ text ∈ c.texts, Braceless text) ∧ ∀ text ∈ c.typeTexts, Braceless text

instance (c : Call) : Decidable c.Unbraced := inferInstanceAs (Decidable (_ ∧ _))

def Move.Unbraced : Move → Prop
  | .call c => c.Unbraced
  | .setUnit unit => Braceless unit
  | .setShortens _ => True

instance (m : Move) : Decidable m.Unbraced := by
  cases m <;> unfold Move.Unbraced <;> infer_instance

/-- A step that changes neither the nesting nor the count of braces. -/
def Step.Plain (x : Step) : Prop := x.still = true ∧ Braceless x.shown

/-- As many braces are open as there are scopes that have one. -/
def Braces.Matched (a : Nesting × Option ℕ) : Prop :=
  a.2 = some (a.1.scopes.countP (· ≠ .abstractMethod))

def Braces.Settled (e : Exit) (a : Nesting × Option ℕ) : Prop :=
  e ≠ .refused → e ≠ .unshown → Matched a

namespace Braces
open Text
variable {n : Nesting} {k : Option ℕ} {a : Nesting × Option ℕ} {xs rest : List Step}

lemma Matched.settled (h : Matched a) (e : Exit) : Settled e a := fun _ _ => h

lemma Matched.early (h : Matched a) : Early Settled a :=
  ⟨h.settled _, h.settled _, h.settled _⟩

lemma quiet_of_plain {x : Step} {j : ℕ} (h : x.Plain) : Quiet next (n, some j) x := by
  intro b hb
  obtain ⟨m, hm, rfl⟩ := Option.map_eq_some_iff.mp hb
  obtain rfl := Nesting.quiet_of_still h.1 m hm
  simp [braces?_of_braceless h.2]

lemma leads_front (h : ∀ x ∈ xs, x.Plain) (hm : Matched a) (hr : Leads next Settled a rest) :
    Leads next Settled a (xs ++ rest) := by
  obtain ⟨n, _ | j⟩ := a
  · simp [Matched] at hm
  · exact Leads.quiet (fun x hx => quiet_of_plain (h x hx)) hm.early hr

lemma leads_plain (h : ∀ x ∈ xs, x.Plain) (hm : Matched a) : Leads next Settled a xs := by
  have hl : Leads next Settled a (xs ++ []) := leads_front h hm (hm.settled .done)
  simpa using hl

lemma leads_after {β : Type} {checked : Except Fault β} {steps : β → List Step} (hm : Matched a)
    (h : ∀ b, checked = .ok b → Leads next Settled a (steps b)) :
    Leads next Settled a (Step.after checked steps) :=
  Leads.after (fun _ => rfl) hm.early h

lemma leads_fail {fault : Fault} (hm : Matched a) : Leads next Settled a (.fail fault :: rest) :=
  Leads.fail rfl (hm.settled _)

/-! No step that writes a text of its own can fail for another reason than a refusal. -/

@[simp] lemma leads_write (text : String) :
    Leads next Settled (n, k) (.write text :: rest) ↔
      Leads next Settled (n, k.bind fun j => braces? j text.toList) rest := by
  simp [Leads, next, Nesting.next, Settled, Step.writes, Step.checks, Step.shown]

@[simp] lemma leads_indent (deeper : ℕ) :
    Leads next Settled (n, k) (.indent deeper :: rest) ↔ Leads next Settled (n, k) rest := by
  cases k <;> simp [Leads, next, Nesting.next, Settled, Step.writes, Step.checks, Step.shown]

@[simp] lemma leads_enter (scope : Scope) :
    Leads next Settled (n, k) (.enter scope :: rest) ↔
      Leads next Settled (⟨scope :: n.scopes, n.types⟩, k) rest := by
  cases k <;> simp [Leads, next, Nesting.next, Step.writes, Step.checks, Step.shown]

/-- A scope is left that has been entered. -/
lemma leads_left {operation : String} {scope : Scope} (h : Leads next Settled (n, k) rest) :
    Leads next Settled (⟨scope :: n.scopes, n.types⟩, k) (.leave operation [scope] :: rest) := by
  cases k <;> simpa [Leads, next, Nesting.next, Step.writes, Step.checks, Step.shown] using h

@[simp] lemma leads_pushName (name : String) :
    Leads next Settled (n, k) (.pushName name :: rest) ↔
      Leads next Settled (⟨n.scopes, name :: n.types⟩, k) rest := by
  cases k <;> simp [Leads, next, Nesting.next, Step.writes, Step.checks, Step.shown]

@[simp] lemma leads_popName (name : String) (scopes : Scopes) (types : OpenTypes) :
    Leads next Settled (⟨scopes, name :: types⟩, k) (.popName :: rest) ↔
      Leads next Settled (⟨scopes, types⟩, k) rest := by
  cases k <;> simp [Leads, next, Nesting.next, Step.writes, Step.checks, Step.shown]

lemma leads_leave {operation : String} {expected : List Scope} (hm : Matched (n, k))
    (h : ∀ scope scopes, n.scopes = scope :: scopes → scope ∈ expected →
      Leads next Settled (⟨scopes, n.types⟩, k) rest) :
    Leads next Settled (n, k) (.leave operation expected :: rest) := by
  refine Leads.step hm.early fun b hb => ?_
  obtain ⟨m, hn, rfl⟩ := Option.map_eq_some_iff.mp hb
  simp only [Nesting.next] at hn
  split at hn
  · simp at hn
  · rename_i scope scopes hs
    split at hn
    · rename_i he
      obtain rfl := Option.some.inj hn
      cases k <;> simpa [Step.shown] using h scope scopes hs he
    · simp at hn

/-! ## Plain steps -/

lemma plain_write {text : String} (h : Braceless text) : Step.Plain (.write text) := ⟨rfl, h⟩

/-- A step that brings no text. -/
lemma plain_quiet {x : Step} (hs : x.still = true) (hx : x.shown = "") : x.Plain :=
  ⟨hs, hx ▸ braceless_empty⟩

lemma plain_fail (fault : Fault) : Step.Plain (.fail fault) := plain_quiet rfl rfl

lemma plain_indent (deeper : ℕ) : Step.Plain (.indent deeper) := ⟨rfl, braceless_empty⟩

lemma plain_require (operation : String) (allowed : List (Option Scope)) :
    Step.Plain (.require operation allowed) := ⟨rfl, braceless_empty⟩

lemma plain_modifier (m : Modifier) : Step.Plain (.write (m.keyword ++ " ")) :=
  plain_write m.braceless_keyword

lemma plain_writeType {type : Value} (h : ∀ text, type = .text text → Braceless text) :
    Step.Plain (.writeType type) := by
  refine ⟨rfl, ?_⟩
  cases type with
  | text t => exact h t rfl
  | _ => exact braceless_empty

lemma leads_require {operation : String} {allowed : List (Option Scope)} (hm : Matched a)
    (hr : Leads next Settled a rest) :
    Leads next Settled a (.require operation allowed :: rest) := by
  have hx : ∀ x ∈ [Step.require operation allowed], x.Plain := by
    simpa using plain_require operation allowed
  exact leads_front hx hm hr

variable {c : Call}

lemma plain_type (h : c.Unbraced) {type : Value} (ht : type ∈ c.types) :
    Step.Plain (.writeType type) :=
  plain_writeType fun text hv => h.2 text (List.mem_filterMap.mpr ⟨type, ht, by rw [hv]; rfl⟩)

lemma plain_listed (h : c.Unbraced) {v : Value} {names : List Value}
    (hs : ∀ t ∈ Call.listed v, t ∈ c.types) (hn : Argument.names v = .ok names) :
    ∀ t ∈ names, Step.Plain (.writeType t) :=
  fun t ht => plain_type h (hs t (Call.listed_of_names hn ▸ ht))

/-! ## Bodies are opened and closed with their braces -/

lemma leads_typeSteps {name : Value} {kind : String} {modifiers superclass interfaces : Value}
    (hc : (Call.openType name kind modifiers superclass interfaces).Unbraced)
    (hm : Matched (n, k)) :
    Leads next Settled (n, k) (Call.typeSteps name kind modifiers superclass interfaces) := by
  have hkind : Braceless (kind ++ " ") :=
    braceless_append.mpr ⟨hc.1 kind (by simp [Call.texts]), by decide⟩
  have hname : Step.Plain (.writeType name) := plain_type hc (by simp [Call.types])
  have hsuper : superclass ≠ .none → Step.Plain (.writeType superclass) :=
    fun hs => plain_type hc (by simp [Call.types, hs])
  refine leads_require hm ?_
  refine leads_after hm fun ms _ => leads_after hm fun is his => ?_
  have his : ∀ t ∈ is, Step.Plain (.writeType t) :=
    plain_listed hc (fun t ht => by simp [Call.types, ht]) his
  refine leads_front ?_ hm ?_
  · exact Call.forall_typeHead (plain_indent 0) plain_modifier (plain_write hkind) hname
      (plain_write (by decide)) hsuper his (plain_write (by decide)) (plain_write (by decide))
      (plain_write (by decide))
  · obtain rfl : k = some (n.scopes.countP (· ≠ .abstractMethod)) := hm
    simp [Settled, Matched, braces?_other]

lemma leads_methodSteps {result name modifiers parameters throws : Value}
    (hr : result ≠ .none → Step.Plain (.writeType result) ∧
      ∀ text, name.asText = .ok text → Braceless text)
    (hn : result = .none → Step.Plain (.writeType name))
    (hp : ∀ t ∈ Call.listed parameters, Step.Plain (.writeType t))
    (ht : ∀ t ∈ Call.listed throws, Step.Plain (.writeType t)) (hm : Matched (n, k)) :
    Leads next Settled (n, k) (Call.methodSteps result name modifiers parameters throws) := by
  refine leads_require hm ?_
  refine leads_after hm fun ps hps => leads_after hm fun ts hts => ?_
  rw [Call.listed_of_names hps] at hp
  rw [Call.listed_of_names hts] at ht
  split
  · exact leads_fail hm
  refine leads_after hm fun ms _ => leads_front ?_ hm ?_
  · refine Call.forall_methodHead (plain_indent 0) plain_modifier (fun h => ?_) (plain_fail _) hn
      (plain_write (by decide)) (plain_write (by decide)) hp ht (plain_write (by decide))
      (plain_write (by decide)) (plain_write (by decide)) (plain_write (by decide))
    exact ⟨(hr h).1, fun text hs =>
      plain_write (braceless_append.mpr ⟨by decide, (hr h).2 text hs⟩)⟩
  · obtain rfl : k = some (n.scopes.countP (· ≠ .abstractMethod)) := hm
    split
    · simp [Settled, Matched, braces?_other]
    · split <;> simp [Settled, Matched, braces?_other]

/-- The line that closes a body, after its scope has been left. -/
lemma leads_closing {operation text : String} {expected : List Scope} (hm : Matched (n, k))
    (hs : .abstractMethod ∉ expected) (ht : ∀ j, braces? (j + 1) text.toList = some j) :
    Leads next Settled (n, k) (.leave operation expected :: Step.line text) := by
  refine leads_leave hm fun scope scopes hn he => ?_
  have ha : scope ≠ .abstractMethod := fun h => hs (h ▸ he)
  obtain rfl : k = some (scopes.countP (· ≠ .abstractMethod) + 1) := by
    simpa [Matched, hn, ha] using hm
  simp [Step.line, Settled, Matched, ht]

lemma braces?_closingBrace (j : ℕ) : braces? (j + 1) "\x7d\n".toList = some j := rfl

lemma leads_closeType (hn : n.Named) (hm : Matched (n, k)) :
    Leads next Settled (n, k)
      ([.leave "end_type" [.typeBody], .popName] ++ Call.closingBrace) := by
  refine leads_leave hm fun scope scopes hs he => ?_
  obtain rfl : scope = .typeBody := by simpa using he
  obtain rfl : k = some (scopes.countP (· ≠ .abstractMethod) + 1) := by
    simpa [Matched, hs] using hm
  have hlength : n.types.length = scopes.count .typeBody + 1 := by
    simpa [Nesting.Named, hs] using hn
  -- without a name the call would fail here, between the scope and its brace
  obtain ⟨name, types, ht⟩ := List.exists_cons_of_length_eq_add_one hlength
  rw [ht]
  simp [Call.closingBrace, Step.line, Settled, Matched, braces?_other]

lemma leads_closeMethod (hm : Matched (n, k)) :
    Leads next Settled (n, k) (Call.closeMethod.steps n) := by
  refine leads_leave hm fun scope scopes hs he => ?_
  have htop : n.scopes.top = some scope := by rw [hs]; rfl
  rw [htop]
  by_cases ha : scope = .abstractMethod
  · obtain rfl : k = some (scopes.countP (· ≠ .abstractMethod)) := by
      simpa [Matched, hs, ha] using hm
    simp [ha, Settled, Matched]
  · obtain rfl : k = some (scopes.countP (· ≠ .abstractMethod) + 1) := by
      simpa [Matched, hs, ha] using hm
    simp [ha, Call.closingBrace, Step.line, Settled, Matched, braces?_other]

/-- The closing brace of one block and the opening one of the next are one text. -/
lemma leads_nextBlock {header : String} (hh : Braceless header) (hm : Matched (n, k)) :
    Leads next Settled (n, k) ((Call.nextBlock header).steps n) := by
  refine leads_leave hm fun scope scopes hs he => ?_
  obtain rfl : scope = .controlFlow := by simpa using he
  obtain rfl : k = some (scopes.countP (· ≠ .abstractMethod) + 1) := by
    simpa [Matched, hs] using hm
  simp [Settled, Matched, braces?_other, braces?_append, braces?_of_braceless hh]

lemma leads_openBlock {header : String} (hh : Braceless header) (hm : Matched (n, k)) :
    Leads next Settled (n, k) ((Call.openBlock header).steps n) := by
  refine leads_require hm ?_
  obtain rfl : k = some (n.scopes.countP (· ≠ .abstractMethod)) := hm
  simp [Step.line, Settled, Matched, braces?_other, braces?_append, braces?_of_braceless hh]

lemma leads_openSwitch {subject : String} (hh : Braceless subject) (hm : Matched (n, k)) :
    Leads next Settled (n, k) ((Call.openSwitch subject).steps n) := by
  refine leads_require hm ?_
  obtain rfl : k = some (n.scopes.countP (· ≠ .abstractMethod)) := hm
  simp [Settled, Matched, braces?_other, braces?_append, braces?_of_braceless hh]

lemma leads_openInitializer (isStatic : Value) (hm : Matched (n, k)) :
    Leads next Settled (n, k) ((Call.openInitializer isStatic).steps n) := by
  have ht : ∀ j, braces? j (if isStatic.truthy then "static \x7b\n" else "\x7b\n").toList =
      some (j + 1) := by
    intro j
    split <;> simp [braces?_other]
  refine leads_require hm ?_
  obtain rfl : k = some (n.scopes.countP (· ≠ .abstractMethod)) := hm
  simp [Step.line, Settled, Matched, ht]

/-! ## Annotations

Once the name is written, their steps can only come to an end where the count need not match. -/

/-- The braces of an array stand around its scope. -/
def course : Course next Settled Braceless where
  fits _ := True
  inArray a := (⟨.annotationArray :: a.1.scopes, a.1.types⟩, a.2.map (· + 1))
  inAttributes a := (⟨.annotationAttribute :: a.1.scopes, a.1.types⟩, a.2)
  fits_inArray _ := trivial
  fits_inAttributes _ := trivial
  of_marks := by decide
  of_key h := braceless_append.mpr ⟨h, by decide⟩
  write := by
    rintro ⟨n, k⟩ text - ht rest hr
    cases k <;> simpa [braces?_of_braceless ht] using hr
  indent _ _ hr := (leads_indent 0).mpr hr
  unshown _ _ _ := Leads.fail rfl (by simp [Settled, Step.exit])
  openArray := by
    rintro ⟨n, k⟩ - rest hr
    have hk : k.bind (fun j => braces? j "\x7b".toList) = k.map (· + 1) := by cases k <;> rfl
    simp only [List.cons_append, List.nil_append, leads_write, leads_enter, hk]
    exact hr
  closeArray := by
    rintro ⟨n, k⟩ - rest hr
    have hk : ((k.map (· + 1)).bind fun j => braces? j "\n".toList).bind
        (fun j => braces? j "\x7d".toList) = k := by cases k <;> rfl
    refine leads_left ((leads_write _).mpr ((leads_indent 0).mpr ((leads_write _).mpr ?_)))
    rw [hk]
    exact hr
  openAttributes _ _ hr := (leads_enter _).mpr hr
  closeAttributes _ _ hr := leads_left hr

lemma leads_annotation {name value : Value} (hc : Call.Unbraced <| Call.annotation name value)
    (hm : Matched (n, k)) : Leads next Settled (n, k) <| Annotation.steps name value := by
  have hhead : ∀ x ∈ [Step.indent 0, .write "@", .writeType name], x.Plain := by
    have hname : Step.Plain (.writeType name) := plain_type hc (by simp [Call.types])
    simpa [plain_indent, hname] using plain_write (by decide)
  exact leads_front hhead hm ((course.walks_ending trivial hc.1).leads (hm.settled .done))

/-! ## Every call -/

lemma plain_line {text : String} (h : Braceless text) : ∀ x ∈ Step.line text, x.Plain :=
  (Step.forall_line _).mpr ⟨plain_indent 0, plain_write h⟩

/-- A text between two others that are known. -/
lemma plain_around {before text after : String} (h : Braceless text)
    (hb : Braceless before := by decide) (ha : Braceless after := by decide) :
    Step.Plain (.write (before ++ text ++ after)) :=
  plain_write (braceless_append.mpr ⟨braceless_append.mpr ⟨hb, h⟩, ha⟩)

lemma plain_importSteps {keyword : String} (hk : Braceless keyword) {names : List Value}
    (h : ∀ text ∈ (Argument.imports names).toOption.getD [], Braceless text) :
    ∀ x ∈ Call.importSteps keyword names, x.Plain := by
  refine Call.forall_importSteps (fun ns hns name hm => ⟨plain_quiet rfl rfl, ?_⟩)
    fun _ _ => plain_fail _
  have hname : Braceless name := h name (by simpa [hns, Except.toOption] using hm)
  exact plain_around hname (braceless_append.mpr ⟨hk, by decide⟩)

lemma filledText_braceless {pattern : Value} {arguments : List Value} {text : String}
    (h : ∀ t ∈ (Argument.filledText pattern arguments).toOption.toList, Braceless t)
    (ht : Argument.filledText pattern arguments = .ok text) :
    ∀ l ∈ Text.lines text, Braceless l :=
  fun _ hl => (h text (by simp [ht, Except.toOption])).lines hl

lemma leads_constructorSteps {modifiers parameters throws : Value}
    (hc : (Call.openConstructor modifiers parameters throws).Unbraced)
    (ho : ∀ name ∈ n.types, Braceless name) (hm : Matched (n, k)) :
    Leads next Settled (n, k)
      (Call.constructorSteps n.types.head? modifiers parameters throws) := by
  refine leads_require hm ?_
  cases ht : n.types with
  | nil => exact leads_fail hm
  | cons name types =>
    have hname : Step.Plain (.writeType (.text name)) :=
      plain_writeType fun text h => Value.text.inj h ▸ ho name (by simp [ht])
    dsimp only [List.head?_cons]
    refine leads_methodSteps (fun h => absurd rfl h) (fun _ => hname) ?_ ?_ hm
    · exact fun t hp => plain_type hc (by simp [Call.types, hp])
    · exact fun t hp => plain_type hc (by simp [Call.types, hp])

theorem leads_steps {c : Call} (hc : c.Unbraced) (hn : n.Named)
    (ho : ∀ name ∈ n.types, Braceless name) (hm : Matched (n, k)) :
    Leads next Settled (n, k) (c.steps n) := by
  cases c with
  | package name =>
    refine leads_plain (Call.forall_packageSteps (plain_quiet rfl rfl) (fun h text hs => ?_)
      (plain_fail _) (plain_fail _) (plain_quiet rfl rfl)) hm
    exact plain_around (hc.1 text (by simp [Call.texts, h, hs, Except.toOption]))
  | imports names | staticImports names =>
    exact leads_plain (plain_importSteps (by decide) hc.1) hm
  | openType => exact leads_typeSteps hc hm
  | closeType => exact leads_closeType hn hm
  | openMethod result name modifiers parameters throws =>
    refine leads_methodSteps (fun h => ⟨?_, ?_⟩) (fun h => ?_) ?_ ?_ hm
    · exact plain_type hc (by simp [Call.types, h])
    · exact fun text hs => hc.1 text (by simp [Call.texts, h, hs, Except.toOption])
    · exact plain_type hc (by simp [Call.types, h])
    · exact fun t ht => plain_type hc (by simp [Call.types, ht])
    · exact fun t ht => plain_type hc (by simp [Call.types, ht])
  | closeMethod => exact leads_closeMethod hm
  | openConstructor => exact leads_constructorSteps hc ho hm
  | openInitializer isStatic => exact leads_openInitializer isStatic hm
  | closeConstructor | closeInitializer | closeSwitch =>
    exact leads_closing hm (by decide) braces?_closingBrace
  | closeBlock tail =>
    cases tail with
    | none => exact leads_closing hm (by decide) braces?_closingBrace
    | some tail =>
      refine leads_closing hm (by decide) fun j => ?_
      have ht : Braceless tail := hc.1 tail (by simp [Call.texts])
      simp [braces?_other, braces?_append, braces?_of_braceless ht]
  | field type name modifiers initial =>
    refine leads_plain (Call.forall_fieldSteps (plain_indent 0) plain_modifier ?_ (plain_write ?_)
      (fun v hv => plain_write ?_) (plain_write (by decide)) fun _ _ => plain_fail _) hm
    · exact plain_type hc (by simp [Call.types])
    · exact braceless_append.mpr ⟨by decide, hc.1 name (by simp [Call.texts])⟩
    · exact braceless_append.mpr ⟨by decide, hc.1 v (by simp [Call.texts, hv])⟩
  | enumConstant name | lastEnumConstant name =>
    have hname : Braceless name := hc.1 name (by simp [Call.texts])
    exact leads_plain (plain_line (braceless_append.mpr ⟨hname, by decide⟩)) hm
  | enumConstants names =>
    refine leads_after hm fun vs hvs => leads_plain ?_ hm
    refine Call.forall_constantSteps (plain_indent 0) (fun v hv text ht => ?_) (plain_fail _)
    have htext : Braceless text := by
      refine hc.1 text ?_
      simpa [Call.texts, hvs, Except.toOption] using ⟨v, hv, by simp [ht]⟩
    exact ⟨plain_write (braceless_append.mpr ⟨htext, by decide⟩),
      plain_write (braceless_append.mpr ⟨htext, by decide⟩)⟩
  | statement pattern arguments =>
    exact leads_plain (Call.forall_statementSteps (plain_require _ _) plain_indent
      (fun text ht l hl => plain_write (filledText_braceless hc.1 ht l hl))
      (plain_write (by decide)) (plain_write (by decide)) fun _ _ => plain_fail _) hm
  | javadoc pattern arguments =>
    exact leads_plain (Call.forall_javadocSteps (plain_indent 0) (plain_write (by decide))
      (plain_write (by decide)) (plain_write (by decide))
      (fun text ht l hl => plain_around (filledText_braceless hc.1 ht l hl))
      fun _ _ => plain_fail _) hm
  | comment pattern arguments =>
    refine leads_plain (Call.forall_commentSteps (plain_indent 0)
      (fun v hv text ht => plain_around ?_) (fun _ _ _ => plain_fail _) fun _ _ => plain_fail _) hm
    exact hc.1 text (by simp [Call.texts, hv, ht, Except.toOption])
  | openBlock header => exact leads_openBlock (hc.1 header (by simp [Call.texts])) hm
  | nextBlock header => exact leads_nextBlock (hc.1 header (by simp [Call.texts])) hm
  | openSwitch subject => exact leads_openSwitch (hc.1 subject (by simp [Call.texts])) hm
  | annotation => exact leads_annotation hc hm
  | blankLine => exact leads_plain (by simpa [Call.steps] using plain_write (by decide)) hm
  | displayType | close =>
    exact leads_plain (by simpa [Call.steps] using plain_quiet rfl rfl) hm

end Braces
end JavaScribe
