import JavaScribe.Proofs.AnnotationWalk

/-!
# What calls make of the nesting

`Effect` lists what a call can make of the open scopes and types, by the exit at which it ends. On
every sink a call has one of these effects (`perform_effect`). Most calls that fail leave the
nesting as it was; the others are broken off between a change of the scopes and the last piece of
text, by the sink or within an annotation by a value that has no text.
-/
namespace JavaScribe

namespace Scope

/-- The scopes in which a scope may be opened; none stands for file level. -/
def places : Scope → List (Option Scope)
  | typeBody => [none, some typeBody]
  | abstractMethod | methodBody | constructorBody | initializer => [some typeBody]
  | controlFlow | switchBody => statementScopes.map some
  | annotationAttribute | annotationArray => none :: all.map some

/-- Whether a scope is that of an annotation. -/
def isNote : Scope → Bool
  | annotationAttribute | annotationArray => true
  | _ => false

end Scope

namespace Call

/-- The scopes that a call may open, but for that of a type. -/
def openings : Call → List Scope
  | openMethod .none _ _ _ _ | openConstructor _ _ _ => [.abstractMethod, .constructorBody]
  | openMethod _ _ _ _ _ => [.abstractMethod, .methodBody]
  | openInitializer _ => [.initializer]
  | openBlock _ => [.controlFlow]
  | openSwitch _ => [.switchBody]
  | _ => []

/-- The scopes that a call may close, but for that of a type. -/
def closings : Call → List Scope
  | closeMethod => [.methodBody, .constructorBody, .abstractMethod]
  | closeConstructor => [.constructorBody]
  | closeInitializer => [.initializer]
  | closeBlock _ => [.controlFlow]
  | closeSwitch => [.switchBody]
  | _ => []

/-- Whether a call, when it does not fail, leaves as many scopes open as there were. -/
def stays : Call → Bool
  | openType _ _ _ _ _ | closeType => false
  | c => c.openings.isEmpty && c.closings.isEmpty

end Call

inductive Effect (c : Call) (n : Nesting) : Exit → Nesting → Prop where
  | failed : Effect c n .failed n
  | refused : Effect c n .refused n
  | unshown : Effect c n .unshown n
  | stayed (h : c.stays = true) : Effect c n .done n
  | openedType {name : String} {kind : String} {modifiers superclass interfaces : Value}
      (hc : c = .openType name kind modifiers superclass interfaces)
      (hp : n.scopes.top ∈ Scope.typeBody.places) :
      Effect c n .done ⟨.typeBody :: n.scopes, name :: n.types⟩
  | opened {scope : Scope} (hs : scope ∈ c.openings) (hp : n.scopes.top ∈ scope.places) :
      Effect c n .done { n with scopes := scope :: n.scopes }
  /-- A switch is open before its head is written. -/
  | openedUnwritten {subject : String} (hc : c = .openSwitch subject)
      (hp : n.scopes.top ∈ Scope.switchBody.places) :
      Effect c n .refused { n with scopes := .switchBody :: n.scopes }
  | closedType {e : Exit} {scopes : Scopes} {name : String} {types : OpenTypes}
      (hc : c = .closeType) (hn : n = ⟨.typeBody :: scopes, name :: types⟩)
      (he : e = .done ∨ e = .refused) : Effect c n e ⟨scopes, types⟩
  /-- There is a type to close, but no name of one. -/
  | closedNameless {scopes : Scopes} (hc : c = .closeType) (hn : n = ⟨.typeBody :: scopes, []⟩) :
      Effect c n .failed ⟨scopes, []⟩
  | closed {e : Exit} {scope : Scope} {scopes : Scopes} {types : OpenTypes}
      (hs : scope ∈ c.closings) (hn : n = ⟨scope :: scopes, types⟩)
      (he : e = .done ∨ e = .refused) : Effect c n e ⟨scopes, types⟩
  /-- Between two blocks neither is open. -/
  | between {header : String} {scopes : Scopes} {types : OpenTypes} (hc : c = .nextBlock header)
      (hn : n = ⟨.controlFlow :: scopes, types⟩) : Effect c n .refused ⟨scopes, types⟩
  /-- An annotation is broken off within its attributes or its elements. -/
  | leaked {e : Exit} {name value : Value} {notes : Scopes} (hc : c = Call.annotation name value)
      (hn : ∀ s ∈ notes, s.isNote = true) (he : e = .refused ∨ e = .unshown) :
      Effect c n e { n with scopes := notes ++ n.scopes }

lemma Effect.early {c : Call} {n : Nesting} : Early (Effect c n) n := ⟨.refused, .unshown, .failed⟩

/-- Whether a step can change the nesting. -/
def Step.still : Step → Bool
  | .enter _ | .leave _ _ | .pushName _ | .popName => false
  | _ => true

namespace Nesting
variable {n : Nesting} {x : Step}

lemma quiet_of_still (h : x.still = true) : Quiet next n x := by
  intro m hm
  cases x with
  | require operation allowed =>
    simp only [next] at hm
    split at hm
    · exact (Option.some.inj hm).symm
    · simp at hm
  | writeType type =>
    cases type with
    | text t => exact (Option.some.inj hm).symm
    | _ => simp [next] at hm
  | enter | leave | pushName | popName => simp [Step.still] at h
  | fail => simp [next] at hm
  | _ => exact (Option.some.inj hm).symm

lemma quiet_all {xs : List Step} (h : ∀ x ∈ xs, x.still = true) : ∀ x ∈ xs, Quiet next n x :=
  fun x hx => quiet_of_still (h x hx)

lemma leads_require {post : Exit → Nesting → Prop} {operation : String}
    {allowed : List (Option Scope)} {rest : List Step} (hf : post .failed n)
    (h : n.scopes.top ∈ allowed → Leads next post n rest) :
    Leads next post n (.require operation allowed :: rest) := by
  refine Leads.cons (by simp [Step.writes]) (by simp [Step.checks]) (fun _ => hf) fun m hm => ?_
  simp only [next] at hm
  split at hm
  · rename_i ht
    exact Option.some.inj hm ▸ h ht
  · simp at hm

lemma leads_leave {post : Exit → Nesting → Prop} {operation : String} {expected : List Scope}
    {rest : List Step} (hf : post .failed n)
    (h : ∀ scope scopes, n.scopes = scope :: scopes → scope ∈ expected →
      Leads next post ⟨scopes, n.types⟩ rest) :
    Leads next post n (.leave operation expected :: rest) := by
  refine Leads.cons (by simp [Step.writes]) (by simp [Step.checks]) (fun _ => hf) fun m hm => ?_
  simp only [next] at hm
  split at hm
  · simp at hm
  · rename_i scope scopes hs
    split at hm
    · rename_i he
      exact Option.some.inj hm ▸ h scope scopes hs he
    · simp at hm

lemma leads_enter {post : Exit → Nesting → Prop} {scope : Scope} {rest : List Step} :
    Leads next post n (.enter scope :: rest) ↔
      Leads next post ⟨scope :: n.scopes, n.types⟩ rest := by
  simp [Leads, next, Step.writes, Step.checks]

end Nesting

namespace Call
open Nesting Step
variable {c : Call} {n : Nesting} {xs : List Step}

/-! ## Steps that leave the nesting alone -/

lemma still_after {α : Type} {checked : Except Fault α} {steps : α → List Step}
    (h : ∀ a, ∀ x ∈ steps a, x.still = true) : ∀ x ∈ after checked steps, x.still = true :=
  forall_after.mpr ⟨fun a _ => h a, fun _ _ => rfl⟩

lemma still_modifierSteps (ms : List Modifier) : ∀ x ∈ modifierSteps ms, x.still = true :=
  forall_modifierSteps.mpr fun _ _ => rfl

lemma still_clause (keyword : String) (types : List Value) :
    ∀ x ∈ clause keyword types, x.still = true :=
  forall_clause (fun _ _ => rfl) rfl rfl rfl rfl

lemma still_constantSteps (vs : List Value) : ∀ x ∈ constantSteps vs, x.still = true :=
  forall_constantSteps rfl (fun _ _ _ _ => ⟨rfl, rfl⟩) rfl

lemma leads_stays (h : ∀ x ∈ xs, x.still = true) (hs : c.stays = true) :
    Leads next (Effect c n) n xs :=
  Leads.only_quiet (quiet_all h) Effect.early (.stayed hs)

/-! ## Each call -/

lemma leads_front {rest : List Step} (h : ∀ x ∈ xs, x.still = true)
    (hr : Leads next (Effect c n) n rest) : Leads next (Effect c n) n (xs ++ rest) :=
  Leads.quiet (quiet_all h) Effect.early hr

lemma leads_after {α : Type} {checked : Except Fault α} {steps : α → List Step}
    (h : ∀ a, checked = .ok a → Leads next (Effect c n) n (steps a)) :
    Leads next (Effect c n) n (after checked steps) :=
  Leads.after (fun _ => rfl) Effect.early h

lemma leads_fail {fault : Fault} {rest : List Step} :
    Leads next (Effect c n) n (.fail fault :: rest) :=
  Leads.fail rfl (Effect.early.exit _)

lemma leads_past {x : Step} {rest : List Step} (h : x.still = true)
    (hr : Leads next (Effect c n) n rest) : Leads next (Effect c n) n (x :: rest) :=
  Leads.step Effect.early fun _ hm => quiet_of_still h _ hm ▸ hr

/-- A type that is written is a text. -/
lemma leads_writeType {type : Value} {rest : List Step}
    (hr : ∀ text, type = .text text → Leads next (Effect c n) n rest) :
    Leads next (Effect c n) n (.writeType type :: rest) := by
  refine Leads.step Effect.early fun m hm => ?_
  cases type with
  | text t => exact Option.some.inj hm ▸ hr t rfl
  | _ => simp [next] at hm

lemma leads_typeSteps (name : Value) (kind : String) (modifiers superclass interfaces : Value) :
    Leads next (Effect (.openType name kind modifiers superclass interfaces) n) n
      (typeSteps name kind modifiers superclass interfaces) := by
  refine leads_require .failed fun ht => leads_after fun ms _ => leads_after fun is _ => ?_
  simp only [List.append_assoc, List.cons_append, List.nil_append]
  refine leads_past rfl (leads_front (still_modifierSteps ms) (leads_past rfl ?_))
  refine leads_writeType fun name hname => ?_
  subst hname
  refine leads_front (by cases superclass <;> simp [Step.still]) ?_
  refine leads_front (still_clause _ is) (leads_past rfl (leads_enter.mpr ?_))
  simp only [Leads, next, Step.writes, Step.checks, Value.plain_text]
  exact ⟨by simp, by simp, .openedType rfl ht⟩

lemma leads_methodSteps {result name modifiers parameters throws : Value}
    (ha : .abstractMethod ∈ c.openings)
    (hb : (if result = .none then .constructorBody else .methodBody) ∈ c.openings) :
    Leads next (Effect c n) n (methodSteps result name modifiers parameters throws) := by
  refine leads_require .failed fun ht => leads_after fun ps _ => leads_after fun ts _ => ?_
  have hp : ∀ scope ∈ [Scope.abstractMethod, .methodBody, .constructorBody],
      n.scopes.top ∈ scope.places := by simpa [Scope.places] using ht
  split
  · exact leads_fail
  refine leads_after fun ms _ => leads_front ?_ ?_
  · exact forall_methodHead rfl (fun _ => rfl) (fun _ => ⟨rfl, fun _ _ => rfl⟩) rfl (fun _ => rfl)
      rfl rfl (fun _ _ => rfl) (fun _ _ => rfl) rfl rfl rfl rfl
  split
  · refine leads_past rfl (leads_enter.mpr (leads_nil.mpr (.opened ha (hp _ (by simp)))))
  · refine leads_past rfl (leads_enter.mpr (leads_nil.mpr (.opened hb (hp _ ?_))))
    split <;> simp

lemma leads_constructorSteps {owner : Option String} {modifiers parameters throws : Value}
    (ho : c.openings = [.abstractMethod, .constructorBody]) :
    Leads next (Effect c n) n (constructorSteps owner modifiers parameters throws) := by
  refine leads_require .failed fun _ => ?_
  cases owner with
  | none => exact leads_fail
  | some name =>
    dsimp only
    exact leads_methodSteps (by simp [ho]) (by simp [ho])

lemma leads_line {post : Exit → Nesting → Prop} {text : String} (hr : post .refused n)
    (hd : post .done n) : Leads next post n (line text) := by
  simp [line, Leads, next, Step.writes, Step.checks, hr, hd]

/-- Once the scope is closed only the sink can break the call off. -/
lemma leads_closing {operation : String} {expected : List Scope}
    (he : ∀ s ∈ expected, s ∈ c.closings) (hs : xs = [] ∨ ∃ text, xs = line text) :
    Leads next (Effect c n) n (.leave operation expected :: xs) := by
  refine leads_leave .failed fun scope scopes hn hm => ?_
  have hc : ∀ e, e = .done ∨ e = .refused → Effect c n e ⟨scopes, n.types⟩ := fun e hf =>
    .closed (he scope hm) (congrArg₂ Nesting.mk hn rfl) hf
  rcases hs with rfl | ⟨text, rfl⟩
  · exact hc _ (by simp)
  · exact leads_line (hc _ (by simp)) (hc _ (by simp))

lemma leads_closeType :
    Leads next (Effect .closeType n) n
      ([.leave "end_type" [.typeBody], .popName] ++ closingBrace) := by
  refine leads_leave .failed fun scope scopes hs hm => ?_
  obtain rfl : scope = .typeBody := by simpa using hm
  obtain ⟨_, types⟩ := n
  obtain rfl : _ = _ := hs
  cases types with
  | nil =>
    exact Leads.cons (by simp [Step.writes]) (by simp [Step.checks])
      (fun _ => .closedNameless rfl rfl) (by simp [next])
  | cons name types =>
    refine Leads.cons (by simp [Step.writes]) (by simp [Step.checks]) (by simp [next])
      fun m hm => ?_
    obtain rfl := Option.some.inj hm
    exact leads_line (.closedType rfl rfl (by simp)) (.closedType rfl rfl (by simp))

lemma leads_nextBlock (header : String) :
    Leads next (Effect (.nextBlock header) n) n
      [.leave "next_control_flow" [.controlFlow], .indent 0, .enter .controlFlow,
        .write ("\x7d " ++ header ++ " \x7b\n")] := by
  refine leads_leave .failed fun scope scopes hs hm => ?_
  obtain rfl : scope = .controlFlow := by simpa using hm
  obtain ⟨_, types⟩ := n
  obtain rfl : _ = _ := hs
  simp only [Leads, next, Step.writes, Step.checks]
  exact ⟨fun _ => .between rfl rfl, by simp, by simp, by simp, fun _ => .refused, by simp,
    .stayed rfl⟩

lemma mem_places {scope : Scope} (hs : scope = .controlFlow ∨ scope = .switchBody)
    (h : n.scopes.top ∈ Scope.statementScopes.map some) : n.scopes.top ∈ scope.places := by
  rcases hs with rfl | rfl <;> exact h

lemma leads_openBlock (header : String) :
    Leads next (Effect (.openBlock header) n) n
      ([statementPlace "begin_control_flow"] ++ line (header ++ " \x7b\n") ++
        [.enter .controlFlow]) := by
  refine leads_require .failed fun ht => leads_front (by simp [line, Step.still]) ?_
  exact leads_enter.mpr (.opened (by simp [openings]) (mem_places (.inl rfl) ht))

lemma leads_openSwitch (subject : String) :
    Leads next (Effect (.openSwitch subject) n) n
      [statementPlace "begin_switch", .indent 0, .enter .switchBody,
        .write ("switch(" ++ subject ++ ") \x7b\n")] := by
  refine leads_require .failed fun ht => leads_past rfl (leads_enter.mpr ?_)
  have hp := mem_places (.inr rfl) ht
  simp only [Leads, next, Step.writes, Step.checks]
  exact ⟨fun _ => .openedUnwritten rfl hp, by simp, .opened (by simp [openings]) hp⟩

lemma leads_openInitializer (isStatic : Value) :
    Leads next (Effect (.openInitializer isStatic) n) n
      ([.require "begin_initializer" [some .typeBody]] ++
        line (if isStatic.truthy then "static \x7b\n" else "\x7b\n") ++ [.enter .initializer]) := by
  refine leads_require .failed fun ht => leads_front (by simp [line, Step.still]) ?_
  exact leads_enter.mpr (.opened (by simp [openings]) (by simpa [Scope.places] using ht))

/-! ## Annotations -/

/-- An annotation may be broken off with scopes of annotations open on top. -/
def Tolerates (post : Exit → Nesting → Prop) (n : Nesting) : Prop :=
  ∀ notes : Scopes, (∀ s ∈ notes, s.isNote = true) →
    post .refused ⟨notes ++ n.scopes, n.types⟩ ∧ post .unshown ⟨notes ++ n.scopes, n.types⟩

lemma Tolerates.self {post : Exit → Nesting → Prop} (h : Tolerates post n) :
    post .refused n ∧ post .unshown n :=
  h [] (by simp)

lemma Tolerates.enter {post : Exit → Nesting → Prop} (h : Tolerates post n) {scope : Scope}
    (hs : scope.isNote = true) : Tolerates post ⟨scope :: n.scopes, n.types⟩ := by
  intro notes hn
  have hc : ∀ s ∈ notes ++ [scope], s.isNote = true := by
    intro s hm
    rcases List.mem_append.mp hm with hm | hm
    · exact hn s hm
    · exact List.mem_singleton.mp hm ▸ hs
  simpa using h _ hc

/-- The scopes of an annotation are opened and closed again. -/
def course (post : Exit → Nesting → Prop) : Course next post fun _ => True where
  fits := Tolerates post
  inArray n := ⟨.annotationArray :: n.scopes, n.types⟩
  inAttributes n := ⟨.annotationAttribute :: n.scopes, n.types⟩
  fits_inArray h := h.enter rfl
  fits_inAttributes h := h.enter rfl
  of_marks := by simp
  of_key := by simp
  write h _ _ hr := ⟨fun _ => h.self.1, by simp [Step.checks], hr⟩
  indent h _ hr := ⟨fun _ => h.self.1, by simp [Step.checks], hr⟩
  unshown h _ _ := Leads.fail rfl h.self.2
  openArray h _ hr := ⟨fun _ => h.self.1, by simp [Step.checks], leads_enter.mpr hr⟩
  closeArray h _ hr := by
    simpa [Leads, next, Step.writes, Step.checks, h.self.1] using hr
  openAttributes _ _ hr := leads_enter.mpr hr
  closeAttributes _ _ hr := by
    simpa [Leads, next, Step.writes, Step.checks] using hr

lemma leads_ending {post : Exit → Nesting → Prop} (v : Value) (ht : Tolerates post n)
    (hd : post .done n) : Leads next post n <| Annotation.ending v :=
  ((course post).walks_ending ht fun _ _ => trivial).leads hd

lemma leads_annotation {name value : Value} (hc : c = Call.annotation name value) :
    Leads next (Effect c n) n <| Annotation.steps name value := by
  have ht : Tolerates (Effect c n) n := fun notes hn =>
    ⟨.leaked hc hn (.inl rfl), .leaked hc hn (.inr rfl)⟩
  refine leads_past rfl (leads_past rfl (leads_writeType fun _ _ => ?_))
  exact leads_ending value ht (.stayed (hc ▸ rfl))

theorem leads_steps (c : Call) (n : Nesting) : Leads next (Effect c n) n (c.steps n) := by
  cases c with
  | package name =>
    exact leads_stays (forall_packageSteps rfl (fun _ _ _ => rfl) rfl rfl rfl) rfl
  | imports names | staticImports names =>
    exact leads_stays (forall_importSteps (fun _ _ _ _ => ⟨rfl, rfl⟩) fun _ _ => rfl) rfl
  | openType name kind modifiers superclass interfaces => exact leads_typeSteps _ _ _ _ _
  | openMethod result name modifiers parameters throws =>
    rw [steps]
    exact leads_methodSteps (by cases result <;> simp [openings])
      (by cases result <;> simp [openings])
  | openConstructor modifiers parameters throws => exact leads_constructorSteps rfl
  | openInitializer isStatic => exact leads_openInitializer isStatic
  | openBlock header => exact leads_openBlock header
  | openSwitch subject => exact leads_openSwitch subject
  | field type name modifiers initial =>
    exact leads_stays
      (forall_fieldSteps rfl (fun _ => rfl) rfl rfl (fun _ _ => rfl) rfl fun _ _ => rfl) rfl
  | statement pattern arguments =>
    exact leads_stays (forall_statementSteps rfl (fun _ => rfl) (fun _ _ _ _ => rfl) rfl rfl
      fun _ _ => rfl) rfl
  | javadoc pattern arguments =>
    exact leads_stays (forall_javadocSteps rfl rfl rfl rfl (fun _ _ _ _ => rfl) fun _ _ => rfl) rfl
  | comment pattern arguments =>
    exact leads_stays
      (forall_commentSteps rfl (fun _ _ _ _ => rfl) (fun _ _ _ => rfl) fun _ _ => rfl) rfl
  | enumConstant name | lastEnumConstant name =>
    exact leads_stays ((forall_line _).mpr ⟨rfl, rfl⟩) rfl
  | enumConstants names =>
    exact leads_stays (still_after fun _ => still_constantSteps _) rfl
  | blankLine | displayType type | close => exact leads_stays (by simp [steps, Step.still]) rfl
  | closeType => exact leads_closeType
  | nextBlock header => exact leads_nextBlock header
  | closeMethod =>
    refine leads_closing (by simp [closings]) ?_
    split
    · exact .inl rfl
    · exact .inr ⟨_, rfl⟩
  | closeConstructor | closeInitializer | closeSwitch =>
    exact leads_closing (by simp [closings]) (.inr ⟨_, rfl⟩)
  | closeBlock tail =>
    cases tail <;> exact leads_closing (by simp [closings]) (.inr ⟨_, rfl⟩)
  | annotation name value => exact leads_annotation rfl

end Call

/-- On any sink, a call ends at one of its exits with the effect that it has there. -/
theorem Scribe.perform_effect {σ : Type} [Sink σ] (w : Scribe σ) (c : Call) :
    ∃ e, (w.perform c).Exits e ∧ Effect c w.nesting e (w.perform c).scribe.nesting := by
  obtain ⟨e, _, he, rfl, hc⟩ :=
    Leads.run (Account.nesting σ) (rfl : w.nesting = w.nesting) (Call.leads_steps c w.nesting)
  exact ⟨e, he, hc⟩

end JavaScribe
