import JavaScribe.Proofs.LineWriting
import JavaScribe.Proofs.NamingRuns
import JavaScribe.Proofs.OpenTypes
import JavaScribe.Proofs.StepFaults
import JavaScribe.Proofs.TakenTexts

/-!
# Constructors are named like their types

A constructor has no name of its own: it is written with the name on top of the stack. That there is
one is never in doubt, and it is the name with which the type around the constructor was opened. As
long as types are displayed as they were then, the name is written with the text that it has in the
declaration of the type, whatever lies in between (`open_types_keep_their_names`).
-/
namespace JavaScribe
open Line (keywords)

namespace Scribe
variable {σ : Type} [Sink σ]

/-- A call that has its place right inside a type fails for its place elsewhere. -/
lemma top_of_noOpenType {w : Scribe σ} {c : Call} {operation : String}
    (hc : c.place? = some (operation, [some .typeBody]))
    (hf : (w.perform c).fault = some .noOpenType) : w.scopes.top = some .typeBody := by
  by_contra ht
  rw [perform_misplaced hc (by simpa using ht)] at hf
  simp [failing] at hf

/-- The end of a type always finds a name. -/
lemma Reached.perform_closeType_fault_ne {w : Scribe σ} (h : w.Reached) :
    (w.perform .closeType).fault ≠ some .noOpenType := by
  intro hf
  have ht := top_of_noOpenType rfl hf
  obtain ⟨owner, types, hn⟩ := h.exists_owner ht
  obtain ⟨scopes, hs⟩ := List.head?_eq_some_iff.mp ht
  let v : Scribe σ := { ({ w with scopes }.note (.left .typeBody scopes.length)) with types }
  have hp : w.perform .closeType = v.run Call.closingBrace := by
    simp [perform, Call.steps, run, step, Scopes.leave, OpenTypes.close, hs, hn, done, note, v]
  rw [hp] at hf
  obtain ⟨_, x, hx, hv⟩ := exists_fails_of_run hf
  obtain rfl | rfl : x = .indent 0 ∨ x = .write "\x7d\n" := by
    simpa [Call.closingBrace, Step.line] using hx
  · cases hv
  · cases hv

/-- No call lacks the name of an open type: neither the end of a type nor a constructor. -/
lemma Reached.perform_fault_ne {w : Scribe σ} (h : w.Reached) (c : Call) :
    (w.perform c).fault ≠ some .noOpenType := by
  intro hf
  obtain ⟨v, x, hx, hv⟩ := exists_fails_of_run hf
  have ha := c.admits_steps w.nesting x hx
  cases hv with
  | nameless =>
    obtain rfl : c = .closeType := ha
    exact h.perform_closeType_fault_ne hf
  | given =>
    rcases ha with ha | ⟨-, hn, _, _, _, rfl⟩
    · simp [Fault.ofArgument] at ha
    · obtain ⟨owner, types, ht⟩ := h.exists_owner (top_of_noOpenType rfl hf)
      simp [nesting, ht] at hn

/-- What stands in front of a declaration: the indentation and the modifiers. -/
def lead (w : Scribe σ) (ms : List Modifier) : String :=
  indentation w.unit w.depth ++ keywords ms

def leadSteps (ms : List Modifier) : List Step := .indent 0 :: Call.modifierSteps ms

/-- What can stand behind the name of a type in its declaration. -/
def typeEnds : List String := [" extends ", "\n", " \x7b\n"]

def typeHead (kind : String) (name : Value) (mark : String) : List Step :=
  [.write (kind ++ " "), .writeType name, .write mark]

def constructorHead (owner : Value) : List Step := [.writeType owner, .write "("]

variable {w : Scribe (Watched σ)} {name owner shown kind : String}
  {modifiers parameters throws superclass interfaces : Value}

omit [Sink σ] in
lemma run?_leadSteps (w : Scribe (Watched σ)) (ms : List Modifier) (rest : List Step) :
    w.setting.run? (leadSteps ms ++ rest) = Setting.after (w.lead ms) (w.setting.run? rest) := by
  simp [leadSteps, Setting.run?_append (Setting.run?_modifierSteps ms), Setting.indentation_zero,
    lead, setting, Setting.depth, depth]

lemma writes_leadSteps (ms : List Modifier) {rest : List Step} (h : ∀ x ∈ rest, x.writes = true) :
    ∀ x ∈ leadSteps ms ++ rest, x.writes = true := by
  simp only [leadSteps, List.forall_mem_append, List.forall_mem_cons]
  exact ⟨⟨rfl, Call.forall_modifierSteps.mpr fun _ _ => rfl⟩, h⟩

/-- Where the name of a type ends, its declaration goes on with one of few marks. -/
lemma exists_typeEnd (superclass : Value) (interfaces : List Value) (rest : List Step) :
    ∃ mark ∈ typeEnds, ∃ more, Call.extension superclass ++ Step.clause "implements" interfaces ++
      Step.write " \x7b\n" :: rest = Step.write mark :: more := by
  cases superclass with
  | none =>
    cases interfaces with
    | nil => exact ⟨" \x7b\n", by simp [typeEnds], rest, rfl⟩
    | cons type types => exact ⟨"\n", by simp [typeEnds], _, rfl⟩
  | _ => exact ⟨" extends ", by simp [typeEnds], _, rfl⟩

lemma checked_typeSteps (w : Scribe σ) (name : Value) (kind : String)
    (modifiers superclass interfaces : Value) :
    Checked w (Call.typeSteps name kind modifiers superclass interfaces) fun steps =>
      ∃ ms mark rest, Argument.modifiers modifiers = .ok ms ∧ mark ∈ typeEnds ∧
        steps = leadSteps ms ++ typeHead kind name mark ++ rest := by
  refine Checked.require (.after fun ms hms => .after fun is _ => .of ?_)
  obtain ⟨mark, hmark, rest, ht⟩ :=
    exists_typeEnd superclass is [.enter .typeBody, .pushName name.plain]
  refine ⟨ms, mark, rest, hms, hmark, ?_⟩
  simp only [leadSteps, typeHead, List.append_assoc, List.cons_append, List.nil_append, ← ht]
  rfl

lemma checked_constructorSteps (w : Scribe σ) (owner : String)
    (modifiers parameters throws : Value) :
    Checked w (Call.constructorSteps (some owner) modifiers parameters throws) fun steps =>
      ∃ ms rest, Argument.modifiers modifiers = .ok ms ∧
        steps = leadSteps ms ++ constructorHead owner ++ rest := by
  refine Checked.require (.require (.after fun ps _ => .after fun ts _ => ?_))
  split
  · exact .fail
  · let body (ms : List Modifier) : List Step := if .abstract ∈ ms
      then [.write ";\n", .enter .abstractMethod]
      else [.write " \x7b\n", .enter .constructorBody]
    refine .after fun ms hms => .of ⟨ms, Call.parameterSteps ps ++ Step.write ")" ::
      (Step.clause "throws" ts ++ body ms), hms, ?_⟩
    simp [leadSteps, constructorHead, body]

/-- A type that is opened is written with its name as it is displayed then. -/
lemma openType_written
    (hf : (w.perform (.openType name kind modifiers superclass interfaces)).fault = none) :
    ∃ ms shown, Argument.modifiers modifiers = .ok ms ∧
      w.setting.typeText? name = some shown ∧ ∃ mark ∈ typeEnds, ∃ more,
        (w.perform (.openType name kind modifiers superclass interfaces)).scribe.sink.taken =
          w.sink.taken ++ (w.lead ms ++ kind ++ " " ++ shown ++ mark ++ more) := by
  have hp : w.perform (.openType name kind modifiers superclass interfaces) =
      w.run (Call.typeSteps name kind modifiers superclass interfaces) := rfl
  rw [hp] at hf ⊢
  rcases w.checked_typeSteps name kind modifiers superclass interfaces with
    ⟨fault, he⟩ | ⟨_, ⟨ms, mark, rest, hms, hmark, rfl⟩, he⟩
  · simp [he, failing] at hf
  rw [he] at hf ⊢
  obtain ⟨hhead, hr⟩ := run_append_of_done hf
  have hx : ∀ x ∈ typeHead kind name mark, x.writes = true := by simp [typeHead, Step.writes]
  obtain ⟨-, ⟨-, text, htext, ht⟩ | ⟨hn, -⟩⟩ := run_writing (w := w) (writes_leadSteps ms hx)
  · rw [run?_leadSteps] at htext
    cases hs : w.setting.typeText? name with
    | none => simp [typeHead, Setting.run?, Setting.step?, Setting.after, hs] at htext
    | some shown =>
      obtain ⟨more, hmore⟩ := taken_run (w.run _).scribe rest
      refine ⟨ms, shown, hms, rfl, mark, hmark, more, ?_⟩
      obtain rfl : w.lead ms ++ (kind ++ " " ++ (shown ++ (mark ++ ""))) = text := by
        simpa [typeHead, Setting.run?_writeType_shown hs] using htext
      rw [hr, hmore, ht]
      simp [String.append_assoc]
  · exact absurd hhead hn

/-- A constructor is written with the name on top of the stack as it is displayed now, if it comes
to its name. -/
lemma openConstructor_written (ht : w.types.head? = some owner)
    (hs : w.setting.typeText? owner = some shown) (modifiers parameters throws : Value) :
    ∃ text, (w.perform (.openConstructor modifiers parameters throws)).scribe.sink.taken =
        w.sink.taken ++ text ∧
      (text = "" ∨ ∃ ms, Argument.modifiers modifiers = .ok ms ∧
        (text.toList <+: (w.lead ms ++ shown ++ "(").toList ∨
          ∃ more, text = w.lead ms ++ shown ++ "(" ++ more)) ∧
      ((w.perform (.openConstructor modifiers parameters throws)).fault = none →
        ∃ ms, Argument.modifiers modifiers = .ok ms ∧
          ∃ more, text = w.lead ms ++ shown ++ "(" ++ more) := by
  have hp : w.perform (.openConstructor modifiers parameters throws) =
      w.run (Call.constructorSteps (some owner) modifiers parameters throws) := by
    rw [← ht]
    rfl
  rw [hp]
  rcases w.checked_constructorSteps owner modifiers parameters throws with
    ⟨fault, he⟩ | ⟨_, ⟨ms, rest, hms, rfl⟩, he⟩
  · rw [he]
    exact ⟨"", by simp [failing], Or.inl rfl, by simp [failing]⟩
  rw [he, run_append]
  have hx : ∀ x ∈ constructorHead owner, x.writes = true := by
    simp [constructorHead, Step.writes]
  have htext : w.setting.run? (leadSteps ms ++ constructorHead owner) =
      some (w.lead ms ++ shown ++ "(", w.setting) := by
    rw [run?_leadSteps]
    simp [constructorHead, Setting.run?_writeType_shown hs, String.append_assoc]
  obtain ⟨-, ⟨hn, text, hr, htaken⟩ | ⟨hn, front, htaken, hpre⟩⟩ :=
    run_writing (w := w) (writes_leadSteps ms hx)
  · obtain ⟨rfl, -⟩ := Prod.mk.inj (Option.some.inj (htext.symm.trans hr))
    obtain ⟨more, hmore⟩ := taken_run (w.run _).scribe rest
    rw [if_pos (Option.isNone_iff_eq_none.mpr hn)]
    exact ⟨_, by rw [hmore, htaken, String.append_assoc],
      Or.inr ⟨ms, hms, Or.inr ⟨more, rfl⟩⟩, fun _ => ⟨ms, hms, more, rfl⟩⟩
  · rw [if_neg (mt Option.isNone_iff_eq_none.mp hn)]
    exact ⟨front, htaken, Or.inr ⟨ms, hms, Or.inl (hpre _ _ htext)⟩, fun hf => absurd hf hn⟩

omit [Sink σ] in
lemma typeText?_kept {v : Scribe (Watched σ)} (hs : w.setting.typeText? name = some shown)
    (hi : v.naming.imports = w.naming.imports) (hc : v.shortens = w.shortens)
    (hp : ∀ package, w.naming.package = some package → v.naming.package = some package) :
    v.setting.typeText? name = some shown := by
  cases hw : w.shortens with
  | false => simpa [Setting.typeText?, setting, hw, hc] using hs
  | true =>
    cases hpw : w.naming.package with
    | none => simp [Setting.typeText?, setting, hw, Naming.display, hpw, Except.toOption] at hs
    | some package =>
      have hn : v.naming = w.naming := congrArg₂ Naming.mk hi ((hp package hpw).trans hpw.symm)
      simpa [Setting.typeText?, setting, hw, hc, hn] using hs

/-- The names on the stack are those of the types that a run has opened and not closed, one for each
scope of a type, and no call ever lacks one. So a constructor that stands right inside a type has
the name of the type, written as in its declaration if the imports and the shortening are as they
were there. -/
theorem open_types_keep_their_names :
    (∀ (sink : σ) (unit : String) (shortens : Bool) (moves : List Move),
      let w := (blank sink unit shortens).moveAll moves
      w.types.reverse.map Value.text = (blank sink unit shortens).openedTypes moves ∧
        w.types.length = w.scopes.count .typeBody ∧
        (∀ c, (w.perform c).fault ≠ some .noOpenType) ∧
        (w.scopes.top = some .typeBody → ∃ owner types, w.types = owner :: types)) ∧
    ∀ (w : Scribe (Watched σ)) (name kind : String) (modifiers superclass interfaces : Value)
        (between : List Move),
      let u := w.perform (.openType name kind modifiers superclass interfaces)
      let v := u.scribe.moveAll between
      w.Reached → u.fault = none → u.scribe.StaysDeeper w.depth between → v.depth = w.depth + 1 →
        v.naming.imports = w.naming.imports → v.shortens = w.shortens →
          ∃ ms shown, Argument.modifiers modifiers = .ok ms ∧
            w.setting.typeText? name = some shown ∧
            (∃ mark ∈ typeEnds, ∃ more, u.scribe.sink.taken =
              w.sink.taken ++ (w.lead ms ++ kind ++ " " ++ shown ++ mark ++ more)) ∧
            ∀ modifiers' parameters throws,
              let r := v.perform (.openConstructor modifiers' parameters throws)
              ∃ text, r.scribe.sink.taken = v.sink.taken ++ text ∧
                (text = "" ∨ ∃ ms', Argument.modifiers modifiers' = .ok ms' ∧
                  (text.toList <+: (v.lead ms' ++ shown ++ "(").toList ∨
                    ∃ more, text = v.lead ms' ++ shown ++ "(" ++ more)) ∧
                (r.fault = none → ∃ ms', Argument.modifiers modifiers' = .ok ms' ∧
                  ∃ more, text = v.lead ms' ++ shown ++ "(" ++ more) := by
  refine ⟨fun sink unit shortens moves => ?_, ?_⟩
  · have hr : ((blank sink unit shortens).moveAll moves).Reached := ⟨_, _, _, _, rfl⟩
    exact ⟨types_moveAll sink unit shortens moves, hr.named, hr.perform_fault_ne,
      hr.exists_owner⟩
  intro w name kind modifiers superclass interfaces between u v hr hf hstays hd hi hc
  obtain ⟨ms, shown, hms, hshown, hwritten⟩ := openType_written hf
  refine ⟨ms, shown, hms, hshown, hwritten, fun modifiers' parameters throws => ?_⟩
  obtain ⟨e, he, hn⟩ := w.perform_effect (.openType name kind modifiers superclass interfaces)
  have hopened : u.scribe.nesting = ⟨.typeBody :: w.scopes, name :: w.types⟩ := by
    obtain rfl := he.eq_done hf
    exact hn.of_opened
  have hlabel : (w.depth, name) ∈ u.scribe.nesting.labels := by
    rw [hopened]
    exact List.mem_cons_self
  have howner := head?_types_moveAll (named_move hr.named (.call _)) hlabel hstays hd
  have hpackage : ∀ package, w.naming.package = some package → v.naming.package = some package :=
    fun package hp => package_moveAll hp (.call _ :: between)
  exact openConstructor_written howner (typeText?_kept hshown hi hc hpackage) _ _ _

/-- A page with a package and an import. -/
def packaged : Scribe (Watched Page) :=
  (blank (watch {}) "  " true).moveAll [.call (.package "p"), .call (.imports ["q.Map"])]

/-- A type with a method inside another type, and calls that are out of place. -/
def amidst : List Move :=
  [.call (.closeMethod), .call (.openType "p.Foo.Bar" "class"), .call (.openMethod "void" "run"),
    .call (.package "q"), .call (.openSwitch "x"), .call .closeType, .call .closeSwitch,
    .call .closeMethod, .call .closeType, .call (.openBlock "if (x)")]

theorem constructor_after_nested_type :
    (packaged.perform (.openType "p.Foo" "class" "public")).fault = none ∧
      (packaged.perform (.openType "p.Foo" "class" "public")).scribe.StaysDeeper packaged.depth
        amidst ∧
      ∃ more, (((packaged.perform (.openType "p.Foo" "class" "public")).scribe.moveAll
          amidst).perform (.openConstructor "public" (.list ["int", "x"]))).scribe.sink.taken =
        ((packaged.perform (.openType "p.Foo" "class" "public")).scribe.moveAll
          amidst).sink.taken ++ ("  public Foo(" ++ more) := by
  have hf : (packaged.perform (.openType "p.Foo" "class" "public")).fault = none := by
    decide +kernel
  have hs : (packaged.perform (.openType "p.Foo" "class" "public")).scribe.StaysDeeper
      packaged.depth amidst := by decide +kernel
  refine ⟨hf, hs, ?_⟩
  obtain ⟨_, shown, -, hshown, -, hc⟩ := open_types_keep_their_names.2 packaged "p.Foo" "class"
    "public" .none .none amidst ⟨_, _, _, _, rfl⟩ hf hs (by decide +kernel) (by decide +kernel)
    (by decide +kernel)
  obtain rfl : "Foo" = shown := by
    have hd : packaged.setting.typeText? "p.Foo" = some "Foo" := by decide +kernel
    exact Option.some.inj (hd.symm.trans hshown)
  obtain ⟨text, ht, -, hd⟩ := hc "public" (.list ["int", "x"]) .none
  obtain ⟨ms, hms, more, rfl⟩ := hd (by decide +kernel)
  obtain rfl : [.pub] = ms := Except.ok.inj hms
  have hl : ((packaged.perform (.openType "p.Foo" "class" "public")).scribe.moveAll amidst).lead
      [.pub] ++ "Foo" ++ "(" = "  public Foo(" := by decide +kernel
  exact ⟨more, hl ▸ ht⟩

end Scribe
end JavaScribe
