import JavaScribe.Proofs.Construct
import JavaScribe.Proofs.LineWriting

/-!
# Writing a construct

The calls of a construct write its lines and leave everything as it was (`construct_printed`), in
every place where the first of them does not fail (`mayStand_of_perform`).
-/
namespace JavaScribe.Setting
open Line
variable {s : Setting} {package : String}

lemma filled_of_filledText {pattern : Value} {arguments : List Value} {text : String}
    (h : Argument.filledText pattern arguments = .ok text) :
    Argument.filled pattern arguments = .ok (.text text) := by
  cases hf : Argument.filled pattern arguments with
  | error fault => simp [Argument.filledText, hf, bind, Except.bind] at h
  | ok v =>
    cases v with
    | text t =>
      have ht : t = text := by
        simpa [Argument.filledText, hf, bind, Except.bind, pure, Except.pure] using h
      rw [ht]
    | _ => simp [Argument.filledText, hf, bind, Except.bind, throw, throwThe,
        MonadExceptOf.throw] at h

lemma call?_leaf (h : s.naming.package = some package) (l : Leaf) :
    s.call? l.call = some (render s.unit (l.lines (s.typeText package) s.depth), s) := by
  have hone : ∀ {written text : String}, written = text ++ "\n" →
      s.run? (Step.line written) = some (render s.unit [⟨s.depth, text⟩], s) := by
    intro written text hw
    have hr := run?_line (s := s) hw []
    simpa using hr
  cases l with
  | field type name modifiers initial =>
    simp only [call?, Leaf.call, Call.steps, Call.fieldSteps, modifiers.resolved, Step.after_ok]
    cases initial <;>
      simp [run?_append (run?_modifierSteps _), run?_writeType h, indentation_zero, Leaf.lines,
        String.append_assoc]
  | enumConstant name | lastEnumConstant name =>
    exact hone (by simp [Value.plain_text, String.append_assoc])
  | enumConstants names =>
    simp only [call?, Leaf.call, Call.steps, names.resolved, Step.after_ok,
      run?_constantSteps names.shown, Leaf.lines]
  | annotation name value hv => exact run?_annotation_steps (typeText?_text h name) hv
  | javadoc text =>
    simp only [call?, Leaf.call, Call.steps, Call.javadocSteps, text.resolved, Step.after_ok]
    exact run?_javadoc text.text
  | comment text =>
    simp only [call?, Leaf.call, Call.steps, Call.commentSteps,
      filled_of_filledText text.resolved, Step.after_ok, Value.asText_text, Step.spell_ok]
    simp [indentation_zero, Leaf.lines, String.append_assoc]
  | blankLine => simp [call?, Leaf.call, Call.steps, Leaf.lines, Scribe.indentation]

lemma call?_statement (hs : s.scopes.top ∈ Scope.statementScopes.map some) (text : Filled) :
    s.call? (.statement text.pattern text.arguments) =
      some (render s.unit (hanging s.depth (Text.lines text.text)), s) := by
  simp only [call?, Call.steps, Call.statementSteps, Call.statementPlace, List.cons_append,
    List.nil_append, run?_require hs, text.resolved, Step.after_ok]
  cases hl : Text.lines text.text with
  | nil => rfl
  | cons l more => exact run?_hanging l more

lemma call?_openType (h : s.naming.package = some package)
    (hs : s.scopes.top ∈ [none, some .typeBody]) (head : TypeHead) :
    s.call? head.call =
      some (render s.unit (head.lines (s.typeText package) s.depth),
        (s.enter .typeBody).pushName head.name) := by
  simp only [call?, TypeHead.call, Call.steps, Call.typeSteps, List.cons_append,
    List.nil_append, run?_require hs, head.modifiers.resolved, head.interfaces.resolved,
    Step.after_ok]
  cases hc : head.superclass <;>
    simp [hc, run?_append (run?_modifierSteps _), run?_append (run?_clause h _ _),
      run?_writeType h, indentation_zero, TypeHead.lines, render_headed, Value.plain,
      String.append_assoc]

lemma run?_methodSteps (h : s.naming.package = some package)
    (hs : s.scopes.top = some .typeBody) (head : MethodHead) (result : Option String)
    (name : String) :
    s.run? (Call.methodSteps (result.elim .none .text) (.text name) head.modifiers.given
        head.parameters.given head.throws.given) =
      some (render s.unit (headed s.depth (keywords head.modifiers.modifiers ++
          (result.elim (s.typeText package name) fun r => s.typeText package r ++ " " ++ name) ++
          "(" ++ parameterText (s.typeText package) head.parameters.pairs ++ ")") "throws"
          (head.throws.types.map (s.typeText package))
          (if head.IsAbstract then ";" else " \x7b")),
        s.enter (if head.IsAbstract then .abstractMethod
          else if result.isNone then .constructorBody else .methodBody)) := by
  have ht : s.scopes.top ∈ [some Scope.typeBody] := by simp [hs]
  have hp : ∀ pairs : List (String × String),
      (pairs.flatMap fun p => [Value.text p.1, .text p.2]).length % 2 ≠ 1 := by
    intro pairs
    induction pairs with
    | nil => simp
    | cons p ps ih =>
      simp only [List.flatMap_cons, List.length_append, List.length_cons, List.length_nil]
      omega
  simp only [Call.methodSteps, List.cons_append, List.nil_append, run?_require ht,
    head.modifiers.resolved, head.parameters.resolved, head.throws.resolved, Step.after_ok,
    if_neg (hp _)]
  have hi : (.abstract ∈ head.modifiers.modifiers) = head.IsAbstract := rfl
  by_cases ha : head.IsAbstract <;> cases result <;>
    simp [hi, ha, run?_append (run?_modifierSteps _), run?_append (run?_clause h _ _),
      run?_append (run?_parameterSteps h _), run?_writeType h, indentation_zero, render_headed,
      Value.asText_text, Step.spell_ok, String.append_assoc]

/-- The name of the innermost type. -/
def owner (s : Setting) : String := s.types.head?.getD ""

lemma call?_openMethod (h : s.naming.package = some package) {head : MethodHead}
    (hm : head.MayStand s.nesting) :
    s.call? head.call =
      some (render s.unit (head.lines (s.typeText package) s.owner s.depth
          (if head.IsAbstract then ";" else " \x7b")),
        s.enter (if head.IsAbstract then .abstractMethod else head.scope)) := by
  obtain ⟨hs, ho⟩ := hm
  cases hsig : head.signature with
  | method result name =>
    have hr := run?_methodSteps h hs head (some result) name
    simpa [call?, MethodHead.call, hsig, Call.steps, MethodHead.lines, MethodHead.title,
      MethodHead.scope] using hr
  | named name =>
    have hr := run?_methodSteps h hs head none name
    simpa [call?, MethodHead.call, hsig, Call.steps, MethodHead.lines, MethodHead.title,
      MethodHead.scope] using hr
  | unnamed =>
    obtain ⟨name, names, ht⟩ := List.exists_cons_of_ne_nil (ho hsig)
    have hn : s.types = name :: names := ht
    have hr := run?_methodSteps h hs head none name
    have hp : s.scopes.top ∈ [some Scope.typeBody] := List.mem_singleton.mpr hs
    simpa [call?, MethodHead.call, hsig, Call.steps, Call.constructorSteps, run?_require hp,
      nesting, owner, hn, MethodHead.lines, MethodHead.title, MethodHead.scope] using hr

lemma run?_closingBrace :
    s.run? Call.closingBrace = some (render s.unit [⟨s.depth, "\x7d"⟩], s) := by
  have hl : "\x7d\n" = "\x7d" ++ "\n" := rfl
  have hr := run?_line (s := s) hl []
  simpa [Call.closingBrace] using hr

/-- What closes a scope with a brace writes it where the scope was opened. -/
lemma calls?_closing {scope : Scope} {c : Call} {operation : String} {expected : List Scope}
    (hc : c.steps (s.enter scope).nesting = .leave operation expected :: Call.closingBrace)
    (hs : scope ∈ expected) :
    (s.enter scope).calls? [c] = some (render s.unit [⟨s.depth, "\x7d"⟩], s) := by
  rw [calls?_one, call?, hc, run?_leave hs, run?_closingBrace]

lemma calls?_closeMethod {scope : Scope} (hs : scope ∈ [.methodBody, .constructorBody]) :
    (s.enter scope).calls? [.closeMethod] = some (render s.unit [⟨s.depth, "\x7d"⟩], s) := by
  have he : scope ∈ [.methodBody, .constructorBody, .abstractMethod] := by
    simp only [List.mem_cons, List.not_mem_nil, or_false] at hs ⊢
    tauto
  have hn : (s.enter scope).nesting.scopes.top ≠ some .abstractMethod := by
    intro ha
    have : scope = .abstractMethod := by simpa [nesting, Scopes.top] using ha
    simp [this] at hs
  have hc : Call.steps (s.enter scope).nesting .closeMethod =
      .leave "end_method" [.methodBody, .constructorBody, .abstractMethod] ::
        Call.closingBrace := by
    simp only [Call.steps, hn, if_false, List.cons_append, List.nil_append]
  exact calls?_closing hc he

lemma call?_closeMethod_abstract :
    (s.enter .abstractMethod).call? .closeMethod = some ("", s) := by
  simp [call?, Call.steps, nesting, Scopes.top, run?_leave]

/-- Constructs in a row. -/
lemma calls?_row {a b : List Call} {x y : List Line}
    (ha : s.calls? a = some (render s.unit x, s)) (hb : s.calls? b = some (render s.unit y, s)) :
    s.calls? (a ++ b) = some (render s.unit (x ++ y), s) := by
  rw [calls?_append ha, hb, after_some, render_append]

/-- A call that opens a scope, what stands in it, and what closes it. -/
lemma calls?_around {s' : Setting} {c : Call} {body close : List Call} {x y z : List Line}
    (hc : s.call? c = some (render s.unit x, s'))
    (hb : s'.calls? body = some (render s.unit y, s'))
    (hz : s'.calls? close = some (render s.unit z, s)) :
    s.calls? (c :: (body ++ close)) = some (render s.unit (x ++ (y ++ z)), s) := by
  rw [calls?_cons hc, calls?_append hb, hz]
  simp

lemma top_enter {scope : Scope} (hs : scope ∈ Scope.statementScopes) :
    (s.enter scope).scopes.top ∈ Scope.statementScopes.map some :=
  List.mem_map_of_mem hs

/-! Over the tree the setting varies: what stands in a body is written one scope further in, while
the rest of a chain is written in the scope that its first block has opened. -/

mutual

theorem calls?_item : (i : Item) → ∀ s : Setting, s.naming.package = some package →
    i.MayStand s.nesting →
    s.calls? i.calls = some (render s.unit (i.lines (s.typeText package) s.depth), s)
  | .leaf l => by
    intro s h _
    rw [Item.calls, calls?_one, call?_leaf h, Item.lines]
  | .statement text => by
    intro s _ hs
    rw [Item.calls, calls?_one, call?_statement hs, Item.lines]
  | .switch subject body => by
    intro s h hs
    have ho : s.call? (.openSwitch subject) =
        some (render s.unit [⟨s.depth, "switch(" ++ subject ++ ") \x7b"⟩],
          s.enter .switchBody) := by
      simp [call?, Call.steps, Call.statementPlace, run?_require hs, indentation_zero,
        String.append_assoc]
    have hb := calls?_items body (s.enter .switchBody) h
      (top_enter (by simp [Scope.statementScopes]))
    exact calls?_around ho hb (calls?_closing rfl (List.mem_singleton_self _))
  | .block header body rest => by
    intro s h hs
    have ho : s.call? (.openBlock header) =
        some (render s.unit [⟨s.depth, header ++ " \x7b"⟩], s.enter .controlFlow) := by
      simp [call?, Call.steps, Call.statementPlace, run?_require hs, Step.line, indentation_zero,
        String.append_assoc]
    have hb := calls?_items body (s.enter .controlFlow) h
      (top_enter (by simp [Scope.statementScopes]))
    exact calls?_around ho hb (calls?_chain rest s h)

theorem calls?_chain : (c : Chain) → ∀ s : Setting, s.naming.package = some package →
    (s.enter .controlFlow).calls? c.calls =
      some (render s.unit (c.lines (s.typeText package) s.depth), s)
  | .close none => by
    intro s _
    exact calls?_closing rfl (List.mem_singleton_self _)
  | .close (some tail) => by
    intro s _
    simp [Chain.calls, calls?_one, call?, Call.steps, run?_leave, Step.line, indentation_zero,
      Chain.lines, String.append_assoc]
  | .next header body rest => by
    intro s h
    have ho : (s.enter .controlFlow).call? (.nextBlock header) =
        some (render s.unit [⟨s.depth, "\x7d " ++ header ++ " \x7b"⟩], s.enter .controlFlow) := by
      simp [call?, Call.steps, run?_leave, indentation_zero, String.append_assoc]
    have hb := calls?_items body (s.enter .controlFlow) h
      (top_enter (by simp [Scope.statementScopes]))
    rw [Chain.calls, calls?_cons ho, calls?_append hb, calls?_chain rest s h]
    simp [Chain.lines]

theorem calls?_items : (is : List Item) → ∀ s : Setting, s.naming.package = some package →
    s.scopes.top ∈ Scope.statementScopes.map some →
    s.calls? (Item.callsOf is) =
      some (render s.unit (Item.linesOf (s.typeText package) s.depth is), s)
  | [] => by
    intro s _ _
    simp [Item.callsOf, Item.linesOf, calls?]
  | i :: is => by
    intro s h hs
    have hi : i.MayStand s.nesting := by
      cases i with
      | leaf l => trivial
      | _ => exact hs
    exact calls?_row (calls?_item i s h hi) (calls?_items is s h hs)

end

lemma mem_statementScopes (head : MethodHead) : head.scope ∈ Scope.statementScopes := by
  cases hs : head.signature <;> simp [MethodHead.scope, hs, Scope.statementScopes]

lemma mayStand_body (name : String) (m : Member) :
    m.MayStand ((s.enter .typeBody).pushName name).nesting := by
  have ht : ((s.enter .typeBody).pushName name).nesting.scopes.top = some .typeBody := rfl
  have hn : ((s.enter .typeBody).pushName name).nesting.types ≠ [] := List.cons_ne_nil _ _
  cases m with
  | leaf l => trivial
  | type head members => simp [Member.MayStand, ht]
  | abstractMethod head _ => exact ⟨ht, fun _ => hn⟩
  | method head _ body => exact ⟨ht, fun _ => hn⟩
  | constructor head _ _ body => exact ⟨ht, fun _ => hn⟩
  | initializer isStatic body => exact ht

mutual

theorem calls?_member : (m : Member) → ∀ s : Setting, s.naming.package = some package →
    m.MayStand s.nesting →
    s.calls? m.calls = some (render s.unit (m.lines (s.typeText package) s.owner s.depth), s)
  | .leaf l => by
    intro s h _
    rw [Member.calls, calls?_one, call?_leaf h, Member.lines]
  | .type head members => by
    intro s h hs
    have hb := calls?_members members ((s.enter .typeBody).pushName head.name) h
      (fun m _ => mayStand_body head.name m)
    have hc : ((s.enter .typeBody).pushName head.name).calls? [.closeType] =
        some (render s.unit [⟨s.depth, "\x7d"⟩], s) := by
      have hl : (s.enter .typeBody).pushName head.name = (s.pushName head.name).enter .typeBody :=
        rfl
      simp only [calls?_one, call?, Call.steps, List.cons_append, List.nil_append, hl,
        run?_leave (List.mem_singleton_self _), run?_popName, run?_closingBrace]
    exact calls?_around (call?_openType h hs head) hb hc
  | .abstractMethod head ha => by
    intro s h hs
    have ho := call?_openMethod h hs
    simp only [ha, if_true] at ho
    rw [Member.calls, calls?_cons ho, calls?_one, call?_closeMethod_abstract]
    simp [Member.lines]
  | .method head ha body => by
    intro s h hs
    have ho := call?_openMethod h hs
    simp only [ha, if_false] at ho
    have hb := calls?_items body (s.enter head.scope) h (top_enter (mem_statementScopes head))
    have hk : head.scope ∈ [.methodBody, .constructorBody] := by
      cases hsig : head.signature <;> simp [MethodHead.scope, hsig]
    exact calls?_around ho hb (calls?_closeMethod hk)
  | .constructor head ha hk body => by
    intro s h hs
    have ho := call?_openMethod h hs
    simp only [ha, if_false] at ho
    have hb := calls?_items body (s.enter head.scope) h (top_enter (mem_statementScopes head))
    have hc : head.scope ∈ [.constructorBody] := by
      cases hsig : head.signature with
      | method result name => exact absurd hsig (hk result name)
      | _ => simp [MethodHead.scope, hsig]
    exact calls?_around ho hb (calls?_closing rfl hc)
  | .initializer isStatic body => by
    intro s h hs
    have hs' : s.scopes.top ∈ [some Scope.typeBody] := List.mem_singleton.mpr hs
    have ho : s.call? (.openInitializer isStatic) =
        some (render s.unit [⟨s.depth, if isStatic.truthy then "static \x7b" else "\x7b"⟩],
          s.enter .initializer) := by
      cases ht : isStatic.truthy <;>
        simp [call?, Call.steps, run?_require hs', ht, Step.line, indentation_zero,
          String.append_assoc]
    have hb := calls?_items body (s.enter .initializer) h
      (top_enter (by simp [Scope.statementScopes]))
    exact calls?_around ho hb (calls?_closing rfl (List.mem_singleton_self _))

theorem calls?_members : (ms : List Member) → ∀ s : Setting, s.naming.package = some package →
    (∀ m ∈ ms, m.MayStand s.nesting) →
    s.calls? (Member.callsOf ms) =
      some (render s.unit (Member.linesOf (s.typeText package) s.owner s.depth ms), s)
  | [] => by
    intro s _ _
    simp [Member.callsOf, Member.linesOf, calls?]
  | m :: ms => by
    intro s h hs
    have hm := calls?_member m s h (hs m (by simp))
    have hms := calls?_members ms s h (fun m' hm' => hs m' (by simp [hm']))
    exact calls?_row hm hms

end

theorem calls?_construct (h : s.naming.package = some package) {c : Construct}
    (hc : c.MayStand s.nesting) :
    s.calls? c.calls =
      some (render s.unit (c.lines (s.typeText package) s.owner s.depth), s) := by
  cases c with
  | member m => exact calls?_member m s h hc
  | item i => exact calls?_item i s h hc

end JavaScribe.Setting

namespace JavaScribe.Scribe
open Sink

lemma top_of_require {σ : Type} [Sink σ] {w : Scribe σ} {operation : String}
    {allowed : List (Option Scope)} {rest : List Step}
    (h : (w.run (.require operation allowed :: rest)).fault = none) : w.scopes.top ∈ allowed := by
  cases hr : w.scopes.require operation allowed with
  | ok u => exact Scopes.require_ok.mp hr
  | error fault => simp [run, step, hr, failing] at h

lemma mayStand_of_openMethod {σ : Type} [Sink σ] {w : Scribe σ} {head : MethodHead}
    (h : (w.perform head.call).fault = none) : head.MayStand w.nesting := by
  cases hs : head.signature with
  | method result name =>
    rw [MethodHead.call, hs] at h
    exact ⟨List.mem_singleton.mp (top_of_require h), by simp [hs]⟩
  | named name =>
    rw [MethodHead.call, hs] at h
    exact ⟨List.mem_singleton.mp (top_of_require h), by simp [hs]⟩
  | unnamed =>
    rw [MethodHead.call, hs] at h
    have ht : w.scopes.top ∈ [some Scope.typeBody] := top_of_require h
    refine ⟨List.mem_singleton.mp ht, fun _ hn => ?_⟩
    have hn' : w.types = [] := hn
    have hr : w.scopes.require "begin_constructor" [some .typeBody] = .ok () :=
      Scopes.require_ok.mpr ht
    simp [perform, Call.steps, Call.constructorSteps, nesting, hn', run, step, hr, done,
      failing] at h

/-- Where a construct may stand is where its first call does not fail. -/
theorem mayStand_of_perform {σ : Type} [Sink σ] {w : Scribe σ} {c : Construct} {call : Call}
    {rest : List Call} (hc : c.calls = call :: rest) (h : (w.perform call).fault = none) :
    c.MayStand w.nesting := by
  cases c with
  | item i =>
    cases i with
    | leaf l => trivial
    | _ =>
      obtain ⟨rfl, -⟩ := List.cons.inj hc
      exact top_of_require h
  | member m =>
    cases m with
    | leaf l => trivial
    | type head members =>
      obtain ⟨rfl, -⟩ := List.cons.inj hc
      exact top_of_require h
    | initializer isStatic body =>
      obtain ⟨rfl, -⟩ := List.cons.inj hc
      exact List.mem_singleton.mp (top_of_require h)
    | _ =>
      obtain ⟨rfl, -⟩ := List.cons.inj hc
      exact mayStand_of_openMethod h

/-- On a sink that takes every text, and with a package, the calls of a construct that may stand
where they are made do not fail, open nothing that they do not close, and write the construct as it
is printed. -/
theorem construct_printed {σ : Type} [Sink σ] {w : Scribe σ} (ha : Accepts w.sink)
    {package : String} (hp : w.naming.package = some package) {c : Construct}
    (hc : c.MayStand w.nesting) :
    (∀ before call after, c.calls = before ++ call :: after →
        ((w.performAll before).perform call).fault = none) ∧
      (w.performAll c.calls).scopes = w.scopes ∧ (w.performAll c.calls).types = w.types ∧
      Wrote w.sink
        (Line.render w.unit
          (c.lines (w.setting.typeText package) (w.types.head?.getD "") w.scopes.length))
        (w.performAll c.calls).sink := by
  have hs : w.setting.calls? c.calls = some (_, w.setting) := Setting.calls?_construct hp hc
  obtain ⟨hf, hset, hw⟩ := calls_of_calls? ha hs
  exact ⟨hf, congrArg Setting.scopes hset, congrArg Setting.types hset, hw⟩

/-- An abstract class with a field, a method and a constructor. -/
def shape : Construct :=
  .member (.type
    ⟨"p.Shape", "class", ⟨.modifier .abstract, [.abstract], rfl⟩, none, ⟨.none, [], rfl⟩⟩
    [.leaf (.field "int" "sides" ⟨.none, [], rfl⟩ none),
      .leaf .blankLine,
      .abstractMethod ⟨.method "double" "area", ⟨.modifier .abstract, [.abstract], rfl⟩,
        ⟨.none, [], rfl⟩, ⟨.none, [], rfl⟩⟩ (by decide),
      .constructor ⟨.unnamed, ⟨.none, [], rfl⟩,
        ⟨.list [.text "int", .text "sides"], [("int", "sides")], rfl⟩, ⟨.none, [], rfl⟩⟩ (by decide)
        (by simp [MethodHead.IsConstructor])
        [.block "if (sides < 3)" [.statement ⟨.text "fail()", [], "fail()", rfl⟩]
          (.next "else" [.statement ⟨.text "this.sides =\nsides", [], "this.sides =\nsides", rfl⟩]
            (.close none))]])

def onBlankPage : Scribe Page := { sink := {}, naming := { package := some "p." } }

theorem shape_written :
    (onBlankPage.performAll shape.calls).sink.text =
      "abstract class Shape \x7b\n  int sides;\n\n  abstract double area();\n" ++
      "  Shape(int sides) \x7b\n    if (sides < 3) \x7b\n      fail();\n    \x7d else \x7b\n" ++
      "      this.sides =\n          sides;\n    \x7d\n  \x7d\n\x7d\n" := by
  have hm : shape.MayStand onBlankPage.nesting := by
    simp [shape, Construct.MayStand, Member.MayStand, onBlankPage, nesting, Scopes.top]
  have ha : Accepts onBlankPage.sink := Page.accepts rfl rfl rfl
  obtain ⟨-, -, -, hw⟩ := construct_printed ha rfl hm
  rw [(Page.wrote_iff rfl rfl rfl).mp hw]
  decide +kernel

end JavaScribe.Scribe
