import JavaScribe.Proofs.WillingSinks
import JavaScribe.Scribe

/-!
# Writing on a sink that takes every text

What a step writes there depends on the `Setting` of a scribe alone: its unit of indentation, its
names, and what is open. `run?` follows the steps that write, open and close, and gives the text and
the setting that they leave. A scribe whose sink accepts every text does the same (`run_of_run?`,
`calls_of_calls?`).
-/
namespace JavaScribe

structure Setting where
  unit : String
  shortens : Bool
  naming : Naming
  scopes : Scopes
  types : OpenTypes
  deriving DecidableEq, Repr

def Scribe.setting {σ : Type} (w : Scribe σ) : Setting :=
  ⟨w.unit, w.shortens, w.naming, w.scopes, w.types⟩

namespace Setting

def depth (s : Setting) : ℕ := s.scopes.length

def nesting (s : Setting) : Nesting := ⟨s.scopes, s.types⟩

def indentation (s : Setting) (deeper : ℕ) : String :=
  Scribe.indentation s.unit (s.depth + deeper)

def typeText? (s : Setting) (type : Value) : Option String :=
  match s.shortens, type with
  | true, type => (s.naming.display type).toOption
  | false, .text text => some text
  | false, _ => none

def enter (s : Setting) (scope : Scope) : Setting := { s with scopes := scope :: s.scopes }

def pushName (s : Setting) (name : String) : Setting := { s with types := name :: s.types }

/-- The text of a step that writes, opens or closes, and the setting after it; none when the step
fails or is of another kind. -/
def step? (s : Setting) : Step → Option (String × Setting)
  | .require _ allowed => if s.scopes.top ∈ allowed then some ("", s) else none
  | .enter scope => some ("", s.enter scope)
  | .leave _ expected =>
    match s.scopes with
    | [] => none
    | scope :: rest => if scope ∈ expected then some ("", { s with scopes := rest }) else none
  | .pushName name => some ("", s.pushName name)
  | .popName =>
    match s.types with
    | [] => none
    | _ :: rest => some ("", { s with types := rest })
  | .write text => some (text, s)
  | .indent deeper => some (s.indentation deeper, s)
  | .writeType type => (s.typeText? type).map fun text => (text, s)
  | _ => none

/-- A text in front of what is written. -/
def after (text : String) : Option (String × Setting) → Option (String × Setting) :=
  Option.map fun r => (text ++ r.1, r.2)

def run? (s : Setting) : List Step → Option (String × Setting)
  | [] => some ("", s)
  | a :: rest => (s.step? a).bind fun r => after r.1 (r.2.run? rest)

def call? (s : Setting) (c : Call) : Option (String × Setting) := s.run? (c.steps s.nesting)

def calls? (s : Setting) : List Call → Option (String × Setting)
  | [] => some ("", s)
  | c :: rest => (s.call? c).bind fun r => after r.1 (r.2.calls? rest)

/-- The text of a type as it is written once there is a package. -/
def typeText (s : Setting) (package text : String) : String :=
  if s.shortens then Naming.shortenText s.naming.imports package text else text

lemma typeText?_text {s : Setting} {package : String} (h : s.naming.package = some package)
    (text : String) : s.typeText? (.text text) = some (s.typeText package text) := by
  cases hs : s.shortens with
  | true => simp [typeText?, typeText, hs, Naming.display_ok h, Except.toOption]
  | false => simp [typeText?, typeText, hs]

section
variable (s : Setting) (scope : Scope)

@[simp] lemma enter_unit : (s.enter scope).unit = s.unit := rfl
@[simp] lemma enter_scopes : (s.enter scope).scopes = scope :: s.scopes := rfl
@[simp] lemma enter_typeText : (s.enter scope).typeText = s.typeText := rfl
@[simp] lemma enter_depth : (s.enter scope).depth = s.depth + 1 := rfl

end

section
variable {s s' : Setting} {rest : List Step} {r : Option (String × Setting)} {a b : String}

@[simp] lemma after_some : after a (some (b, s)) = some (a ++ b, s) := rfl

@[simp] lemma after_after : after a (after b r) = after (a ++ b) r := by
  cases r <;> simp [after, String.append_assoc]

@[simp] lemma after_empty : after "" r = r := by cases r <;> simp [after]

lemma bind_after (x : Option (String × Setting)) (f : Setting → Option (String × Setting))
    (h : (x.bind fun r => after r.1 (f r.2)) = some (a, s)) :
    ∃ first between second,
      x = some (first, between) ∧ f between = some (second, s) ∧ first ++ second = a := by
  obtain ⟨⟨first, between⟩, hx, hr⟩ := Option.bind_eq_some_iff.mp h
  obtain ⟨⟨second, last⟩, hf, he⟩ := Option.map_eq_some_iff.mp hr
  obtain ⟨ht, rfl⟩ : first ++ second = a ∧ last = s := by simpa using he
  exact ⟨first, between, second, hx, hf, ht⟩

/-- The texts of the first step and of the rest, and the setting between. -/
lemma run?_split {x : Step} (h : s.run? (x :: rest) = some (a, s')) :
    ∃ first between second, s.step? x = some (first, between) ∧
      between.run? rest = some (second, s') ∧ first ++ second = a :=
  bind_after (s.step? x) (·.run? rest) h

lemma calls?_split {c : Call} {calls : List Call} (h : s.calls? (c :: calls) = some (a, s')) :
    ∃ first between second, s.call? c = some (first, between) ∧
      between.calls? calls = some (second, s') ∧ first ++ second = a :=
  bind_after (s.call? c) (·.calls? calls) h

@[simp] lemma run?_nil : s.run? [] = some ("", s) := rfl

@[simp] lemma run?_write : s.run? (.write a :: rest) = after a (s.run? rest) := rfl

@[simp] lemma run?_indent (n : ℕ) :
    s.run? (.indent n :: rest) = after (s.indentation n) (s.run? rest) := rfl

@[simp] lemma run?_enter (scope : Scope) :
    s.run? (.enter scope :: rest) = (s.enter scope).run? rest := by
  simp [run?, step?]

@[simp] lemma run?_pushName (name : String) :
    s.run? (.pushName name :: rest) = (s.pushName name).run? rest := by
  simp [run?, step?]

lemma run?_require {allowed : List (Option Scope)} (h : s.scopes.top ∈ allowed)
    (operation : String) : s.run? (.require operation allowed :: rest) = s.run? rest := by
  simp [run?, step?, h]

lemma run?_leave {scope : Scope} {expected : List Scope} (h : scope ∈ expected)
    (operation : String) :
    (s.enter scope).run? (.leave operation expected :: rest) = s.run? rest := by
  simp [run?, step?, enter, h]

lemma run?_popName (name : String) :
    (s.pushName name).run? (.popName :: rest) = s.run? rest := by
  simp [run?, step?, pushName]

lemma run?_writeType_shown {type : Value} {shown : String} (h : s.typeText? type = some shown) :
    s.run? (.writeType type :: rest) = after shown (s.run? rest) := by
  simp [run?, step?, h]

lemma run?_writeType {package : String} (h : s.naming.package = some package) (text : String) :
    s.run? (.writeType (.text text) :: rest) = after (s.typeText package text) (s.run? rest) :=
  run?_writeType_shown (typeText?_text h text)

lemma run?_append {first second : List Step} (h : s.run? first = some (a, s')) :
    s.run? (first ++ second) = after a (s'.run? second) := by
  induction first generalizing s a with
  | nil =>
    obtain ⟨rfl, rfl⟩ : "" = a ∧ s = s' := by simpa using h
    simp
  | cons x xs ih =>
    obtain ⟨t, s₁, t', hx, hr, rfl⟩ := run?_split h
    simp [run?, hx, ih hr]

lemma calls?_one (c : Call) : s.calls? [c] = s.call? c := by
  cases h : s.call? c with
  | none => simp [calls?, h]
  | some r => simp [calls?, h, after]

lemma calls?_cons {c : Call} {rest : List Call} (h : s.call? c = some (a, s')) :
    s.calls? (c :: rest) = after a (s'.calls? rest) := by
  simp [calls?, h]

lemma calls?_append {first second : List Call} (h : s.calls? first = some (a, s')) :
    s.calls? (first ++ second) = after a (s'.calls? second) := by
  induction first generalizing s a with
  | nil =>
    obtain ⟨rfl, rfl⟩ : "" = a ∧ s = s' := by simpa [calls?] using h
    simp
  | cons c cs ih =>
    obtain ⟨t, s₁, t', hc, hr, rfl⟩ := calls?_split h
    rw [List.cons_append, calls?_cons hc, ih hr, after_after]

end

end Setting

namespace Scribe
open Sink
variable {σ : Type} [Sink σ] {w : Scribe σ}

lemma put_eq_of_accepts (h : Accepts w.sink) (text : String) :
    w.put text = ⟨none, { w with sink := (write w.sink text).2 }⟩ := by
  rw [put, h.write_eq text]
  rfl

lemma put_of_accepts (h : Accepts w.sink) (text : String) :
    ∃ w', w.put text = ⟨none, w'⟩ ∧ w'.setting = w.setting ∧ Wrote w.sink text w'.sink :=
  ⟨_, put_eq_of_accepts h text, rfl, Wrote.one _ _⟩

lemma writeType_of_typeText? (h : Accepts w.sink) {type : Value} {text : String}
    (ht : w.setting.typeText? type = some text) :
    ∃ w', w.step (.writeType type) = ⟨none, w'⟩ ∧ w'.setting = w.setting ∧
      Wrote w.sink text w'.sink := by
  cases hs : w.shortens with
  | true =>
    cases hd : w.naming.display type with
    | error fault => simp [Setting.typeText?, setting, hs, hd, Except.toOption] at ht
    | ok short =>
      have he : short = text := by
        simpa [Setting.typeText?, setting, hs, hd, Except.toOption] using ht
      obtain ⟨w', hw, hset, hwr⟩ := @put_of_accepts _ _ (w.remarked type) h short
      exact ⟨w', by simp [step, hs, hd, hw], hset, he ▸ hwr⟩
  | false =>
    cases type with
    | text t =>
      have he : t = text := by simpa [Setting.typeText?, setting, hs] using ht
      obtain ⟨w', hw, hset, hwr⟩ := put_of_accepts h t
      exact ⟨w', by simp [step, hs, offer, hw], hset, he ▸ hwr⟩
    | _ => simp [Setting.typeText?, setting, hs] at ht

/-- A step that writes does so on any sink that accepts. -/
lemma step_of_step? (h : Accepts w.sink) {a : Step} {text : String} {s : Setting}
    (ha : w.setting.step? a = some (text, s)) :
    ∃ w', w.step a = ⟨none, w'⟩ ∧ w'.setting = s ∧ Wrote w.sink text w'.sink := by
  cases a with
  | require operation allowed =>
    by_cases ht : w.scopes.top ∈ allowed
    · obtain ⟨rfl, rfl⟩ : "" = text ∧ w.setting = s := by
        simpa [Setting.step?, setting, ht] using ha
      exact ⟨w, by simp [step, Scopes.require_ok.mpr ht, done], rfl, Wrote.refl _⟩
    · simp [Setting.step?, setting, ht] at ha
  | enter scope =>
    obtain ⟨rfl, rfl⟩ : "" = text ∧ w.setting.enter scope = s := by
      simpa [Setting.step?] using ha
    exact ⟨_, rfl, rfl, Wrote.refl _⟩
  | leave operation expected =>
    cases hs : w.scopes with
    | nil => simp [Setting.step?, setting, hs] at ha
    | cons scope rest =>
      by_cases ht : scope ∈ expected
      · obtain ⟨rfl, rfl⟩ : "" = text ∧ { w.setting with scopes := rest } = s := by
          simpa [Setting.step?, setting, hs, ht] using ha
        refine ⟨({ w with scopes := rest }).note (.left scope rest.length), ?_, rfl, Wrote.refl _⟩
        simp [step, Scopes.leave, hs, ht, done]
      · simp [Setting.step?, setting, hs, ht] at ha
  | pushName name =>
    obtain ⟨rfl, rfl⟩ : "" = text ∧ w.setting.pushName name = s := by
      simpa [Setting.step?] using ha
    exact ⟨_, rfl, rfl, Wrote.refl _⟩
  | popName =>
    cases ht : w.types with
    | nil => simp [Setting.step?, setting, ht] at ha
    | cons name rest =>
      obtain ⟨rfl, rfl⟩ : "" = text ∧ { w.setting with types := rest } = s := by
        simpa [Setting.step?, setting, ht] using ha
      exact ⟨{ w with types := rest }, by simp [step, OpenTypes.close, ht, done], rfl, Wrote.refl _⟩
  | write t =>
    obtain ⟨rfl, rfl⟩ : t = text ∧ w.setting = s := by simpa [Setting.step?] using ha
    exact put_of_accepts h t
  | indent deeper =>
    obtain ⟨rfl, rfl⟩ : w.setting.indentation deeper = text ∧ w.setting = s := by
      simpa [Setting.step?] using ha
    exact put_of_accepts h _
  | writeType type =>
    obtain ⟨ht, rfl⟩ : w.setting.typeText? type = some text ∧ w.setting = s := by
      simpa [Setting.step?] using ha
    exact writeType_of_typeText? h ht
  | _ => simp [Setting.step?] at ha

theorem run_of_run? (h : Accepts w.sink) {steps : List Step} {text : String} {s : Setting}
    (hr : w.setting.run? steps = some (text, s)) :
    ∃ w', w.run steps = ⟨none, w'⟩ ∧ w'.setting = s ∧ Wrote w.sink text w'.sink := by
  induction steps generalizing w text with
  | nil =>
    obtain ⟨rfl, rfl⟩ : "" = text ∧ w.setting = s := by simpa [Setting.run?] using hr
    exact ⟨w, rfl, rfl, Wrote.refl _⟩
  | cons a rest ih =>
    obtain ⟨t, s₁, t', ha, hr', rfl⟩ := Setting.run?_split hr
    obtain ⟨w₁, hw₁, rfl, hwr₁⟩ := step_of_step? h ha
    obtain ⟨w₂, hw₂, hs₂, hwr₂⟩ := ih (h.wrote hwr₁) hr'
    exact ⟨w₂, by simp [run, hw₁, hw₂], hs₂, hwr₁.trans hwr₂⟩

/-- Calls that write do so one after the other, and none of them fails. -/
theorem calls_of_calls? (h : Accepts w.sink) {calls : List Call} {text : String} {s : Setting}
    (hc : w.setting.calls? calls = some (text, s)) :
    (∀ before c rest, calls = before ++ c :: rest →
        ((w.performAll before).perform c).fault = none) ∧
      (w.performAll calls).setting = s ∧ Wrote w.sink text (w.performAll calls).sink := by
  induction calls generalizing w text with
  | nil =>
    obtain ⟨rfl, rfl⟩ : "" = text ∧ w.setting = s := by simpa [Setting.calls?] using hc
    exact ⟨by simp, rfl, Wrote.refl _⟩
  | cons c rest ih =>
    obtain ⟨t, s₁, t', ha, hr', rfl⟩ := Setting.calls?_split hc
    obtain ⟨w₁, hw₁, rfl, hwr₁⟩ := run_of_run? h ha
    have hp : w.perform c = ⟨none, w₁⟩ := hw₁
    obtain ⟨hf, hs₂, hwr₂⟩ := ih (h.wrote hwr₁) hr'
    have ha : w.performAll (c :: rest) = w₁.performAll rest := by simp [performAll, hp]
    refine ⟨?_, ha ▸ hs₂, ha ▸ hwr₁.trans hwr₂⟩
    intro before c' rest' he
    cases before with
    | nil =>
      obtain ⟨rfl, rfl⟩ : c = c' ∧ rest = rest' := by simpa using he
      exact congrArg Reply.fault hp
    | cons b before =>
      obtain ⟨rfl, he'⟩ : c = b ∧ rest = before ++ c' :: rest' := by simpa using he
      have hb : w.performAll (c :: before) = w₁.performAll before := by simp [performAll, hp]
      rw [hb]
      exact hf before c' rest' he'

end Scribe
end JavaScribe
