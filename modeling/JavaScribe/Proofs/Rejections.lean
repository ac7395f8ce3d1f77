import JavaScribe.Proofs.ArgumentFaults
import JavaScribe.Proofs.OpenTypes
import JavaScribe.Proofs.StepFaults

/-!
# Calls that are rejected

A call is rejected when it is out of place, when it sets the package a second time, or when one of
its lists is not in order. All this is looked into before the first piece of text, so a call that is
rejected leaves the scribe as it was and its sink untouched (`rejected_call_changes_nothing`). A
call that is out of place is rejected for that, whatever else is wrong with it, and parameters that
do not pair up are found before the modifiers are looked at.
-/
namespace JavaScribe

/-- Whether a fault is one for which a call is rejected. -/
def Fault.isRejection : Fault → Bool
  | misplaced _ _ _ | packageTwice _ _ | unevenParameters _ | unknownModifier _ | noLetterCase _
  | notIterable _ | unhashable _ | unordered _ _ => true
  | _ => false

/-- Whether a step can reject the call that it belongs to. -/
def Step.rejects : Step → Bool
  | .require _ _ | .leave _ _ | .requireNoPackage _ => true
  | .fail fault => fault.isRejection
  | _ => false

/-- Steps that come to no rejection, whatever the scribe is that carries them out. -/
def Unrejected (σ : Type) [Sink σ] (steps : List Step) : Prop :=
  ∀ (w : Scribe σ) (fault : Fault), (w.run steps).fault = some fault → fault.isRejection = false

/-- Steps that have done nothing when they come to a rejection. -/
def Atomic (σ : Type) [Sink σ] (steps : List Step) : Prop :=
  ∀ (w : Scribe σ) (fault : Fault), (w.run steps).fault = some fault →
    fault.isRejection = true → w.run steps = w.failing fault

section
variable {σ : Type} [Sink σ] {x : Step} {xs rest : List Step}

omit [Sink σ] in
lemma Scribe.Fails.isRejection {w : Scribe σ} {fault : Fault} (h : Fails w x fault)
    (hx : x.rejects = false) : fault.isRejection = false := by
  cases h with
  | misplaced | mismatched | packageTwice => simp [Step.rejects] at hx
  | given => exact hx
  | _ => rfl

namespace Unrejected

lemma of_forall (h : ∀ x ∈ xs, x.rejects = false) : Unrejected σ xs := by
  intro w fault hf
  obtain ⟨v, x, hx, hv⟩ := Scribe.exists_fails_of_run hf
  exact hv.isRejection (h x hx)

lemma append (h : Unrejected σ xs) (hr : Unrejected σ rest) : Unrejected σ (xs ++ rest) := by
  intro w fault hf
  rw [Scribe.run_append] at hf
  split at hf
  · exact hr _ fault hf
  · exact h w fault hf

/-- Within an annotation only the sink can break off, or a value without a text, since every scope
that is left has just been entered. -/
lemma ending (v : Value) : Unrejected σ <| Annotation.ending v := by
  intro w fault hf
  have hl : Leads Nesting.next (fun e _ => e ≠ .failed) w.nesting <| Annotation.ending v :=
    Call.leads_ending v (fun _ _ => by simp) (by simp)
  obtain ⟨e, _, he, -, hne⟩ := Leads.run (Account.nesting σ) rfl hl
  cases e with
  | done => exact absurd (hf.symm.trans he) (by simp)
  | refused =>
    obtain ⟨refusal, hr, -⟩ := he
    obtain rfl := Option.some.inj (hf.symm.trans hr)
    rfl
  | unshown =>
    obtain rfl := Option.some.inj (hf.symm.trans he)
    rfl
  | failed => exact absurd rfl hne

end Unrejected

namespace Atomic

lemma of_unrejected (h : Unrejected σ xs) : Atomic σ xs := by
  intro w fault hf hr
  simp [h w fault hf] at hr

/-- A step that only looks at the scribe can stand in front. -/
lemma looking (hx : ∀ w : Scribe σ, (w.step x).scribe = w) (h : Atomic σ rest) :
    Atomic σ (x :: rest) := by
  intro w fault hf hr
  rw [Scribe.run_cons] at hf ⊢
  split
  · rename_i hn
    rw [if_pos hn, hx w] at hf
    rw [hx w]
    exact h w fault hf hr
  · rename_i hn
    rw [if_neg hn] at hf
    exact congrArg₂ Reply.mk hf (hx w)

lemma require {operation : String} {allowed : List (Option Scope)} (h : Atomic σ rest) :
    Atomic σ (.require operation allowed :: rest) := by
  refine looking (fun w => ?_) h
  simp only [Scribe.step]
  split <;> rfl

lemma requireNoPackage {requested : Value} (h : Atomic σ rest) :
    Atomic σ (.requireNoPackage requested :: rest) := by
  refine looking (fun w => ?_) h
  simp only [Scribe.step]
  split <;> rfl

lemma fail {fault : Fault} : Atomic σ [.fail fault] :=
  looking (fun _ => rfl) (of_unrejected (.of_forall (by simp)))

/-- A scope that is left is gone, so what follows may not reject. -/
lemma leave {operation : String} {expected : List Scope} (h : Unrejected σ rest) :
    Atomic σ (.leave operation expected :: rest) := by
  intro w fault hf hr
  cases hl : w.scopes.leave operation (expected.map some) with
  | error fault' =>
    have hs : w.step (.leave operation expected) = w.failing fault' := by simp [Scribe.step, hl]
    have he : w.run (.leave operation expected :: rest) = w.failing fault' := by
      simp [Scribe.run, hs, Scribe.failing]
    rw [he] at hf ⊢
    rw [Option.some.inj hf]
  | ok left =>
    obtain ⟨scope, scopes⟩ := left
    have hs : (w.step (.leave operation expected)).fault = none := by
      simp [Scribe.step, hl, Scribe.done]
    rw [Scribe.run_cons, hs] at hf
    simp [h _ fault hf] at hr

lemma after {α : Type} {checked : Except Fault α} {steps : α → List Step}
    (h : ∀ a, checked = .ok a → Atomic σ (steps a)) : Atomic σ (Step.after checked steps) := by
  cases checked with
  | ok a => exact h a rfl
  | error fault => exact fail

/-- The rule for calls that look into one argument and do not reject from then on. -/
lemma of_checked {α : Type} {checked : Except Fault α} {steps : α → List Step}
    (h : (∀ fault, checked ≠ .error fault) → ∀ x ∈ Step.after checked steps, x.rejects = false) :
    Atomic σ (Step.after checked steps) := by
  cases checked with
  | ok a => exact of_unrejected (.of_forall (h (by simp)))
  | error fault => exact fail

end Atomic

/-! ## Each call -/

namespace Call
open Step

lemma atomic_packageSteps (name : Value) : Atomic σ (packageSteps name) := by
  refine Atomic.requireNoPackage
    (.of_unrejected (.of_forall (List.forall_mem_append.mpr ⟨?_, by simp [rejects]⟩)))
  split
  · refine forall_spell_asText (fun text _ => List.forall_mem_cons.mpr ⟨rfl, ?_⟩) rfl
    cases name <;> simp [rejects, Fault.isRejection]
  · simp

lemma atomic_typeSteps (name : Value) (kind : String) (modifiers superclass interfaces : Value) :
    Atomic σ (typeSteps name kind modifiers superclass interfaces) := by
  refine Atomic.require (Atomic.after fun ms _ => Atomic.after fun is _ =>
    .of_unrejected (.of_forall ?_))
  refine List.forall_mem_append.mpr ⟨?_, by simp [rejects]⟩
  exact forall_typeHead rfl (fun _ => rfl) rfl rfl rfl (fun _ => rfl) (fun _ _ => rfl) rfl rfl rfl

lemma atomic_methodSteps (result name modifiers parameters throws : Value) :
    Atomic σ (methodSteps result name modifiers parameters throws) := by
  refine Atomic.require (Atomic.after fun ps _ => Atomic.after fun ts _ => ?_)
  split
  · exact Atomic.fail
  refine Atomic.after fun ms _ => .of_unrejected (.of_forall (List.forall_mem_append.mpr ⟨?_, ?_⟩))
  · exact forall_methodHead rfl (fun _ => rfl) (fun _ => ⟨rfl, fun _ _ => rfl⟩) rfl (fun _ => rfl)
      rfl rfl (fun _ _ => rfl) (fun _ _ => rfl) rfl rfl rfl rfl
  · split <;> simp [rejects]

lemma atomic_statementSteps (pattern : Value) (arguments : List Value) :
    Atomic σ (statementSteps pattern arguments) := by
  rw [statementSteps_eq]
  exact Atomic.require (Atomic.after fun text _ => .of_unrejected (.of_forall
    (forall_hangingSteps (fun _ => rfl) (fun _ _ => rfl) rfl rfl)))

lemma atomic_closing {operation : String} {expected : List Scope}
    (h : ∀ x ∈ rest, x.rejects = false) : Atomic σ (.leave operation expected :: rest) :=
  Atomic.leave (.of_forall h)

theorem atomic_steps (c : Call) (n : Nesting) : Atomic σ (c.steps n) := by
  cases c with
  | package name => exact atomic_packageSteps name
  | imports names | staticImports names =>
    exact Atomic.of_checked fun hok => forall_importSteps (fun _ _ _ _ => ⟨rfl, rfl⟩)
      fun fault hf => absurd hf (hok fault)
  | openType name kind modifiers superclass interfaces => exact atomic_typeSteps _ _ _ _ _
  | openMethod result name modifiers parameters throws => exact atomic_methodSteps _ _ _ _ _
  | openConstructor modifiers parameters throws =>
    refine Atomic.require ?_
    split
    · exact Atomic.fail
    · exact atomic_methodSteps _ _ _ _ _
  | field type name modifiers initial =>
    exact Atomic.of_checked fun hok => forall_fieldSteps rfl (fun _ => rfl) rfl rfl
      (fun _ _ => rfl) rfl fun fault hf => absurd hf (hok fault)
  | enumConstants names =>
    exact Atomic.after fun vs _ => .of_unrejected
      (.of_forall (forall_constantSteps rfl (fun _ _ _ _ => ⟨rfl, rfl⟩) rfl))
  | statement pattern arguments => exact atomic_statementSteps pattern arguments
  | openInitializer | openBlock | openSwitch =>
    exact Atomic.require (.of_unrejected (.of_forall (by simp [line, rejects])))
  | closeType | closeConstructor | closeInitializer | nextBlock | closeSwitch =>
    exact atomic_closing (by simp [closingBrace, line, rejects])
  | closeMethod =>
    refine atomic_closing ?_
    split <;> simp [closingBrace, line, rejects]
  | closeBlock tail =>
    cases tail <;> exact atomic_closing (by simp [closingBrace, line, rejects])
  | annotation name value =>
    exact .of_unrejected (Unrejected.append (.of_forall (by simp [rejects])) (.ending value))
  | javadoc pattern arguments =>
    exact .of_unrejected (.of_forall (forall_javadocSteps rfl rfl rfl rfl (fun _ _ _ _ => rfl)
      (Argument.failsOnly_filledText (fun _ => rfl) (fun _ => rfl) fun _ => rfl)))
  | comment pattern arguments =>
    exact .of_unrejected (.of_forall (forall_commentSteps rfl (fun _ _ _ _ => rfl)
      (fun _ _ _ => rfl) (Argument.failsOnly_filled (fun _ => rfl) fun _ => rfl)))
  | enumConstant | lastEnumConstant | blankLine | displayType | close =>
    exact .of_unrejected (.of_forall (by simp [steps, constantStep_text, line, rejects]))

end Call

namespace Scribe
variable {w : Scribe σ}

/-- Parameters are counted once both lists of names are there, and before the modifiers. -/
lemma run_methodSteps_of_odd {parameters throws : Value} {ps ts : List Value}
    (ht : w.scopes.top = some .typeBody) (hp : Argument.names parameters = .ok ps)
    (hn : Argument.names throws = .ok ts) (ho : Odd ps.length) (result name modifiers : Value) :
    w.run (Call.methodSteps result name modifiers parameters throws) =
      w.failing (.unevenParameters ps) := by
  have hr : w.scopes.require "begin_method" [some .typeBody] = .ok () :=
    Scopes.require_ok.mpr (by simp [ht])
  simp [Call.methodSteps, run, step, hr, done, hp, hn, Step.after, Nat.odd_iff.mp ho, failing]

/-- A rejected call leaves the scribe as it was, with its sink, and this goes for every sink, also
for one that keeps all that it is offered. Of several things that are wrong with a call, its place
is the one that is reported, and parameters that do not pair up go before modifiers. -/
theorem rejected_call_changes_nothing (hw : w.Reached) :
    (∀ (c : Call) (fault : Fault), (w.perform c).fault = some fault →
      fault.isRejection = true → w.perform c = w.failing fault) ∧
    (∀ (c : Call) (operation : String) (allowed : List (Option Scope)),
      c.place? = some (operation, allowed) → w.scopes.top ∉ allowed →
        w.perform c = w.failing (.misplaced operation allowed w.scopes.top)) ∧
    ∀ (modifiers parameters throws : Value) (ps ts : List Value),
      w.scopes.top = some .typeBody → Argument.names parameters = .ok ps →
        Argument.names throws = .ok ts → Odd ps.length →
          (∀ result name, w.perform (.openMethod result name modifiers parameters throws) =
            w.failing (.unevenParameters ps)) ∧
          w.perform (.openConstructor modifiers parameters throws) =
            w.failing (.unevenParameters ps) := by
  refine ⟨fun c => Call.atomic_steps c _ w, fun c _ _ => perform_misplaced,
    fun modifiers parameters throws ps ts ht hp hn ho => ?_⟩
  have hm := run_methodSteps_of_odd ht hp hn ho
  refine ⟨fun result name => hm result name modifiers, ?_⟩
  obtain ⟨owner, types, htypes⟩ := hw.exists_owner ht
  have hr : w.step (.require "begin_constructor" [some .typeBody]) = w.done := by
    simp [step, Scopes.require_ok.mpr (by simp [ht] : w.scopes.top ∈ [some Scope.typeBody])]
  have hs : w.perform (.openConstructor modifiers parameters throws) =
      w.run (Call.methodSteps .none owner modifiers parameters throws) := by
    simp [perform, Call.steps, Call.constructorSteps, nesting, htypes, run_cons, hr, done]
  exact hs.trans (hm .none owner modifiers)

/-- A sink that keeps all that it is offered. -/
structure Ledger where
  offers : List String := []
  deriving DecidableEq, Repr

instance : Sink Ledger where
  write l text := (none, ⟨l.offers ++ [text]⟩)
  refuse l v := (.notText v.kind, ⟨l.offers ++ [v.plain]⟩)
  close l := l

def typeOnLedger : Scribe Ledger :=
  (blank {} "  " true).moveAll [.call (.package "p"), .call (.openType "p.Foo" "class")]

theorem nothing_offered_by_rejected :
    typeOnLedger.perform (.openType "p.Bar" "class" (.list ["public", "shiny"])) =
      typeOnLedger.failing (.unknownModifier "shiny") ∧
    typeOnLedger.perform (.statement "%d" ["x"]) =
      typeOnLedger.failing
        (.misplaced "emit_statement" (Scope.statementScopes.map some) (some .typeBody)) ∧
    typeOnLedger.perform (.openConstructor "shiny" (.list ["int"])) =
      typeOnLedger.failing (.unevenParameters ["int"]) := by
  have hr : typeOnLedger.Reached := ⟨_, _, _, _, rfl⟩
  have ht : typeOnLedger.scopes.top = some .typeBody := by decide +kernel
  obtain ⟨hrejected, hplace, huneven⟩ := rejected_call_changes_nothing hr
  refine ⟨hrejected _ _ (by decide +kernel) rfl, ?_, ?_⟩
  · rw [← ht]
    exact hplace _ _ _ rfl (by rw [ht]; decide)
  · exact (huneven _ _ _ ["int"] [] ht rfl rfl (by decide)).2

end Scribe
end
end JavaScribe
