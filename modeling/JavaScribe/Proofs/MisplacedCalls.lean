import JavaScribe.Proofs.Rejections

/-!
# Calls that are out of place

Only the first step of a call can find it out of place. What follows looks no further at what is
open, or leaves a scope that the call itself has entered, or looks for the place that has just been
found in order. So a call fails for its place exactly when the innermost scope is not among those of
the call, whatever else is wrong with it, and the fault names the operation, these scopes and the
innermost one (`misplaced_iff`). A call that is not tied to a place never fails for it.
-/
namespace JavaScribe

/-- Whether a step can find that a call is out of place. -/
def Step.locates : Step → Bool
  | .require _ _ | .leave _ _ | .fail (.misplaced _ _ _) => true
  | _ => false

/-- Steps that are out of place only by `place`, and there only for the scope that is innermost
before they are carried out. With no `place` they never are. -/
def Located (σ : Type) [Sink σ] (place : Option (String × List (Option Scope)))
    (steps : List Step) : Prop :=
  ∀ (w : Scribe σ) (operation : String) (allowed : List (Option Scope)) (actual : Option Scope),
    (w.run steps).fault = some (.misplaced operation allowed actual) →
      place = some (operation, allowed) ∧ actual = w.scopes.top ∧ w.scopes.top ∉ allowed

section
variable {σ : Type} [Sink σ] {x : Step} {xs rest : List Step} {operation : String}
  {allowed : List (Option Scope)} {place : Option (String × List (Option Scope))}

omit [Sink σ] in
lemma Scribe.Fails.locates {w : Scribe σ} {actual : Option Scope}
    (h : Fails w x (.misplaced operation allowed actual)) : x.locates = true := by
  cases h <;> rfl

namespace Located

lemma of_forall (h : ∀ x ∈ xs, x.locates = false) : Located σ place xs := by
  intro w operation allowed actual hf
  obtain ⟨v, x, hx, hv⟩ := Scribe.exists_fails_of_run hf
  exact absurd (h x hx) (by simp [Scribe.Fails.locates hv])

lemma of_unrejected (h : Unrejected σ xs) : Located σ place xs := by
  intro w operation allowed actual hf
  exact absurd (h w _ hf) (by simp [Fault.isRejection])

/-- What follows a check of the place may check it once more, for no fewer scopes. -/
lemma require {inner : Option (String × List (Option Scope))} (h : Located σ inner rest)
    (hi : ∀ p ∈ inner, allowed ⊆ p.2) :
    Located σ (some (operation, allowed)) (.require operation allowed :: rest) := by
  intro w o e actual hf
  rw [Scribe.run_cons] at hf
  by_cases ht : w.scopes.top ∈ allowed
  · have hs : w.step (.require operation allowed) = w.done := by
      simp [Scribe.step, Scopes.require_ok.mpr ht]
    rw [hs] at hf
    obtain ⟨ho, -, hn⟩ := h w o e actual hf
    exact absurd (hi _ ho ht) hn
  · have hs : w.step (.require operation allowed) =
        w.failing (.misplaced operation allowed w.scopes.top) := by
      simp [Scribe.step, Scopes.require, ht]
    rw [hs] at hf
    obtain ⟨rfl, rfl, rfl⟩ := Fault.misplaced.inj (Option.some.inj hf)
    exact ⟨rfl, rfl, ht⟩

lemma leave {expected : List Scope} (h : ∀ x ∈ rest, x.locates = false) :
    Located σ (some (operation, expected.map some)) (.leave operation expected :: rest) := by
  intro w o e actual hf
  rw [Scribe.run_cons] at hf
  by_cases ht : w.scopes.top ∈ expected.map some
  · have hs : (w.step (.leave operation expected)).fault = none := by
      obtain ⟨scope, hm, hs⟩ := List.mem_map.mp ht
      obtain ⟨scopes, hw⟩ := List.head?_eq_some_iff.mp hs.symm
      simp [Scribe.step, Scopes.leave, hw, hm, Scribe.done]
    rw [hs] at hf
    have hl : Located σ none rest := of_forall h
    exact absurd (hl _ o e actual hf).1 (by simp)
  · have hs : w.step (.leave operation expected) =
        w.failing (.misplaced operation (expected.map some) w.scopes.top) := by
      simp [Scribe.step, Scopes.leave_of_not_mem ht]
    rw [hs] at hf
    obtain ⟨rfl, rfl, rfl⟩ := Fault.misplaced.inj (Option.some.inj hf)
    exact ⟨rfl, rfl, ht⟩

/-- The rule for a call that checks its place and looks no further at what is open. -/
lemma require_only (h : ∀ x ∈ rest, x.locates = false) :
    Located σ (some (operation, allowed)) (.require operation allowed :: rest) :=
  have hl : Located σ none rest := of_forall h
  require hl (by simp)

end Located

/-! ## Each call -/

namespace Call
open Step Argument

lemma located_typeSteps (name : Value) (kind : String) (modifiers superclass interfaces : Value) :
    Located σ (some ("begin_type", [none, some .typeBody]))
      (typeSteps name kind modifiers superclass interfaces) := by
  refine Located.require_only (forall_after.mpr ⟨fun ms _ => forall_after.mpr ⟨fun is _ => ?_,
    failsOnly_names fun _ => rfl⟩,
    failsOnly_modifiers (fun _ => rfl) (fun _ => rfl) fun _ => rfl⟩)
  refine List.forall_mem_append.mpr ⟨?_, by simp [locates]⟩
  exact forall_typeHead rfl (fun _ => rfl) rfl rfl rfl (fun _ => rfl) (fun _ _ => rfl) rfl rfl rfl

lemma located_methodSteps (result name modifiers parameters throws : Value) :
    Located σ (some ("begin_method", [some .typeBody]))
      (methodSteps result name modifiers parameters throws) := by
  refine Located.require_only (forall_after.mpr ⟨fun ps _ => forall_after.mpr ⟨fun ts _ => ?_,
    failsOnly_names fun _ => rfl⟩, failsOnly_names fun _ => rfl⟩)
  split
  · simp [locates]
  refine forall_after.mpr ⟨fun ms _ => List.forall_mem_append.mpr ⟨?_, ?_⟩,
    failsOnly_modifiers (fun _ => rfl) (fun _ => rfl) fun _ => rfl⟩
  · exact forall_methodHead rfl (fun _ => rfl) (fun _ => ⟨rfl, fun _ _ => rfl⟩) rfl (fun _ => rfl)
      rfl rfl (fun _ _ => rfl) (fun _ _ => rfl) rfl rfl rfl rfl
  · split <;> simp [locates]

/-- A constructor checks its place as such, and once more as the method that it is written as. -/
lemma located_constructorSteps (owner : Option String) (modifiers parameters throws : Value) :
    Located σ (some ("begin_constructor", [some .typeBody]))
      (constructorSteps owner modifiers parameters throws) := by
  cases owner with
  | none => exact Located.require_only (by simp [locates])
  | some name =>
    have hm : Located σ _ <| methodSteps .none name modifiers parameters throws :=
      located_methodSteps _ _ _ _ _
    exact hm.require (by simp)

theorem located_steps (c : Call) (n : Nesting) : Located σ c.place? (c.steps n) := by
  cases c with
  | package name =>
    exact .of_forall (forall_packageSteps rfl (fun _ _ _ => rfl) rfl rfl rfl)
  | imports names | staticImports names =>
    exact .of_forall (forall_importSteps (fun _ _ _ _ => ⟨rfl, rfl⟩)
      (failsOnly_imports (fun _ => rfl) (fun _ => rfl) (fun _ _ => rfl) fun _ => rfl))
  | openType => exact located_typeSteps _ _ _ _ _
  | openMethod => exact located_methodSteps _ _ _ _ _
  | openConstructor => exact located_constructorSteps _ _ _ _
  | openInitializer | openBlock | openSwitch =>
    exact .require_only (by simp [line, locates])
  | closeType | closeConstructor | closeInitializer | nextBlock | closeSwitch =>
    exact .leave (by simp [closingBrace, line, locates])
  | closeMethod =>
    refine .leave ?_
    split <;> simp [closingBrace, line, locates]
  | closeBlock tail => cases tail <;> exact .leave (by simp [closingBrace, line, locates])
  | field =>
    exact .of_forall (forall_fieldSteps rfl (fun _ => rfl) rfl rfl (fun _ _ => rfl) rfl
      (failsOnly_modifiers (fun _ => rfl) (fun _ => rfl) fun _ => rfl))
  | statement pattern arguments =>
    rw [steps, statementSteps_eq]
    exact .require_only (forall_after.mpr
      ⟨fun text _ => forall_hangingSteps (fun _ => rfl) (fun _ _ => rfl) rfl rfl,
        failsOnly_filledText (fun _ => rfl) (fun _ => rfl) fun _ => rfl⟩)
  | enumConstants names =>
    exact .of_forall (forall_after.mpr
      ⟨fun vs _ => forall_constantSteps rfl (fun _ _ _ _ => ⟨rfl, rfl⟩) rfl,
        failsOnly_items fun _ => rfl⟩)
  | javadoc pattern arguments =>
    exact .of_forall (forall_javadocSteps rfl rfl rfl rfl (fun _ _ _ _ => rfl)
      (failsOnly_filledText (fun _ => rfl) (fun _ => rfl) fun _ => rfl))
  | comment pattern arguments =>
    exact .of_forall (forall_commentSteps rfl (fun _ _ _ _ => rfl) (fun _ _ _ => rfl)
      (failsOnly_filled (fun _ => rfl) fun _ => rfl))
  | annotation name value =>
    exact .of_unrejected (.append (.of_forall (by simp [rejects])) (.ending value))
  | enumConstant | lastEnumConstant | blankLine | displayType | close =>
    exact .of_forall (by simp [steps, constantStep_text, line, locates])

end Call

/-- A call is found out of place exactly where the innermost scope is not one of those that its
operation allows, and the fault tells the operation, these scopes in their order and the innermost
one. No other call is ever found out of place. -/
theorem Scribe.misplaced_iff (w : Scribe σ) (c : Call) (operation : String)
    (expected : List (Option Scope)) (actual : Option Scope) :
    (w.perform c).fault = some (.misplaced operation expected actual) ↔
      c.place? = some (operation, expected) ∧ actual = w.scopes.top ∧
        w.scopes.top ∉ expected := by
  constructor
  · intro hf
    exact c.located_steps w.nesting w operation expected actual hf
  · rintro ⟨hc, rfl, ht⟩
    rw [perform_misplaced hc ht]
    rfl

end
end JavaScribe
