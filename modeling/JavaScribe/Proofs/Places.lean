import JavaScribe.Scribe
import Mathlib

/-!
# Where calls are in order

A call that opens or closes something, or writes a statement, is tied to the scopes in which it may
be made. Made anywhere else it is refused before anything is written, and the fault names the
operation, its scopes and the one that is open (`perform_misplaced`).
-/
namespace JavaScribe

/-- The operation that a call is, and the scopes in which it may be made. -/
def Call.place? : Call → Option (String × List (Option Scope))
  | openType _ _ _ _ _ => some ("begin_type", [none, some .typeBody])
  | closeType => some ("end_type", [some .typeBody])
  | openMethod _ _ _ _ _ => some ("begin_method", [some .typeBody])
  | closeMethod =>
    some ("end_method", [some .methodBody, some .constructorBody, some .abstractMethod])
  | openConstructor _ _ _ => some ("begin_constructor", [some .typeBody])
  | closeConstructor => some ("end_constructor", [some .constructorBody])
  | openInitializer _ => some ("begin_initializer", [some .typeBody])
  | closeInitializer => some ("end_initializer", [some .initializer])
  | statement _ _ => some ("emit_statement", Scope.statementScopes.map some)
  | openBlock _ => some ("begin_control_flow", Scope.statementScopes.map some)
  | nextBlock _ => some ("next_control_flow", [some .controlFlow])
  | closeBlock _ => some ("end_control_flow", [some .controlFlow])
  | openSwitch _ => some ("begin_switch", Scope.statementScopes.map some)
  | closeSwitch => some ("end_switch", [some .switchBody])
  | _ => none

/-- The first step of a call that is tied to its place. -/
lemma Call.steps_of_place? {c : Call} {operation : String} {allowed : List (Option Scope)}
    (h : c.place? = some (operation, allowed)) (n : Nesting) :
    ∃ rest, c.steps n = .require operation allowed :: rest ∨
      ∃ expected, allowed = expected.map some ∧ c.steps n = .leave operation expected :: rest := by
  cases c with
  | openType | openMethod | openConstructor | openInitializer | statement | openBlock
  | openSwitch =>
    obtain ⟨rfl, rfl⟩ := Prod.mk.inj (Option.some.inj h)
    exact ⟨_, Or.inl rfl⟩
  | closeType | closeMethod | closeConstructor | closeInitializer | nextBlock | closeSwitch =>
    obtain ⟨rfl, rfl⟩ := Prod.mk.inj (Option.some.inj h)
    exact ⟨_, Or.inr ⟨_, rfl, rfl⟩⟩
  | closeBlock tail =>
    obtain ⟨rfl, rfl⟩ := Prod.mk.inj (Option.some.inj h)
    cases tail <;> exact ⟨_, Or.inr ⟨_, rfl, rfl⟩⟩
  | _ => simp [place?] at h

lemma Scopes.leave_of_not_mem {s : Scopes} {expected : List (Option Scope)}
    (h : s.top ∉ expected) (operation : String) :
    s.leave operation expected = .error (.misplaced operation expected s.top) := by
  cases s with
  | nil => rfl
  | cons scope rest =>
    have hn : some scope ∉ expected := h
    simp [leave, top, hn]

theorem Scribe.perform_misplaced {σ : Type} [Sink σ] {w : Scribe σ} {c : Call} {operation : String}
    {allowed : List (Option Scope)} (h : c.place? = some (operation, allowed))
    (ht : w.scopes.top ∉ allowed) :
    w.perform c = w.failing (.misplaced operation allowed w.scopes.top) := by
  obtain ⟨rest, hs | ⟨expected, rfl, hs⟩⟩ := Call.steps_of_place? h w.nesting
  · simp [perform, hs, run, step, Scopes.require, ht, failing]
  · simp [perform, hs, run, step, Scopes.leave_of_not_mem ht, failing]

end JavaScribe
