import JavaScribe.Proofs.Effects
import JavaScribe.Proofs.Places

/-!
# Openings that fail

A call that is to open a scope and fails leaves what is open as it was, whatever the reason, with
one exception. A switch is entered before its head is written: when the sink has taken the
indentation and then refuses the head, the switch stays open (`failed_opening_left_open_iff`).
-/
namespace JavaScribe

def Call.isOpening : Call → Bool
  | openType _ _ _ _ _ | openMethod _ _ _ _ _ | openConstructor _ _ _ | openInitializer _
  | openBlock _ | openSwitch _ => true
  | _ => false

section
variable {c : Call} {n n' : Nesting} {e : Exit}

lemma Call.closings_of_isOpening (hc : c.isOpening = true) : c.closings = [] := by
  cases c <;> first | rfl | simp [isOpening] at hc

/-- Of the effects that a call can have without being done, an opening has only two. -/
theorem Effect.of_failed_opening (h : Effect c n e n') (hc : c.isOpening = true) (he : e ≠ .done) :
    n' = n ∨ (∃ subject, c = .openSwitch subject) ∧
      n' = { n with scopes := .switchBody :: n.scopes } := by
  cases h with
  | failed | refused | unshown => exact Or.inl rfl
  | openedUnwritten hs => exact Or.inr ⟨⟨_, hs⟩, rfl⟩
  | stayed | openedType | opened => exact absurd rfl he
  | closed hs => simp [Call.closings_of_isOpening hc] at hs
  | closedType hs | closedNameless hs | between hs | leaked hs =>
    subst hs
    simp [Call.isOpening] at hc

end

namespace Scribe
variable {σ : Type} [Sink σ] {w : Scribe σ} {c : Call} {subject : String}

/-- The sink takes the indentation of a switch and refuses its head. -/
def RefusesHead (w : Scribe σ) (subject : String) : Prop :=
  ∃ s refusal, Sink.write w.sink (indentation w.unit w.depth) = (none, s) ∧
    (Sink.write s ("switch(" ++ subject ++ ") \x7b\n")).1 = some refusal

/-- Once the indentation is taken, the switch is open and its head is to be written. -/
lemma perform_openSwitch (subject : String) {s : σ}
    (ht : w.scopes.top ∈ Scope.statementScopes.map some)
    (hi : Sink.write w.sink (indentation w.unit w.depth) = (none, s)) :
    ∃ v : Scribe σ, v.sink = s ∧ v.nesting = ⟨.switchBody :: w.scopes, w.types⟩ ∧
      w.perform (.openSwitch subject) = v.put ("switch(" ++ subject ++ ") \x7b\n") := by
  have hr : w.scopes.require "begin_switch" (Scope.statementScopes.map some) = .ok () :=
    Scopes.require_ok.mpr ht
  let v := ({ w with sink := s }.step (.enter .switchBody)).scribe
  refine ⟨v, rfl, rfl, ?_⟩
  have hrun : w.perform (.openSwitch subject) =
      v.run [.write ("switch(" ++ subject ++ ") \x7b\n")] := by
    simp [perform, Call.steps, Call.statementPlace, run, step, put, hr, hi, done, v]
  rw [hrun, run_singleton]
  rfl

lemma put_fault_eq_none_iff {text : String} :
    (w.put text).fault = none ↔ (Sink.write w.sink text).1 = none := by
  unfold put
  rcases Sink.write w.sink text with ⟨_ | refusal, s⟩ <;> simp [done, failing]

/-- A switch that fails where it is in order stays open if the sink comes to its head. -/
lemma openSwitch_left_open_iff (ht : w.scopes.top ∈ Scope.statementScopes.map some)
    (hf : (w.perform (.openSwitch subject)).fault ≠ none) :
    (w.perform (.openSwitch subject)).scribe.nesting ≠ w.nesting ↔ w.RefusesHead subject := by
  rcases hi : Sink.write w.sink (indentation w.unit w.depth) with ⟨_ | refusal, s⟩
  · obtain ⟨v, hv, hn, hp⟩ := perform_openSwitch subject ht hi
    rw [hp] at hf ⊢
    refine iff_of_true (fun he => ?_) ?_
    · rw [put_scribe] at he
      have hs : Scope.switchBody :: w.scopes = w.scopes := by
        simpa [nesting] using (congrArg Nesting.scopes hn).symm.trans (congrArg Nesting.scopes he)
      simp at hs
    · obtain ⟨refusal, hr⟩ := Option.ne_none_iff_exists'.mp (mt put_fault_eq_none_iff.mpr hf)
      exact ⟨s, refusal, hi, hv ▸ hr⟩
  · have hn : (w.perform (.openSwitch subject)).scribe.nesting = w.nesting := by
      have hr : w.scopes.require "begin_switch" (Scope.statementScopes.map some) = .ok () :=
        Scopes.require_ok.mpr ht
      simp [perform, Call.steps, Call.statementPlace, run, step, put, hr, hi, done, failing,
        nesting]
    refine iff_of_false (fun hne => hne hn) ?_
    rintro ⟨s', _, hs, -⟩
    simp [hi] at hs

/-- Whatever an opening fails for, it leaves open what was open, and nothing more unless it is a
switch in its place whose head is refused by the sink. -/
theorem failed_opening_left_open_iff (hc : c.isOpening = true) (hf : (w.perform c).fault ≠ none) :
    ((w.perform c).scribe.nesting = w.nesting ∨
        (w.perform c).scribe.nesting = ⟨.switchBody :: w.scopes, w.types⟩) ∧
      ((w.perform c).scribe.nesting ≠ w.nesting ↔
        ∃ subject, c = .openSwitch subject ∧
          w.scopes.top ∈ Scope.statementScopes.map some ∧ w.RefusesHead subject) := by
  obtain ⟨e, he, hn⟩ := w.perform_effect c
  have hd : e ≠ .done := by
    rintro rfl
    exact hf he
  have hsame := hn.of_failed_opening hc hd
  refine ⟨hsame.imp_right And.right, fun hne => ?_, ?_⟩
  · obtain ⟨⟨subject, rfl⟩, -⟩ := hsame.resolve_left hne
    have ht : w.scopes.top ∈ Scope.statementScopes.map some := by
      by_contra ht
      rw [perform_misplaced rfl ht] at hne
      exact hne rfl
    exact ⟨subject, rfl, ht, (openSwitch_left_open_iff ht hf).mp hne⟩
  · rintro ⟨subject, rfl, ht, hr⟩
    exact (openSwitch_left_open_iff ht hf).mpr hr

/-- A method on a page that refuses a switch. -/
def methodOnRefusing : Scribe Page :=
  (blank { rejects := some "switch" } "  " true).moveAll
    [.call (.package ""), .call (.openType "Foo" "class"), .call (.openMethod "void" "run")]

theorem refused_switch_left_open :
    methodOnRefusing.RefusesHead "x" ∧
      (methodOnRefusing.perform (.openSwitch "x")).scribe.nesting =
        ⟨[.switchBody, .methodBody, .typeBody], ["Foo"]⟩ := by
  have hf : (methodOnRefusing.perform (.openSwitch "x")).fault ≠ none := by decide +kernel
  have hn : (methodOnRefusing.perform (.openSwitch "x")).scribe.nesting ≠
      methodOnRefusing.nesting := by decide +kernel
  have hs : methodOnRefusing.scopes = [.methodBody, .typeBody] := by decide +kernel
  have ht : methodOnRefusing.types = ["Foo"] := by decide +kernel
  obtain ⟨hopen, hiff⟩ := failed_opening_left_open_iff rfl hf
  obtain ⟨subject, hx, -, hr⟩ := hiff.mp hn
  obtain rfl := Call.openSwitch.inj hx
  exact ⟨hr, (hopen.resolve_left hn).trans (by rw [hs, ht])⟩

/-- That a failed opening leaves nothing open does not hold of a switch. -/
theorem not_failed_opening_leaves_nothing_open :
    ¬ ∀ (σ : Type) [Sink σ] (w : Scribe σ) (c : Call), w.Reached → c.isOpening = true →
      (w.perform c).fault ≠ none →
        (w.perform c).scribe.scopes = w.scopes ∧ (w.perform c).scribe.types = w.types := by
  intro h
  have hs := (h Page methodOnRefusing (.openSwitch "x") ⟨_, _, _, _, rfl⟩ rfl (by decide +kernel)).1
  exact absurd hs (by decide +kernel)

end Scribe
end JavaScribe
