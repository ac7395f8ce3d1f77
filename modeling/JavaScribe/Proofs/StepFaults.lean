import JavaScribe.Proofs.Exits
import JavaScribe.Proofs.Places

/-!
# The faults of steps

`Fails` lists what a step can fail for, with the reason why it does. The reply of a step that fails
is in the list (`fails_of_step`), and a run fails for what one of its steps fails for
(`fails_of_run`), so what is true of the faults of a call is read off its steps alone.
-/
namespace JavaScribe.Scribe
variable {σ : Type}

inductive Fails (w : Scribe σ) : Step → Fault → Prop
  | misplaced {operation : String} {allowed : List (Option Scope)} (h : w.scopes.top ∉ allowed) :
      Fails w (.require operation allowed) (.misplaced operation allowed w.scopes.top)
  | mismatched {operation : String} {expected : List Scope}
      (h : w.scopes.top ∉ expected.map some) :
      Fails w (.leave operation expected)
        (.misplaced operation (expected.map some) w.scopes.top)
  | nameless (h : w.types = []) : Fails w .popName .noOpenType
  | refused {x : Step} {refusal : Refusal} (h : x.writes = true) : Fails w x (.sink refusal)
  | early {x : Step} {type : Value}
      (hx : x = .display type ∨ x = .writeType type ∧ w.shortens = true)
      (h : w.naming.package = none) : Fails w x (.typeBeforePackage type)
  | notText {x : Step} {type : Value}
      (hx : x = .display type ∨ x = .writeType type ∧ w.shortens = true)
      (h : ∀ text, type ≠ .text text) : Fails w x (.notText type.kind)
  | notQualified {name : String} (h : Name.short? name = none) :
      Fails w (.register name) (.notQualified name)
  | importedTwice {name : String} (h : w.naming.imports.contains name = true) :
      Fails w (.register name) (.importedTwice name)
  | packageTwice {requested : Value} {package : String} (h : w.naming.package = some package) :
      Fails w (.requireNoPackage requested) (.packageTwice (withoutEndDots package) requested)
  /-- The message of the fault would have shown a value that has no text. -/
  | unshown {x : Step} {v : Value}
      (hx : x = .display v ∨ x = .writeType v ∧ w.shortens = true ∨ x = .requireNoPackage v)
      (h : v.isOverlong = true) : Fails w x (.format .integerTooLong)
  | given {fault : Fault} : Fails w (.fail fault) fault

variable [Sink σ] {w : Scribe σ} {x : Step} {fault : Fault}

lemma put_fault {text : String} (h : (w.put text).fault = some fault) :
    ∃ refusal, fault = .sink refusal := by
  unfold put at h
  split at h
  · simp [done] at h
  · exact ⟨_, (Option.some.inj h).symm⟩

lemma offer_fault {v : Value} (h : (w.offer v).fault = some fault) :
    ∃ refusal, fault = .sink refusal := by
  cases v with
  | text t => exact put_fault h
  | _ => exact ⟨_, (Option.some.inj h).symm⟩

omit [Sink σ] in
/-- Where the message of a fault would show a value, the step may fail for want of its text. -/
lemma fails_about {v : Value}
    (hx : x = .display v ∨ x = .writeType v ∧ w.shortens = true ∨ x = .requireNoPackage v)
    (h : Fails w x fault) : Fails w x (.about v fault) := by
  cases ho : v.isOverlong with
  | true =>
    rw [Fault.about_of_isOverlong ho]
    exact .unshown hx ho
  | false => rwa [Fault.about_of_not_isOverlong ho]

omit [Sink σ] in
/-- What a type fails for that is displayed in its shortest form. -/
lemma fails_of_display {type : Value}
    (hx : x = .display type ∨ x = .writeType type ∧ w.shortens = true)
    (h : w.naming.display type = .error fault) : Fails w x fault := by
  cases hp : w.naming.package with
  | none =>
    obtain rfl : Fault.about type (.typeBeforePackage type) = fault := by
      simpa [Naming.display, hp] using h
    exact fails_about (hx.imp_right .inl) (.early hx hp)
  | some package =>
    cases type with
    | text t => simp [Naming.display, hp] at h
    | _ =>
      obtain rfl := by simpa [Naming.display, hp] using h
      exact .notText hx (by simp)

theorem fails_of_step (h : (w.step x).fault = some fault) : Fails w x fault := by
  cases x with
  | require operation allowed =>
    by_cases ht : w.scopes.top ∈ allowed
    · simp [step, Scopes.require, ht, done] at h
    · obtain rfl := by simpa [step, Scopes.require, ht, failing] using h
      exact .misplaced ht
  | leave operation expected =>
    by_cases ht : w.scopes.top ∈ expected.map some
    · obtain ⟨scope, hm, hs⟩ := List.mem_map.mp ht
      obtain ⟨rest, hw⟩ := List.head?_eq_some_iff.mp hs.symm
      simp [step, Scopes.leave, hw, hm, done] at h
    · obtain rfl := by simpa [step, Scopes.leave_of_not_mem ht, failing] using h
      exact .mismatched ht
  | popName =>
    cases ht : w.types with
    | nil =>
      obtain rfl := by simpa [step, OpenTypes.close, ht, failing] using h
      exact .nameless ht
    | cons name rest => simp [step, OpenTypes.close, ht, done] at h
  | write | indent =>
    obtain ⟨refusal, rfl⟩ := put_fault h
    exact .refused rfl
  | writeType type =>
    simp only [step] at h
    split at h
    · rename_i hs
      split at h
      · obtain ⟨refusal, rfl⟩ := put_fault h
        exact .refused rfl
      · rename_i hd
        obtain rfl := Option.some.inj h
        exact fails_of_display (.inr ⟨rfl, hs⟩) hd
    · obtain ⟨refusal, rfl⟩ := offer_fault h
      exact .refused rfl
  | display type =>
    simp only [step] at h
    split at h
    · simp [done] at h
    · rename_i hd
      obtain rfl := Option.some.inj h
      exact fails_of_display (.inl rfl) hd
  | register name =>
    cases hs : Name.short? name with
    | none =>
      obtain rfl := by simpa [step, Imports.add, hs, failing] using h
      exact .notQualified hs
    | some short =>
      cases hc : w.naming.imports.contains name with
      | true =>
        obtain rfl := by simpa [step, Imports.add, hs, hc, failing] using h
        exact .importedTwice hc
      | false => simp [step, Imports.add, hs, hc, done] at h
  | requireNoPackage requested =>
    cases hp : w.naming.package with
    | none => simp [step, hp, done] at h
    | some package =>
      obtain rfl : Fault.about requested _ = fault := by simpa [step, hp, failing] using h
      exact fails_about (.inr (.inr rfl)) (.packageTwice hp)
  | fail f =>
    obtain rfl := Option.some.inj h
    exact .given
  | enter | pushName | setPackage => simp [step, done] at h
  | close =>
    simp only [step] at h
    split at h <;> simp [done] at h

/-- A run fails as one of its steps does, on a scribe that has what every step keeps. -/
theorem fails_of_run {P : Scribe σ → Prop} (hs : ∀ w x, P w → P (w.step x).scribe) {w : Scribe σ}
    (hw : P w) {steps : List Step} (h : (w.run steps).fault = some fault) :
    ∃ v, P v ∧ ∃ x ∈ steps, Fails v x fault := by
  induction steps generalizing w with
  | nil => simp [run, done] at h
  | cons x rest ih =>
    rw [run_cons] at h
    split at h
    · obtain ⟨v, hv, y, hy, hf⟩ := ih (hs w x hw) h
      exact ⟨v, hv, y, List.mem_cons_of_mem x hy, hf⟩
    · exact ⟨w, hw, x, List.mem_cons_self, fails_of_step h⟩

lemma exists_fails_of_run {steps : List Step} (h : (w.run steps).fault = some fault) :
    ∃ v : Scribe σ, ∃ x ∈ steps, Fails v x fault := by
  obtain ⟨v, -, hx⟩ := fails_of_run (P := fun _ : Scribe σ => True) (fun _ _ h => h) trivial h
  exact ⟨v, hx⟩

end JavaScribe.Scribe
