import JavaScribe.Proofs.ArgumentFaults
import JavaScribe.Proofs.Exits

/-!
# Imports and the package in a run

Only import calls put something into the import table, and only package calls set the package. The
table only grows, whatever fails (`entries_moveAll`), and a package that is set stays
(`package_moveAll`).
-/
namespace JavaScribe.Scribe
variable {σ : Type} [Sink σ] {w : Scribe σ} {c : Call} {x : Step} {package : String}

lemma naming_step (hr : ∀ name, x ≠ .register name) (hp : ∀ name, x ≠ .setPackage name) :
    (w.step x).scribe.naming = w.naming := by
  cases hx : x.writes with
  | true =>
    obtain ⟨sink, events, -, h⟩ := scribe_of_writes (w := w) hx
    rw [h]
  | false =>
    cases x with
    | register name => exact absurd rfl (hr name)
    | setPackage name => exact absurd rfl (hp name)
    | write | indent | writeType => simp [Step.writes] at hx
    | enter | pushName | fail => rfl
    | _ =>
      simp only [step]
      split <;> rfl

lemma imports_step (hr : ∀ name, x ≠ .register name) :
    (w.step x).scribe.naming.imports = w.naming.imports := by
  by_cases hp : ∃ name, x = .setPackage name
  · obtain ⟨name, rfl⟩ := hp
    rfl
  · rw [naming_step hr fun name hx => hp ⟨name, hx⟩]

lemma package_step (hp : ∀ name, x ≠ .setPackage name) :
    (w.step x).scribe.naming.package = w.naming.package := by
  by_cases hr : ∃ name, x = .register name
  · obtain ⟨name, rfl⟩ := hr
    simp only [step]
    split <;> rfl
  · rw [naming_step (fun name hx => hr ⟨name, hx⟩) hp]

/-- A package that is there stays one, whatever it is. -/
lemma package_ne_none_step (h : w.naming.package ≠ none) (x : Step) :
    (w.step x).scribe.naming.package ≠ none := by
  by_cases hp : ∃ name, x = .setPackage name
  · obtain ⟨name, rfl⟩ := hp
    simp [step, done, note]
  · rw [package_step fun name hx => hp ⟨name, hx⟩]
    exact h

lemma imports_perform (hc : c.importKeyword? = none) :
    (w.perform c).scribe.naming.imports = w.naming.imports := by
  refine run_kept (P := fun v : Scribe σ => v.naming.imports = w.naming.imports) rfl
    fun v x hx hv => (imports_step ?_).trans hv
  rintro name rfl
  exact c.admits_steps w.nesting _ hx hc

lemma package_perform (hc : ∀ name, c ≠ .package name) :
    (w.perform c).scribe.naming.package = w.naming.package := by
  refine run_kept (P := fun v : Scribe σ => v.naming.package = w.naming.package) rfl
    fun v x hx hv => (package_step ?_).trans hv
  rintro name rfl
  exact hc name (c.admits_steps w.nesting _ hx)

/-- A package that is named by a text or not at all is declared, if it has a name, and set. -/
lemma perform_package_eq (h : w.naming.package = none) {name : Value}
    (hn : name = .none ∨ ∃ text, name = .text text) :
    w.perform (.package name) = w.run ((if name.truthy then
      [.write ("package " ++ name.plain ++ ";\n\n")] else []) ++ [.setPackage name]) := by
  have hs : ∀ rest, w.run (.requireNoPackage name :: rest) = w.run rest := fun rest => by
    simp [run, step, h, done]
  rcases hn with rfl | ⟨text, rfl⟩
  · exact hs _
  · exact hs _

/-- A second package is refused before anything is done. -/
lemma perform_packageTwice (h : w.naming.package = some package) (name : Value) :
    w.perform (.package name) =
      w.failing (.about name (.packageTwice (withoutEndDots package) name)) := by
  simp [perform, Call.steps, Call.packageSteps, Call.packageHead, run, step, h, failing]

theorem package_moveAll (h : w.naming.package = some package) (moves : List Move) :
    (w.moveAll moves).naming.package = some package := by
  refine moveAll_invariant (P := fun v : Scribe σ => v.naming.package = some package) h
    fun v m _ hv => ?_
  cases m with
  | setUnit | setShortens => exact hv
  | call c =>
    by_cases hc : ∃ name, c = .package name
    · obtain ⟨name, rfl⟩ := hc
      exact (congrArg (·.scribe.naming.package) (perform_packageTwice hv name)).trans hv
    · exact (package_perform fun name he => hc ⟨name, he⟩).trans hv

lemma entries_step : w.naming.imports.entries <+: (w.step x).scribe.naming.imports.entries := by
  by_cases hr : ∃ name, x = .register name
  · obtain ⟨name, rfl⟩ := hr
    simp only [step]
    split
    · rename_i ha
      exact ⟨_, (Imports.entries_add ha).symm⟩
    · exact List.prefix_refl _
  · rw [imports_step fun name hx => hr ⟨name, hx⟩]

theorem entries_moveAll (moves : List Move) :
    w.naming.imports.entries <+: (w.moveAll moves).naming.imports.entries := by
  let P : Scribe σ → Prop := fun v => w.naming.imports.entries <+: v.naming.imports.entries
  refine moveAll_invariant (P := P) (List.prefix_refl _) fun v m _ hv => ?_
  cases m with
  | setUnit | setShortens => exact hv
  | call c => exact run_invariant (P := P) (fun u y hu => hu.trans entries_step) hv _

lemma registered_step (h : w.naming.imports.Registered) (x : Step) :
    (w.step x).scribe.naming.imports.Registered := by
  have hf := fares_step w x
  unfold Fares at hf
  split at hf
  · exact hf.registered h
  · have hn : (w.step x).scribe.naming = w.naming := congrArg Setting.naming hf.setting
    exact hn ▸ h

lemma Reached.registered (h : w.Reached) : w.naming.imports.Registered := by
  obtain ⟨sink, unit, shortens, moves, rfl⟩ := h
  refine moveAll_invariant (P := fun w : Scribe σ => w.naming.imports.Registered) .empty
    fun w m _ h => ?_
  cases m with
  | setUnit | setShortens => exact h
  | call c =>
    exact run_invariant (P := fun w : Scribe σ => w.naming.imports.Registered)
      (fun w x h => registered_step h x) h _

end JavaScribe.Scribe
