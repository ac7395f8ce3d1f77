import JavaScribe.Proofs.BracedCalls

/-!
# Braces match what is open

On a page whose texts have no braces of their own, as many braces are open after every call as there
are open scopes that have one, which is all but those of abstract methods, and no brace is ever
closed that was not open (`braces_match_scopes`).
-/
namespace JavaScribe

/-- Names of open types are texts of types. -/
lemma Effect.names {c : Call} {n n' : Nesting} {e : Exit} (h : Effect c n e n') {name : String}
    (hn : name ∈ n'.types) : name ∈ n.types ∨ name ∈ c.typeTexts := by
  cases h with
  | openedType hc =>
    subst hc
    rcases List.mem_cons.mp hn with rfl | hn
    · exact Or.inr (by simp [Call.typeTexts, Call.types, Argument.text, Except.toOption])
    · exact Or.inl hn
  | closedType _ hs => exact Or.inl (by simpa [hs] using Or.inr hn)
  | closed _ hs | between _ hs => exact Or.inl (by simpa [hs] using hn)
  | closedNameless => simp at hn
  | _ => exact Or.inl hn

namespace Scribe
variable {σ : Type} [Sink σ]

/-- The braces of what has been taken match what is open. -/
structure Balanced (w : Scribe (Watched σ)) : Prop where
  bracing : Bracing w (w.nesting, some (w.scopes.countP (· ≠ .abstractMethod)))
  named : w.nesting.Named
  names : ∀ name ∈ w.types, Braceless name

lemma Balanced.perform {w : Scribe (Watched σ)} (h : Balanced w) {c : Call} (hc : c.Unbraced)
    (hu : ¬ (w.perform c).Exits .unshown) : Balanced (w.perform c).scribe := by
  have hm : Braces.Matched (w.nesting, some (w.scopes.countP (· ≠ .abstractMethod))) := rfl
  obtain ⟨e, b, he, hb, hs⟩ : ∃ e b, (w.perform c).Exits e ∧ Bracing (w.perform c).scribe b ∧
      Braces.Settled e b :=
    Leads.run (Account.braces σ) h.bracing (Braces.leads_steps hc h.named h.names hm)
  obtain ⟨_, -, heffect⟩ := w.perform_effect c
  refine ⟨⟨rfl, hb.registered, hb.unit, fun hr => ?_⟩, heffect.named h.named, fun name hn => ?_⟩
  · obtain ⟨-, hne⟩ := exits_of_not_refused hr
    have hm : Braces.Matched b := hs (fun h => hne (h ▸ he)) fun h => hu (h ▸ he)
    rw [hb.taken hr, hm, ← hb.nesting]
    rfl
  · rcases heffect.names hn with hn | hn
    · exact h.names name hn
    · exact hc.2 name hn

lemma balanced_moveAll (sink : σ) {unit : String} (hu : Braceless unit) (shortens : Bool)
    {moves : List Move} (hm : ∀ m ∈ moves, m.Unbraced)
    (ha : (blank (watch sink) unit shortens).AllShown moves) :
    Balanced ((blank (watch sink) unit shortens).moveAll moves) := by
  refine moveAll_kept ⟨⟨rfl, .empty, hu, fun _ => rfl⟩, rfl, by simp [blank]⟩ ha
    fun w m hmem hr h => ?_
  have hx := hm m hmem
  cases m with
  | call c => exact h.perform hx hr
  | setUnit unit => exact ⟨{ h.bracing with unit := hx }, h.named, h.names⟩
  | setShortens => exact ⟨{ h.bracing with }, h.named, h.names⟩

/-- Where no text has a brace of its own, every value has a text and the sink has taken every text,
there are after every run as many braces opened and not closed as there are open scopes but for
abstract methods, and no part of the page from its start closes more braces than it opens. -/
theorem braces_match_scopes (sink : σ) {unit : String} (hu : Braceless unit) (shortens : Bool)
    {moves : List Move} (hm : ∀ m ∈ moves, m.Unbraced)
    (ha : (blank (watch sink) unit shortens).AllShown moves)
    (hr : ((blank (watch sink) unit shortens).moveAll moves).sink.refused = false) :
    let w := (blank (watch sink) unit shortens).moveAll moves
    let page := w.sink.taken.toList
    page.count '\x7b' = page.count '\x7d' + w.scopes.countP (· ≠ .abstractMethod) ∧
      ∀ front, front <+: page → front.count '\x7d' ≤ front.count '\x7b' := by
  intro w page
  have hb := (balanced_moveAll sink hu shortens hm ha).bracing.taken hr
  exact ⟨Text.count_of_braces? hb, fun front hp => Text.count_le_of_prefix hb hp⟩

/-- A run in which an array is written and a call fails for a parameter without a name. -/
def arrayBeforeMethod : List Move :=
  [.call (.package "p"), .call (.openType "p.Foo" "class"),
    .call <| Call.annotation "A" (.list [.int 1, .int 2]),
    .call (.openMethod "void" "run" .none (.list ["int"])),
    .call (.openMethod "void" "run" (.list ["abstract"]))]

theorem braces_of_array_before_method :
    let w := (blank (watch ({} : Page)) "  " true).moveAll arrayBeforeMethod
    let page := w.sink.taken.toList
    w.scopes = [.abstractMethod, .typeBody] ∧ page.count '\x7b' = page.count '\x7d' + 1 := by
  intro w page
  have hr : ((blank (watch ({} : Page)) "  " true).moveAll arrayBeforeMethod).sink.refused =
      false := by decide +kernel
  have hs : w.scopes = [.abstractMethod, .typeBody] := by decide +kernel
  have hm : ∀ m ∈ arrayBeforeMethod, m.Unbraced := by decide +kernel
  have ha : (blank (watch ({} : Page)) "  " true).AllShown arrayBeforeMethod := by decide +kernel
  have hb := (braces_match_scopes ({} : Page) (by decide) true hm ha hr).1
  exact ⟨hs, by simpa [w, page, hs] using hb⟩

end Scribe
end JavaScribe
