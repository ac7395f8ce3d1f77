import JavaScribe.Proofs.NamingRuns
import JavaScribe.Proofs.Separators
import JavaScribe.Proofs.SilentSteps
import JavaScribe.Proofs.StepFaults
import JavaScribe.Proofs.TakenTexts

/-!
# Shortening changes names and nothing else

A run on a scribe that shortens types and the same run on one that does not come to the same
faults, open the same scopes and register the same imports, and what they write differs at most in
the names (`shortening_changes_names_only`). A scribe that does not shorten never fails for a type
that comes before the package.
-/
namespace JavaScribe
namespace Scribe
variable {σ : Type} [Sink σ] {w v : Scribe (Watched σ)} {x : Step}

/-- Two scribes with a package that have written the same but for names. -/
structure Alike (w v : Scribe (Watched σ)) : Prop where
  unit : w.unit = v.unit
  naming : w.naming = v.naming
  scopes : w.scopes = v.scopes
  types : w.types = v.types
  closed : w.closed = v.closed
  taken : bare w.sink.taken.toList = bare v.sink.taken.toList
  registered : w.naming.imports.Registered
  package : w.naming.package ≠ none

/-- Two texts that are the same but for names are taken by both. -/
lemma alike_put (h : Alike w v) {a b : String} (ht : bare a.toList = bare b.toList)
    (hw : (w.put a).scribe.Willing) (hv : (v.put b).scribe.Willing) :
    (w.put a).fault = (v.put b).fault ∧ Alike (w.put a).scribe (v.put b).scribe := by
  obtain ⟨s, hs, hst⟩ := put_willing hw
  obtain ⟨s', hs', hst'⟩ := put_willing hv
  rw [hs, hs']
  exact ⟨rfl, { h with taken := by simp [hst, hst', h.taken, ht] }⟩

omit [Sink σ] in
/-- The events that have been noted down do not matter. -/
lemma Alike.logs (h : Alike w v) (log log' : List Event) :
    Alike { w with log } { v with log := log' } :=
  { h with }

/-- A type is written with its names shortened or not. -/
lemma step_writeType_text (hr : w.naming.imports.Registered) (hp : w.naming.package ≠ none)
    (text : String) : ∃ log written, w.step (.writeType (.text text)) = put { w with log } written ∧
      bare written.toList = bare text.toList := by
  obtain ⟨package, hp⟩ := Option.ne_none_iff_exists'.mp hp
  by_cases hs : w.shortens = true
  · have he : w.step (.writeType (.text text)) =
        (w.remarked (.text text)).put (Naming.shortenText w.naming.imports package text) := by
      simp [step, hs, Naming.display_ok hp]
    exact ⟨_, _, he, Naming.bare_shortenText hr package text⟩
  · have he : w.step (.writeType (.text text)) = w.put text := by simp [step, hs, offer]
    exact ⟨w.log, text, he, rfl⟩

/-- Every step does the same to both. -/
theorem alike_step (h : Alike w v) (hx : ∀ type, x = .writeType type → ∃ text, type = .text text)
    (hw : (w.step x).scribe.Willing) (hv : (v.step x).scribe.Willing) :
    (w.step x).fault = (v.step x).fault ∧ Alike (w.step x).scribe (v.step x).scribe := by
  cases hs : x.writes with
  | true =>
    cases x with
    | write text => exact alike_put h rfl hw hv
    | indent deeper =>
      refine alike_put h ?_ hw hv
      simp [depth, h.unit, h.scopes]
    | writeType type =>
      -- the only step at which the two may write different texts
      obtain ⟨text, rfl⟩ := hx type rfl
      obtain ⟨log, a, ha, hab⟩ := step_writeType_text h.registered h.package text
      obtain ⟨log', b, hb, hbb⟩ :=
        step_writeType_text (h.naming ▸ h.registered) (h.naming ▸ h.package) text
      rw [ha] at hw ⊢
      rw [hb] at hv ⊢
      exact alike_put (h.logs log log') (hab.trans hbb.symm) hw hv
    | _ => simp [Step.writes] at hs
  | false =>
    obtain ⟨hf, ha⟩ := agree_step ⟨h.naming, h.scopes, h.types, h.closed⟩ hs
    exact ⟨hf, {
      naming := ha.naming
      scopes := ha.scopes
      types := ha.types
      closed := ha.closed
      unit := by rw [step_unit, step_unit, h.unit]
      taken := by rw [taken_step_silent hs, taken_step_silent hs, h.taken]
      registered := registered_step h.registered x
      package := package_ne_none_step h.package x }⟩

theorem alike_run {steps : List Step} (h : Alike w v)
    (hx : ∀ x ∈ steps, ∀ type, x = .writeType type → ∃ text, type = .text text)
    (hw : (w.run steps).scribe.Willing) (hv : (v.run steps).scribe.Willing) :
    (w.run steps).fault = (v.run steps).fault ∧
      Alike (w.run steps).scribe (v.run steps).scribe := by
  induction steps generalizing w v with
  | nil => exact ⟨rfl, h⟩
  | cons x rest ih =>
    rw [List.forall_mem_cons] at hx
    obtain ⟨hf, ha⟩ := alike_step h hx.1 hw.of_run_cons hv.of_run_cons
    rw [run_cons] at hw hv ⊢
    rw [run_cons]
    cases hs : (w.step x).fault with
    | none =>
      simp only [hs, hf.symm.trans hs, Option.isNone_none, if_true] at hw hv ⊢
      exact ih ha hx.2 hw hv
    | some fault =>
      simp only [hs, hf.symm.trans hs, Option.isNone_some, Bool.false_eq_true, if_false]
      exact ⟨trivial, ha⟩

end Scribe

/-- Every value that the call would write as a type is a text. -/
def Call.Textual (c : Call) : Prop := ∀ type ∈ c.types, ∃ text, type = .text text

def Move.Textual : Move → Prop
  | .call c => c.Textual
  | _ => True

/-- Two replies with the same outcome, of scribes that have written the same but for names, line by
line. -/
structure Reply.Alike {σ : Type} (r s : Reply (Watched σ)) : Prop where
  fault : r.fault = s.fault
  scribe : Scribe.Alike r.scribe s.scribe
  lines : (Text.linesOf r.scribe.sink.taken.toList).map bare =
    (Text.linesOf s.scribe.sink.taken.toList).map bare

namespace Scribe
variable {σ : Type} [Sink σ] {w v : Scribe (Watched σ)}

omit [Sink σ] in
lemma Alike.lines (h : Alike w v) : (Text.linesOf w.sink.taken.toList).map bare =
    (Text.linesOf v.sink.taken.toList).map bare := by
  rw [← Text.linesOf_bare, ← Text.linesOf_bare, h.taken]

omit [Sink σ] in
lemma Alike.done (h : Alike w v) : Reply.Alike w.done v.done := ⟨rfl, h, h.lines⟩

/-- Every move does the same to both. -/
theorem alike_move (h : Alike w v) {m : Move} (ht : m.Textual)
    (hw : (w.move m).scribe.Willing) (hv : (v.move m).scribe.Willing) :
    Reply.Alike (w.move m) (v.move m) := by
  cases m with
  | setUnit unit => exact Alike.done { h with unit := rfl }
  | setShortens shortens => exact Alike.done { h with }
  | call c =>
    have hn : v.nesting = w.nesting := congrArg₂ Nesting.mk h.scopes.symm h.types.symm
    have hx : ∀ x ∈ c.steps w.nesting, ∀ type, x = .writeType type → ∃ text, type = .text text := by
      rintro _ hm type rfl
      rcases c.admits_steps w.nesting _ hm with hc | hc
      · exact ht type hc
      · exact hc
    have hv' : (v.run (c.steps w.nesting)).scribe.Willing := by
      rw [← hn]
      exact hv
    obtain ⟨hf, ha⟩ := alike_run h hx hw hv'
    have he : v.move (.call c) = v.run (c.steps w.nesting) := by
      rw [← hn]
      rfl
    rw [he]
    exact ⟨hf, ha, ha.lines⟩

theorem alike_replies {moves : List Move} (h : Alike w v) (ht : ∀ m ∈ moves, m.Textual)
    (hw : (w.moveAll moves).Willing) (hv : (v.moveAll moves).Willing) :
    List.Forall₂ Reply.Alike (w.replies moves) (v.replies moves) := by
  induction moves generalizing w v with
  | nil => exact .nil
  | cons m moves ih =>
    rw [List.forall_mem_cons] at ht
    rw [moveAll_cons] at hw hv
    have hm := alike_move h ht.1 hw.of_moveAll hv.of_moveAll
    exact .cons hm (ih hm.scribe ht.2 hw hv)

end Scribe

/-! ## Types before the package -/

/-- Whether a fault says that a type came before the package. -/
def Fault.isEarly : Fault → Bool
  | .typeBeforePackage _ => true
  | _ => false

namespace Scribe
variable {σ : Type} [Sink σ] {w : Scribe σ} {x : Step}

/-- A scribe that does not shorten takes a type at any time, but for the call that asks for the
display of one. -/
theorem not_early_perform (hs : w.shortens = false) {c : Call} (hc : ∀ type, c ≠ .displayType type)
    {fault : Fault} (h : (w.perform c).fault = some fault) : fault.isEarly = false := by
  obtain ⟨v, hv, x, hx, hf⟩ := fails_of_run (P := fun v : Scribe σ => v.shortens = false)
    (fun v x hv => (step_shortens v x).trans hv) hs h
  have ha := c.admits_steps w.nesting x hx
  cases hf with
  | early hd =>
    rcases hd with rfl | ⟨-, hv'⟩
    · exact absurd ha (hc _)
    · simp [hv] at hv'
  | given =>
    rcases ha with ha | ⟨rfl, -⟩
    · cases fault <;> first | rfl | simp [Fault.ofArgument] at ha
    · rfl
  | _ => rfl

/-! ## Runs -/

/-- A scribe that shortens types or does not, with its sink from now on under watch. -/
def watchedAs (w : Scribe σ) (shortens : Bool) : Scribe (Watched σ) :=
  { w with sink := watch w.sink, shortens }

/-- Once a scribe has its package, a run comes to the same replies whether or not types are
shortened, as long as types are given as texts and the sink takes every text: the same faults,
scopes, types and imports, and a page that differs at most in the names. Without shortening no call
fails for a type that comes before the package, but the one that asks for the display of a type. -/
theorem shortening_changes_names_only (hr : w.Reached) {package : String}
    (hp : w.naming.package = some package) {moves : List Move} (ht : ∀ m ∈ moves, m.Textual)
    (hw : ∀ shortens, ((w.watchedAs shortens).moveAll moves).Willing) :
    List.Forall₂ Reply.Alike ((w.watchedAs true).replies moves)
        ((w.watchedAs false).replies moves) ∧
      ∀ (v : Scribe σ) (c : Call) (type : Value), v.shortens = false →
        (∀ asked, c ≠ .displayType asked) →
          (v.perform c).fault ≠ some (.typeBeforePackage type) := by
  have hn : w.naming.package ≠ none := by simp [hp]
  have ha : Alike (w.watchedAs true) (w.watchedAs false) :=
    ⟨rfl, rfl, rfl, rfl, rfl, rfl, hr.registered, hn⟩
  refine ⟨alike_replies ha ht (hw true) (hw false), fun v c type hs hc hf => ?_⟩
  simpa [Fault.isEarly] using not_early_perform hs hc hf

/-- A page with a package and an import. -/
def withMap : Scribe Page :=
  (blank {} "  " true).moveAll [.call (.package "p"), .call (.imports ["java.util.Map"])]

/-- A field of an imported type, and an import that is made twice. -/
def mapField : List Move :=
  [.call (.openType "p.Foo" "class"), .call (.field "java.util.Map<java.lang.String, p.Foo>" "m"),
    .call (.imports ["java.util.Map"])]

theorem map_field_in_both :
    List.Forall₂ Reply.Alike ((withMap.watchedAs true).replies mapField)
        ((withMap.watchedAs false).replies mapField) ∧
      ((withMap.watchedAs true).moveAll mapField).sink.taken =
        "class Foo \x7b\n  Map<String, Foo> m;\n" ∧
      ((withMap.watchedAs false).moveAll mapField).sink.taken =
        "class p.Foo \x7b\n  java.util.Map<java.lang.String, p.Foo> m;\n" := by
  have hr : withMap.Reached := ⟨_, _, _, _, rfl⟩
  have hp : withMap.naming.package = some "p." := by decide +kernel
  have ht : ∀ m ∈ mapField, m.Textual := by
    simp [mapField, Move.Textual, Call.Textual, Call.types, Call.listed, Argument.names,
      Value.truthy, Except.toOption]
  have hw : ∀ shortens, ((withMap.watchedAs shortens).moveAll mapField).sink.refused = false := by
    decide +kernel
  refine ⟨(shortening_changes_names_only hr hp ht hw).1, ?_, ?_⟩
  · decide +kernel
  · decide +kernel

end Scribe
end JavaScribe
