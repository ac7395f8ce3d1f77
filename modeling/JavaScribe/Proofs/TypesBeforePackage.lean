import JavaScribe.Proofs.ConstructorNames
import JavaScribe.Proofs.Emission

/-!
# Types before the package

A scribe that shortens types cannot write one before it has a package. A call that comes to a type
then has written what stands in front of it, and nothing else has changed: all that such a call does
before its first type is to check and to write. Once there is a package the same call comes to its
end, whatever has been written or imported meanwhile, since what it can fail for is the nesting and
its arguments (`types_wait_for_package`).
-/
namespace JavaScribe

/-! ## Steps that only build -/

/-- Whether a step does nothing but check the place, write, open or close. -/
def Step.builds : Step → Bool
  | .display _ | .register _ | .requireNoPackage _ | .setPackage _ | .close => false
  | _ => true

namespace Setting
variable {s : Setting} {n m : Nesting} {x : Step} {steps : List Step}

/-- Whether a setting can write types as texts at all. -/
def Displays (s : Setting) : Prop := s.shortens = false ∨ s.naming.package ≠ none

lemma Displays.typeText? (h : s.Displays) (text : String) :
    ∃ shown, s.typeText? (.text text) = some shown := by
  rcases h with hs | hp
  · exact ⟨text, by simp [Setting.typeText?, hs]⟩
  · obtain ⟨package, hp⟩ := Option.ne_none_iff_exists'.mp hp
    exact ⟨_, typeText?_text hp text⟩

/-- A step that builds can fail for the nesting alone. -/
lemma step?_of_next (hd : s.Displays) (hx : x.builds = true) (hn : s.nesting.next x = some n) :
    ∃ text s', s.step? x = some (text, s') ∧ s'.nesting = n ∧ s'.Displays := by
  cases x with
  | write | indent | enter | pushName =>
    obtain rfl := Option.some.inj hn
    exact ⟨_, _, rfl, rfl, hd⟩
  | writeType type =>
    cases type with
    | text t =>
      obtain ⟨shown, ht⟩ := hd.typeText? t
      obtain rfl := Option.some.inj hn
      exact ⟨shown, s, by simp [step?, ht], rfl, hd⟩
    | _ => simp [Nesting.next] at hn
  | require operation allowed =>
    by_cases ht : s.scopes.top ∈ allowed
    · obtain rfl : s.nesting = n := by simpa [Nesting.next, nesting, ht] using hn
      exact ⟨"", s, by simp [step?, ht], rfl, hd⟩
    · simp [Nesting.next, nesting, ht] at hn
  | leave operation expected =>
    cases hs : s.scopes with
    | nil => simp [Nesting.next, nesting, hs] at hn
    | cons scope rest =>
      by_cases ht : scope ∈ expected
      · obtain rfl : ⟨rest, s.types⟩ = n := by simpa [Nesting.next, nesting, hs, ht] using hn
        exact ⟨"", { s with scopes := rest }, by simp [step?, hs, ht], rfl, hd⟩
      · simp [Nesting.next, nesting, hs, ht] at hn
  | popName =>
    cases ht : s.types with
    | nil => simp [Nesting.next, nesting, ht] at hn
    | cons name rest =>
      obtain rfl : ⟨s.scopes, rest⟩ = n := by simpa [Nesting.next, nesting, ht] using hn
      exact ⟨"", { s with types := rest }, by simp [step?, ht], rfl, hd⟩
  | fail => simp [Nesting.next] at hn
  | display | register | requireNoPackage | setPackage | close => simp [Step.builds] at hx

theorem run?_of_next (hd : s.Displays) (hx : ∀ x ∈ steps, x.builds = true)
    (hn : steps.foldlM Nesting.next s.nesting = some n) :
    ∃ text s', s.run? steps = some (text, s') := by
  induction steps generalizing s with
  | nil => exact ⟨"", s, rfl⟩
  | cons x rest ih =>
    rw [List.forall_mem_cons] at hx
    rw [List.foldlM_cons] at hn
    obtain ⟨m, hm, hn⟩ := Option.bind_eq_some_iff.mp hn
    obtain ⟨text, s₁, hs, rfl, hd₁⟩ := step?_of_next hd hx.1 hm
    obtain ⟨more, s₂, hr⟩ := ih hd₁ hx.2 hn
    exact ⟨text ++ more, s₂, by simp [run?, hs, hr]⟩

end Setting

namespace Scribe
open Sink
variable {σ : Type} [Sink σ] {w v u : Scribe σ} {x : Step} {steps rest : List Step}

/-- What has come to its end was in order for the nesting. -/
lemma exists_next_of_run (h : (w.run steps).fault = none) :
    ∃ n, steps.foldlM Nesting.next w.nesting = some n := by
  induction steps generalizing w with
  | nil => exact ⟨_, rfl⟩
  | cons x rest ih =>
    have hs := fares_step w x
    unfold Fares at hs
    rw [run_cons] at h
    split at hs
    · rename_i hf
      rw [hf] at h
      obtain ⟨n, hn⟩ := ih h
      exact ⟨n, by rw [List.foldlM_cons, hs.nesting]; exact hn⟩
    · rename_i hf
      simp [hf] at h

/-- Steps that build come to their end wherever others with the same nesting have. -/
theorem run_again (ha : Accepts u.sink) (hd : u.setting.Displays) (hn : u.nesting = v.nesting)
    (hx : ∀ x ∈ steps, x.builds = true) (hv : (v.run steps).fault = none) :
    ∃ u' text, u.run steps = ⟨none, u'⟩ ∧ Wrote u.sink text u'.sink := by
  obtain ⟨n, hnext⟩ := exists_next_of_run hv
  rw [← hn] at hnext
  obtain ⟨text, s, hr⟩ := Setting.run?_of_next hd hx hnext
  obtain ⟨u', hu, -, hw⟩ := run_of_run? ha hr
  exact ⟨u', text, hu, hw⟩

end Scribe

/-! ## The front of a call -/

namespace Call
open Step

/-- Whether a call writes types. -/
def isTyped : Call → Bool
  | openType _ _ _ _ _ | openMethod _ _ _ _ _ | openConstructor _ _ _ | field _ _ _ _
  | annotation _ _ => true
  | _ => false

/-- The first type that a call writes, given the names of the open types. -/
def firstType? (types : OpenTypes) : Call → Option Value
  | openType name _ _ _ _ => some name
  | openMethod result name _ _ _ => some (if result = .none then name else result)
  | openConstructor _ _ _ => types.head?.map .text
  | field type _ _ _ => some type
  | annotation name _ => some name
  | _ => none

def modifierFront (modifiers : Value) : List Step :=
  Scribe.leadSteps ((Argument.modifiers modifiers).toOption.getD [])

/-- What a call writes in front of its first type. -/
def front : Call → List Step
  | openType _ kind modifiers _ _ => modifierFront modifiers ++ [.write (kind ++ " ")]
  | openMethod _ _ modifiers _ _ | openConstructor modifiers _ _ | field _ _ modifiers _ =>
    modifierFront modifiers
  | annotation _ _ => [.indent 0, .write "@"]
  | _ => []

variable {c : Call} {n : Nesting}

lemma modifierFront_ok {v : Value} {ms : List Modifier} (h : Argument.modifiers v = .ok ms) :
    modifierFront v = .indent 0 :: modifierSteps ms := by
  simp [modifierFront, h, Except.toOption, Scribe.leadSteps]

lemma builds_methodSteps (result name modifiers parameters throws : Value) :
    ∀ x ∈ methodSteps result name modifiers parameters throws, x.builds = true := by
  refine List.forall_mem_append.mpr ⟨by simp [builds], forall_after.mpr ⟨fun ps _ =>
    forall_after.mpr ⟨fun ts _ => ?_, fun _ _ => rfl⟩, fun _ _ => rfl⟩⟩
  split
  · simp [builds]
  refine forall_after.mpr ⟨fun ms _ => List.forall_mem_append.mpr ⟨?_, ?_⟩, fun _ _ => rfl⟩
  · exact forall_methodHead rfl (fun _ => rfl) (fun _ => ⟨rfl, fun _ _ => rfl⟩) rfl (fun _ => rfl)
      rfl rfl (fun _ _ => rfl) (fun _ _ => rfl) rfl rfl rfl rfl
  · split <;> simp [builds]

lemma builds_steps (hc : c.isTyped = true) : ∀ x ∈ c.steps n, x.builds = true := by
  cases c with
  | openType name kind modifiers superclass interfaces =>
    refine List.forall_mem_append.mpr ⟨by simp [builds], forall_after.mpr ⟨fun ms _ =>
      forall_after.mpr ⟨fun is _ => ?_, fun _ _ => rfl⟩, fun _ _ => rfl⟩⟩
    refine List.forall_mem_append.mpr ⟨?_, by simp [builds]⟩
    exact forall_typeHead rfl (fun _ => rfl) rfl rfl rfl (fun _ => rfl) (fun _ _ => rfl) rfl rfl rfl
  | openMethod => exact builds_methodSteps _ _ _ _ _
  | openConstructor =>
    refine List.forall_mem_append.mpr ⟨by simp [builds], ?_⟩
    split
    · simp [builds]
    · exact builds_methodSteps _ _ _ _ _
  | field =>
    exact forall_fieldSteps rfl (fun _ => rfl) rfl rfl (fun _ _ => rfl) rfl fun _ _ => rfl
  | annotation name value =>
    exact forall_annotationSteps (p := fun x => x.builds = true) (fun _ => rfl) (fun _ => rfl)
      (fun _ => rfl) (fun _ _ => rfl) rfl rfl value
  | _ => simp [isTyped] at hc

lemma exists_headline (result name : Value) : ∃ more,
    headline name result = .writeType (if result = .none then name else result) :: more := by
  cases result <;> exact ⟨_, rfl⟩

lemma forall_front : ∀ x ∈ c.front, x = .indent 0 ∨ ∃ text, x = .write text := by
  have hm : ∀ modifiers, ∀ x ∈ modifierFront modifiers, x = .indent 0 ∨ ∃ text, x = .write text :=
    fun modifiers => List.forall_mem_cons.mpr
      ⟨Or.inl rfl, forall_modifierSteps.mpr fun _ _ => Or.inr ⟨_, rfl⟩⟩
  cases c with
  | openType name kind modifiers => exact List.forall_mem_append.mpr ⟨hm _, by simp⟩
  | openMethod | openConstructor | field => exact hm _
  | _ => simp [front]

end Call

namespace Scribe
open Call Sink
variable {σ : Type} [Sink σ] {w v : Scribe σ} {c : Call} {rest checks : List Step}
  {operation : String} {allowed : List (Option Scope)}

lemma run_require (ht : w.scopes.top ∈ allowed) :
    w.run (.require operation allowed :: rest) = w.run rest := by
  simp [run, step, Scopes.require_ok.mpr ht, done]

lemma of_require (h : (w.run (.require operation allowed :: rest)).fault = none) :
    w.scopes.top ∈ allowed ∧ (w.run rest).fault = none := by
  have ht := top_of_require h
  rw [run_require ht] at h
  exact ⟨ht, h⟩

lemma of_after {α : Type} {checked : Except Fault α} {next : α → List Step}
    (h : (w.run (Step.after checked next)).fault = none) :
    ∃ a, checked = .ok a ∧ (w.run (next a)).fault = none := by
  cases checked with
  | ok a => exact ⟨a, rfl, h⟩
  | error fault => simp [Step.after, run, step, failing] at h

/-- Checks of the place that are in order. -/
def Placed (n : Nesting) (checks : List Step) : Prop :=
  ∀ x ∈ checks, ∃ operation allowed, x = .require operation allowed ∧ n.scopes.top ∈ allowed

lemma placed_nil (n : Nesting) : Placed n [] := by simp [Placed]

lemma placed_require {n : Nesting} (ht : n.scopes.top ∈ allowed) (h : Placed n checks) :
    Placed n (.require operation allowed :: checks) :=
  List.forall_mem_cons.mpr ⟨⟨_, _, rfl, ht⟩, h⟩

lemma Placed.run (h : Placed w.nesting checks) (rest : List Step) :
    w.run (checks ++ rest) = w.run rest := by
  induction checks with
  | nil => rfl
  | cons x checks ih =>
    rw [Placed, List.forall_mem_cons] at h
    obtain ⟨⟨operation, allowed, rfl, ht⟩, h⟩ := h
    rw [List.cons_append, run_require ht, ih h]

/-- A method that is in order is written from its modifiers on. -/
lemma exists_methodFront {result name modifiers parameters throws : Value}
    (hv : (v.run (methodSteps result name modifiers parameters throws)).fault = none) :
    ∃ checks rest, Placed v.nesting checks ∧ methodSteps result name modifiers parameters throws =
      checks ++ (modifierFront modifiers ++
        .writeType (if result = .none then name else result) :: rest) := by
  obtain ⟨ht, hv⟩ := of_require hv
  obtain ⟨ps, hps, hv⟩ := of_after hv
  obtain ⟨ts, hts, hv⟩ := of_after hv
  by_cases ho : ps.length % 2 = 1
  · simp [ho, run, step, failing] at hv
  rw [if_neg ho] at hv
  obtain ⟨ms, hms, -⟩ := of_after hv
  obtain ⟨more, hmore⟩ := exists_headline result name
  obtain ⟨tail, hs⟩ : ∃ tail, methodSteps result name modifiers parameters throws =
      [.require "begin_method" [some .typeBody]] ++
        (modifierFront modifiers ++ (headline name result ++ tail)) := by
    simp only [methodSteps, hps, hts, hms, Step.after_ok, if_neg ho, modifierFront_ok hms,
      List.append_assoc, List.cons_append, List.nil_append]
    exact ⟨_, rfl⟩
  rw [hmore] at hs
  exact ⟨_, more ++ tail, placed_require ht (placed_nil _), hs⟩

/-- A call that writes types and comes to its end has checked its place, and then written what
stands in front of its first type. -/
lemma exists_front (hc : c.isTyped = true) (hv : (v.perform c).fault = none) :
    ∃ checks type rest, Placed v.nesting checks ∧ c.firstType? v.types = some type ∧
      c.steps v.nesting = checks ++ (c.front ++ .writeType type :: rest) := by
  cases c with
  | openType name kind modifiers superclass interfaces =>
    obtain ⟨ht, hv⟩ := of_require hv
    obtain ⟨ms, hms, hv⟩ := of_after hv
    obtain ⟨is, his, -⟩ := of_after hv
    obtain ⟨rest, hs⟩ : ∃ rest, typeSteps name kind modifiers superclass interfaces =
        [.require "begin_type" [none, some .typeBody]] ++
          (modifierFront modifiers ++ [.write (kind ++ " ")] ++ .writeType name :: rest) := by
      simp only [typeSteps, hms, his, Step.after_ok, modifierFront_ok hms, List.append_assoc,
        List.cons_append, List.nil_append]
      exact ⟨_, rfl⟩
    exact ⟨_, name, rest, placed_require ht (placed_nil _), rfl, hs⟩
  | openMethod result name modifiers parameters throws =>
    obtain ⟨checks, rest, hp, hs⟩ := exists_methodFront hv
    exact ⟨checks, _, rest, hp, rfl, hs⟩
  | openConstructor modifiers parameters throws =>
    obtain ⟨ht, hv⟩ := of_require hv
    cases hn : v.nesting.types.head? with
    | none => simp [hn, run, step, failing] at hv
    | some owner =>
      simp only [hn] at hv
      obtain ⟨checks, rest, hp, hs⟩ := exists_methodFront hv
      have hfirst : firstType? v.types (openConstructor modifiers parameters throws) =
          some (.text owner) := congrArg (Option.map Value.text) hn
      have hsteps : Call.steps v.nesting (openConstructor modifiers parameters throws) =
          .require "begin_constructor" [some .typeBody] ::
            methodSteps .none owner modifiers parameters throws := by
        rw [Call.steps, hn]
        rfl
      exact ⟨_, _, rest, placed_require ht hp, hfirst, hsteps.trans (congrArg _ hs)⟩
  | field type name modifiers initial =>
    obtain ⟨ms, hms, -⟩ := of_after hv
    obtain ⟨rest, hs⟩ : ∃ rest, fieldSteps type name modifiers initial =
        modifierFront modifiers ++ .writeType type :: rest := by
      simp only [fieldSteps, hms, Step.after_ok, modifierFront_ok hms, List.append_assoc,
        List.cons_append, List.nil_append]
      exact ⟨_, rfl⟩
    exact ⟨[], type, rest, placed_nil _, rfl, hs⟩
  | annotation name value => exact ⟨[], name, _, placed_nil _, rfl, rfl⟩
  | _ => simp [isTyped] at hc

/-- On a sink that takes every text, what stands in front of the first type is written. -/
lemma run_front (ha : Accepts w.sink) {front : List Step}
    (hx : ∀ x ∈ front, x = .indent 0 ∨ ∃ text, x = .write text) (rest : List Step) :
    w.run (front ++ rest) =
      run { w with sink := writeAll w.sink (front.filterMap w.piece?) } rest := by
  induction front generalizing w with
  | nil => rfl
  | cons x front ih =>
    rw [List.forall_mem_cons] at hx
    obtain ⟨text, hp, hs⟩ : ∃ text, w.piece? x = some text ∧ w.step x = w.put text := by
      rcases hx.1 with rfl | ⟨text, rfl⟩
      · exact ⟨_, rfl, rfl⟩
      · exact ⟨_, rfl, rfl⟩
    have hi := @ih { w with sink := (write w.sink text).2 } (ha.wrote (Wrote.one _ _)) hx.2
    rw [List.cons_append, run_cons, hs, put_eq_of_accepts ha, List.filterMap_cons, hp]
    exact hi

/-- A sink that takes every text takes the declaration of a package. -/
lemma perform_package (ha : Accepts w.sink) (hp : w.naming.package = none) {name : Value}
    (hn : name = .none ∨ ∃ text, name = .text text) :
    ∃ w', w.perform (.package name) = ⟨none, w'⟩ ∧ w'.nesting = w.nesting ∧
      w'.naming.package ≠ none ∧ Accepts w'.sink := by
  have hset : ∀ v : Scribe σ, v.nesting = w.nesting → Accepts v.sink →
      ∃ w', v.run [.setPackage name] = ⟨none, w'⟩ ∧ w'.nesting = w.nesting ∧
        w'.naming.package ≠ none ∧ Accepts w'.sink :=
    fun v hv hav => ⟨_, rfl, hv, by simp [note], hav⟩
  rw [perform_package_eq hp hn]
  split
  · rw [run_front ha (by simp)]
    exact hset _ rfl (ha.wrote ⟨_, rfl, rfl⟩)
  · exact hset w rfl ha

/-- Once there is a package, a call that writes types comes to its end wherever it has done so with
the same nesting. -/
lemma perform_again (hc : c.isTyped = true) (hv : (v.perform c).fault = none)
    (hn : w.nesting = v.nesting) (hp : w.naming.package ≠ none) (ha : Accepts w.sink) :
    (w.perform c).fault = none := by
  have hv' : (v.run (c.steps w.nesting)).fault = none := by
    rw [hn]
    exact hv
  obtain ⟨w', -, hw, -⟩ := run_again ha (Or.inr hp) hn (builds_steps hc) hv'
  exact congrArg Reply.fault hw

/-! ## Types in full -/

/-- The scribe, but types are written as they are given. -/
def inFull (w : Scribe σ) : Scribe σ := { w with shortens := false }

/-- Up to its first type a call does the same whether or not types are shortened. -/
lemma perform_front (ha : Accepts w.sink) (hc : c.isTyped = true)
    (hv : (w.inFull.perform c).fault = none) :
    ∃ type rest, c.firstType? w.types = some type ∧ (∀ x ∈ rest, x.builds = true) ∧
      let w' := { w with sink := writeAll w.sink (c.front.filterMap w.piece?) }
      w.perform c = w'.run (.writeType type :: rest) ∧
        w.inFull.perform c = w'.inFull.run (.writeType type :: rest) := by
  obtain ⟨checks, type, rest, hplaced, hfirst, hsteps⟩ := exists_front hc hv
  have hrest : ∀ x ∈ rest, x.builds = true := fun x hx =>
    builds_steps hc x (by rw [hsteps]; simp [hx])
  have hrun : ∀ u : Scribe σ, u.nesting = w.nesting →
      u.perform c = u.run (c.front ++ .writeType type :: rest) := by
    intro u hn
    have hu : c.steps u.nesting = checks ++ (c.front ++ .writeType type :: rest) := hn ▸ hsteps
    rw [perform, hu, Placed.run (hn ▸ hplaced)]
  have hpieces : ∀ x ∈ c.front, w.inFull.piece? x = w.piece? x := by
    intro x hx
    rcases forall_front x hx with rfl | ⟨text, rfl⟩
    · rfl
    · rfl
  have haf : Accepts w.inFull.sink := ha
  refine ⟨type, rest, hfirst, hrest, ?_, ?_⟩
  · rw [hrun w rfl, run_front ha forall_front]
  · rw [hrun w.inFull rfl, run_front haf forall_front, List.filterMap_congr hpieces]
    rfl

/-- A type in full is written as it is given, and then what follows. -/
lemma sink_inFull (ha : Accepts w.sink) {type : Value} (hb : ∀ x ∈ rest, x.builds = true)
    (hv : (w.inFull.run (.writeType type :: rest)).fault = none) :
    ∃ text back, type = .text text ∧
      (w.inFull.run (.writeType type :: rest)).scribe.sink = writeAll w.sink (text :: back) := by
  cases type with
  | text text =>
    have hstep : w.inFull.step (.writeType text) =
        ⟨none, inFull { w with sink := (write w.sink text).2 }⟩ :=
      @put_eq_of_accepts _ _ w.inFull ha text
    rw [run_cons, hstep] at hv ⊢
    obtain ⟨v, -, hrest, back, -, hback⟩ :=
      run_again (ha.wrote (Wrote.one _ text)) (Or.inl rfl) rfl hb hv
    refine ⟨text, back, rfl, ?_⟩
    simp only [Option.isNone_none, if_true, hrest]
    exact hback
  | _ => simp [run, step, inFull, offer, failing] at hv

/-- A call that writes types and would come to its end if they were written as they are given fails
at the first of them if they are shortened and there is no package. It has written what it would
have written in front of that type, and all that the scribe keeps is as it was. As soon as there is
a package, and as long as as much is open, the same call comes to its end. -/
theorem types_wait_for_package (ha : Accepts w.sink) (hs : w.shortens = true)
    (hp : w.naming.package = none) (hc : c.isTyped = true)
    (hv : (w.inFull.perform c).fault = none) :
    ∃ x back, c.firstType? w.types = some (.text x) ∧
      w.perform c = failing { w with sink := writeAll w.sink (c.front.filterMap w.piece?) }
        (.typeBeforePackage (.text x)) ∧
      (w.inFull.perform c).scribe.sink =
        writeAll w.sink (c.front.filterMap w.piece? ++ x :: back) ∧
      (∀ name : Value, (name = .none ∨ ∃ text, name = .text text) →
        let r := (w.perform c).scribe.perform (.package name)
        r.fault = none ∧ (r.scribe.perform c).fault = none) ∧
      ∀ u : Scribe σ, u.nesting = w.nesting → u.naming.package ≠ none → Accepts u.sink →
        (u.perform c).fault = none := by
  obtain ⟨type, rest, hfirst, hrest, hshort, hfull⟩ := perform_front ha hc hv
  have haf : Accepts (writeAll w.sink (c.front.filterMap w.piece?)) := ha.wrote ⟨_, rfl, rfl⟩
  obtain ⟨x, back, rfl, hback⟩ := sink_inFull haf hrest (hfull ▸ hv)
  have hfails : w.perform c =
      failing { w with sink := writeAll w.sink (c.front.filterMap w.piece?) }
        (.typeBeforePackage (.text x)) := by
    rw [hshort]
    simp [run, step, hs, Naming.display, hp, failing]
  refine ⟨x, back, hfirst, hfails, ?_, fun name hn => ?_, fun u hn => perform_again hc hv hn⟩
  · rw [hfull, hback, writeAll_append]
  · rw [hfails]
    obtain ⟨u, hu, hnest, hpackage, hau⟩ := @perform_package _ _
      { w with sink := writeAll w.sink (c.front.filterMap w.piece?) } haf hp name hn
    have hend : (u.perform c).fault = none := perform_again hc hv hnest hpackage hau
    simp only [failing, hu]
    exact ⟨trivial, hend⟩

/-- A page with a type that has been opened before types were to be shortened. -/
def hasty : Scribe Page :=
  (blank {} "  " false).moveAll [.call (.openType "p.Foo" "class"), .setShortens true]

theorem method_before_package :
    hasty.sink.text = "class p.Foo \x7b\n" ∧
      (hasty.inFull.perform (.openMethod "p.Bar" "get" "public")).scribe.sink.text =
        "class p.Foo \x7b\n  public p.Bar get() \x7b\n" ∧
      (hasty.perform (.openMethod "p.Bar" "get" "public")).fault =
        some (.typeBeforePackage "p.Bar") ∧
      (hasty.perform (.openMethod "p.Bar" "get" "public")).scribe.sink.text =
        "class p.Foo \x7b\n  public " ∧
      ((((hasty.perform (.openMethod "p.Bar" "get" "public")).scribe.perform
        (.package "p")).scribe.perform (.openMethod "p.Bar" "get" "public")).fault = none) := by
  have ha : Accepts hasty.sink := Page.accepts (by decide +kernel) (by decide +kernel)
    (by decide +kernel)
  have hs : hasty.shortens = true := by decide +kernel
  have hp : hasty.naming.package = none := by decide +kernel
  have hv : (hasty.inFull.perform (.openMethod "p.Bar" "get" "public")).fault = none := by
    decide +kernel
  obtain ⟨x, back, hx, hfail, -, hagain, -⟩ := types_wait_for_package ha hs hp rfl hv
  obtain rfl : "p.Bar" = x := by simpa [firstType?] using hx
  refine ⟨by decide +kernel, by decide +kernel, by rw [hfail]; rfl, ?_,
    (hagain "p" (Or.inr ⟨"p", rfl⟩)).2⟩
  rw [hfail]
  decide +kernel

end Scribe
end JavaScribe
