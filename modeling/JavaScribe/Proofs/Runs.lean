import JavaScribe.Proofs.WillingSinks
import JavaScribe.Scribe

/-!
# Runs and watched sinks

A run is a list of moves: calls, and changes of what the owner of a scribe may set by hand. A sink
can be watched. What it has taken and whether it has refused a text is then kept beside it, and the
scribe does the same as without the watch (`moveAll_unwatched`).
-/
namespace JavaScribe

/-- A sink with the text that it has taken, and whether it has refused a text. -/
structure Watched (σ : Type) where
  sink : σ
  taken : String := ""
  refused : Bool := false
  deriving DecidableEq, Repr

/-- A sink from now on under watch. -/
def watch {σ : Type} (sink : σ) : Watched σ := { sink }

inductive Move where
  | call (c : Call)
  | setUnit (unit : String)
  | setShortens (shortens : Bool)
  deriving DecidableEq, Repr

namespace Watched
variable {σ : Type} [Sink σ]

instance : Sink (Watched σ) where
  write s text :=
    let written := Sink.write s.sink text
    (written.1,
      { sink := written.2
        taken := if written.1.isNone then s.taken ++ text else s.taken
        refused := s.refused || written.1.isSome })
  refuse s v := ((Sink.refuse s.sink v).1, { s with sink := (Sink.refuse s.sink v).2 })
  close s := { s with sink := Sink.close s.sink }

lemma taken_of_write {s s' : Watched σ} {text : String} (h : Sink.write s text = (none, s')) :
    s'.taken = s.taken ++ text ∧ s'.refused = s.refused := by
  obtain ⟨hn, rfl⟩ := Prod.mk.inj h
  have hn : (Sink.write s.sink text).1 = none := hn
  simp [hn]

lemma refused_of_write {s s' : Watched σ} {text : String} {refusal : Refusal}
    (h : Sink.write s text = (some refusal, s')) : s'.refused = true := by
  obtain ⟨hn, rfl⟩ := Prod.mk.inj h
  have hn : (Sink.write s.sink text).1 = some refusal := hn
  simp [hn]

end Watched

namespace Scribe
variable {σ : Type} [Sink σ]

/-- A scribe to which nothing has happened yet. -/
def blank (sink : σ) (unit : String) (shortens : Bool) : Scribe σ := { sink, unit, shortens }

def move (w : Scribe σ) : Move → Reply σ
  | .call c => w.perform c
  | .setUnit unit => done { w with unit }
  | .setShortens shortens => done { w with shortens }

/-- The replies to moves that are made one after the other, whether or not they fail. -/
def replies (w : Scribe σ) : List Move → List (Reply σ)
  | [] => []
  | m :: ms => w.move m :: (w.move m).scribe.replies ms

/-- The scribe after moves that are made one after the other, whether or not they fail. -/
def moveAll (w : Scribe σ) (ms : List Move) : Scribe σ :=
  ms.foldl (fun w m => (w.move m).scribe) w

@[simp] lemma moveAll_nil (w : Scribe σ) : w.moveAll [] = w := rfl

@[simp] lemma moveAll_cons (w : Scribe σ) (m : Move) (ms : List Move) :
    w.moveAll (m :: ms) = (w.move m).scribe.moveAll ms := rfl

lemma moveAll_append (w : Scribe σ) (before later : List Move) :
    w.moveAll (before ++ later) = (w.moveAll before).moveAll later :=
  List.foldl_append

/-- Some run comes to this scribe. -/
def Reached (w : Scribe σ) : Prop :=
  ∃ sink unit shortens moves, w = (blank sink unit shortens).moveAll moves

/-- What each of some steps keeps is kept by all of them. -/
theorem run_kept {P : Scribe σ → Prop} {w : Scribe σ} {steps : List Step} (h : P w)
    (hs : ∀ w, ∀ x ∈ steps, P w → P (w.step x).scribe) : P (w.run steps).scribe := by
  induction steps generalizing w with
  | nil => exact h
  | cons x rest ih =>
    rw [run_cons]
    split
    · exact ih (hs w x (by simp) h) fun w y hy => hs w y (by simp [hy])
    · exact hs w x (by simp) h

theorem run_invariant {P : Scribe σ → Prop} (hs : ∀ w x, P w → P (w.step x).scribe)
    {w : Scribe σ} (h : P w) (steps : List Step) : P (w.run steps).scribe :=
  run_kept h fun w x _ => hs w x

/-- The checks in front of some steps fail with nothing done, or what is carried out is a rest of
the steps with a property. -/
def Checked (w : Scribe σ) (steps : List Step) (p : List Step → Prop) : Prop :=
  (∃ fault, w.run steps = w.failing fault) ∨ ∃ rest, p rest ∧ w.run steps = w.run rest

namespace Checked
variable {w : Scribe σ} {p : List Step → Prop} {rest : List Step}

lemma of (h : p rest) : Checked w rest p := Or.inr ⟨rest, h, rfl⟩

lemma fail {fault : Fault} : Checked w [.fail fault] p := Or.inl ⟨fault, rfl⟩

lemma require {operation : String} {allowed : List (Option Scope)} (h : Checked w rest p) :
    Checked w (.require operation allowed :: rest) p := by
  cases hr : w.scopes.require operation allowed with
  | ok =>
    have hs : w.run (.require operation allowed :: rest) = w.run rest := by
      simp [run, step, hr, done]
    rcases h with ⟨fault, hf⟩ | ⟨more, hp, hm⟩
    · exact Or.inl ⟨fault, hs.trans hf⟩
    · exact Or.inr ⟨more, hp, hs.trans hm⟩
  | error fault => exact Or.inl ⟨fault, by simp [run, step, hr, failing]⟩

lemma after {α : Type} {checked : Except Fault α} {steps : α → List Step}
    (h : ∀ a, checked = .ok a → Checked w (steps a) p) :
    Checked w (Step.after checked steps) p := by
  cases checked with
  | ok a => exact h a rfl
  | error fault => exact fail

end Checked

lemma run_singleton (w : Scribe σ) (x : Step) : w.run [x] = w.step x := by
  rw [run_cons]
  cases hx : w.step x with
  | mk fault v => cases fault <;> simp [run, done]

lemma run_append_of_done {w : Scribe σ} {first second : List Step}
    (h : (w.run (first ++ second)).fault = none) :
    (w.run first).fault = none ∧ w.run (first ++ second) = (w.run first).scribe.run second := by
  rw [run_append] at h ⊢
  split at h
  · rename_i hn
    exact ⟨Option.isNone_iff_eq_none.mp hn, if_pos hn⟩
  · rename_i hn
    exact absurd (Option.isNone_iff_eq_none.mpr h) hn

/-- What holds at first and is kept by every move of a run holds after it. -/
theorem moveAll_invariant {P : Scribe σ → Prop} {w : Scribe σ} {ms : List Move} (h₀ : P w)
    (hs : ∀ w, ∀ m ∈ ms, P w → P (w.move m).scribe) : P (w.moveAll ms) := by
  induction ms generalizing w with
  | nil => exact h₀
  | cons m ms ih =>
    exact ih (hs w m (by simp) h₀) fun w m' hm => hs w m' (by simp [hm])

/-- What every move keeps whose reply has a property is kept by a run all of whose replies have
it. -/
theorem moveAll_kept {P : Scribe σ → Prop} {p : Reply σ → Prop} {w : Scribe σ} {ms : List Move}
    (h₀ : P w) (hp : ∀ r ∈ w.replies ms, p r)
    (hs : ∀ w, ∀ m ∈ ms, p (w.move m) → P w → P (w.move m).scribe) : P (w.moveAll ms) := by
  induction ms generalizing w with
  | nil => exact h₀
  | cons m ms ih =>
    rw [replies, List.forall_mem_cons] at hp
    exact ih (hs w m (by simp) hp.1 h₀) hp.2 fun w m' hm => hs w m' (by simp [hm])

/-! ## The watch changes nothing -/

def unwatched (w : Scribe (Watched σ)) : Scribe σ := { w with sink := w.sink.sink }

variable {w : Scribe (Watched σ)}

lemma put_unwatched (text : String) :
    w.unwatched.put text = ⟨(w.put text).fault, (w.put text).scribe.unwatched⟩ := by
  have hw : Sink.write w.sink text =
    ((Sink.write w.sink.sink text).1, (Sink.write w.sink text).2) := rfl
  have hs : (Sink.write w.sink text).2.sink = (Sink.write w.sink.sink text).2 := rfl
  unfold put
  rw [hw]
  rcases h : Sink.write w.sink.sink text with ⟨_ | refusal, sink⟩
  · simp [h, hs, unwatched, done]
  · simp [h, hs, unwatched, failing]

lemma step_unwatched (x : Step) :
    w.unwatched.step x = ⟨(w.step x).fault, (w.step x).scribe.unwatched⟩ := by
  cases x with
  | write text => exact put_unwatched text
  | indent deeper => exact put_unwatched _
  | writeType type =>
    cases hs : w.shortens with
    | true =>
      cases hd : w.naming.display type with
      | ok short =>
        have hp := put_unwatched (w := w.remarked type) short
        simpa [step, unwatched, hs, hd, remarked] using hp
      | error fault => simp [step, unwatched, hs, hd, failing]
    | false =>
      cases type with
      | text t => simpa [step, unwatched, hs, offer] using put_unwatched (w := w) t
      | _ => simp [step, unwatched, hs, offer, failing, Sink.refuse]
  | require operation allowed =>
    cases hr : w.scopes.require operation allowed <;>
      simp [step, unwatched, hr, done, failing]
  | leave operation expected =>
    cases hr : w.scopes.leave operation (expected.map some) <;>
      simp [step, unwatched, hr, done, failing, note]
  | popName => cases hr : w.types.close <;> simp [step, unwatched, hr, done, failing]
  | display type =>
    cases hd : w.naming.display type <;>
      simp [step, unwatched, hd, done, failing, remarked]
  | register name =>
    cases ha : w.naming.imports.add name <;> simp [step, unwatched, ha, done, failing, note]
  | requireNoPackage requested =>
    cases hp : w.naming.package <;> simp [step, unwatched, hp, done, failing]
  | close =>
    cases hc : w.closed <;> simp [step, unwatched, hc, done, note, Sink.close]
  | enter | pushName | setPackage | fail => rfl

theorem run_unwatched (steps : List Step) :
    w.unwatched.run steps = ⟨(w.run steps).fault, (w.run steps).scribe.unwatched⟩ := by
  induction steps generalizing w with
  | nil => rfl
  | cons x rest ih =>
    rw [run_cons, run_cons, step_unwatched]
    cases h : (w.step x).fault with
    | none => simpa using ih
    | some fault => simp [h]

theorem moveAll_unwatched (moves : List Move) :
    w.unwatched.moveAll moves = (w.moveAll moves).unwatched := by
  induction moves generalizing w with
  | nil => rfl
  | cons m moves ih =>
    have hm : (w.unwatched.move m).scribe = (w.move m).scribe.unwatched := by
      cases m with
      | call c => exact congrArg Reply.scribe (run_unwatched (c.steps w.nesting))
      | setUnit | setShortens => rfl
    rw [moveAll_cons, moveAll_cons, hm, ih]

end Scribe
end JavaScribe
