import JavaScribe.Sink
import Mathlib

/-!
# Sinks that take every text

A sink that `Accepts` refuses no text, whatever has been written before. `Wrote` says that a sink
has taken a text, in whatever pieces. A page that is open, not full and without a rejected text
accepts, and a text that is written to it stands at its end.
-/
namespace JavaScribe.Sink
variable {σ : Type} [Sink σ]

def writeAll (s : σ) (texts : List String) : σ := texts.foldl (fun s t => (write s t).2) s

def Accepts (s : σ) : Prop := ∀ before text, (write (writeAll s before) text).1 = none

def Wrote (s : σ) (text : String) (s' : σ) : Prop :=
  ∃ pieces, String.join pieces = text ∧ s' = writeAll s pieces

lemma writeAll_append (s : σ) (a b : List String) :
    writeAll s (a ++ b) = writeAll (writeAll s a) b := by
  simp [writeAll]

lemma Wrote.refl (s : σ) : Wrote s "" s := ⟨[], by simp, rfl⟩

lemma Wrote.one (s : σ) (text : String) : Wrote s text (write s text).2 := ⟨[text], by simp, rfl⟩

lemma Wrote.trans {s s' s'' : σ} {a b : String} (h : Wrote s a s') (g : Wrote s' b s'') :
    Wrote s (a ++ b) s'' := by
  obtain ⟨xs, rfl, rfl⟩ := h
  obtain ⟨ys, rfl, rfl⟩ := g
  exact ⟨xs ++ ys, String.join_append, (writeAll_append s xs ys).symm⟩

lemma Accepts.write_eq {s : σ} (h : Accepts s) (text : String) :
    write s text = (none, (write s text).2) := by
  have := h [] text
  exact Prod.ext this rfl

lemma Accepts.wrote {s s' : σ} {text : String} (h : Accepts s) (g : Wrote s text s') :
    Accepts s' := by
  obtain ⟨xs, rfl, rfl⟩ := g
  intro before text
  rw [← writeAll_append]
  exact h (xs ++ before) text

end JavaScribe.Sink

namespace JavaScribe.Page
open Sink

lemma writeAll_eq {p : Page} (hc : p.closes = 0) (hf : p.full = false) (hr : p.rejects = none)
    (texts : List String) : writeAll p texts = { p with text := p.text ++ String.join texts } := by
  induction texts generalizing p with
  | nil => simp [writeAll]
  | cons t ts ih =>
    have hw := write_of_refusal?_eq_none (refusal?_eq_none hc hf hr t)
    have hi := @ih { p with text := p.text ++ t } hc hf hr
    rw [writeAll, List.foldl_cons, hw]
    exact hi.trans (by simp [String.append_assoc])

theorem accepts {p : Page} (hc : p.closes = 0) (hf : p.full = false) (hr : p.rejects = none) :
    Accepts p := by
  intro before text
  rw [writeAll_eq hc hf hr]
  have hn : refusal? { p with text := p.text ++ String.join before } text = none :=
    refusal?_eq_none hc hf hr text
  rw [write_of_refusal?_eq_none hn]

theorem wrote_iff {p p' : Page} (hc : p.closes = 0) (hf : p.full = false) (hr : p.rejects = none)
    {text : String} : Wrote p text p' ↔ p' = { p with text := p.text ++ text } := by
  constructor
  · intro h
    obtain ⟨xs, rfl, rfl⟩ := h
    exact writeAll_eq hc hf hr xs
  · intro h
    exact ⟨[text], by simp, by rw [writeAll_eq hc hf hr]; simpa using h⟩

end JavaScribe.Page
