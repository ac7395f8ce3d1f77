import JavaScribe.Proofs.Shortening
import JavaScribe.Text.Lines

/-!
# What stands between names

`bare` takes every name character out of a text. A name that is displayed is replaced by a part of
itself, so the shortest form of a text has the same characters between its names as the text
(`bare_shortenText`), line by line.
-/
namespace JavaScribe
open Name (isNameChar)

/-- A text without its name characters. -/
def bare (cs : List Char) : List Char := cs.filter fun c => !isNameChar c

@[simp] lemma bare_nil : bare [] = [] := rfl

@[simp] lemma bare_append (a b : List Char) : bare (a ++ b) = bare a ++ bare b := by
  simp [bare]

lemma bare_of_isNameChar {cs : List Char} (h : ∀ c ∈ cs, isNameChar c = true) : bare cs = [] := by
  simpa [bare] using h

lemma bare_other {c : Char} (h : isNameChar c = false) (cs : List Char) :
    bare (c :: cs) = c :: bare cs := by
  simp [bare, h]

namespace Naming
variable {t : Imports} {package name text out : String}

/-- A name is displayed by what it ends with. -/
lemma Shown.suffix (ht : t.Registered) (h : Shown t package name out) :
    out.toList <:+ name.toList := by
  cases h with
  | imported hm =>
    obtain ⟨lead, hl, -⟩ := Name.short?_lead (ht.short? hm)
    exact ⟨lead, hl.symm⟩
  | sibling _ hr | builtin _ _ hr => exact ⟨_, by rw [hr, String.toList_append]⟩
  | shadowed | unchanged => exact List.suffix_refl _

lemma bare_shortenPiece (ht : t.Registered) {p : Name.Piece} (hp : p.Proper) :
    bare (shortenPiece t package p) = bare p.toList := by
  cases p with
  | other c => rfl
  | name run =>
    have hr : ∀ c ∈ (String.ofList run).toList, isNameChar c = true := by
      simpa only [String.toList_ofList] using hp.2
    have hd : Shown t package _ _ := shown_shorten ht hr
    have hs := hd.suffix ht
    rw [Name.Piece.toList, bare_of_isNameChar hp.2]
    exact bare_of_isNameChar fun c hc => hr c (hs.mem hc)

theorem bare_shortenText (ht : t.Registered) (package text : String) :
    bare (shortenText t package text).toList = bare text.toList := by
  have hc := Name.pieces_cut text.toList
  rw [toList_shortenText]
  conv_rhs => rw [← hc.whole]
  simp only [bare, List.filter_flatMap]
  exact List.flatMap_congr fun p hp => bare_shortenPiece ht (hc.proper p hp)

end Naming

/-! ## Lines -/

lemma Text.linesOf_bare (cs : List Char) : Text.linesOf (bare cs) = (Text.linesOf cs).map bare := by
  induction cs with
  | nil => rfl
  | cons c cs ih =>
    by_cases hl : c = '\n'
    · subst hl
      have hb : bare ('\n' :: cs) = '\n' :: bare cs := bare_other (by decide) cs
      simp [Text.linesOf, hb, ih]
    · obtain ⟨l, ls, hs⟩ := List.exists_cons_of_ne_nil (Text.linesOf_ne_nil cs)
      rw [hs, List.map_cons] at ih
      have hc : Text.linesOf (c :: cs) = (c :: l) :: ls := by simp [Text.linesOf, hl, hs]
      rw [hc]
      cases hn : isNameChar c with
      | true =>
        have hb : ∀ rest, bare (c :: rest) = bare rest := fun rest => by simp [bare, hn]
        simp [hb, ih]
      | false =>
        simp [bare_other hn, Text.linesOf, hl, ih]

end JavaScribe
