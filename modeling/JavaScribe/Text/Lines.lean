/-!
# Lines

A text is cut into lines at each line feed and nowhere else; the empty text is one empty line.
-/
namespace JavaScribe.Text

def linesOf : List Char → List (List Char)
  | [] => [[]]
  | c :: cs =>
    if c = '\n' then [] :: linesOf cs
    else match linesOf cs with
      | [] => [[c]]
      | l :: ls => (c :: l) :: ls

def lines (s : String) : List String := (linesOf s.toList).map String.ofList

def dropEmptyEnd (ls : List String) : List String :=
  (ls.reverse.dropWhile String.isEmpty).reverse

theorem linesOf_ne_nil (cs : List Char) : linesOf cs ≠ [] := by
  cases cs with
  | nil => simp [linesOf]
  | cons c cs =>
    simp only [linesOf]
    split
    · simp
    · split <;> simp

theorem intercalate_linesOf (cs : List Char) : ['\n'].intercalate (linesOf cs) = cs := by
  induction cs with
  | nil => rfl
  | cons c cs ih =>
    simp only [linesOf]
    split
    · rename_i h
      cases hl : linesOf cs with
      | nil => exact absurd hl (linesOf_ne_nil cs)
      | cons l ls => rw [hl] at ih; subst h; simpa [List.intercalate] using ih
    · cases hl : linesOf cs with
      | nil => exact absurd hl (linesOf_ne_nil cs)
      | cons l ls =>
        rw [hl] at ih
        subst ih
        cases ls <;> simp [List.intercalate]

theorem linesOf_eq_splitOn (cs : List Char) : linesOf cs = cs.splitOn '\n' := by
  induction cs with
  | nil => rfl
  | cons c cs ih =>
    rw [List.splitOn_cons_eq_if_modifyHead, ← ih, linesOf]
    by_cases hc : c = '\n'
    · simp [hc]
    · obtain ⟨l, ls, hl⟩ := List.exists_cons_of_ne_nil (linesOf_ne_nil cs)
      simp [hc, hl]

/-- A segment has only characters of the text, and not the one at which the text is cut. -/
theorem mem_of_mem_splitOn {cs seg : List Char} {c : Char} (h : seg ∈ cs.splitOn c) :
    ∀ d ∈ seg, d ∈ cs ∧ d ≠ c := by
  induction cs generalizing seg with
  | nil => simp_all
  | cons e cs ih =>
    have hcons : ∀ d, d ∈ cs ∧ d ≠ c → d ∈ e :: cs ∧ d ≠ c :=
      fun d => And.imp_left (List.mem_cons_of_mem e)
    rw [List.splitOn_cons_eq_if_modifyHead] at h
    split at h
    · rcases List.mem_cons.mp h with rfl | h
      · simp
      · exact fun d hd => hcons d (ih h d hd)
    · rename_i he
      obtain ⟨s, more, hs⟩ := List.exists_cons_of_ne_nil (List.splitOn_ne_nil c cs)
      rw [hs] at ih h
      rcases List.mem_cons.mp h with rfl | h
      · intro d hd
        rcases List.mem_cons.mp hd with rfl | hd'
        · exact ⟨List.mem_cons_self, fun hdc => he (by simp [hdc])⟩
        · exact hcons d (ih List.mem_cons_self d hd')
      · exact fun d hd => hcons d (ih (List.mem_cons_of_mem _ h) d hd)

end JavaScribe.Text
