import JavaScribe.Proofs.Layout

/-!
# Lines on the page

Where neither the unit of indentation nor the lines have a line feed of their own, the page is cut
by its line feeds into just the lines that have been written (`splitOn_render`), each behind its
indentation, which can be taken away again.
-/
namespace JavaScribe.Line

/-- What stands between two line feeds. -/
def written (unit : String) (l : Line) : List Char :=
  (Scribe.indentation unit l.depth ++ l.text).toList

lemma not_mem_indentation {unit : String} {c : Char} (hu : c ∉ unit.toList) (depth : ℕ) :
    c ∉ (Scribe.indentation unit depth).toList := by
  simp only [Scribe.indentation, String.toList_join, List.mem_flatMap, not_exists, not_and]
  intro s hs
  rwa [List.eq_of_mem_replicate hs]

/-- Lines that are written without a line feed of their own are what the page is cut into. -/
theorem splitOn_render {unit : String} {lines : List Line} (hu : '\n' ∉ unit.toList)
    (hl : ∀ l ∈ lines, '\n' ∉ l.text.toList) :
    (render unit lines).toList.splitOn '\n' = lines.map (written unit) ++ [[]] := by
  induction lines with
  | nil => simp
  | cons l lines ih =>
    rw [List.forall_mem_cons] at hl
    have hw : '\n' ∉ l.written unit := by
      simpa [written] using ⟨not_mem_indentation hu l.depth, hl.1⟩
    have hr : (render unit (l :: lines)).toList =
        l.written unit ++ '\n' :: (render unit lines).toList := by
      simp [written]
    rw [hr, List.splitOn_append_cons_self_of_not_mem hw, ih hl.2]
    rfl

lemma dropPrefix?_append (indent l : List Char) : (indent ++ l).dropPrefix? indent = some l :=
  List.dropPrefix?_append_of_beq l (by simp)

/-- What can be read back line by line can be read back from all lines. -/
lemma mapM_map_eq_some {α β : Type} {f : α → β} {g : β → Option α} (h : ∀ a, g (f a) = some a)
    (as : List α) : (as.map f).mapM g = some as := by
  induction as with
  | nil => rfl
  | cons a as ih => simp [h, ih]

end JavaScribe.Line
