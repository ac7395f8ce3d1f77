import JavaScribe.Proofs.StatementReading

/-!
# Reading a documentation comment back

A documentation comment has a line for each line of its text, up to the line feeds at the end of the
text. Each has a mark in front, and a blank behind the mark unless the line is empty. The lines tell
the text up to those line feeds (`javadoc_reads_back`); of a text that has nothing else they tell
whether it is empty.
-/
namespace JavaScribe

namespace Text

/-- A text without the line feeds at its end. -/
def trimmed (text : String) : String := String.ofList (text.toList.rdropWhile (· == '\n'))

lemma trimmed_eq_empty_iff {text : String} : trimmed text = "" ↔ ∀ c ∈ text.toList, c = '\n' := by
  rw [← String.toList_inj]
  simp [trimmed, List.rdropWhile_eq_nil_iff]

lemma exists_splitOn_concat {c : Char} (hc : c ≠ '\n') (cs : List Char) :
    ∃ ls l, (cs ++ [c]).splitOn '\n' = ls ++ [l ++ [c]] := by
  induction cs with
  | nil => exact ⟨[], [], by simp [List.splitOn_cons_eq_if_modifyHead, hc]⟩
  | cons d cs ih =>
    obtain ⟨ls, l, h⟩ := ih
    rw [List.cons_append, List.splitOn_cons_eq_if_modifyHead, h]
    by_cases hd : d = '\n'
    · exact ⟨[] :: ls, l, by simp [hd]⟩
    · cases ls with
      | nil => exact ⟨[], d :: l, by simp [hd]⟩
      | cons l' ls => exact ⟨(d :: l') :: ls, l, by simp [hd]⟩

/-- Empty lines at the end of a text come from line feeds at its end. If it has nothing else, its
first line is empty too. -/
lemma rdropWhile_splitOn (cs : List Char) :
    (cs.splitOn '\n').rdropWhile List.isEmpty =
      if cs.rdropWhile (· == '\n') = [] then []
      else (cs.rdropWhile (· == '\n')).splitOn '\n' := by
  -- From the end, since there the lines are dropped.
  induction cs using List.reverseRecOn with
  | nil => simp [List.rdropWhile_singleton]
  | append_singleton cs c ih =>
    by_cases hc : c = '\n'
    · subst hc
      rw [List.splitOn_append_cons_self, List.splitOn_nil, List.rdropWhile_concat_pos _ _ _ rfl, ih,
        List.rdropWhile_concat_pos _ _ _ rfl]
    · obtain ⟨ls, l, h⟩ := exists_splitOn_concat hc cs
      rw [List.rdropWhile_concat_neg _ _ _ (by simpa using hc), if_neg (by simp), h,
        List.rdropWhile_concat_neg _ _ _ (by simp)]

lemma dropEmptyEnd_map (ls : List (List Char)) :
    dropEmptyEnd (ls.map String.ofList) = (ls.rdropWhile List.isEmpty).map String.ofList := by
  have he : String.isEmpty ∘ String.ofList = List.isEmpty := by
    funext l
    cases l <;> simp
  simp [dropEmptyEnd, List.rdropWhile, ← List.map_reverse, List.dropWhile_map, he]

lemma dropEmptyEnd_lines (text : String) :
    dropEmptyEnd (lines text) =
      if trimmed text = "" then []
      else ((trimmed text).toList.splitOn '\n').map String.ofList := by
  have ht : trimmed text = "" ↔ text.toList.rdropWhile (· == '\n') = [] := by
    rw [← String.toList_inj]
    simp [trimmed]
  rw [lines, linesOf_eq_splitOn, dropEmptyEnd_map, rdropWhile_splitOn]
  by_cases h : trimmed text = ""
  · simp [h, ht.mp h]
  · rw [if_neg h, if_neg (mt ht.mpr h), trimmed, String.toList_ofList]

end Text

namespace Javadoc
open Line
open Scribe (indentation)

variable {unit : String} {depth : ℕ} {text other : String}

/-- A line behind its mark, with a blank between them unless the line is empty. -/
def decorated : List Char → List Char
  | [] => " *".toList
  | l => " * ".toList ++ l

def undecorated? (l : List Char) : Option (List Char) :=
  if l = " *".toList then some [] else l.dropPrefix? " * ".toList

/-- A line of a comment as it is on the page. -/
def placed (unit : String) (depth : ℕ) (l : List Char) : List Char :=
  written unit ⟨depth, String.ofList (decorated l)⟩

def plain? (unit : String) (depth : ℕ) (line : List Char) : Option (List Char) :=
  (line.dropPrefix? (indentation unit depth).toList).bind undecorated?

/-- The text whose lines stand in a comment at a depth. -/
def read? (unit : String) (depth : ℕ) (lines : List (List Char)) : Option String :=
  (lines.mapM (plain? unit depth)).map fun ls => String.ofList (['\n'].intercalate ls)

/-- The lines of a text that a comment has. -/
def kept (text : String) : List (List Char) :=
  if text = "" then [[]]
  else if Text.trimmed text = "" then []
  else (Text.trimmed text).toList.splitOn '\n'

/-- The text of a comment on the page. -/
def block (unit : String) (depth : ℕ) (text : String) : String :=
  render unit (javadocLines depth text)

/-! ## Marks -/

lemma undecorated?_decorated (l : List Char) : undecorated? (decorated l) = some l := by
  cases l with
  | nil => rfl
  | cons c l =>
    have hne : decorated (c :: l) ≠ " *".toList := by simp [decorated]
    rw [undecorated?, if_neg hne]
    exact dropPrefix?_append _ _

lemma not_mem_decorated {l : List Char} (hl : '\n' ∉ l) : '\n' ∉ decorated l := by
  cases l with
  | nil => decide
  | cons c l => simpa [decorated] using hl

lemma plain?_placed (l : List Char) : plain? unit depth (placed unit depth l) = some l := by
  simp [plain?, placed, written, dropPrefix?_append, undecorated?_decorated]

lemma placed_injective : Function.Injective (placed unit depth) := by
  intro l l' h
  have hp := congrArg (plain? unit depth) h
  rw [plain?_placed, plain?_placed] at hp
  exact Option.some.inj hp

theorem read?_placed (ls : List (List Char)) :
    read? unit depth (ls.map (placed unit depth)) =
      some (String.ofList (['\n'].intercalate ls)) := by
  rw [read?, mapM_map_eq_some plain?_placed]
  rfl

/-! ## Lines that are kept -/

lemma intercalate_kept (text : String) :
    String.ofList (['\n'].intercalate (kept text)) = Text.trimmed text := by
  by_cases he : text = ""
  · subst he
    decide
  · by_cases ht : Text.trimmed text = ""
    · simp [kept, he, ht]
    · rw [kept, if_neg he, if_neg ht, List.intercalate_splitOn, String.ofList_toList]

lemma not_mem_kept (text : String) : ∀ l ∈ kept text, '\n' ∉ l := by
  intro l hl
  unfold kept at hl
  split_ifs at hl
  · simp_all
  · simp at hl
  · exact fun hn => (Text.mem_of_mem_splitOn hl _ hn).2 rfl

/-- Only the empty text has nothing but an empty line. -/
lemma kept_eq_singleton_nil_iff : kept text = [[]] ↔ text = "" := by
  constructor
  · intro h
    by_contra he
    have ht : Text.trimmed text = "" := by
      rw [← intercalate_kept, h]
      rfl
    simp [kept, he, ht] at h
  · intro he
    simp [kept, he]

theorem kept_eq_iff :
    kept other = kept text ↔
      Text.trimmed other = Text.trimmed text ∧ (other = "" ↔ text = "") := by
  constructor
  · intro h
    constructor
    · rw [← intercalate_kept other, h, intercalate_kept]
    · rw [← kept_eq_singleton_nil_iff, h, kept_eq_singleton_nil_iff]
  · rintro ⟨ht, he⟩
    simp only [kept, ht, he]

lemma javadocLines_eq (depth : ℕ) (text : String) :
    javadocLines depth text = ⟨depth, "/**"⟩ ::
      ((kept text).map (fun l => ⟨depth, String.ofList (decorated l)⟩) ++ [⟨depth, " */"⟩]) := by
  have hk : (if text.isEmpty then Text.lines text else Text.dropEmptyEnd (Text.lines text)) =
      (kept text).map String.ofList := by
    by_cases he : text = ""
    · subst he
      rfl
    · rw [if_neg (by simpa using he), Text.dropEmptyEnd_lines, kept, if_neg he]
      split <;> rfl
  have hd : ∀ l : List Char,
      (if (String.ofList l).isEmpty then " *" else " * " ++ String.ofList l) =
        String.ofList (decorated l) := by
    intro l
    rw [← String.toList_inj]
    cases l <;> simp [decorated]
  simp only [javadocLines, hk, List.map_map, Function.comp_def, hd]

/-! ## The block on the page -/

theorem splitOn_block (hu : '\n' ∉ unit.toList) (depth : ℕ) (text : String) :
    (block unit depth text).toList.splitOn '\n' =
      written unit ⟨depth, "/**"⟩ :: (kept text).map (placed unit depth) ++
        [written unit ⟨depth, " */"⟩, []] := by
  have hn : ∀ l ∈ javadocLines depth text, '\n' ∉ l.text.toList := by
    rw [javadocLines_eq]
    simp only [List.forall_mem_cons, List.forall_mem_append, List.forall_mem_map]
    refine ⟨by decide, fun l hl => ?_, by decide⟩
    rw [String.toList_ofList]
    exact not_mem_decorated (not_mem_kept text l hl)
  rw [block, splitOn_render hu hn, javadocLines_eq]
  simp [placed, Function.comp_def]

theorem block_eq_iff (hu : '\n' ∉ unit.toList) (depth : ℕ) (text other : String) :
    block unit depth other = block unit depth text ↔
      Text.trimmed other = Text.trimmed text ∧ (other = "" ↔ text = "") := by
  rw [← kept_eq_iff]
  constructor
  · intro h
    have hs := splitOn_block hu depth other
    rw [h, splitOn_block hu depth text] at hs
    have hi := List.append_cancel_right (List.cons.inj hs).2
    exact (List.map_injective_iff.mpr placed_injective hi).symm
  · intro h
    simp only [block, javadocLines_eq, h]

end Javadoc

namespace Scribe
open Javadoc Line Sink

variable {σ : Type} [Sink σ] {w : Scribe σ}

/-- A documentation comment opens and closes with a line of its own. Between them there is nothing
if the text has only line feeds, a bare mark if it is empty, and else a line for each line of the
text without the line feeds at its end, from which the text without them is read back. So two texts
have the same comment exactly if they agree up to those line feeds and both or none is empty. -/
theorem javadoc_reads_back (ha : Accepts w.sink) (hu : '\n' ∉ w.unit.toList) {pattern : Value}
    {arguments : List Value} {text : String}
    (hf : Argument.filledText pattern arguments = .ok text) :
    ∃ w' inner,
      w.perform (.javadoc pattern arguments) = ⟨none, w'⟩ ∧ w'.setting = w.setting ∧
      Wrote w.sink (block w.unit w.depth text) w'.sink ∧
      (block w.unit w.depth text).toList.splitOn '\n' =
        Line.written w.unit ⟨w.depth, "/**"⟩ :: inner ++
          [Line.written w.unit ⟨w.depth, " */"⟩, []] ∧
      (text = "" → inner = [Line.written w.unit ⟨w.depth, " *"⟩]) ∧
      (text ≠ "" → (∀ c ∈ text.toList, c = '\n') → inner = []) ∧
      ((∃ c ∈ text.toList, c ≠ '\n') →
        inner = ((Text.trimmed text).toList.splitOn '\n').map (placed w.unit w.depth) ∧
        read? w.unit w.depth inner = some (Text.trimmed text)) ∧
      ∀ other, block w.unit w.depth other = block w.unit w.depth text ↔
        Text.trimmed other = Text.trimmed text ∧ (other = "" ↔ text = "") := by
  have hc : w.setting.call? (.javadoc pattern arguments) =
      some (block w.unit w.depth text, w.setting) := by
    simp only [Setting.call?, Call.steps, Call.javadocSteps, hf, Step.after_ok]
    exact Setting.run?_javadoc text
  obtain ⟨w', hw, hset, hwrote⟩ := run_of_run? ha hc
  refine ⟨w', _, hw, hset, hwrote, splitOn_block hu w.depth text, ?_, ?_, ?_,
    fun other => block_eq_iff hu w.depth text other⟩
  · intro he
    rw [kept_eq_singleton_nil_iff.mpr he]
    rfl
  · intro he hl
    simp [kept, he, Text.trimmed_eq_empty_iff.mpr hl]
  · rintro ⟨c, hc, hn⟩
    have ht : Text.trimmed text ≠ "" := fun ht => hn (Text.trimmed_eq_empty_iff.mp ht c hc)
    have he : text ≠ "" := by
      rintro rfl
      simp at hc
    refine ⟨by rw [kept, if_neg he, if_neg ht], ?_⟩
    rw [read?_placed, intercalate_kept]

/-- A text with an empty line, a line of blanks, lines that look like marks, and line feeds at its
end, one of which an argument has brought. -/
theorem javadoc_of_marks_reads_back :
    Accepts inMethod.sink ∧ '\n' ∉ inMethod.unit.toList ∧
      Argument.filledText " *\n\n  \n%s\n\n" [.text " * x\n"] = .ok " *\n\n  \n * x\n\n\n" ∧
      ∃ w' inner,
        inMethod.perform (.javadoc " *\n\n  \n%s\n\n" [.text " * x\n"]) = ⟨none, w'⟩ ∧
        w'.sink.text.toList.splitOn '\n' = "    /**".toList :: inner ++ ["     */".toList, []] ∧
        inner.length = 4 ∧ read? "  " 2 inner = some " *\n\n  \n * x" ∧
        block "  " 2 " *\n\n  \n * x" = w'.sink.text := by
  have ha : Accepts inMethod.sink := Page.accepts rfl rfl rfl
  have hu : '\n' ∉ inMethod.unit.toList := by decide
  have hf : Argument.filledText " *\n\n  \n%s\n\n" [.text " * x\n"] =
      .ok " *\n\n  \n * x\n\n\n" := by decide +kernel
  have ht : Text.trimmed " *\n\n  \n * x\n\n\n" = " *\n\n  \n * x" := by decide +kernel
  have htt : Text.trimmed " *\n\n  \n * x" = " *\n\n  \n * x" := by decide +kernel
  obtain ⟨w', inner, hw, -, hwrote, hsplit, -, -, hinner, hsame⟩ := javadoc_reads_back ha hu hf
  obtain ⟨hlines, hread⟩ := hinner ⟨'x', by decide +kernel, by decide⟩
  have hpage : w'.sink.text = block "  " 2 " *\n\n  \n * x\n\n\n" := by
    rw [(Page.wrote_iff rfl rfl rfl).mp hwrote]
    exact String.empty_append
  have hlength : ((" *\n\n  \n * x" : String).toList.splitOn '\n').length = 4 := by decide +kernel
  refine ⟨ha, hu, hf, w', inner, hw, hpage ▸ hsplit, ?_, ht ▸ hread, ?_⟩
  · rw [hlines, ht, List.length_map, hlength]
  · rw [hpage]
    exact (hsame _).mpr ⟨by rw [ht, htt], by decide +kernel⟩

end Scribe
end JavaScribe
