import JavaScribe.Proofs.Emission
import JavaScribe.Proofs.WrittenLines

/-!
# Reading a statement back

The lines of a statement are the lines of its text, each behind the indentation of its place, with a
mark at the end of the last. Both can be taken away again, so the lines tell the text
(`statement_reads_back`), whatever line feeds it has and wherever they have come from.
-/
namespace JavaScribe

namespace Hanging
open Line
open Scribe (indentation)

variable {unit : String} {depth : ℕ} {ls : List (List Char)}

/-- Lines with a mark at the end of the last. -/
def marked : List (List Char) → List (List Char)
  | [] => []
  | [l] => [l ++ [';']]
  | l :: l' :: more => l :: marked (l' :: more)

def unmarked? : List (List Char) → Option (List (List Char))
  | [] => none
  | [l] => (l.dropSuffix? [';']).map fun l => [l]
  | l :: l' :: more => (unmarked? (l' :: more)).map (l :: ·)

/-- Lines of which all but the first hang two units deeper. -/
def placed (depth : ℕ) : List (List Char) → List Line
  | [] => []
  | l :: more => ⟨depth, String.ofList l⟩ :: more.map fun l => ⟨depth + 2, String.ofList l⟩

def outdented? (unit : String) (depth : ℕ) : List (List Char) → Option (List (List Char))
  | [] => none
  | l :: more => do
    let first ← l.dropPrefix? (indentation unit depth).toList
    let others ← more.mapM (·.dropPrefix? (indentation unit (depth + 2)).toList)
    return first :: others

/-- The text whose lines have been written at a depth. -/
def read? (unit : String) (depth : ℕ) (lines : List (List Char)) : Option String := do
  let texts ← outdented? unit depth lines
  let ls ← unmarked? texts
  return String.ofList (['\n'].intercalate ls)

lemma marked_ne_nil (h : ls ≠ []) : marked ls ≠ [] := by
  fun_cases marked ls with
  | case1 => exact h
  | case2 => simp
  | case3 => simp

lemma length_marked (ls : List (List Char)) : (marked ls).length = ls.length := by
  fun_induction marked ls with
  | case1 => rfl
  | case2 => rfl
  | case3 l l' more ih => simp [ih]

lemma not_mem_marked {c : Char} (hc : c ≠ ';') (h : ∀ l ∈ ls, c ∉ l) :
    ∀ l ∈ marked ls, c ∉ l := by
  fun_induction marked ls with
  | case1 => exact h
  | case2 l => simpa [hc] using h
  | case3 l l' more ih =>
    rw [List.forall_mem_cons] at h ⊢
    exact ⟨h.1, ih h.2⟩

lemma unmarked?_cons (h : ls ≠ []) (l : List Char) :
    unmarked? (l :: ls) = (unmarked? ls).map (l :: ·) := by
  cases ls with
  | nil => exact absurd rfl h
  | cons l' more => rfl

theorem unmarked?_marked (h : ls ≠ []) : unmarked? (marked ls) = some ls := by
  fun_induction marked ls with
  | case1 => exact absurd rfl h
  | case2 l =>
    have hs : (l ++ [';']).dropSuffix? [';'] = some l :=
      List.dropSuffix?_eq_some_iff.mpr ⟨[';'], rfl, by simp⟩
    simp [unmarked?, hs]
  | case3 l l' more ih =>
    rw [unmarked?_cons (marked_ne_nil (List.cons_ne_nil l' more)), ih (List.cons_ne_nil l' more)]
    rfl

lemma not_mem_placed {c : Char} (h : ∀ l ∈ ls, c ∉ l) :
    ∀ l ∈ placed depth ls, c ∉ l.text.toList := by
  cases ls with
  | nil => simp [placed]
  | cons l more => simpa [placed] using h

theorem outdented?_placed (h : ls ≠ []) :
    outdented? unit depth ((placed depth ls).map (written unit)) = some ls := by
  obtain ⟨l, more, rfl⟩ := List.exists_cons_of_ne_nil h
  have hm : (more.map fun l => written unit ⟨depth + 2, String.ofList l⟩).mapM
      (·.dropPrefix? (indentation unit (depth + 2)).toList) = some more :=
    mapM_map_eq_some (fun l => by simp [written, dropPrefix?_append]) more
  simp only [placed, List.map_cons, List.map_map, Function.comp_def, outdented?, hm]
  simp [written, dropPrefix?_append]

/-- A mark at the end is a mark on the last line. -/
lemma listed_eq (depth : ℕ) (ls : List (List Char)) :
    listed "" ";" (fun l mark => [⟨depth, l ++ mark⟩]) (ls.map String.ofList) =
      (marked ls).map fun l => ⟨depth, String.ofList l⟩ := by
  fun_induction marked ls with
  | case1 => rfl
  | case2 l => simp [listed, String.ofList_append]
  | case3 l l' more ih =>
    simp only [List.map_cons] at ih
    simp [listed, ih]

lemma hanging_eq (depth : ℕ) (ls : List (List Char)) :
    hanging depth (ls.map String.ofList) = placed depth (marked ls) := by
  fun_cases marked ls with
  | case1 => rfl
  | case2 l => simp [hanging, placed, String.ofList_append]
  | case3 l l' more =>
    have hl := listed_eq (depth + 2) (l' :: more)
    simp only [List.map_cons] at hl
    simp [hanging, placed, hl]

/-- Lines that hang under the first are read back. -/
theorem reads_back (hu : '\n' ∉ unit.toList) (depth : ℕ) (text : String) :
    ∃ first others,
      (render unit (hanging depth (Text.lines text))).toList.splitOn '\n' =
        first :: others ++ [[]] ∧
      (first :: others).length = (text.toList.splitOn '\n').length ∧
      (indentation unit depth).toList <+: first ∧
      (∀ l ∈ others, (indentation unit (depth + 2)).toList <+: l) ∧
      read? unit depth (first :: others) = some text := by
  have hls := List.splitOn_ne_nil '\n' text.toList
  have hlines : hanging depth (Text.lines text) =
      placed depth (marked (text.toList.splitOn '\n')) := by
    rw [Text.lines, Text.linesOf_eq_splitOn, hanging_eq]
  have hmem : ∀ l ∈ marked (text.toList.splitOn '\n'), '\n' ∉ l :=
    not_mem_marked (by decide) fun l hl hn => (Text.mem_of_mem_splitOn hl _ hn).2 rfl
  obtain ⟨l, more, hm⟩ := List.exists_cons_of_ne_nil (marked_ne_nil hls)
  have hout : outdented? unit depth ((placed depth (l :: more)).map (written unit)) =
      some (l :: more) := outdented?_placed (List.cons_ne_nil l more)
  rw [hlines, splitOn_render hu (not_mem_placed hmem), hm]
  refine ⟨_, _, rfl, ?_, ?_, ?_, ?_⟩
  · rw [← length_marked (text.toList.splitOn '\n'), hm]
    simp
  · simp [written]
  · simp [written]
  · have hr : unmarked? (l :: more) = some (text.toList.splitOn '\n') :=
      hm ▸ unmarked?_marked hls
    have hread : read? unit depth ((placed depth (l :: more)).map (written unit)) =
        some (String.ofList (['\n'].intercalate (text.toList.splitOn '\n'))) := by
      simp only [read?, hout, hr, Option.bind_eq_bind, Option.bind_some, Option.pure_def]
    rwa [List.intercalate_splitOn, String.ofList_toList] at hread

end Hanging

namespace Scribe
open Hanging Sink

variable {σ : Type} [Sink σ] {w : Scribe σ}

/-- The text of a statement that is written at a place for statements is cut by line feeds into one
line for each line of the statement, and nothing after the last. The first line has the indentation
of its place and the others have two units more, also where nothing follows. Without the units and
without the mark on the last line they are the lines of the statement. -/
theorem statement_reads_back (ha : Accepts w.sink) (hu : '\n' ∉ w.unit.toList)
    (hs : w.scopes.top ∈ Scope.statementScopes.map some) {pattern : Value}
    {arguments : List Value} {text : String}
    (hf : Argument.filledText pattern arguments = .ok text) :
    ∃ w' page first others,
      w.perform (.statement pattern arguments) = ⟨none, w'⟩ ∧ w'.setting = w.setting ∧
      Wrote w.sink page w'.sink ∧
      page.toList.splitOn '\n' = first :: others ++ [[]] ∧
      (first :: others).length = (text.toList.splitOn '\n').length ∧
      (indentation w.unit w.depth).toList <+: first ∧
      (∀ l ∈ others, (indentation w.unit (w.depth + 2)).toList <+: l) ∧
      read? w.unit w.depth (first :: others) = some text := by
  have hc : w.setting.call? (.statement pattern arguments) = some (_, w.setting) :=
    Setting.call?_statement hs ⟨pattern, arguments, text, hf⟩
  obtain ⟨w', hw, hset, hwrote⟩ := run_of_run? ha hc
  obtain ⟨first, others, hlines⟩ := reads_back hu w.depth text
  exact ⟨w', _, first, others, hw, hset, hwrote, hlines⟩

def inMethod : Scribe Page := { sink := {}, scopes := [.methodBody, .typeBody], types := ["Foo"] }

/-- A text with a unit of indentation inside, a line feed at each end and one that an argument has
brought. A carriage return and a line separator stay in their lines. -/
theorem ragged_statement_reads_back :
    Accepts inMethod.sink ∧ '\n' ∉ inMethod.unit.toList ∧
      inMethod.scopes.top ∈ Scope.statementScopes.map some ∧
      Argument.filledText "\n  f(%s);\r\n" [.text "a,\n  b\u2028"] =
        .ok "\n  f(a,\n  b\u2028);\r\n" ∧
      ∃ w' first others,
        inMethod.perform (.statement "\n  f(%s);\r\n" [.text "a,\n  b\u2028"]) = ⟨none, w'⟩ ∧
        w'.sink.text.toList.splitOn '\n' = first :: others ++ [[]] ∧ others.length = 3 ∧
        read? "  " 2 (first :: others) = some "\n  f(a,\n  b\u2028);\r\n" := by
  have ha : Accepts inMethod.sink := Page.accepts rfl rfl rfl
  have hu : '\n' ∉ inMethod.unit.toList := by decide
  have hs : inMethod.scopes.top ∈ Scope.statementScopes.map some := by decide
  have hf : Argument.filledText "\n  f(%s);\r\n" [.text "a,\n  b\u2028"] =
      .ok "\n  f(a,\n  b\u2028);\r\n" := by decide +kernel
  obtain ⟨w', page, first, others, hw, -, hwrote, hsplit, hlength, -, -, hread⟩ :=
    statement_reads_back ha hu hs hf
  have hpage : w'.sink.text = page := by
    rw [(Page.wrote_iff rfl rfl rfl).mp hwrote]
    exact String.empty_append
  have hfour : ("\n  f(a,\n  b\u2028);\r\n".toList.splitOn '\n').length = 4 := by decide +kernel
  exact ⟨ha, hu, hs, hf, w', first, others, hw, hpage ▸ hsplit,
    Nat.succ.inj (hlength.trans hfour), hread⟩

end Scribe
end JavaScribe
