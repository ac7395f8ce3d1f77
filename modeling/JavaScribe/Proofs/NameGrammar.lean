import JavaScribe.Proofs.NameRuns

/-!
# Names made of segments

A name that is written as segments with dots between them, of which only the last may hold stars, is
matched from end to end, and its simple name is the last segment. Without stars it is `Plain`.
-/
namespace JavaScribe.Name

/-- Words with a dot after each, and a last segment that may hold stars. -/
def Segmented (cs : List Char) : Prop :=
  ∃ (words : List (List Char)) (last : List Char), cs = words.flatMap (· ++ ['.']) ++ last ∧
    (∀ w ∈ words, w ≠ [] ∧ ∀ c ∈ w, isWordChar c = true) ∧
    last ≠ [] ∧ ∀ c ∈ last, isWordChar c = true ∨ c = '*'

lemma leadingWord?_of_not_mem {cs : List Char} (h : '.' ∉ cs) : leadingWord? cs = none := by
  rw [Option.eq_none_iff_forall_ne_some]
  rintro ⟨word, rest⟩ hw
  obtain ⟨w, -, -, -, rfl⟩ := leadingWord?_eq_some_iff.mp hw
  exact h (by simp)

lemma match?_of_leadingWord? {cs word rest : List Char} {m : Match}
    (hw : leadingWord? cs = some (word, rest)) (hm : match? rest = some m) :
    match? cs = some { m with qualifier := word ++ m.qualifier } := by
  rw [match?]
  split
  · rename_i w r h
    rw [hw, Option.some.injEq, Prod.mk.injEq] at h
    obtain ⟨rfl, rfl⟩ := h
    rw [hm]
  · rename_i h
    simp [hw] at h

lemma match?_of_not_mem {cs : List Char} (h : '.' ∉ cs) : match? cs = simple? cs := by
  rw [match?]
  split
  · rename_i hw
    simp [leadingWord?_of_not_mem h] at hw
  · rfl

lemma isNameChar_last {last : List Char} (hl : ∀ c ∈ last, isWordChar c = true ∨ c = '*') :
    ∀ c ∈ last, isNameChar c = true := by
  intro c hc
  rcases hl c hc with h | rfl
  · exact isNameChar_of_isWordChar h
  · rfl

lemma not_mem_last {last : List Char} (hl : ∀ c ∈ last, isWordChar c = true ∨ c = '*') :
    '.' ∉ last := by
  intro h
  rcases hl '.' h with h | h
  · exact absurd h (by decide)
  · exact absurd h (by decide)

lemma match?_last {last : List Char} (hn : last ≠ [])
    (hl : ∀ c ∈ last, isWordChar c = true ∨ c = '*') : match? last = some ⟨[], last, []⟩ := by
  have ht : last.takeWhile isNameChar = last :=
    List.takeWhile_eq_self_iff.mpr (isNameChar_last hl)
  have hd : last.dropWhile isNameChar = [] :=
    List.dropWhile_eq_nil_iff.mpr (isNameChar_last hl)
  obtain ⟨c, cs, rfl⟩ := List.exists_cons_of_ne_nil hn
  rw [match?_of_not_mem (not_mem_last hl), simple?, ht, hd]

/-- Words with a dot after each belong to the qualifier if there is a name behind them. -/
theorem match?_words {words : List (List Char)} {rest : List Char} {m : Match}
    (hw : ∀ w ∈ words, w ≠ [] ∧ ∀ c ∈ w, isWordChar c = true) (hm : match? rest = some m) :
    match? (words.flatMap (· ++ ['.']) ++ rest) =
      some { m with qualifier := words.flatMap (· ++ ['.']) ++ m.qualifier } := by
  induction words with
  | nil => exact hm
  | cons word words ih =>
    obtain ⟨h1, h2⟩ := hw word (by simp)
    have hi := ih fun w hw' => hw w (by simp [hw'])
    have hs := leadingWord?_word h1 h2 (words.flatMap (· ++ ['.']) ++ rest)
    simpa using match?_of_leadingWord? hs hi

theorem match?_segmented {words : List (List Char)} {last : List Char}
    (hw : ∀ w ∈ words, w ≠ [] ∧ ∀ c ∈ w, isWordChar c = true) (hn : last ≠ [])
    (hl : ∀ c ∈ last, isWordChar c = true ∨ c = '*') :
    match? (words.flatMap (· ++ ['.']) ++ last) =
      some ⟨words.flatMap (· ++ ['.']), last, []⟩ := by
  simpa using match?_words hw (match?_last hn hl)

/-- The short name of a name made of segments is the last of them. -/
theorem short?_segmented {name : String} (h : Segmented name.toList) :
    ∃ last, short? name = some (String.ofList last) ∧ last ≠ [] ∧ '.' ∉ last ∧
      ∀ c ∈ last, isNameChar c = true := by
  obtain ⟨words, last, hc, hw, hn, hl⟩ := h
  have hm := match?_segmented hw hn hl
  refine ⟨last, ?_, hn, not_mem_last hl, isNameChar_last hl⟩
  rw [short?, hc, hm]

/-- Words with dots between them, without stars. -/
def Plain (cs : List Char) : Prop := Segmented cs ∧ '*' ∉ cs

namespace Plain
variable {cs : List Char}

lemma words (h : Plain cs) : ∃ words : List (List Char), cs ++ ['.'] = words.flatMap (· ++ ['.']) ∧
    ∀ w ∈ words, w ≠ [] ∧ ∀ c ∈ w, isWordChar c = true := by
  obtain ⟨⟨words, last, rfl, hw, hn, hl⟩, hs⟩ := h
  refine ⟨words ++ [last], by simp, fun w hm => ?_⟩
  rcases List.mem_append.mp hm with hm | hm
  · exact hw w hm
  · rw [List.mem_singleton.mp hm]
    refine ⟨hn, fun c hc => (hl c hc).resolve_right ?_⟩
    rintro rfl
    exact hs (by simp [hc])

lemma word_or_dot (h : Plain cs) : ∀ c ∈ cs, isWordChar c = true ∨ c = '.' := by
  obtain ⟨words, hc, hw⟩ := h.words
  intro c hm
  have hm' : c ∈ words.flatMap (· ++ ['.']) := hc ▸ List.mem_append_left _ hm
  obtain ⟨w, hw', hcw⟩ := List.mem_flatMap.mp hm'
  rcases List.mem_append.mp hcw with hcw | hcw
  · exact Or.inl ((hw w hw').2 c hcw)
  · exact Or.inr (List.mem_singleton.mp hcw)

lemma isNameChar (h : Plain cs) : ∀ c ∈ cs, isNameChar c = true := by
  intro c hc
  rcases h.word_or_dot c hc with hw | rfl
  · exact isNameChar_of_isWordChar hw
  · rfl

lemma getLast? (h : Plain cs) : ∃ c, cs.getLast? = some c ∧ c ≠ '.' := by
  obtain ⟨⟨words, last, rfl, -, hn, hl⟩, -⟩ := h
  refine ⟨last.getLast hn, by simp [List.getLast?_append, List.getLast?_eq_some_getLast hn], ?_⟩
  intro hd
  exact not_mem_last hl (hd ▸ List.getLast_mem hn)

end Plain

end JavaScribe.Name
