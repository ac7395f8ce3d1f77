import JavaScribe.Proofs.NameRuns

/-!
# Names by backtracking

The name at the head of a text is the first match of a pattern: words with a dot after each, as
many as possible, and then name characters, as many as possible. Where a choice turns out too
greedy it is taken back, the last one first. `ways` lists all matches in the order in which such a
search meets them, and `match?` is the first of them. Looked for from left to right, the matches are
the maximal runs of the text.
-/
namespace JavaScribe.Name

/-- The matches at the head of a text in the order in which they are tried, each with the text
that follows it. -/
abbrev Pattern := List Char → List (List Char × List Char)

namespace Pattern

def char (p : Char → Bool) : Pattern
  | [] => []
  | c :: cs => if p c then [([c], cs)] else []

def seq (a b : Pattern) : Pattern := fun cs =>
  (a cs).flatMap fun x => (b x.2).map fun y => (x.1 ++ y.1, y.2)

/-- More often before less often. -/
def upTo (a : Pattern) : ℕ → Pattern
  | 0 => fun cs => [([], cs)]
  | n + 1 => fun cs => seq a (upTo a n) cs ++ [([], cs)]

/-- A pattern any number of times, as often as possible first. A round takes at least one
character, so there are no more rounds than characters. -/
def star (a : Pattern) : Pattern := fun cs => upTo a cs.length cs

def plus (a : Pattern) : Pattern := seq a (star a)

lemma upTo_char (p : Char → Bool) {n : ℕ} {cs : List Char} (hn : cs.length ≤ n) :
    ∃ others, upTo (char p) n cs = (cs.takeWhile p, cs.dropWhile p) :: others ∧
      ∀ x ∈ others, ∃ c, x.2.head? = some c ∧ p c = true := by
  induction cs generalizing n with
  | nil => cases n <;> exact ⟨[], by simp [upTo, seq, char], by simp⟩
  | cons c cs ih =>
    obtain ⟨n, rfl⟩ : ∃ m, n = m + 1 := ⟨n - 1, by simp only [List.length_cons] at hn; omega⟩
    by_cases hc : p c = true
    · obtain ⟨others, he, ho⟩ := @ih n (by simpa using hn)
      refine ⟨others.map (fun x => (c :: x.1, x.2)) ++ [([], c :: cs)], ?_, ?_⟩
      · simp [upTo, seq, char, hc, he]
      · intro x hx
        rcases List.mem_append.mp hx with hx | hx
        · obtain ⟨y, hy, rfl⟩ := List.mem_map.mp hx
          exact ho y hy
        · simp only [List.mem_singleton] at hx
          subst hx
          exact ⟨c, rfl, hc⟩
    · exact ⟨[], by simp [upTo, seq, char, hc], by simp⟩

lemma plus_char_of_neg {p : Char → Bool} {cs : List Char} (h : cs.takeWhile p = []) :
    plus (char p) cs = [] := by
  cases cs with
  | nil => rfl
  | cons c cs =>
    have hc : p c = false := by simpa [List.takeWhile_cons] using h
    simp [plus, seq, char, hc]

lemma plus_char {p : Char → Bool} {cs : List Char} (h : cs.takeWhile p ≠ []) :
    ∃ others, plus (char p) cs = (cs.takeWhile p, cs.dropWhile p) :: others ∧
      ∀ x ∈ others, ∃ c, x.2.head? = some c ∧ p c = true := by
  cases cs with
  | nil => exact absurd rfl h
  | cons c cs =>
    have hc : p c = true := by
      by_contra hc
      exact h (by simp [hc])
    obtain ⟨others, he, ho⟩ := upTo_char p (le_refl cs.length)
    refine ⟨others.map (fun x => (c :: x.1, x.2)), ?_, ?_⟩
    · simp [plus, star, seq, char, hc, he]
    · intro x hx
      obtain ⟨y, hy, rfl⟩ := List.mem_map.mp hx
      exact ho y hy

end Pattern

open Pattern

def wordPattern : Pattern := seq (plus (char isWordChar)) (char (· == '.'))

def completions (x : List Char × List Char) : List Match :=
  (plus (char isNameChar) x.2).map fun y => ⟨x.1, y.1, y.2⟩

/-- All matches of a name at the head of a text: a qualifier, and then a simple name. -/
def ways (cs : List Char) : List Match := (star wordPattern cs).flatMap completions

/-- A shorter word would be followed by a letter and not by the dot, so nothing is taken back
inside a word. -/
lemma wordPattern_eq (cs : List Char) : wordPattern cs = (leadingWord? cs).toList := by
  by_cases h : cs.takeWhile isWordChar = []
  · simp [wordPattern, seq, plus_char_of_neg h, leadingWord?, h]
  · obtain ⟨others, he, ho⟩ := plus_char h
    have hs : ∀ x ∈ others, char (· == '.') x.2 = [] := by
      intro x hx
      obtain ⟨c, hc, hw⟩ := ho x hx
      cases hr : x.2 with
      | nil => rfl
      | cons d r =>
        rw [hr, List.head?_cons, Option.some.injEq] at hc
        subst hc
        have : d ≠ '.' := by
          rintro rfl
          exact absurd hw (by decide)
        simp [char, this]
    have hf : others.flatMap (fun x =>
        (char (· == '.') x.2).map fun y => (x.1 ++ y.1, y.2)) = [] := by
      rw [List.flatMap_eq_nil_iff]
      intro x hx
      simp [hs x hx]
    obtain ⟨c, word, hw⟩ := List.exists_cons_of_ne_nil h
    simp only [wordPattern, seq, he, List.flatMap_cons, hf, List.append_nil, leadingWord?, hw]
    cases hr : cs.dropWhile isWordChar with
    | nil => simp [char]
    | cons d r =>
      by_cases hd : d = '.'
      · subst hd
        simp [char]
      · simp [char, hd]

lemma completions_head? (cs : List Char) : (completions ([], cs)).head? = simple? cs := by
  by_cases h : cs.takeWhile isNameChar = []
  · simp [completions, plus_char_of_neg h, simple?, h]
  · obtain ⟨others, he, -⟩ := plus_char h
    obtain ⟨c, simple, hc⟩ := List.exists_cons_of_ne_nil h
    simp [completions, he, simple?, hc]

lemma flatMap_completions (word : List Char) (xs : List (List Char × List Char)) :
    (xs.map fun x => (word ++ x.1, x.2)).flatMap completions =
      (xs.flatMap completions).map fun m => { m with qualifier := word ++ m.qualifier } := by
  induction xs with
  | nil => rfl
  | cons x xs ih => simp [completions, Function.comp_def, ← ih]

lemma upTo_wordPattern_of_none {cs : List Char} (h : leadingWord? cs = none) (n : ℕ) :
    upTo wordPattern n cs = [([], cs)] := by
  cases n <;> simp [upTo, seq, wordPattern_eq, h]

lemma upTo_wordPattern_of_some {cs word rest : List Char}
    (h : leadingWord? cs = some (word, rest)) (n : ℕ) :
    upTo wordPattern (n + 1) cs =
      (upTo wordPattern n rest).map (fun x => (word ++ x.1, x.2)) ++ [([], cs)] := by
  simp [upTo, seq, wordPattern_eq, h]

theorem ways_head? (cs : List Char) : (ways cs).head? = match? cs := by
  suffices h : ∀ n, cs.length ≤ n →
      ((upTo wordPattern n cs).flatMap completions).head? = match? cs from h _ le_rfl
  -- by the recursion of `match?`; enough rounds are always left for the text that is left
  fun_induction match? cs with
  | case1 cs word rest hw m hm ih =>
    intro n hn
    have hl : rest.length < cs.length := leadingWord?_length hw
    obtain ⟨n, rfl⟩ : ∃ k, n = k + 1 := ⟨n - 1, by omega⟩
    have hi := ih n (by omega)
    rw [upTo_wordPattern_of_some hw, List.flatMap_append, flatMap_completions, List.head?_append,
      List.head?_map, hi, hm]
    rfl
  | case2 cs word rest hw hm ih =>
    intro n hn
    have hl : rest.length < cs.length := leadingWord?_length hw
    obtain ⟨n, rfl⟩ : ∃ k, n = k + 1 := ⟨n - 1, by omega⟩
    have hi := ih n (by omega)
    rw [upTo_wordPattern_of_some hw, List.flatMap_append, flatMap_completions, List.head?_append,
      List.head?_map, hi, hm]
    simpa using completions_head? cs
  | case3 cs hw =>
    intro n _
    rw [upTo_wordPattern_of_none hw]
    simpa using completions_head? cs

/-- The search of a text from left to right. A match is taken and the search goes on behind it;
where there is none, one character is passed over. -/
inductive Scanned : List Char → List Piece → Prop
  | nil : Scanned [] []
  | found {cs : List Char} {m : Match} {ps : List Piece} (h : (ways cs).head? = some m)
      (hr : Scanned m.rest ps) : Scanned cs (.name m.name :: ps)
  | passed {c : Char} {cs : List Char} {ps : List Piece} (h : ways (c :: cs) = [])
      (hr : Scanned cs ps) : Scanned (c :: cs) (.other c :: ps)

lemma ways_eq_nil_iff {cs : List Char} : ways cs = [] ↔ match? cs = none := by
  rw [← ways_head?, List.head?_eq_none_iff]

lemma scanned_pieces (cs : List Char) : Scanned cs (pieces cs) := by
  fun_induction pieces cs with
  | case1 => exact .nil
  | case2 c cs m h ih => exact .found ((ways_head? _).trans h) ih
  | case3 c cs h ih => exact .passed (ways_eq_nil_iff.mpr h) ih

theorem scanned_iff_cut {cs : List Char} {ps : List Piece} : Scanned cs ps ↔ Cut cs ps := by
  rw [cut_iff]
  constructor
  · intro h
    induction h with
    | nil => exact pieces_nil
    | found h hr ih => rw [pieces_of_match? ((ways_head? _).symm.trans h), ih]
    | @passed c cs ps h hr ih =>
      have hc : isNameChar c = false := by
        simpa [List.takeWhile_cons] using match?_eq_none_iff.mp (ways_eq_nil_iff.mp h)
      rw [pieces_other hc, ih]
  · rintro rfl
    exact scanned_pieces cs

end JavaScribe.Name
