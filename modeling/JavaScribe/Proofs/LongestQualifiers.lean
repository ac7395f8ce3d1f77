import JavaScribe.Proofs.NameBacktracking
import JavaScribe.Proofs.NameGrammar
import JavaScribe.Proofs.RegisteredImports
import JavaScribe.Text.Lines

/-!
# Longest qualifiers

A text has a short name when it is a name from end to end. The short name is what the longest
qualifier leaves: words with a dot after each, as many as there are before some character of the
name (`short?_eq_some_iff_qualified`). The search for a match that reaches the end of the text comes
to the same, however many others it meets on the way (`short?_eq_find?`).
-/
namespace JavaScribe.Name

/-- Words with a dot after each. -/
def Dotted (q : List Char) : Prop :=
  ∃ words : List (List Char), q = words.flatMap (· ++ ['.']) ∧
    ∀ w ∈ words, w ≠ [] ∧ ∀ c ∈ w, isWordChar c = true

/-- A name in two parts, of which the first is its longest qualifier. -/
structure Qualified (name q s : List Char) : Prop where
  whole : q ++ s = name
  dotted : Dotted q
  rest : s ≠ []
  longest : ∀ q' s', q' ++ s' = name → Dotted q' → s' ≠ [] → q'.length ≤ q.length

lemma dotted_nil : Dotted [] := ⟨[], rfl, by simp⟩

lemma Dotted.cons {word rest : List Char} (h : Dotted rest) (hn : word ≠ [])
    (hw : ∀ c ∈ word, isWordChar c = true) : Dotted (word ++ '.' :: rest) := by
  obtain ⟨words, rfl, hws⟩ := h
  refine ⟨word :: words, by simp, fun w hm => ?_⟩
  rcases List.mem_cons.mp hm with rfl | hm
  · exact ⟨hn, hw⟩
  · exact hws w hm

lemma Qualified.unique {name q q' s s' : List Char} (h : Qualified name q s)
    (h' : Qualified name q' s') : q = q' ∧ s = s' := by
  have hl : q.length = q'.length :=
    le_antisymm (h'.longest q s h.whole h.dotted h.rest)
      (h.longest q' s' h'.whole h'.dotted h'.rest)
  exact List.append_inj (h.whole.trans h'.whole.symm) hl

/-! ## What is matched -/

lemma match?_dotted {cs : List Char} {m : Match} (h : match? cs = some m) :
    Dotted m.qualifier := by
  fun_induction match? cs generalizing m with
  | case1 cs word rest hw m' hm ih =>
    obtain ⟨w, hn, hc, rfl, -⟩ := leadingWord?_eq_some_iff.mp hw
    rw [← Option.some.inj h]
    simpa using (ih hm).cons hn hc
  | case2 => exact simple?_qualifier h ▸ dotted_nil
  | case3 => exact simple?_qualifier h ▸ dotted_nil

/-- Where no word with more behind it stands at the head of the rest, no qualifier reaches into the
rest. By induction on the words, since the first words of both qualifiers are the same. -/
lemma length_le_of_dotted {words : List (List Char)} {q' s s' : List Char}
    (hw : ∀ w ∈ words, w ≠ [] ∧ ∀ c ∈ w, isWordChar c = true)
    (hs : ∀ word rest, leadingWord? s = some (word, rest) → rest = [])
    (h : q' ++ s' = words.flatMap (· ++ ['.']) ++ s) (hq : Dotted q') (hn : s' ≠ []) :
    q'.length ≤ (words.flatMap (· ++ ['.'])).length := by
  obtain ⟨words', rfl, hw'⟩ := hq
  induction words generalizing words' with
  | nil =>
    cases words' with
    | nil => simp
    | cons w' words' =>
      obtain ⟨hn', hc'⟩ := hw' w' (by simp)
      have hl : leadingWord? s = some (w' ++ ['.'], words'.flatMap (· ++ ['.']) ++ s') :=
        leadingWord?_eq_some_iff.mpr ⟨w', hn', hc', rfl, by simpa using h.symm⟩
      exact absurd (hs _ _ hl) (by simp [hn])
  | cons w words ih =>
    cases words' with
    | nil => simp
    | cons w' words' =>
      rw [List.forall_mem_cons] at hw hw'
      have hl := leadingWord?_word hw.1.1 hw.1.2 (words.flatMap (· ++ ['.']) ++ s)
      have hl' := leadingWord?_word hw'.1.1 hw'.1.2 (words'.flatMap (· ++ ['.']) ++ s')
      have he : w' ++ '.' :: (words'.flatMap (· ++ ['.']) ++ s') =
          w ++ '.' :: (words.flatMap (· ++ ['.']) ++ s) := by simpa using h
      rw [he, hl, Option.some.injEq, Prod.mk.injEq] at hl'
      have hi := ih hw.2 words' hw'.2 hl'.2.symm
      simp only [List.flatMap_cons, List.length_append, ← hl'.1] at hi ⊢
      omega

theorem match?_qualified {cs : List Char} {m : Match} (h : match? cs = some m) :
    Qualified m.name m.qualifier m.simple := by
  obtain ⟨words, hq, hw⟩ := match?_dotted h
  refine ⟨rfl, ⟨words, hq, hw⟩, match?_simple_ne_nil h, fun q' s' hc hd hn => ?_⟩
  rw [Match.name, hq] at hc
  rw [hq]
  exact length_le_of_dotted hw (fun _ _ => rest_of_leadingWord?_simple h) hc hd hn

/-- A text of name characters is matched from end to end. -/
lemma exists_match?_of_forall {cs : List Char} (hn : cs ≠ [])
    (hc : ∀ c ∈ cs, isNameChar c = true) : ∃ m, match? cs = some m ∧ m.name = cs ∧ m.rest = [] := by
  have ht : cs.takeWhile isNameChar = cs := List.takeWhile_eq_self_iff.mpr hc
  cases hm : match? cs with
  | none => exact absurd (ht.symm.trans (match?_eq_none_iff.mp hm)) hn
  | some m =>
    obtain ⟨h1, h2⟩ := match?_run hm
    exact ⟨m, rfl, h1.trans ht, h2.trans (List.dropWhile_eq_nil_iff.mpr hc)⟩

theorem short?_eq_some_iff_qualified {name short : String} :
    short? name = some short ↔
      (∀ c ∈ name.toList, isNameChar c = true) ∧ ∃ q, Qualified name.toList q short.toList := by
  constructor
  · intro h
    obtain ⟨q, hm⟩ := short?_eq_some_iff.mp h
    have hw : q ++ short.toList = name.toList := by simpa [Match.name] using match?_append hm
    exact ⟨Imports.isNameChar_of_short? h, q, hw ▸ match?_qualified hm⟩
  · rintro ⟨hc, q, hq⟩
    have hn : name.toList ≠ [] := hq.whole ▸ List.append_ne_nil_of_right_ne_nil _ hq.rest
    obtain ⟨m, hm, hname, hr⟩ := exists_match?_of_forall hn hc
    obtain ⟨-, hs⟩ := (hname ▸ match?_qualified hm).unique hq
    refine short?_eq_some_iff.mpr ⟨m.qualifier, ?_⟩
    rw [hm, ← hs, ← hr]

theorem exists_short?_iff {name : String} : (∃ short, short? name = some short) ↔
    name ≠ "" ∧ ∀ c ∈ name.toList, isNameChar c = true := by
  constructor
  · rintro ⟨short, h⟩
    obtain ⟨hc, q, hq⟩ := short?_eq_some_iff_qualified.mp h
    refine ⟨?_, hc⟩
    rintro rfl
    exact hq.rest (List.append_eq_nil_iff.mp hq.whole).2
  · rintro ⟨hn, hc⟩
    obtain ⟨m, hm, -, hr⟩ := exists_match?_of_forall (mt String.toList_eq_nil_iff.mp hn) hc
    exact ⟨String.ofList m.simple, short?_eq_some_iff.mpr
      ⟨m.qualifier, by rw [hm, String.toList_ofList, ← hr]⟩⟩

/-! ## Matches that reach the end -/

namespace Pattern

/-- What is matched stands at the head of the text and consists of such characters. -/
def Within (p : Char → Bool) (a : Pattern) : Prop :=
  ∀ cs, ∀ x ∈ a cs, x.1 ++ x.2 = cs ∧ ∀ c ∈ x.1, p c = true

variable {p q : Char → Bool} {a b : Pattern}

lemma within_char (h : ∀ c, q c = true → p c = true) : Within p (char q) := by
  intro cs x hx
  cases cs with
  | nil => simp [char] at hx
  | cons c cs =>
    by_cases hc : q c = true
    · obtain rfl : x = ([c], cs) := by simpa [char, hc] using hx
      exact ⟨rfl, by simpa using h c hc⟩
    · simp [char, hc] at hx

lemma Within.seq (ha : Within p a) (hb : Within p b) : Within p (seq a b) := by
  intro cs x hx
  obtain ⟨y, hy, hx⟩ := List.mem_flatMap.mp hx
  obtain ⟨z, hz, rfl⟩ := List.mem_map.mp hx
  obtain ⟨h1, hc1⟩ := ha cs y hy
  obtain ⟨h2, hc2⟩ := hb y.2 z hz
  exact ⟨by rw [List.append_assoc, h2, h1], List.forall_mem_append.mpr ⟨hc1, hc2⟩⟩

lemma Within.upTo (ha : Within p a) (n : ℕ) : Within p (upTo a n) := by
  induction n with
  | zero => simp [Within, Pattern.upTo]
  | succ n ih =>
    intro cs x hx
    rcases List.mem_append.mp hx with hx | hx
    · exact ha.seq ih cs x hx
    · obtain rfl := List.mem_singleton.mp hx
      exact ⟨rfl, by simp⟩

lemma Within.star (ha : Within p a) : Within p (star a) := fun cs => ha.upTo cs.length cs

lemma Within.plus (ha : Within p a) : Within p (plus a) := ha.seq ha.star

end Pattern

open Pattern

lemma mem_ways {cs : List Char} {m : Match} (h : m ∈ ways cs) :
    m.name ++ m.rest = cs ∧ ∀ c ∈ m.name, isNameChar c = true := by
  have hw : Within isNameChar wordPattern :=
    (within_char fun c => isNameChar_of_isWordChar).plus.seq
      (within_char fun c hc => by rw [beq_iff_eq.mp hc]; rfl)
  have hs : Within isNameChar (seq (star wordPattern) (plus (char isNameChar))) :=
    hw.star.seq (within_char fun _ => id).plus
  obtain ⟨x, hx, hm⟩ := List.mem_flatMap.mp h
  obtain ⟨y, hy, rfl⟩ := List.mem_map.mp hm
  exact hs cs (x.1 ++ y.1, y.2) (List.mem_flatMap.mpr ⟨x, hx, List.mem_map_of_mem hy⟩)

/-- If any match reaches the end, all characters are those of names, and then the first does. -/
theorem short?_eq_find? (name : String) : short? name =
    ((ways name.toList).find? (·.rest.isEmpty)).map fun m => String.ofList m.simple := by
  cases hm : match? name.toList with
  | none => simp [short?, hm, ways_eq_nil_iff.mpr hm]
  | some m =>
    obtain ⟨q, s, rest⟩ := m
    obtain ⟨others, hw⟩ := List.head?_eq_some_iff.mp ((ways_head? _).trans hm)
    cases rest with
    | nil => simp [short?, hm, hw]
    | cons c rest =>
      have hf : (ways name.toList).find? (·.rest.isEmpty) = none := by
        rw [List.find?_eq_none]
        intro x hx he
        obtain ⟨hname, hc⟩ := mem_ways hx
        rw [List.isEmpty_iff.mp he, List.append_nil] at hname
        rw [hname] at hc
        have hd := (match?_run hm).2
        rw [List.dropWhile_eq_nil_iff.mpr hc] at hd
        simp at hd
      simp [short?, hm, hf]

/-! ## Segments -/

lemma intercalate_concat (front : List (List Char)) (last : List Char) :
    ['.'].intercalate (front ++ [last]) = front.flatMap (· ++ ['.']) ++ last := by
  induction front with
  | nil => simp
  | cons seg front ih =>
    cases front with
    | nil => simp
    | cons seg' front => simpa [List.intercalate_cons_cons] using ih

lemma word_or_star_of_mem_splitOn {cs seg : List Char} (hc : ∀ c ∈ cs, isNameChar c = true)
    (hs : seg ∈ cs.splitOn '.') : ∀ c ∈ seg, isWordChar c = true ∨ c = '*' := by
  intro c hm
  obtain ⟨hin, hd⟩ := Text.mem_of_mem_splitOn hs c hm
  simpa [isNameChar, hd] using hc c hin

/-- A name whose segments are not empty and hold no star before the last has the last of them for
its short name. -/
theorem short?_eq_getLast? {name : String} (hc : ∀ c ∈ name.toList, isNameChar c = true)
    (hn : ∀ seg ∈ name.toList.splitOn '.', seg ≠ [])
    (hs : ∀ seg ∈ (name.toList.splitOn '.').dropLast, '*' ∉ seg) :
    (short? name).map String.toList = (name.toList.splitOn '.').getLast? := by
  have hw := fun seg => @word_or_star_of_mem_splitOn _ seg hc
  obtain hnil | ⟨front, last, hfl⟩ := (name.toList.splitOn '.').eq_nil_or_concat
  · exact absurd hnil (List.splitOn_ne_nil _ _)
  rw [List.concat_eq_append] at hfl
  have hname : name.toList = front.flatMap (· ++ ['.']) ++ last := by
    rw [← intercalate_concat, ← hfl, List.intercalate_splitOn]
  rw [hfl] at hn hs hw
  have hwords : ∀ w ∈ front, w ≠ [] ∧ ∀ c ∈ w, isWordChar c = true := by
    intro w hm
    refine ⟨hn w (by simp [hm]), fun c hcw => (hw w (by simp [hm]) c hcw).resolve_right ?_⟩
    rintro rfl
    exact hs w (by simpa using hm) hcw
  have hm := match?_segmented hwords (hn last (by simp)) (hw last (by simp))
  rw [hfl, short?, hname, hm]
  simp

/-- A text has a short name if it is a name from end to end, and no import can be made of any other.
The short name is never empty: it is all that the longest qualifier leaves, and what the first match
captures that reaches the end of the text. Where all segments have characters and only the last may
have stars, the short name is the last segment. -/
theorem short_name_behind_longest_qualifier (name : String) :
    ((∃ short, short? name = some short) ↔ name ≠ "" ∧ ∀ c ∈ name.toList, isNameChar c = true) ∧
    (short? name = none → ∀ t : Imports, t.add name = .error (.notQualified name)) ∧
    (∀ short, short? name = some short ↔ (∀ c ∈ name.toList, isNameChar c = true) ∧
      ∃ q, Qualified name.toList q short.toList) ∧
    (∀ short, short? name = some short → short ≠ "") ∧
    (short? name =
      ((ways name.toList).find? (·.rest.isEmpty)).map fun m => String.ofList m.simple) ∧
    ((∀ c ∈ name.toList, isNameChar c = true) → (∀ seg ∈ name.toList.splitOn '.', seg ≠ []) →
      (∀ seg ∈ (name.toList.splitOn '.').dropLast, '*' ∉ seg) →
        (short? name).map String.toList = (name.toList.splitOn '.').getLast? ∧
          ∀ short, short? name = some short → '.' ∉ short.toList) := by
  refine ⟨exists_short?_iff, fun hs t => by simp [Imports.add, hs],
    fun short => short?_eq_some_iff_qualified, ?_, short?_eq_find? name, fun hc hn hs => ?_⟩
  · rintro short hs rfl
    obtain ⟨-, q, hq⟩ := short?_eq_some_iff_qualified.mp hs
    exact hq.rest rfl
  · have hl := short?_eq_getLast? hc hn hs
    refine ⟨hl, fun short hshort hd => ?_⟩
    rw [hshort, Option.map_some] at hl
    exact (Text.mem_of_mem_splitOn (List.mem_of_getLast? hl.symm) '.' hd).2 rfl

/-- A trailing dot forces the last word out of the qualifier, and doubled dots and inner stars end
it early. -/
example : short? "a.b." = some "b." ∧ short? "a..b" = some ".b" ∧ short? "a.*.b" = some "*.b" := by
  decide +kernel

theorem short_name_of_nested_wildcard :
    (∀ c ∈ "java.util.Map$Entry.*".toList, isNameChar c = true) ∧
      (short? "java.util.Map$Entry.*").map String.toList = some ['*'] ∧
      ∃ q, Qualified "java.util.Map$Entry.*".toList q "*".toList := by
  have hc : ∀ c ∈ "java.util.Map$Entry.*".toList, isNameChar c = true :=
    List.all_eq_true.mp (by decide +kernel)
  obtain ⟨-, -, hiff, -, -, hl⟩ := short_name_behind_longest_qualifier "java.util.Map$Entry.*"
  have hsegments : "java.util.Map$Entry.*".toList.splitOn '.' =
      ["java".toList, "util".toList, "Map$Entry".toList, ['*']] := by decide +kernel
  obtain ⟨hlast, -⟩ := hl hc (by rw [hsegments]; decide) (by rw [hsegments]; decide)
  rw [hsegments] at hlast
  have hs : short? "java.util.Map$Entry.*" = some "*" := by decide +kernel
  exact ⟨hc, hlast, ((hiff "*").mp hs).2⟩

end JavaScribe.Name
