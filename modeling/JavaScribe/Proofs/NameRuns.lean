import JavaScribe.Name
import Mathlib

/-!
# Maximal runs of name characters

`Cut` says what it means to cut a text into its maximal runs of name characters and the characters
between them. A text has exactly one cut, and `pieces` finds it: a name that is matched at the head
of a text takes all name characters there, however its dots and stars stand.
-/
namespace JavaScribe.Name

def Piece.isName : Piece → Bool
  | .name _ => true
  | .other _ => false

def Piece.Proper : Piece → Prop
  | .name cs => cs ≠ [] ∧ ∀ c ∈ cs, isNameChar c = true
  | .other c => isNameChar c = false

def Piece.Apart (p q : Piece) : Prop := p.isName = false ∨ q.isName = false

/-- No two runs stand next to each other, since they would be one. -/
structure Cut (cs : List Char) (ps : List Piece) : Prop where
  whole : ps.flatMap Piece.toList = cs
  proper : ∀ p ∈ ps, p.Proper
  maximal : ps.IsChain Piece.Apart

lemma isNameChar_of_isWordChar {c : Char} (h : isWordChar c = true) : isNameChar c = true := by
  simp [isNameChar, h]

lemma takeWhile_of_head? {p : Char → Bool} {cs : List Char}
    (h : ∀ c, cs.head? = some c → p c = false) : cs.takeWhile p = [] := by
  cases cs with
  | nil => rfl
  | cons c cs => simp [h c rfl]

lemma dropWhile_of_head? {p : Char → Bool} {cs : List Char}
    (h : ∀ c, cs.head? = some c → p c = false) : cs.dropWhile p = cs := by
  cases cs with
  | nil => rfl
  | cons c cs => simp [h c rfl]

lemma head?_dropWhile_isNameChar {cs : List Char} {c : Char}
    (h : (cs.dropWhile isNameChar).head? = some c) : isNameChar c = false := by
  have := List.head?_dropWhile_not isNameChar cs
  simpa [h] using this

/-! What is matched at the head of a text -/

lemma leadingWord?_word {word : List Char} (hn : word ≠ [])
    (hw : ∀ c ∈ word, isWordChar c = true) (rest : List Char) :
    leadingWord? (word ++ '.' :: rest) = some (word ++ ['.'], rest) := by
  have hs : ∀ c, ('.' :: rest).head? = some c → isWordChar c = false := by
    intro c hc
    simp only [List.head?_cons, Option.some.injEq] at hc
    exact hc ▸ rfl
  have ht : (word ++ '.' :: rest).takeWhile isWordChar = word := by
    rw [List.takeWhile_append_of_pos hw, takeWhile_of_head? hs, List.append_nil]
  have hd : (word ++ '.' :: rest).dropWhile isWordChar = '.' :: rest := by
    rw [List.dropWhile_append_of_pos hw, dropWhile_of_head? hs]
  obtain ⟨c, cs, rfl⟩ := List.exists_cons_of_ne_nil hn
  simp only [leadingWord?, ht, hd]

theorem leadingWord?_eq_some_iff {cs word rest : List Char} :
    leadingWord? cs = some (word, rest) ↔
      ∃ w, w ≠ [] ∧ (∀ c ∈ w, isWordChar c = true) ∧ word = w ++ ['.'] ∧ cs = w ++ '.' :: rest := by
  constructor
  · intro h
    have hcs := leadingWord?_append h
    unfold leadingWord? at h
    split at h
    · rename_i c w r hw hr
      rw [Option.some.injEq, Prod.mk.injEq] at h
      obtain ⟨rfl, rfl⟩ := h
      refine ⟨c :: w, by simp, fun d hd => ?_, rfl, by simpa using hcs.symm⟩
      rw [← hw] at hd
      exact List.mem_takeWhile_imp hd
    · exact absurd h (by simp)
  · rintro ⟨w, hn, hw, rfl, rfl⟩
    exact leadingWord?_word hn hw rest

lemma leadingWord?_isNameChar {cs word rest : List Char}
    (h : leadingWord? cs = some (word, rest)) : ∀ c ∈ word, isNameChar c = true := by
  obtain ⟨w, -, hw, rfl, -⟩ := leadingWord?_eq_some_iff.mp h
  intro c hc
  rcases List.mem_append.mp hc with hc | hc
  · exact isNameChar_of_isWordChar (hw c hc)
  · rw [List.mem_singleton.mp hc]
    rfl

lemma leadingWord?_getLast? {cs word rest : List Char}
    (h : leadingWord? cs = some (word, rest)) : word.getLast? = some '.' := by
  obtain ⟨w, -, -, rfl, -⟩ := leadingWord?_eq_some_iff.mp h
  exact List.getLast?_concat

lemma simple?_qualifier {cs : List Char} {m : Match} (h : simple? cs = some m) :
    m.qualifier = [] := by
  unfold simple? at h
  split at h
  · exact absurd h (by simp)
  · rw [← Option.some.inj h]

lemma match?_qualifier {cs : List Char} {m : Match} (h : match? cs = some m) :
    m.qualifier = [] ∨ m.qualifier.getLast? = some '.' := by
  fun_induction match? cs generalizing m with
  | case1 cs word rest hw m' hm ih =>
    right
    rw [← Option.some.inj h]
    rcases ih hm with hq | hq
    · simpa [hq] using leadingWord?_getLast? hw
    · simp [List.getLast?_append, hq]
  | case2 => exact Or.inl (simple?_qualifier h)
  | case3 => exact Or.inl (simple?_qualifier h)

/-- A name with a short name is matched from end to end. -/
theorem short?_eq_some_iff {name short : String} :
    short? name = some short ↔ ∃ q, match? name.toList = some ⟨q, short.toList, []⟩ := by
  constructor
  · intro h
    unfold short? at h
    split at h
    · rename_i q simple hm
      obtain rfl := Option.some.inj h
      exact ⟨q, by rw [hm, String.toList_ofList]⟩
    · exact absurd h (by simp)
  · rintro ⟨q, hm⟩
    simp [short?, hm]

/-- A short name is what is left of the name behind one of its dots, or all of it. -/
theorem short?_lead {name short : String} (h : short? name = some short) :
    ∃ lead, name.toList = lead ++ short.toList ∧ (lead = [] ∨ lead.getLast? = some '.') := by
  obtain ⟨q, hm⟩ := short?_eq_some_iff.mp h
  exact ⟨q, by simpa [Match.name] using (match?_append hm).symm, match?_qualifier hm⟩

lemma simple?_eq_none_iff {cs : List Char} : simple? cs = none ↔ cs.takeWhile isNameChar = [] := by
  unfold simple?
  split <;> simp [*]

lemma simple?_run {cs : List Char} {m : Match} (h : simple? cs = some m) :
    m.name = cs.takeWhile isNameChar ∧ m.rest = cs.dropWhile isNameChar := by
  unfold simple? at h
  split at h
  · exact absurd h (by simp)
  · rename_i c s hs
    injection h with h
    subst h
    exact ⟨by simp [Match.name, hs], rfl⟩

lemma simple?_simple {cs : List Char} {m : Match} (h : simple? cs = some m) :
    m.simple = cs.takeWhile isNameChar := by
  rw [← (simple?_run h).1, Match.name, simple?_qualifier h, List.nil_append]

theorem match?_run {cs : List Char} {m : Match} (h : match? cs = some m) :
    m.name = cs.takeWhile isNameChar ∧ m.rest = cs.dropWhile isNameChar := by
  fun_induction match? cs generalizing m with
  | case1 cs word rest hw m' hm ih =>
    injection h with h
    subst h
    obtain ⟨h1, h2⟩ := ih hm
    have hc := leadingWord?_isNameChar hw
    rw [← leadingWord?_append hw, List.takeWhile_append_of_pos hc,
      List.dropWhile_append_of_pos hc, ← h1, ← h2]
    exact ⟨by simp [Match.name], rfl⟩
  | case2 => exact simple?_run h
  | case3 => exact simple?_run h

theorem match?_eq_none_iff {cs : List Char} :
    match? cs = none ↔ cs.takeWhile isNameChar = [] := by
  constructor
  · intro h
    unfold match? at h
    split at h
    · split at h
      · exact absurd h (by simp)
      · exact simple?_eq_none_iff.mp h
    · exact simple?_eq_none_iff.mp h
  · intro h
    cases hm : match? cs with
    | none => rfl
    | some m =>
      have hn : m.simple ≠ [] := match?_simple_ne_nil hm
      have := (match?_run hm).1
      rw [h] at this
      simp [Match.name, hn] at this

/-- A word with a dot and more behind it at the head of a simple name would be in the qualifier. -/
theorem rest_of_leadingWord?_simple {cs word rest : List Char} {m : Match}
    (h : match? cs = some m) (hw : leadingWord? m.simple = some (word, rest)) : rest = [] := by
  fun_induction match? cs generalizing m with
  | case1 cs _ _ _ m' hm ih =>
    rw [← Option.some.inj h] at hw
    exact ih hm hw
  | case2 cs word' rest' hw' hm ih =>
    -- behind the word there is no name character, so the simple name is the word and its dot
    obtain ⟨w, hn, hc, rfl, rfl⟩ := leadingWord?_eq_some_iff.mp hw'
    have hs : m.simple = w ++ '.' :: [] := by
      have hl : (w ++ ['.'] ++ rest').takeWhile isNameChar =
          w ++ ['.'] ++ rest'.takeWhile isNameChar :=
        List.takeWhile_append_of_pos (leadingWord?_isNameChar hw')
      rw [match?_eq_none_iff.mp hm, List.append_nil, List.append_assoc] at hl
      exact (simple?_simple h).trans hl
    rw [hs, leadingWord?_word hn hc, Option.some.injEq, Prod.mk.injEq] at hw
    exact hw.2.symm
  | case3 cs hw' =>
    obtain ⟨w, hn, hc, -, hs⟩ := leadingWord?_eq_some_iff.mp hw
    have ha := simple?_append h
    rw [Match.name, simple?_qualifier h, List.nil_append, hs] at ha
    have hx : leadingWord? cs = some (w ++ ['.'], rest ++ m.rest) :=
      leadingWord?_eq_some_iff.mpr ⟨w, hn, hc, rfl, by simpa using ha.symm⟩
    exact absurd (hw'.symm.trans hx) (by simp)

/-! The cut of a text -/

theorem pieces_nil : pieces [] = [] := by simp [pieces]

theorem pieces_of_match? {cs : List Char} {m : Match} (h : match? cs = some m) :
    pieces cs = .name m.name :: pieces m.rest := by
  cases cs with
  | nil => simp [match?, leadingWord?, simple?] at h
  | cons c cs =>
    rw [pieces]
    split
    · rename_i m' h'
      rw [h] at h'
      injection h' with h'
      rw [h']
    · rename_i h'
      simp [h] at h'

theorem pieces_other {c : Char} (h : isNameChar c = false) (cs : List Char) :
    pieces (c :: cs) = .other c :: pieces cs := by
  have hm : match? (c :: cs) = none := match?_eq_none_iff.mpr (by simp [h])
  rw [pieces]
  split
  · rename_i m h1
    simp [hm] at h1
  · rfl

theorem pieces_name {run rest : List Char} (hn : run ≠ []) (hr : ∀ c ∈ run, isNameChar c = true)
    (hs : ∀ c, rest.head? = some c → isNameChar c = false) :
    pieces (run ++ rest) = .name run :: pieces rest := by
  have ht : (run ++ rest).takeWhile isNameChar = run := by
    rw [List.takeWhile_append_of_pos hr, takeWhile_of_head? hs, List.append_nil]
  have hd : (run ++ rest).dropWhile isNameChar = rest := by
    rw [List.dropWhile_append_of_pos hr, dropWhile_of_head? hs]
  cases hm : match? (run ++ rest) with
  | none => exact absurd (ht ▸ match?_eq_none_iff.mp hm) hn
  | some m =>
    obtain ⟨h1, h2⟩ := match?_run hm
    rw [pieces_of_match? hm, h1, h2, ht, hd]

lemma pieces_head? {cs : List Char} (h : ∀ c, cs.head? = some c → isNameChar c = false) :
    ∀ p, (pieces cs).head? = some p → p.isName = false := by
  cases cs with
  | nil => simp [pieces]
  | cons c cs =>
    rw [pieces_other (h c rfl)]
    intro p hp
    simp only [List.head?_cons, Option.some.injEq] at hp
    subst hp
    rfl

theorem pieces_cut (cs : List Char) : Cut cs (pieces cs) := by
  refine ⟨flatMap_pieces cs, ?_, ?_⟩
  · fun_induction pieces cs with
    | case1 => simp
    | case2 c cs m hm ih =>
      obtain ⟨h1, _⟩ := match?_run hm
      intro p hp
      rcases List.mem_cons.mp hp with rfl | hp
      · refine ⟨by simp [Match.name, match?_simple_ne_nil hm], fun d hd => ?_⟩
        rw [h1] at hd
        exact List.mem_takeWhile_imp hd
      · exact ih p hp
    | case3 c cs hm ih =>
      intro p hp
      rcases List.mem_cons.mp hp with rfl | hp
      · have : isNameChar c = false := by
          simpa [List.takeWhile_cons] using match?_eq_none_iff.mp hm
        exact this
      · exact ih p hp
  · fun_induction pieces cs with
    | case1 => exact .nil
    | case2 c cs m hm ih =>
      refine List.IsChain.cons ih fun p hp => Or.inr ?_
      refine pieces_head? (fun d hd => ?_) p hp
      rw [(match?_run hm).2] at hd
      exact head?_dropWhile_isNameChar hd
    | case3 c cs hm ih => exact List.IsChain.cons ih fun p _ => Or.inl rfl

lemma Cut.head?_rest {cs : List Char} {ps : List Piece} (h : Cut cs ps)
    (hp : ∀ p, ps.head? = some p → p.isName = false) :
    ∀ c, cs.head? = some c → isNameChar c = false := by
  cases ps with
  | nil => simp [← h.whole]
  | cons p ps =>
    cases p with
    | name n => exact absurd (hp _ rfl) (by simp [Piece.isName])
    | other d =>
      have hd : isNameChar d = false := h.proper (.other d) (by simp)
      rw [← h.whole]
      intro c hc
      simp only [List.flatMap_cons, Piece.toList, List.cons_append, List.head?_cons,
        Option.some.injEq] at hc
      exact hc ▸ hd

/-- There is one way to cut a text into maximal runs, and `pieces` is it. -/
theorem cut_iff {cs : List Char} {ps : List Piece} : Cut cs ps ↔ pieces cs = ps := by
  constructor
  · intro h
    induction ps generalizing cs with
    | nil => rw [← h.whole]; exact pieces_nil
    | cons p ps ih =>
      obtain ⟨rfl, hp, hm⟩ := h
      have hc : Cut (ps.flatMap Piece.toList) ps :=
        ⟨rfl, fun q hq => hp q (by simp [hq]), hm.tail⟩
      cases p with
      | other c =>
        have hn : isNameChar c = false := hp (.other c) (by simp)
        simp only [List.flatMap_cons, Piece.toList, List.cons_append, List.nil_append]
        rw [pieces_other hn, ih hc]
      | name n =>
        obtain ⟨hn, hr⟩ : n ≠ [] ∧ ∀ c ∈ n, isNameChar c = true := hp (.name n) (by simp)
        simp only [List.flatMap_cons, Piece.toList]
        rw [pieces_name hn hr (hc.head?_rest ?_), ih hc]
        intro q hq
        have : Piece.Apart (.name n) q := by
          cases ps with
          | nil => simp at hq
          | cons q' ps =>
            simp only [List.head?_cons, Option.some.injEq] at hq
            subst hq
            exact (List.isChain_cons_cons.mp hm).1
        exact this.resolve_left (by simp [Piece.isName])
  · rintro rfl
    exact pieces_cut cs

/-! Cuts of texts made from others -/

lemma Cut.append_other {a b : List Char} {ps qs : List Piece} {c : Char} (ha : Cut a ps)
    (hc : isNameChar c = false) (hb : Cut b qs) : Cut (a ++ c :: b) (ps ++ .other c :: qs) := by
  refine ⟨by simp [ha.whole, hb.whole, Piece.toList], ?_, ?_⟩
  · intro p hp
    rcases List.mem_append.mp hp with hp | hp
    · exact ha.proper p hp
    · rcases List.mem_cons.mp hp with rfl | hp
      · exact hc
      · exact hb.proper p hp
  · refine List.isChain_append.mpr ⟨ha.maximal, hb.maximal.cons fun _ _ => Or.inl rfl, ?_⟩
    intro p _ q hq
    simp only [List.head?_cons, Option.mem_def, Option.some.injEq] at hq
    exact Or.inr (hq ▸ rfl)

theorem pieces_append_other {c : Char} (hc : isNameChar c = false) (a b : List Char) :
    pieces (a ++ c :: b) = pieces a ++ .other c :: pieces b :=
  cut_iff.mp ((pieces_cut a).append_other hc (pieces_cut b))

def Piece.mapName (f : List Char → List Char) : Piece → Piece
  | .name cs => .name (f cs)
  | .other c => .other c

section
variable (f : List Char → List Char) (run : List Char) (c : Char)

@[simp] lemma Piece.toList_name : (Piece.name run).toList = run := rfl
@[simp] lemma Piece.toList_other : (Piece.other c).toList = [c] := rfl
@[simp] lemma Piece.mapName_name : (Piece.name run).mapName f = .name (f run) := rfl
@[simp] lemma Piece.mapName_other : (Piece.other c).mapName f = .other c := rfl

end

/-- Runs that are replaced stay apart, also where some of them vanish: what stands between two runs
is kept. -/
theorem Cut.pieces_mapName {f : List Char → List Char} {cs : List Char} {ps : List Piece}
    (h : Cut cs ps) (hf : ∀ run, .name run ∈ ps → ∀ c ∈ f run, isNameChar c = true) :
    pieces (ps.flatMap fun p => (p.mapName f).toList) =
      (ps.map (Piece.mapName f)).filter (!·.toList.isEmpty) := by
  induction ps generalizing cs with
  | nil => exact pieces_nil
  | cons p ps ih =>
    have hc : Cut (ps.flatMap Piece.toList) ps :=
      ⟨rfl, fun q hq => h.proper q (List.mem_cons_of_mem _ hq), h.maximal.tail⟩
    have hi := ih hc fun run hr => hf run (List.mem_cons_of_mem _ hr)
    cases p with
    | other c =>
      have hn : isNameChar c = false := h.proper (.other c) List.mem_cons_self
      simp [pieces_other hn, hi]
    | name run =>
      by_cases he : f run = []
      · simp [he, hi]
      · -- a run ends where the text ends or at the character that parts it from the next
        have hs : ∀ c, (ps.flatMap fun p => (p.mapName f).toList).head? = some c →
            isNameChar c = false := by
          cases ps with
          | nil => simp
          | cons q ps =>
            have hq : q.isName = false :=
              (List.isChain_cons_cons.mp h.maximal).1.resolve_left (by simp [Piece.isName])
            cases q with
            | name run' => simp [Piece.isName] at hq
            | other d =>
              have hd : isNameChar d = false := h.proper (.other d) (by simp)
              simpa using hd
        simp only [List.flatMap_cons, List.map_cons, Piece.mapName_name, Piece.toList_name]
        rw [pieces_name he (hf run List.mem_cons_self) hs, hi]
        simp [List.filter_cons, he]

/-- Runs that are replaced by runs stay apart. -/
theorem pieces_mapName {f : List Char → List Char} {cs : List Char}
    (hf : ∀ run, .name run ∈ pieces cs → f run ≠ [] ∧ ∀ c ∈ f run, isNameChar c = true) :
    pieces ((pieces cs).flatMap fun p => (p.mapName f).toList) =
      (pieces cs).map (Piece.mapName f) := by
  rw [(pieces_cut cs).pieces_mapName fun run hr => (hf run hr).2, List.filter_eq_self]
  intro q hq
  obtain ⟨p, hp, rfl⟩ := List.mem_map.mp hq
  cases p with
  | name run => simpa using (hf run hp).1
  | other c => simp

end JavaScribe.Name
