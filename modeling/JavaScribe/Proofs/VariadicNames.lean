import JavaScribe.Proofs.Expansion
import JavaScribe.Proofs.Resolution

/-!
# Names with dots behind them

A variadic parameter has three dots behind its type, and they are name characters: the run that is
looked up is the name with its dots. No import is found for it, its rest is no short name, and only
an upper-case letter makes it a class of the package. `Hidden` says where that matters; elsewhere
the dots are kept behind the displayed name, as brackets always are.
-/
namespace JavaScribe
namespace Name

/-- The dots behind a name take its last word from the simple name. -/
lemma Plain.match?_ellipsis {cs : List Char} (h : Plain cs) :
    match? (cs ++ ['.', '.', '.']) = some ⟨cs ++ ['.'], ['.', '.'], []⟩ := by
  obtain ⟨words, hc, hw⟩ := h.words
  have hm : match? ['.', '.'] = some ⟨[], ['.', '.'], []⟩ := by decide +kernel
  have hs : cs ++ ['.', '.', '.'] = words.flatMap (· ++ ['.']) ++ ['.', '.'] := by
    rw [← hc, List.append_assoc]
    rfl
  rw [hs, match?_words hw hm, hc]
  simp

/-- The word at the head of a name with dots behind it. -/
lemma exists_first_word {c : Char} {cs : List Char} (hc : isWordChar c = true)
    (hcs : ∀ d ∈ cs, isWordChar d = true ∨ d = '.') :
    ∃ w r : List Char, w ≠ [] ∧ (∀ d ∈ w, isWordChar d = true) ∧ r ≠ [] ∧
      c :: cs ++ ['.', '.', '.'] = w ++ '.' :: r := by
  induction cs generalizing c with
  | nil => exact ⟨[c], ['.', '.'], by simp, by simpa using hc, by simp, rfl⟩
  | cons d cs ih =>
    rcases hcs d (by simp) with hd | rfl
    · obtain ⟨w, r, -, hw, hr, he⟩ := ih hd fun e he => hcs e (by simp [he])
      refine ⟨c :: w, r, by simp, ?_, hr, by simpa using he⟩
      simpa [hc] using hw
    · exact ⟨[c], cs ++ ['.', '.', '.'], by simp, by simpa using hc, by simp, rfl⟩

/-- No short name has a word and then a dot at its head and ends in three dots. -/
lemma short?_ne_ellipsis {name short : String} (h : short? name = some short) {c : Char}
    {cs : List Char} (hc : isWordChar c = true)
    (hcs : ∀ d ∈ cs, isWordChar d = true ∨ d = '.') :
    short.toList ≠ c :: cs ++ ['.', '.', '.'] := by
  intro hs
  obtain ⟨w, r, hn, hw, hr, he⟩ := exists_first_word hc hcs
  have hl : leadingWord? short.toList = some (w ++ ['.'], r) :=
    leadingWord?_eq_some_iff.mpr ⟨w, hn, hw, rfl, hs.trans he⟩
  obtain ⟨q, hm⟩ := short?_eq_some_iff.mp h
  exact hr (rest_of_leadingWord?_simple hm hl)

end Name

namespace Imports
variable {t : Imports} {name short : String}

lemma Registered.short_ne_empty (ht : t.Registered) (m : String) : (m, "") ∉ t.entries := by
  intro hm
  obtain ⟨q, hs⟩ := Name.short?_eq_some_iff.mp (ht.short? hm)
  exact Name.match?_simple_ne_nil hs rfl

lemma Registered.short_ellipsis (ht : t.Registered) (hn : Name.Plain name.toList)
    (hm : (name ++ "...", short) ∈ t.entries) : short = ".." := by
  have hl : (name ++ "...").toList = name.toList ++ ['.', '.', '.'] := String.toList_append
  have hs : Name.short? (name ++ "...") = some ".." :=
    Name.short?_eq_some_iff.mpr ⟨_, hl ▸ hn.match?_ellipsis⟩
  exact Option.some.inj ((ht.short? hm).symm.trans hs)

end Imports

namespace Naming
open Name (isNameChar)
variable {t : Imports} {package name rest s : String}

/-! ## What is left in front of the dots -/

/-- What a name is shortened to by the rules that do not ask the imports: what follows the package,
if that is upper-case, or else what follows `java.lang`, or else all of it. -/
def stem (package name : String) : String :=
  match (after? package name).filter StartsUpper with
  | some rest => rest
  | none => (after? builtinPackage name).getD name

lemma stem_of_startsUpper (hr : name = package ++ rest) (hu : StartsUpper rest) :
    stem package name = rest := by
  have ha : (after? package name).filter StartsUpper = some rest :=
    Option.filter_eq_some_iff.mpr ⟨after?_eq_some_iff.mpr hr, by simpa using hu⟩
  rw [stem, ha]

lemma stem_of_not_startsUpper (h : ∀ r, name = package ++ r → ¬ StartsUpper r) :
    stem package name = (after? builtinPackage name).getD name := by
  have ha : (after? package name).filter StartsUpper = none := by
    rw [Option.filter_eq_none_iff]
    intro r hr
    simpa using h r (after?_eq_some_iff.mp hr)
  rw [stem, ha]

lemma isNameChar_ellipsis (hn : Name.Plain name.toList) :
    ∀ c ∈ (name ++ "...").toList, isNameChar c = true := by
  intro c hc
  rw [String.toList_append, List.mem_append] at hc
  rcases hc with hc | hc
  · exact hn.isNameChar c hc
  · have : ∀ c ∈ "...".toList, isNameChar c = true := by simp [isNameChar]
    exact this c hc

lemma not_startsUpper_of_dot (h : s.toList.head? = some '.') : ¬ StartsUpper s := by
  rintro ⟨c, hc, hu⟩
  obtain rfl : c = '.' := Option.some.inj (hc.symm.trans h)
  exact absurd hu (by decide)

lemma head?_of_ellipsis {a r : List Char} (h : "...".toList = a ++ r) (hr : r ≠ []) :
    r.head? = some '.' := by
  obtain ⟨c, r, rfl⟩ := List.exists_cons_of_ne_nil hr
  have hm : c ∈ "...".toList := h ▸ List.mem_append_right a (by simp)
  have hc : c = '.' := by simpa using hm
  rw [hc, List.head?_cons]

/-- Behind the package of a name with dots behind it are the rest of the name and the dots, or some
of the dots only. -/
lemma rest_of_ellipsis (hp : package ≠ name ++ "...") (hr : name ++ "..." = package ++ rest) :
    (∃ r, name = package ++ r ∧ rest = r ++ "...") ∨ rest.toList.head? = some '.' := by
  have hl : name.toList ++ "...".toList = package.toList ++ rest.toList := by
    rw [← String.toList_append, hr, String.toList_append]
  rcases List.append_eq_append_iff.mp hl with ⟨a, ha, hd⟩ | ⟨a, ha, hd⟩
  · refine Or.inr (head?_of_ellipsis hd fun he => hp (String.toList_inj.mp ?_))
    rw [he, List.append_nil] at hd
    rw [ha, ← hd, String.toList_append]
  · refine Or.inl ⟨String.ofList a, String.toList_inj.mp ?_, String.toList_inj.mp ?_⟩
    · rw [ha, String.toList_append, String.toList_ofList]
    · simp [hd]

lemma StartsUpper.of_ellipsis (h : StartsUpper (s ++ "...")) : StartsUpper s := by
  cases hs : s.toList with
  | nil => exact absurd h (not_startsUpper_of_dot (by simp [hs]))
  | cons c cs =>
    obtain ⟨d, hd, hu⟩ := h
    rw [String.toList_append, hs] at hd
    exact ⟨d, hs ▸ hd, hu⟩

/-- A variadic name is taken for a class of the package by an upper-case letter only. -/
lemma classRest_ellipsis (hp : package ≠ name ++ "...") (hr : name ++ "..." = package ++ rest)
    (hc : ClassRest rest) : ∃ r, name = package ++ r ∧ StartsUpper r := by
  have hd : '.' ∈ rest.toList → StartsUpper rest := fun h => hc.resolve_left (not_not.mpr h)
  rcases rest_of_ellipsis hp hr with ⟨r, hn, rfl⟩ | h
  · exact ⟨r, hn, (hd (by simp)).of_ellipsis⟩
  · exact absurd (hd (List.mem_of_head? h)) (not_startsUpper_of_dot h)

lemma dropWhile_dots {cs a : List Char} (hc : ∃ c, cs.getLast? = some c ∧ c ≠ '.')
    (ha : ∀ c ∈ a, c = '.') : (cs ++ a).reverse.dropWhile (· == '.') = cs.reverse := by
  obtain ⟨c, hc, hd⟩ := hc
  have hr : ∀ d ∈ a.reverse, (d == '.') = true := fun d hd => by simp [ha d (by simpa using hd)]
  rw [List.reverse_append, List.dropWhile_append_of_pos hr]
  refine Name.dropWhile_of_head? fun d h => ?_
  rw [List.head?_reverse, hc, Option.some.injEq] at h
  simpa [← h] using hd

/-- With dots behind it, a name is under `java.lang` if it is so itself or is `java.lang`. -/
lemma builtin_of_ellipsis (hn : Name.Plain name.toList) (hj : name ≠ "java.lang")
    (h : name ++ "..." = "java.lang." ++ rest) : ∃ r, name = "java.lang." ++ r := by
  have hl : name.toList ++ "...".toList = "java.lang.".toList ++ rest.toList := by
    rw [← String.toList_append, h, String.toList_append]
  rcases List.append_eq_append_iff.mp hl with ⟨a, ha, hd⟩ | ⟨a, ha, -⟩
  · have hdots : ∀ c ∈ a, c = '.' := by
      intro c hc
      have hm : c ∈ "...".toList := hd ▸ List.mem_append_left _ hc
      simpa using hm
    -- the name is what `java.lang.` is without the dots at its end
    have hr := dropWhile_dots hn.getLast? hdots
    rw [← ha] at hr
    have he : "java.lang.".toList.reverse.dropWhile (· == '.') = "java.lang".toList.reverse := by
      decide +kernel
    exact absurd (String.toList_inj.mp (List.reverse_inj.mp (hr.symm.trans he))) hj
  · exact ⟨String.ofList a, String.toList_inj.mp (by simp [ha])⟩

/-- How a name with dots behind it is displayed. -/
lemma shown_ellipsis (ht : t.Registered) (hn : Name.Plain name.toList)
    (hv : name ++ "..." ∉ t.names) (hp : package ≠ name ++ "...") (hj : name ≠ "java.lang") :
    Shown t package (name ++ "...") (stem package name ++ "...") := by
  by_cases h : ∃ r, name = package ++ r ∧ StartsUpper r
  · obtain ⟨r, hr, hu⟩ := h
    have hv' : name ++ "..." = package ++ (r ++ "...") := by rw [hr, String.append_assoc]
    rw [stem_of_startsUpper hr hu]
    refine .sibling hv hv' (Or.inr (hu.append _)) fun m hm => ?_
    -- the rest has a word at its head, and dots at its end as no short name has
    obtain ⟨c, hc, hu⟩ := hu
    obtain ⟨cs, hcs⟩ := List.head?_eq_some_iff.mp hc
    have hw : Name.isWordChar c = true := by
      simp [Name.isWordChar, Char.isAlphanum, Char.isAlpha, hu]
    have hd : ∀ d ∈ cs, Name.isWordChar d = true ∨ d = '.' := fun d hd =>
      hn.word_or_dot d (by simp [hr, hcs, hd])
    exact Name.short?_ne_ellipsis (ht.short? hm) hw hd (by simp [hcs])
  · have hu : ∀ r, name = package ++ r → ¬ StartsUpper r := fun r hr hu => h ⟨r, hr, hu⟩
    have hc : ∀ r, name ++ "..." = package ++ r → ¬ ClassRest r := fun r hr hc =>
      h (classRest_ellipsis hp hr hc)
    rw [stem_of_not_startsUpper hu]
    cases ha : after? builtinPackage name with
    | some r =>
      have hr : name = "java.lang." ++ r := after?_eq_some_iff.mp ha
      refine .builtin hv hc ?_
      rw [hr, String.append_assoc]
      rfl
    | none =>
      refine .unchanged hv hc fun r hr => ?_
      obtain ⟨s, hs⟩ := builtin_of_ellipsis hn hj hr
      exact after?_eq_none_iff.mp ha s hs

/-- Where the name with its dots is imported or is the package, or is `java.lang` with dots, not
even the dots are left. -/
lemma length_shorten_ellipsis (ht : t.Registered) (hn : Name.Plain name.toList)
    (h : name ++ "..." ∈ t.names ∨ package = name ++ "..." ∨ name = "java.lang") :
    (shorten t package (name ++ "...")).length < 3 := by
  have hc := isNameChar_ellipsis hn
  by_cases hv : name ++ "..." ∈ t.names
  · obtain ⟨s, hs⟩ := Imports.mem_names_iff.mp hv
    rw [shorten_imported (ht.shortName?_eq_some_iff.mpr hs), ht.short_ellipsis hn hs]
    decide
  by_cases hp : package = name ++ "..."
  · have hs : Shown t package (name ++ "...") "" :=
      .sibling hv (by simp [hp]) (Or.inl (by simp)) ht.short_ne_empty
    rw [hs.eq_shorten ht hc]
    decide
  · obtain rfl : name = "java.lang" := (h.resolve_left hv).resolve_left hp
    have hs : Shown t package "java.lang..." ".." := by
      refine .builtin hv (fun r hr hc => ?_) (by decide)
      obtain ⟨r, hr, c, hc, hu⟩ := classRest_ellipsis hp hr hc
      have hm : c ∈ "java.lang".toList := by
        rw [hr, String.toList_append]
        exact List.mem_append_right _ (List.mem_of_head? hc)
      have hl : "java.lang".toList.all (fun c => !c.isUpper) = true := by decide +kernel
      simpa [hu] using List.all_eq_true.mp hl c hm
    rw [hs.eq_shorten ht hc]
    decide

/-- The dots change nothing else where the name is displayed by its stem. -/
lemma shorten_ellipsis_iff (ht : t.Registered) (hn : Name.Plain name.toList) :
    shorten t package (name ++ "...") = shorten t package name ++ "..." ↔
      name ++ "..." ∉ t.names ∧ package ≠ name ++ "..." ∧ name ≠ "java.lang" ∧
        shorten t package name = stem package name := by
  by_cases h : name ++ "..." ∈ t.names ∨ package = name ++ "..." ∨ name = "java.lang"
  · have hl := length_shorten_ellipsis ht hn h
    refine ⟨fun he => ?_, fun ⟨hv, hp, hj, _⟩ => ?_⟩
    · rw [he, String.length_append] at hl
      exact absurd hl (Nat.not_lt.mpr (Nat.le_add_left _ _))
    · exact absurd h (by simp [hv, hp, hj])
  · obtain ⟨hv, hp, hj⟩ := by simpa only [not_or] using h
    rw [(shown_ellipsis ht hn hv hp hj).eq_shorten ht (isNameChar_ellipsis hn),
      String.append_left_inj, eq_comm]
    exact ⟨fun hs => ⟨hv, hp, hj, hs⟩, fun hs => hs.2.2.2⟩

/-! ## What the dots hide -/

/-- What is not seen of a name with dots behind it, though it matters for the name. -/
inductive Hidden (t : Imports) (package name : String) : Prop
  /-- The import, unless the name is shortened in the same way without it. -/
  | imported {short : String} (h : (name, short) ∈ t.entries) (hs : short ≠ stem package name)
  /-- That the rest of a class of the package is the short name of an import. -/
  | shadowed {rest m : String} (hn : name ∉ t.names) (hp : package ≠ "")
      (hr : name = package ++ rest) (hu : StartsUpper rest) (hs : (m, rest) ∈ t.entries)
  /-- That a name without an upper-case letter is one of a class of the package. -/
  | sibling {rest : String} (hn : name ∉ t.names) (hp : package ≠ "") (hj : package ≠ "java.lang.")
      (hr : name = package ++ rest) (hd : '.' ∉ rest.toList) (hu : ¬ StartsUpper rest)
      (hs : ∀ m, (m, rest) ∉ t.entries)
  /-- That it is one whose rest is the short name of an import, where it is under `java.lang`. -/
  | builtin {rest m r : String} (hn : name ∉ t.names) (hr : name = package ++ rest)
      (hd : '.' ∉ rest.toList) (hu : ¬ StartsUpper rest) (hs : (m, rest) ∈ t.entries)
      (hj : name = "java.lang." ++ r)

lemma stem_of_builtin (hu : ∀ r, name = package ++ r → ¬ StartsUpper r)
    (hj : name = "java.lang." ++ rest) : stem package name = rest := by
  have ha : after? builtinPackage name = some rest := after?_eq_some_iff.mpr hj
  rw [stem_of_not_startsUpper hu, ha, Option.getD_some]

lemma stem_of_neither (hu : ∀ r, name = package ++ r → ¬ StartsUpper r)
    (hj : ∀ r, name ≠ "java.lang." ++ r) : stem package name = name := by
  have ha : after? builtinPackage name = none := after?_eq_none_iff.mpr hj
  rw [stem_of_not_startsUpper hu, ha, Option.getD_none]

lemma forall_rest {P : String → Prop} (hr : name = package ++ rest) (h : P rest) :
    ∀ r, name = package ++ r → P r := by
  intro r hr'
  obtain rfl : rest = r := (String.append_right_inj package).mp (hr.symm.trans hr')
  exact h

lemma Hidden.shorten_ne_stem (ht : t.Registered) (hc : ∀ c ∈ name.toList, isNameChar c = true)
    (h : Hidden t package name) : shorten t package name ≠ stem package name := by
  cases h with
  | imported h hs => rwa [(Shown.imported h).eq_shorten ht hc]
  | shadowed hn hp hr hu hs =>
    rw [(Shown.shadowed hn hr (Or.inr hu) hs).eq_shorten ht hc, stem_of_startsUpper hr hu]
    rintro rfl
    exact hp (eq_empty_of_eq_append hr)
  | @sibling rest hn hp hj hr hd hu hs =>
    rw [(Shown.sibling hn hr (Or.inl hd) hs).eq_shorten ht hc]
    by_cases hb : ∃ r, name = "java.lang." ++ r
    · obtain ⟨r, hb⟩ := hb
      rw [stem_of_builtin (forall_rest hr hu) hb]
      rintro rfl
      exact hj ((String.append_left_inj _).mp (hr.symm.trans hb))
    · rw [stem_of_neither (forall_rest hr hu) fun r hb' => hb ⟨r, hb'⟩]
      rintro rfl
      exact hp (eq_empty_of_eq_append hr)
  | builtin hn hr hd hu hs hj =>
    rw [(Shown.shadowed hn hr (Or.inl hd) hs).eq_shorten ht hc,
      stem_of_builtin (forall_rest hr hu) hj]
    rintro rfl
    exact absurd (eq_empty_of_eq_append hj) (by decide)

lemma not_builtin_of_not_mem (h : '.' ∉ name.toList) (r : String) : name ≠ "java.lang." ++ r := by
  rintro rfl
  exact h (by simp)

lemma shorten_eq_stem (ht : t.Registered) (hc : ∀ c ∈ name.toList, isNameChar c = true)
    (h : ¬ Hidden t package name) : shorten t package name = stem package name := by
  have hs : Shown t package name (shorten t package name) := shown_shorten ht hc
  generalize shorten t package name = out at hs
  cases hs with
  | imported hi =>
    by_contra hne
    exact h (.imported hi hne)
  | sibling hn hr hcr hm =>
    by_cases hu : StartsUpper out
    · exact (stem_of_startsUpper hr hu).symm
    have hd : '.' ∉ out.toList := hcr.resolve_right hu
    by_cases hp : package = ""
    · obtain rfl : name = out := by simpa [hp] using hr
      exact (stem_of_neither (forall_rest hr hu) (not_builtin_of_not_mem hd)).symm
    by_cases hj : package = "java.lang."
    · exact (stem_of_builtin (forall_rest hr hu) (hj ▸ hr)).symm
    · exact absurd (.sibling hn hp hj hr hd hu hm) h
  | @shadowed rest m hn hr hcr hm =>
    by_cases hu : StartsUpper rest
    · by_cases hp : package = ""
      · rw [stem_of_startsUpper hr hu, hr, hp, String.empty_append]
      · exact absurd (.shadowed hn hp hr hu hm) h
    · refine (stem_of_neither (forall_rest hr hu) fun r hj => ?_).symm
      exact h (.builtin hn hr (hcr.resolve_right hu) hu hm hj)
  | builtin _ hp hj => exact (stem_of_builtin (fun r hr hu => hp r hr (Or.inr hu)) hj).symm
  | unchanged _ hp hj => exact (stem_of_neither (fun r hr hu => hp r hr (Or.inr hu)) hj).symm

/-! ## Texts -/

lemma shortenText_run (hn : name ≠ "") (hc : ∀ c ∈ name.toList, isNameChar c = true) :
    shortenText t package name = shorten t package name := by
  have hl : name.toList ≠ [] := fun h => hn (String.toList_eq_nil_iff.mp h)
  have hp : Name.pieces (name.toList ++ []) = .name name.toList :: Name.pieces [] :=
    Name.pieces_name hl hc (by simp)
  rw [List.append_nil, Name.pieces_nil] at hp
  apply String.toList_inj.mp
  simp [toList_shortenText, hp, shortenPiece]

lemma shortenText_brackets (t : Imports) (package text : String) :
    shortenText t package (text ++ "[]") = shortenText t package text ++ "[]" := by
  have hb : (shortenText t package "]").toList = (shortenText t package "").toList ++
      ']' :: (shortenText t package "").toList := toList_shortenText_other t package rfl rfl
  have hl : (shortenText t package (text ++ "[]")).toList = (shortenText t package text).toList ++
      '[' :: (shortenText t package "]").toList :=
    toList_shortenText_other t package rfl String.toList_append
  apply String.toList_inj.mp
  rw [hl, hb, shortenText_empty, String.toList_append]
  rfl

/-- Brackets are kept behind the displayed form of a name, and dots too, except in these cases: the
name with its dots is imported itself, or is the package; the name is `java.lang`; or the dots hide
what the name is displayed by. -/
theorem ellipsis_kept_iff (ht : t.Registered) (package : String) {name : String}
    (hn : Name.Plain name.toList) :
    ∃ out, (Naming.mk t (some package)).display (.text name) = .ok out ∧
      (Naming.mk t (some package)).display (.text (name ++ "[]")) = .ok (out ++ "[]") ∧
      ((Naming.mk t (some package)).display (.text (name ++ "...")) = .ok (out ++ "...") ↔
        name ++ "..." ∉ t.names ∧ package ≠ name ++ "..." ∧ name ≠ "java.lang" ∧
          ¬ Hidden t package name) := by
  have hne : name ≠ "" := by
    rintro rfl
    obtain ⟨c, hc, -⟩ := hn.getLast?
    simp at hc
  have hnd : name ++ "..." ≠ "" := by simp
  have hs : shorten t package name = stem package name ↔ ¬ Hidden t package name :=
    ⟨fun he hh => hh.shorten_ne_stem ht hn.isNameChar he, shorten_eq_stem ht hn.isNameChar⟩
  refine ⟨_, display_ok rfl name, ?_, ?_⟩
  · rw [display_ok rfl, shortenText_brackets]
  · rw [display_ok rfl, Except.ok.injEq, shortenText_run hne hn.isNameChar,
      shortenText_run hnd (isNameChar_ellipsis hn), shorten_ellipsis_iff ht hn, hs]

lemma plain_map : Name.Plain "java.util.Map".toList :=
  ⟨⟨["java".toList, "util".toList], "Map".toList, by decide +kernel,
    by simp [Name.isWordChar], by decide, by simp [Name.isWordChar]⟩, by decide +kernel⟩

theorem map_hidden_by_dots :
    mapImported.Registered ∧ Name.Plain "java.util.Map".toList ∧
      Hidden mapImported "p." "java.util.Map" ∧
      ∃ out, (Naming.mk mapImported (some "p.")).display (.text "java.util.Map") = .ok out ∧
        (Naming.mk mapImported (some "p.")).display (.text ("java.util.Map" ++ "[]")) =
          .ok (out ++ "[]") ∧
        (Naming.mk mapImported (some "p.")).display (.text ("java.util.Map" ++ "...")) ≠
          .ok (out ++ "...") := by
  have hh : Hidden mapImported "p." "java.util.Map" :=
    .imported (by simp [mapImported] : ("java.util.Map", "Map") ∈ mapImported.entries)
      (by decide +kernel)
  obtain ⟨out, ho, hb, hd⟩ := ellipsis_kept_iff mapImported_registered "p." plain_map
  exact ⟨mapImported_registered, plain_map, hh, out, ho, hb, fun h => (hd.mp h).2.2.2 hh⟩

/-- Dots behind a name can change the form in which the name is displayed. -/
theorem not_ellipsis_always_kept :
    ¬ ∀ (t : Imports) (v : Value) (name : String), t.Registered → Name.Plain name.toList →
      ∃ out, (Naming.mk t (some (Scribe.packagePrefix v))).display (.text name) = .ok out ∧
        (Naming.mk t (some (Scribe.packagePrefix v))).display (.text (name ++ "...")) =
          .ok (out ++ "...") := by
  intro h
  obtain ⟨out, hm, hd⟩ := h mapImported (.text "p") "java.util.Map" mapImported_registered plain_map
  have hs : (Naming.mk mapImported (some (Scribe.packagePrefix (.text "p")))).display
      (.text "java.util.Map") = .ok "Map" := by decide +kernel
  have hf : (Naming.mk mapImported (some (Scribe.packagePrefix (.text "p")))).display
      (.text ("java.util.Map" ++ "...")) = .ok "java.util.Map..." := by decide +kernel
  obtain rfl : "Map" = out := Except.ok.inj (hs.symm.trans hm)
  exact absurd (Except.ok.inj (hf.symm.trans hd)) (by decide)

end Naming
end JavaScribe
