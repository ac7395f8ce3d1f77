import JavaScribe.Naming
import JavaScribe.Proofs.NameBacktracking
import JavaScribe.Proofs.RegisteredImports

/-!
# What the shortest form of a text is

`Shown` states the rules by which a name is displayed, and `ShownText` puts them to each maximal run
of a text. `display` follows these rules and never fails once there is a package. Texts of type
arguments are shortened part by part, since brackets and commas stand between runs.
-/
namespace JavaScribe.Naming
open Name (isNameChar pieces)

def StartsUpper (s : String) : Prop := ∃ c, s.toList.head? = some c ∧ c.isUpper = true

instance (s : String) : Decidable (StartsUpper s) :=
  decidable_of_iff (s.toList.head?.any Char.isUpper = true) (by
    simp [StartsUpper, Option.any_eq_true])

lemma StartsUpper.append {s : String} (h : StartsUpper s) (more : String) :
    StartsUpper (s ++ more) := by
  obtain ⟨c, hc, hu⟩ := h
  exact ⟨c, by simp [List.head?_append, hc], hu⟩

/-- Directly in the package, or nested in a class of it. -/
def ClassRest (rest : String) : Prop := '.' ∉ rest.toList ∨ StartsUpper rest

/-- The displayed form of a name. -/
inductive Shown (t : Imports) (package name : String) : String → Prop
  | imported {short : String} (h : (name, short) ∈ t.entries) : Shown t package name short
  | sibling {rest : String} (hn : name ∉ t.names) (hr : name = package ++ rest)
      (hc : ClassRest rest) (hs : ∀ m, (m, rest) ∉ t.entries) : Shown t package name rest
  | shadowed {rest m : String} (hn : name ∉ t.names) (hr : name = package ++ rest)
      (hc : ClassRest rest) (hs : (m, rest) ∈ t.entries) : Shown t package name name
  | builtin {rest : String} (hn : name ∉ t.names)
      (hp : ∀ r, name = package ++ r → ¬ ClassRest r) (hr : name = "java.lang." ++ rest) :
      Shown t package name rest
  | unchanged (hn : name ∉ t.names) (hp : ∀ r, name = package ++ r → ¬ ClassRest r)
      (hj : ∀ r, name ≠ "java.lang." ++ r) : Shown t package name name

inductive ShownPiece (t : Imports) (package : String) : Name.Piece → List Char → Prop
  | name {run : List Char} {out : String} (h : Shown t package (String.ofList run) out) :
      ShownPiece t package (.name run) out.toList
  | other (c : Char) : ShownPiece t package (.other c) [c]

def ShownText (t : Imports) (package text out : String) : Prop :=
  ∃ cut shown, Name.Cut text.toList cut ∧ List.Forall₂ (ShownPiece t package) cut shown ∧
    out.toList = shown.flatten

lemma eq_empty_of_eq_append {a s : String} (h : s = a ++ s) : a = "" := by
  have hl := congrArg String.toList h
  rw [String.toList_append, List.self_eq_append_left] at hl
  exact String.toList_eq_nil_iff.mp hl

theorem after?_eq_some_iff {package name rest : String} :
    after? package name = some rest ↔ name = package ++ rest := by
  unfold after?
  constructor
  · intro h
    split at h
    · rename_i hp
      obtain ⟨cs, hcs⟩ := List.isPrefixOf_iff_prefix.mp hp
      rw [← hcs, List.drop_left, Option.some.injEq] at h
      apply String.toList_inj.mp
      rw [String.toList_append, ← h, String.toList_ofList, hcs]
    · exact absurd h (by simp)
  · rintro rfl
    simp

theorem after?_eq_none_iff {package name : String} :
    after? package name = none ↔ ∀ rest, name ≠ package ++ rest := by
  rw [Option.eq_none_iff_forall_ne_some]
  simp only [ne_eq, after?_eq_some_iff]

lemma toNat_lt_of_isNameChar {c : Char} (h : isNameChar c = true) : c.toNat < 0x80 := by
  simp only [isNameChar, Name.isWordChar, Char.isAlphanum, Char.isAlpha, Char.isUpper, Char.isLower,
    Char.isDigit, Bool.or_eq_true, Bool.and_eq_true, decide_eq_true_eq, beq_iff_eq,
    UInt32.le_iff_toNat_le, ge_iff_le] at h
  have hn : c.toNat = c.val.toNat := rfl
  rcases h with (((((⟨_, h⟩ | ⟨_, h⟩) | ⟨_, h⟩) | rfl) | rfl) | rfl) | rfl
  · exact hn ▸ h.trans_lt (by decide)
  · exact hn ▸ h.trans_lt (by decide)
  · exact hn ▸ h.trans_lt (by decide)
  all_goals decide

lemma isUpper_eq {c : Char} (h : isNameChar c = true) : Text.isUpper c = c.isUpper := by
  simp [Text.isUpper, toNat_lt_of_isNameChar h]

lemma isClassRest_iff {rest : String} (h : ∀ c ∈ rest.toList, isNameChar c = true) :
    isClassRest rest = true ↔ ClassRest rest := by
  unfold isClassRest ClassRest StartsUpper
  cases hr : rest.toList with
  | nil => simp
  | cons c cs =>
    have hc : Text.isUpper c = c.isUpper := isUpper_eq (h c (by simp [hr]))
    simp [hc]

lemma classRest?_eq_some_iff {package name rest : String}
    (h : ∀ c ∈ name.toList, isNameChar c = true) :
    classRest? package name = some rest ↔ name = package ++ rest ∧ ClassRest rest := by
  rw [classRest?, Option.filter_eq_some_iff, after?_eq_some_iff]
  constructor
  · rintro ⟨rfl, hc⟩
    exact ⟨rfl, (isClassRest_iff fun c hc => h c (by simp [hc])).mp hc⟩
  · rintro ⟨rfl, hc⟩
    exact ⟨rfl, (isClassRest_iff fun c hc => h c (by simp [hc])).mpr hc⟩

lemma classRest?_eq_none_iff {package name : String}
    (h : ∀ c ∈ name.toList, isNameChar c = true) :
    classRest? package name = none ↔ ∀ rest, name = package ++ rest → ¬ ClassRest rest := by
  rw [Option.eq_none_iff_forall_ne_some]
  simp only [ne_eq, classRest?_eq_some_iff h, not_and]

/-! One name -/

theorem shown_shorten {t : Imports} (ht : t.Registered) {package name : String}
    (h : ∀ c ∈ name.toList, isNameChar c = true) :
    Shown t package name (shorten t package name) := by
  unfold shorten resolve
  cases hs : t.shortName? name with
  | some short => exact .imported (ht.shortName?_eq_some_iff.mp hs)
  | none =>
    have hn := Imports.shortName?_eq_none_iff.mp hs
    cases hc : classRest? package name with
    | some rest =>
      obtain ⟨hr, hc⟩ := (classRest?_eq_some_iff h).mp hc
      by_cases hd : t.displays rest = true
      · obtain ⟨m, hm⟩ := Imports.displays_iff.mp hd
        simp only [hd, if_true, Resolution.display]
        exact .shadowed hn hr hc hm
      · simp only [hd, Bool.false_eq_true, if_false, Resolution.display]
        exact .sibling hn hr hc fun m hm => hd (Imports.displays_iff.mpr ⟨m, hm⟩)
    | none =>
      have hp := (classRest?_eq_none_iff h).mp hc
      cases ha : after? builtinPackage name with
      | some rest => exact .builtin hn hp (after?_eq_some_iff.mp ha)
      | none => exact .unchanged hn hp (after?_eq_none_iff.mp ha)

theorem Shown.eq_shorten {t : Imports} (ht : t.Registered) {package name out : String}
    (h : ∀ c ∈ name.toList, isNameChar c = true) (hs : Shown t package name out) :
    shorten t package name = out := by
  unfold shorten resolve
  cases hs with
  | imported hm => simp [ht.shortName?_eq_some_iff.mpr hm, Resolution.display]
  | sibling hn hr hc hs =>
    have hd : t.displays out = false := by
      rw [Bool.eq_false_iff, ne_eq, Imports.displays_iff, not_exists]
      exact hs
    simp [Imports.shortName?_eq_none_iff.mpr hn, (classRest?_eq_some_iff h).mpr ⟨hr, hc⟩, hd,
      Resolution.display]
  | shadowed hn hr hc hs =>
    simp [Imports.shortName?_eq_none_iff.mpr hn, (classRest?_eq_some_iff h).mpr ⟨hr, hc⟩,
      Imports.displays_iff.mpr ⟨_, hs⟩, Resolution.display]
  | builtin hn hp hr =>
    have ha : after? builtinPackage name = some out := after?_eq_some_iff.mpr hr
    simp [Imports.shortName?_eq_none_iff.mpr hn, (classRest?_eq_none_iff h).mpr hp, ha,
      Resolution.display]
  | unchanged hn hp hj =>
    have ha : after? builtinPackage name = none := after?_eq_none_iff.mpr hj
    simp [Imports.shortName?_eq_none_iff.mpr hn, (classRest?_eq_none_iff h).mpr hp, ha,
      Resolution.display]

theorem shown_iff {t : Imports} (ht : t.Registered) {package name out : String}
    (h : ∀ c ∈ name.toList, isNameChar c = true) :
    Shown t package name out ↔ shorten t package name = out :=
  ⟨Shown.eq_shorten ht h, fun e => e ▸ shown_shorten ht h⟩

/-! A text -/

lemma toList_shortenText (t : Imports) (package text : String) :
    (shortenText t package text).toList =
      (pieces text.toList).flatMap (shortenPiece t package) := by
  simp [shortenText]

lemma shownPiece_iff {t : Imports} (ht : t.Registered) {package : String} {p : Name.Piece}
    (hp : p.Proper) {out : List Char} :
    ShownPiece t package p out ↔ shortenPiece t package p = out := by
  cases p with
  | other c =>
    constructor
    · rintro ⟨⟩
      rfl
    · rintro rfl
      exact .other c
  | name run =>
    have hr : ∀ c ∈ (String.ofList run).toList, isNameChar c = true := by
      simpa only [String.toList_ofList] using hp.2
    constructor
    · rintro ⟨h⟩
      rw [shortenPiece, (shown_iff ht hr).mp h]
    · rintro rfl
      exact .name (shown_shorten ht hr)

lemma forall₂_shownPiece {t : Imports} (ht : t.Registered) {package : String}
    {ps : List Name.Piece} (hp : ∀ p ∈ ps, p.Proper) {shown : List (List Char)} :
    List.Forall₂ (ShownPiece t package) ps shown ↔ ps.map (shortenPiece t package) = shown := by
  induction ps generalizing shown with
  | nil => simp [eq_comm]
  | cons p ps ih =>
    have hq : ∀ q ∈ ps, q.Proper := fun q hq => hp q (by simp [hq])
    cases shown with
    | nil => simp
    | cons out shown =>
      rw [List.forall₂_cons, shownPiece_iff ht (hp p (by simp)), ih hq, List.map_cons,
        List.cons.injEq]

theorem shownText_iff {t : Imports} (ht : t.Registered) {package text out : String} :
    ShownText t package text out ↔ shortenText t package text = out := by
  rw [← String.toList_inj, toList_shortenText, List.flatMap_def]
  constructor
  · rintro ⟨cut, shown, hc, hs, ho⟩
    rw [(forall₂_shownPiece ht hc.proper).mp hs |>.symm, ← Name.cut_iff.mp hc] at ho
    exact ho.symm
  · intro h
    have hc := Name.pieces_cut text.toList
    exact ⟨_, _, hc, (forall₂_shownPiece ht hc.proper).mpr rfl, h.symm⟩

/-! Type arguments -/

lemma toList_shortenText_other (t : Imports) (package : String) {a b text : String} {c : Char}
    (hc : isNameChar c = false) (h : text.toList = a.toList ++ c :: b.toList) :
    (shortenText t package text).toList =
      (shortenText t package a).toList ++ c :: (shortenText t package b).toList := by
  simp only [toList_shortenText, h, Name.pieces_append_other hc, List.flatMap_append,
    List.flatMap_cons, shortenPiece, List.cons_append, List.nil_append]

lemma shortenText_empty (t : Imports) (package : String) : shortenText t package "" = "" := by
  simp [shortenText, Name.pieces_nil]

lemma shortenText_intercalate (t : Imports) (package : String) (texts : List String) :
    shortenText t package (", ".intercalate texts) =
      ", ".intercalate (texts.map (shortenText t package)) := by
  induction texts with
  | nil => exact shortenText_empty t package
  | cons a rest ih =>
    cases rest with
    | nil => simp
    | cons b rest =>
      apply String.toList_inj.mp
      have hs : (", ".intercalate (a :: b :: rest)).toList =
          a.toList ++ ',' :: (" " ++ ", ".intercalate (b :: rest)).toList := by
        simp [String.intercalate_cons_cons]
      have hb : (" " ++ ", ".intercalate (b :: rest)).toList =
          "".toList ++ ' ' :: (", ".intercalate (b :: rest)).toList := by
        simp
      rw [toList_shortenText_other t package rfl hs, toList_shortenText_other t package rfl hb, ih,
        shortenText_empty]
      simp [String.intercalate_cons_cons]

theorem shortenText_parameterized (t : Imports) (package raw : String) (arguments : List String) :
    shortenText t package (parameterized raw arguments) =
      parameterized (shortenText t package raw) (arguments.map (shortenText t package)) := by
  cases arguments with
  | nil => rfl
  | cons a rest =>
    apply String.toList_inj.mp
    have hl : (parameterized raw (a :: rest)).toList =
        raw.toList ++ '<' :: (", ".intercalate (a :: rest) ++ ">").toList := by
      simp [parameterized]
    have hg : (", ".intercalate (a :: rest) ++ ">").toList =
        (", ".intercalate (a :: rest)).toList ++ '>' :: "".toList := by
      simp
    rw [toList_shortenText_other t package rfl hl, toList_shortenText_other t package rfl hg,
      shortenText_intercalate, shortenText_empty]
    simp [parameterized]

/-- Once there is a package a text is always displayed: run by run, by the rules for names. The runs
are what the search for names finds. -/
theorem display_follows_rules {t : Imports} (ht : t.Registered) (package : String) :
    (∀ text, (Naming.mk t (some package)).display (.text text) =
      .ok (shortenText t package text)) ∧
    (∀ text out, shortenText t package text = out ↔ ShownText t package text out) ∧
    (∀ cs ps, Name.Scanned cs ps ↔ Name.Cut cs ps) ∧
    ∀ raw arguments, shortenText t package (parameterized raw arguments) =
      parameterized (shortenText t package raw) (arguments.map (shortenText t package)) :=
  ⟨fun text => display_ok rfl text, fun _ _ => (shownText_iff ht).symm,
    fun _ _ => Name.scanned_iff_cut, shortenText_parameterized t package⟩

/-- The table that holds `java.util.Map`. -/
def mapImported : Imports := ⟨[("java.util.Map", "Map")]⟩

lemma mapImported_registered : mapImported.Registered :=
  .add .empty (by cbv : Imports.add {} "java.util.Map" = .ok ("Map", mapImported))

theorem display_map_of_string :
    mapImported.Registered ∧
      (Naming.mk mapImported (some "p.")).display
        (.text "java.util.Map<java.lang.String, p.Foo...>") = .ok "Map<String, Foo...>" ∧
      ShownText mapImported "p." "java.util.Map<java.lang.String, p.Foo...>"
        "Map<String, Foo...>" := by
  have hs : shortenText mapImported "p." "java.util.Map<java.lang.String, p.Foo...>" =
      "Map<String, Foo...>" := by decide +kernel
  obtain ⟨hd, hr, -, -⟩ := display_follows_rules mapImported_registered "p."
  exact ⟨mapImported_registered, hs ▸ hd _, (hr _ _).mp hs⟩

end JavaScribe.Naming
