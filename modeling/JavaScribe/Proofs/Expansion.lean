import JavaScribe.Proofs.NameGrammar
import JavaScribe.Proofs.Shortening
import JavaScribe.Scribe

/-!
# Expanding a shortened text

`expand` reads a shortened text back with the imports and the package alone. It restores every text
whose names are imported or qualified, when the imported names are made of segments and no two of
them share a short name.
-/
namespace JavaScribe.Naming
open Name (isNameChar pieces)

def expandName (t : Imports) (package s : String) : String :=
  match t.entries.find? (·.2 == s) with
  | some e => e.1
  | none => if '.' ∉ s.toList ∨ StartsUpper s then package ++ "." ++ s else s

def expandPiece (t : Imports) (package : String) : Name.Piece → List Char
  | .name run => (expandName t package (String.ofList run)).toList
  | .other c => [c]

def expand (t : Imports) (package text : String) : String :=
  String.ofList ((pieces text.toList).flatMap (expandPiece t package))

/-- An imported name, or a qualified one. A name of `java.lang` must be taken for a class of the
package, since otherwise it is shortened without a trace. -/
def Recoverable (n : Naming) (name : String) : Prop :=
  name ∈ n.imports.names ∨
    ('.' ∈ name.toList ∧ name.toList.getLast? ≠ some '.' ∧ ¬ StartsUpper name ∧
      ((∃ rest, name = "java.lang." ++ rest) → n.isSibling name = .ok true))

variable {t : Imports} {package name : String}

lemma find?_short (hs : (t.entries.map Prod.snd).Nodup) {short : String}
    (hm : (name, short) ∈ t.entries) :
    t.entries.find? (·.2 == short) = some (name, short) := by
  cases hf : t.entries.find? (·.2 == short) with
  | none =>
    have := List.find?_eq_none.mp hf _ hm
    simp at this
  | some e =>
    have he : e.2 = short := by simpa using List.find?_some hf
    have hi := List.inj_on_of_nodup_map hs (List.mem_of_find?_eq_some hf) hm he
    rw [hi]

lemma expandName_of_not_short {s : String} (h : ∀ m, (m, s) ∉ t.entries) :
    expandName t package s =
      if '.' ∉ s.toList ∨ StartsUpper s then package ++ "." ++ s else s := by
  have hf : t.entries.find? (·.2 == s) = none := by
    rw [List.find?_eq_none]
    intro e he
    simp only [beq_iff_eq]
    rintro rfl
    exact h e.1 he
  rw [expandName, hf]

/-- Short names have no dot, so a qualified name is none of them. -/
lemma expandName_qualified (ht : t.Registered)
    (hw : ∀ name ∈ t.names, Name.Segmented name.toList) (hd : '.' ∈ name.toList)
    (hu : ¬ StartsUpper name) : expandName t package name = name := by
  have hn : ∀ m, (m, name) ∉ t.entries := by
    intro m hm
    obtain ⟨last, hs, -, hl, -⟩ := Name.short?_segmented (hw m (Imports.mem_names_iff.mpr ⟨_, hm⟩))
    have he : name = String.ofList last := Option.some.inj ((ht.short? hm).symm.trans hs)
    rw [he, String.toList_ofList] at hd
    exact hl hd
  rw [expandName_of_not_short hn, if_neg]
  exact not_or.mpr ⟨not_not.mpr hd, hu⟩

/-- The displayed form of a name is again a run, and expanding it gives the name. -/
lemma expandName_shorten (ht : t.Registered) (hw : ∀ name ∈ t.names, Name.Segmented name.toList)
    (hs : (t.entries.map Prod.snd).Nodup) (hc : ∀ c ∈ name.toList, isNameChar c = true)
    (hr : Recoverable ⟨t, some (package ++ ".")⟩ name) :
    expandName t package (shorten t (package ++ ".") name) = name ∧
      shorten t (package ++ ".") name ≠ "" ∧
      ∀ c ∈ (shorten t (package ++ ".") name).toList, isNameChar c = true := by
  have hsh : Shown t (package ++ ".") name (shorten t (package ++ ".") name) :=
    shown_shorten ht hc
  generalize shorten t (package ++ ".") name = out at hsh
  have hq : name ∉ t.names → '.' ∈ name.toList ∧ name.toList.getLast? ≠ some '.' ∧
      ¬ StartsUpper name ∧ ((∃ rest, name = "java.lang." ++ rest) →
        (Naming.mk t (some (package ++ "."))).isSibling name = .ok true) :=
    fun hn => hr.resolve_left hn
  have hne : '.' ∈ name.toList → name ≠ "" := by
    rintro hd rfl
    exact absurd hd (by simp)
  cases hsh with
  | imported hm =>
    obtain ⟨last, hl, hn, -, hcl⟩ :=
      Name.short?_segmented (hw name (Imports.mem_names_iff.mpr ⟨_, hm⟩))
    have he : out = String.ofList last := Option.some.inj ((ht.short? hm).symm.trans hl)
    refine ⟨by rw [expandName, find?_short hs hm], ?_, ?_⟩
    · rw [he, ne_eq, ← String.toList_eq_nil_iff, String.toList_ofList]
      exact hn
    · rw [he, String.toList_ofList]
      exact hcl
  | sibling hn hp hcr hns =>
    obtain ⟨-, hl, -, -⟩ := hq hn
    refine ⟨by rw [expandName_of_not_short hns, if_pos (by exact hcr), hp], ?_, ?_⟩
    · rintro rfl
      exact hl (by simp [hp])
    · intro c h
      exact hc c (by simp [hp, h])
  | shadowed hn =>
    obtain ⟨hd, -, hu, -⟩ := hq hn
    exact ⟨expandName_qualified ht hw hd hu, hne hd, hc⟩
  | builtin hn hp hj =>
    obtain ⟨-, -, -, hb⟩ := hq hn
    have hno : classRest? (package ++ ".") name = none := (classRest?_eq_none_iff hc).mpr hp
    have hsib := hb ⟨_, hj⟩
    simp [isSibling, hno] at hsib
  | unchanged hn =>
    obtain ⟨hd, -, hu, -⟩ := hq hn
    exact ⟨expandName_qualified ht hw hd hu, hne hd, hc⟩

lemma packagePrefix_text {p : String} (hp : p ≠ "") :
    Scribe.packagePrefix (.text p) = p ++ "." := by
  unfold Scribe.packagePrefix
  split
  · rename_i h
    injection h with h
    exact absurd h hp
  · rename_i h
    injection h with h
    rw [h]
  · rename_i h
    exact absurd rfl (h p)

lemma packagePrefix_cases (v : Value) :
    Scribe.packagePrefix v = "" ∨ ∃ p, Scribe.packagePrefix v = p ++ "." := by
  unfold Scribe.packagePrefix
  split
  · exact Or.inl rfl
  · exact Or.inr ⟨_, rfl⟩
  · exact Or.inl rfl

/-- The runs of the shortened text are the shortened runs, so expanding goes run by run. -/
lemma expand_shortenText {text : String} (hx : ∀ run, .name run ∈ pieces text.toList →
      expandName t package (shorten t (package ++ ".") (String.ofList run)) = String.ofList run ∧
        shorten t (package ++ ".") (String.ofList run) ≠ "" ∧
        ∀ c ∈ (shorten t (package ++ ".") (String.ofList run)).toList, isNameChar c = true) :
    expand t package (shortenText t (package ++ ".") text) = text := by
  let f : List Char → List Char :=
    fun run => (shorten t (package ++ ".") (String.ofList run)).toList
  have hf : ∀ run, .name run ∈ pieces text.toList →
      f run ≠ [] ∧ ∀ c ∈ f run, isNameChar c = true := by
    intro run hr
    obtain ⟨-, hn, hc⟩ := hx run hr
    exact ⟨fun he => hn (String.toList_eq_nil_iff.mp he), hc⟩
  have hp : ∀ p, (p.mapName f).toList = shortenPiece t (package ++ ".") p := by
    intro p
    cases p <;> rfl
  have hs : pieces (shortenText t (package ++ ".") text).toList =
      (pieces text.toList).map (Name.Piece.mapName f) := by
    rw [toList_shortenText, ← Name.pieces_mapName hf]
    simp only [hp]
  apply String.toList_inj.mp
  rw [expand, String.toList_ofList, hs, List.flatMap_map]
  conv_rhs => rw [← Name.flatMap_pieces text.toList]
  apply List.flatMap_congr
  intro p hm
  cases p with
  | other c => rfl
  | name run =>
    obtain ⟨he, -, -⟩ := hx run hm
    simp [Name.Piece.mapName, expandPiece, f, he, Name.Piece.toList]

/-- Displaying a text and expanding it again gives the text. -/
theorem expand_display (ht : t.Registered) (hw : ∀ name ∈ t.names, Name.Segmented name.toList)
    (hs : (t.entries.map Prod.snd).Nodup) {p text : String} (hp : p ≠ "")
    (hx : ∀ run, .name run ∈ pieces text.toList →
      Recoverable ⟨t, some (Scribe.packagePrefix (.text p))⟩ (String.ofList run)) :
    ∃ out, (Naming.mk t (some (Scribe.packagePrefix (.text p)))).display (.text text) = .ok out ∧
      expand t p out = text := by
  refine ⟨_, display_ok rfl text, ?_⟩
  rw [packagePrefix_text hp] at hx ⊢
  apply expand_shortenText
  intro run hr
  have hc : ∀ c ∈ run, isNameChar c = true := ((Name.pieces_cut _).proper _ hr).2
  exact expandName_shorten ht hw hs (by simpa using hc) (hx run hr)

theorem expand_display_map :
    mapImported.Registered ∧ (∀ name ∈ mapImported.names, Name.Segmented name.toList) ∧
      (mapImported.entries.map Prod.snd).Nodup ∧ "p" ≠ "" ∧
      ∃ out, (Naming.mk mapImported (some (Scribe.packagePrefix (.text "p")))).display
          (.text "java.util.Map<p.Foo, q.Bar>") = .ok out ∧
        expand mapImported "p" out = "java.util.Map<p.Foo, q.Bar>" := by
  have hw : ∀ name ∈ mapImported.names, Name.Segmented name.toList := by
    intro name hn
    have hm : name = "java.util.Map" := by simpa [mapImported, Imports.names] using hn
    subst hm
    exact ⟨["java".toList, "util".toList], "Map".toList, by decide +kernel,
      by simp [Name.isWordChar], by decide, by simp [Name.isWordChar]⟩
  have hs : (mapImported.entries.map Prod.snd).Nodup := by decide
  have hx : ∀ run, .name run ∈ pieces "java.util.Map<p.Foo, q.Bar>".toList →
      Recoverable ⟨mapImported, some (Scribe.packagePrefix (.text "p"))⟩ (String.ofList run) := by
    have hp : pieces "java.util.Map<p.Foo, q.Bar>".toList =
        [.name "java.util.Map".toList, .other '<', .name "p.Foo".toList, .other ',', .other ' ',
          .name "q.Bar".toList, .other '>'] := by decide +kernel
    have hj : ∀ name, after? builtinPackage name = none →
        ¬ ∃ rest, name = "java.lang." ++ rest := by
      rintro name h ⟨rest, he⟩
      exact after?_eq_none_iff.mp h rest he
    intro run hr
    simp only [hp, List.mem_cons, Name.Piece.name.injEq, reduceCtorEq, false_or, List.not_mem_nil,
      or_false] at hr
    rcases hr with rfl | rfl | rfl
    · exact Or.inl (by decide +kernel)
    · exact Or.inr ⟨by decide +kernel, by decide +kernel, by decide +kernel,
        fun h => absurd h (hj _ (by decide +kernel))⟩
    · exact Or.inr ⟨by decide +kernel, by decide +kernel, by decide +kernel,
        fun h => absurd h (hj _ (by decide +kernel))⟩
  exact ⟨mapImported_registered, hw, hs, by decide,
    expand_display mapImported_registered hw hs (by decide) hx⟩

end JavaScribe.Naming
