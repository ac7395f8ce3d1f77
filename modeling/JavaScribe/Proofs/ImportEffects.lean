import JavaScribe.Proofs.Resolution

/-!
# What an import changes

The table is asked in two ways: for the short name of a name, and whether a text is one of the
short names. An import changes the first answer for its own name and the second for its short name,
which only the class of the package with that very rest is compared with. So two names at most are
displayed differently after it, and the order in which names were imported does not matter.
-/
namespace JavaScribe
namespace Imports
variable {t t' : Imports} {name short : String}

theorem shortName?_add (h : t.add name = .ok (short, t')) (m : String) :
    t'.shortName? m = if m = name then some short else t.shortName? m := by
  obtain ⟨-, hn, rfl⟩ := add_eq_ok_iff.mp h
  have ha : shortName? ⟨t.entries ++ [(name, short)]⟩ m =
      (t.shortName? m).or ([(name, short)].lookup m) := List.lookup_append
  by_cases hm : m = name
  · subst hm
    simp [ha, shortName?_eq_none_iff.mpr hn]
  · simp [ha, hm, List.lookup, beq_false_of_ne hm]

theorem displays_add (h : t.add name = .ok (short, t')) (s : String) :
    t'.displays s = (t.displays s || decide (s = short)) := by
  rw [Bool.eq_iff_iff, displays, displays, entries_add h]
  simp only [List.map_append, List.map_cons, List.map_nil, List.contains_iff_mem, List.mem_append,
    List.mem_singleton, Bool.or_eq_true, decide_eq_true_eq]

/-- What a table holds is told by the names in it. -/
theorem Registered.mem_entries_iff (ht : t.Registered) :
    (name, short) ∈ t.entries ↔ name ∈ t.names ∧ Name.short? name = some short := by
  constructor
  · exact fun hm => ⟨mem_names_iff.mpr ⟨short, hm⟩, ht.short? hm⟩
  · rintro ⟨hn, hs⟩
    obtain ⟨s, hm⟩ := mem_names_iff.mp hn
    obtain rfl : s = short := Option.some.inj ((ht.short? hm).symm.trans hs)
    exact hm

lemma Registered.shortName?_congr (ht : t.Registered) (ht' : t'.Registered)
    (hn : ∀ m, m ∈ t.names ↔ m ∈ t'.names) (m : String) : t.shortName? m = t'.shortName? m := by
  apply Option.ext
  intro s
  rw [ht.shortName?_eq_some_iff, ht'.shortName?_eq_some_iff, ht.mem_entries_iff,
    ht'.mem_entries_iff, hn]

lemma Registered.displays_congr (ht : t.Registered) (ht' : t'.Registered)
    (hn : ∀ m, m ∈ t.names ↔ m ∈ t'.names) (s : String) : t.displays s = t'.displays s := by
  rw [Bool.eq_iff_iff, displays_iff, displays_iff]
  simp only [ht.mem_entries_iff, ht'.mem_entries_iff, hn]

end Imports

namespace Naming
variable {t t' : Imports} {package name short m : String}

/-- The two questions that are put to the table. -/
lemma resolve_congr (hs : t.shortName? name = t'.shortName? name)
    (hd : ∀ rest, name = package ++ rest → t.displays rest = t'.displays rest) :
    resolve t package name = resolve t' package name := by
  unfold resolve
  rw [hs]
  cases hc : classRest? package name with
  | some rest => simp only [hd rest (eq_append_of_classRest? hc)]
  | none => rfl

lemma shortenText_congr {text : String} {cut : List Name.Piece} (hc : Name.Cut text.toList cut)
    (h : ∀ run, .name run ∈ cut →
      shorten t package (String.ofList run) = shorten t' package (String.ofList run)) :
    shortenText t package text = shortenText t' package text := by
  apply String.toList_inj.mp
  rw [toList_shortenText, toList_shortenText, Name.cut_iff.mp hc]
  apply List.flatMap_congr
  intro p hp
  cases p with
  | other c => rfl
  | name run => simp only [shortenPiece, h run hp]

lemma shorten_add_of_ne (h : t.add name = .ok (short, t')) (hm : m ≠ name)
    (hp : m ≠ package ++ short) : shorten t' package m = shorten t package m := by
  have hr : resolve t' package m = resolve t package m := by
    refine resolve_congr (by simp [Imports.shortName?_add h, hm]) fun rest hr => ?_
    have hs : rest ≠ short := by
      rintro rfl
      exact hp hr
    simp [Imports.displays_add h, hs]
  rw [shorten, shorten, hr]

lemma shorten_add_self (h : t.add name = .ok (short, t')) (package : String) :
    shorten t' package name = short :=
  shorten_imported (by simp [Imports.shortName?_add h]) package

/-- The class of the package that an import shadows. -/
lemma shorten_add_shadowed (h : t.add name = .ok (short, t'))
    (hn : package ++ short ∉ t'.names) (hc : classRest? package (package ++ short) = some short) :
    shorten t' package (package ++ short) = package ++ short := by
  have hd : t'.displays short = true := by simp [Imports.displays_add h]
  exact shorten_eq_of_resolve (r := .shadowed short)
    (resolve_eq_iff.mpr ⟨Imports.shortName?_eq_none_iff.mpr hn, hc, hd⟩)

lemma classRest?_of_isSibling {n : Naming} (hp : n.package = some package)
    (h : n.isSibling (package ++ name) = .ok true) :
    classRest? package (package ++ name) = some name := by
  simp only [isSibling, hp, Except.ok.injEq] at h
  obtain ⟨rest, hr⟩ := Option.isSome_iff_exists.mp h
  obtain rfl : name = rest := (String.append_right_inj package).mp (eq_append_of_classRest? hr)
  exact hr

/-- An import is displayed by its short name from then on, and the class of the package with that
rest in full. Every other name, and every text without these two, is displayed as before. Tables
with the same names display every text alike, whatever the order in which the names came. -/
theorem import_affects_two_names {t t' : Imports} {name short : String}
    (h : t.add name = .ok (short, t')) (package : String) :
    (∀ m, m ≠ name → m ≠ package ++ short →
      (Naming.mk t' (some package)).displayName m = (Naming.mk t (some package)).displayName m) ∧
    (Naming.mk t' (some package)).displayName name = .ok short ∧
    (package ++ short ∉ t'.names →
      (Naming.mk t' (some package)).isSibling (package ++ short) = .ok true →
      (Naming.mk t' (some package)).displayName (package ++ short) = .ok (package ++ short)) ∧
    (∀ text cut, Name.Cut text.toList cut →
      (∀ run, .name run ∈ cut → String.ofList run ≠ name ∧ String.ofList run ≠ package ++ short) →
      (Naming.mk t' (some package)).display (.text text) =
        (Naming.mk t (some package)).display (.text text)) ∧
    ∀ u u' : Imports, u.Registered → u'.Registered → (∀ m, m ∈ u.names ↔ m ∈ u'.names) → ∀ text,
      (Naming.mk u (some package)).display (.text text) =
        (Naming.mk u' (some package)).display (.text text) := by
  refine ⟨fun m hm hp => congrArg Except.ok (shorten_add_of_ne h hm hp),
    congrArg Except.ok (shorten_add_self h package), fun hn hs => ?_, fun text cut hc hr => ?_,
    fun u u' hu hu' hn text => ?_⟩
  · have hc : classRest? package (package ++ short) = some short := classRest?_of_isSibling rfl hs
    exact congrArg Except.ok (shorten_add_shadowed h hn hc)
  · have hs : ∀ run, .name run ∈ cut →
        shorten t' package (String.ofList run) = shorten t package (String.ofList run) :=
      fun run hm => shorten_add_of_ne h (hr run hm).1 (hr run hm).2
    exact congrArg Except.ok (shortenText_congr hc hs)
  · have hs : ∀ run, shorten u package run = shorten u' package run := fun run =>
      congrArg (Resolution.display run) (resolve_congr (hu.shortName?_congr hu' hn run)
        fun rest _ => hu.displays_congr hu' hn rest)
    exact congrArg Except.ok (shortenText_congr (Name.pieces_cut _) fun run _ => hs _)

/-- The table that holds `java.util.Map` and `q.Foo`, and the same names the other way round. -/
def fooImported : Imports := ⟨[("java.util.Map", "Map"), ("q.Foo", "Foo")]⟩
def fooImportedFirst : Imports := ⟨[("q.Foo", "Foo"), ("java.util.Map", "Map")]⟩

theorem foo_import_shadows_class :
    mapImported.add "q.Foo" = .ok ("Foo", fooImported) ∧
      (Naming.mk mapImported (some "p.")).displayName "p.Foo" = .ok "Foo" ∧
      (Naming.mk fooImported (some "p.")).displayName "p.Foo" = .ok "p.Foo" ∧
      (Naming.mk fooImported (some "p.")).displayName "q.Foo" = .ok "Foo" ∧
      (Naming.mk fooImported (some "p.")).displayName "p.Bar" =
        (Naming.mk mapImported (some "p.")).displayName "p.Bar" ∧
      (Naming.mk fooImported (some "p.")).display (.text "java.util.Map[]") =
        (Naming.mk mapImported (some "p.")).display (.text "java.util.Map[]") ∧
      (Naming.mk fooImported (some "p.")).display (.text "q.Foo[]") =
        (Naming.mk fooImportedFirst (some "p.")).display (.text "q.Foo[]") := by
  have h : mapImported.add "q.Foo" = .ok ("Foo", fooImported) := by cbv
  obtain ⟨hm, hs, hp, ht, ho⟩ := import_affects_two_names h "p."
  have hc : Name.Cut "java.util.Map[]".toList
      [.name "java.util.Map".toList, .other '[', .other ']'] :=
    Name.cut_iff.mpr (by decide +kernel)
  have hr : fooImported.Registered := mapImported_registered.add h
  have hf : fooImportedFirst.Registered :=
    .add (.add .empty (by cbv : Imports.add {} "q.Foo" = .ok ("Foo", ⟨[("q.Foo", "Foo")]⟩)))
      (by cbv : Imports.add ⟨[("q.Foo", "Foo")]⟩ "java.util.Map" = .ok ("Map", fooImportedFirst))
  have hn : ∀ m, m ∈ fooImported.names ↔ m ∈ fooImportedFirst.names := by
    intro m
    simp [fooImported, fooImportedFirst, Imports.names, or_comm]
  refine ⟨h, by decide +kernel, hp (by decide) (by decide +kernel), hs,
    hm _ (by decide) (by decide), ht _ _ hc fun run hrun => ?_, ho _ _ hr hf hn _⟩
  simp only [List.mem_cons, Name.Piece.name.injEq, reduceCtorEq, List.not_mem_nil, or_false] at hrun
  subst hrun
  exact ⟨by decide, by decide⟩

end Naming
end JavaScribe
