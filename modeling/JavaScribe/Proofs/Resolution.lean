import JavaScribe.Proofs.Shortening

/-!
# Ways to resolve a name

Every way to resolve a name is due under one condition on the table and the package
(`resolve_eq_iff`), for any text that is looked up as a name. What a name is displayed as leaves
little choice of where it comes from (`displayName_origin`), so two names are seldom displayed
alike, and two classes of the package never are.
-/
namespace JavaScribe

/-- What has to hold of a name for it to be resolved in this way. -/
def Resolution.Due (t : Imports) (package name : String) : Resolution → Prop
  | imported short => t.shortName? name = some short
  | sibling rest => t.shortName? name = none ∧ Naming.classRest? package name = some rest ∧
      t.displays rest = false
  | shadowed rest => t.shortName? name = none ∧ Naming.classRest? package name = some rest ∧
      t.displays rest = true
  | builtin rest => t.shortName? name = none ∧ Naming.classRest? package name = none ∧
      Naming.after? Naming.builtinPackage name = some rest
  | unchanged => t.shortName? name = none ∧ Naming.classRest? package name = none ∧
      Naming.after? Naming.builtinPackage name = none

namespace Naming
variable {t : Imports} {package name rest s : String}

theorem resolve_eq_iff {r : Resolution} :
    resolve t package name = r ↔ r.Due t package name := by
  unfold resolve
  cases hs : t.shortName? name with
  | some short => cases r <;> simp [Resolution.Due, hs]
  | none =>
    cases hc : classRest? package name with
    | some rest =>
      cases hd : t.displays rest <;> cases r <;> simp [Resolution.Due, hs, hc] <;> grind
    | none =>
      cases ha : after? builtinPackage name <;> cases r <;> simp [Resolution.Due, hs, hc, ha]

lemma eq_append_of_classRest? (h : classRest? package name = some rest) :
    name = package ++ rest :=
  after?_eq_some_iff.mp (Option.filter_eq_some_iff.mp h).1

lemma mem_entries_of_shortName? (h : t.shortName? name = some s) : (name, s) ∈ t.entries := by
  obtain ⟨l₁, l₂, hl, -⟩ := List.lookup_eq_some_iff.mp h
  simp [hl]

/-! ## Names that are displayed alike -/

lemma shorten_eq_of_resolve {r : Resolution} (h : resolve t package name = r) :
    shorten t package name = r.display name := by
  rw [shorten, h]

lemma shorten_origin (h : shorten t package name = s) :
    (name, s) ∈ t.entries ∨ resolve t package name = .sibling s ∨ name = s ∨
      name = "java.lang." ++ s := by
  cases hr : resolve t package name with
  | imported short =>
    obtain rfl : short = s := (shorten_eq_of_resolve hr).symm.trans h
    exact Or.inl (mem_entries_of_shortName? (resolve_eq_iff.mp hr))
  | sibling rest =>
    obtain rfl : rest = s := (shorten_eq_of_resolve hr).symm.trans h
    exact Or.inr (Or.inl rfl)
  | builtin rest =>
    obtain rfl : rest = s := (shorten_eq_of_resolve hr).symm.trans h
    obtain ⟨-, -, ha⟩ := resolve_eq_iff.mp hr
    exact Or.inr (Or.inr (Or.inr (after?_eq_some_iff.mp ha)))
  | shadowed | unchanged => exact Or.inr (Or.inr (Or.inl ((shorten_eq_of_resolve hr).symm.trans h)))

/-- A name that is displayed as `s` is imported so, or a class of the package whose rest is `s`, or
`s` itself, or `s` in `java.lang`. -/
lemma displayName_origin {n : Naming} (h : n.displayName name = .ok s) :
    (name, s) ∈ n.imports.entries ∨
      (∃ package, n.package = some package ∧ resolve n.imports package name = .sibling s) ∨
      name = s ∨ name = "java.lang." ++ s := by
  unfold displayName at h
  cases hp : n.package with
  | some package =>
    rw [hp] at h
    rcases shorten_origin (Except.ok.inj h) with hi | hs | hn
    · exact Or.inl hi
    · exact Or.inr (Or.inl ⟨package, rfl, hs⟩)
    · exact Or.inr (Or.inr hn)
  | none =>
    cases hs : n.imports.shortName? name with
    | some short =>
      simp only [hp, hs, Except.ok.injEq] at h
      exact Or.inl (mem_entries_of_shortName? (h ▸ hs))
    | none => simp [hp, hs] at h

lemma displayName_imported {n : Naming} (hn : n.imports.Registered)
    (h : (name, s) ∈ n.imports.entries) : n.displayName name = .ok s := by
  have hs : n.imports.shortName? name = some s := hn.shortName?_eq_some_iff.mpr h
  unfold displayName
  cases n.package with
  | some package => simp [shorten_imported hs]
  | none => simp [hs]

/-- The rest of a class of the package is displayed only where no import is displayed so. -/
lemma not_mem_of_sibling (h : resolve t package name = .sibling rest) (m : String) :
    (m, rest) ∉ t.entries := by
  obtain ⟨-, -, hd⟩ := resolve_eq_iff.mp h
  intro hm
  rw [Imports.displays_iff.mpr ⟨m, hm⟩] at hd
  exact absurd hd (by simp)

lemma eq_append_of_sibling (h : resolve t package name = .sibling rest) :
    name = package ++ rest := by
  obtain ⟨-, hc, -⟩ := resolve_eq_iff.mp h
  exact eq_append_of_classRest? hc

/-- Two names are displayed alike only if both are imported so, or one of them is the displayed form
itself or that form in `java.lang`. Imports do share short names; a class of the package shares its
displayed form with no import and with no other class of the package. -/
theorem displayed_alike {n : Naming} (hn : n.imports.Registered) :
    (∀ a b s, a ≠ b → n.displayName a = .ok s → n.displayName b = .ok s →
      ((a, s) ∈ n.imports.entries ∧ (b, s) ∈ n.imports.entries) ∨ (a = s ∨ b = s) ∨
        (a = "java.lang." ++ s ∨ b = "java.lang." ++ s)) ∧
    (∀ a s, (a, s) ∈ n.imports.entries → n.displayName a = .ok s) ∧
    (∀ package a rest, resolve n.imports package a = .sibling rest →
      ∀ m, (m, rest) ∉ n.imports.entries) ∧
    ∀ package a b rest, resolve n.imports package a = .sibling rest →
      resolve n.imports package b = .sibling rest → a = b := by
  refine ⟨fun a b s hab ha hb => ?_, fun a s => displayName_imported hn,
    fun package a rest => not_mem_of_sibling, fun package a b rest ha hb =>
      (eq_append_of_sibling ha).trans (eq_append_of_sibling hb).symm⟩
  rcases displayName_origin ha with hi | ⟨package, hp, hs⟩ | rfl | rfl
  · rcases displayName_origin hb with hj | ⟨package, -, ht⟩ | rfl | rfl
    · exact Or.inl ⟨hi, hj⟩
    · exact absurd hi (not_mem_of_sibling ht a)
    · exact Or.inr (Or.inl (Or.inr rfl))
    · exact Or.inr (Or.inr (Or.inr rfl))
  · rcases displayName_origin hb with hj | ⟨package', hp', ht⟩ | rfl | rfl
    · exact absurd hj (not_mem_of_sibling hs b)
    · obtain rfl : package = package' := Option.some.inj (hp.symm.trans hp')
      exact absurd ((eq_append_of_sibling hs).trans (eq_append_of_sibling ht).symm) hab
    · exact Or.inr (Or.inl (Or.inr rfl))
    · exact Or.inr (Or.inr (Or.inr rfl))
  · exact Or.inr (Or.inl (Or.inl rfl))
  · exact Or.inr (Or.inr (Or.inl rfl))

theorem strings_displayed_alike :
    (Naming.mk mapImported (some "p.")).imports.Registered ∧ "p.String" ≠ "java.lang.String" ∧
      (Naming.mk mapImported (some "p.")).displayName "p.String" = .ok "String" ∧
      (Naming.mk mapImported (some "p.")).displayName "java.lang.String" = .ok "String" ∧
      (("p.String", "String") ∈ mapImported.entries ∧
          ("java.lang.String", "String") ∈ mapImported.entries ∨
        ("p.String" = "String" ∨ "java.lang.String" = "String") ∨
        ("p.String" = "java.lang." ++ "String" ∨
          "java.lang.String" = "java.lang." ++ "String")) := by
  have ha : (Naming.mk mapImported (some "p.")).displayName "p.String" = .ok "String" := by
    decide +kernel
  have hb : (Naming.mk mapImported (some "p.")).displayName "java.lang.String" = .ok "String" := by
    decide +kernel
  have hab : "p.String" ≠ "java.lang.String" := by decide
  have ht : (Naming.mk mapImported (some "p.")).imports.Registered := mapImported_registered
  exact ⟨ht, hab, ha, hb, (displayed_alike ht).1 _ _ _ hab ha hb⟩

end Naming
end JavaScribe
