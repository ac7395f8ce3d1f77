import JavaScribe.Imports
import JavaScribe.Proofs.NameRuns

/-!
# Import tables as they come about

A table is `Registered` when it has been filled by adding names one after the other. Such a table
holds a name at most once and beside it the short name that its grammar gives, so a look-up finds
an entry exactly when it is there.
-/
namespace JavaScribe.Imports

inductive Registered : Imports → Prop
  | empty : Registered {}
  | add {t t' : Imports} {name short : String} (h : Registered t)
      (e : t.add name = .ok (short, t')) : Registered t'

theorem add_eq_ok_iff {t t' : Imports} {name short : String} :
    t.add name = .ok (short, t') ↔
      Name.short? name = some short ∧ name ∉ t.names ∧ t' = ⟨t.entries ++ [(name, short)]⟩ := by
  unfold add contains
  cases hs : Name.short? name with
  | none => simp
  | some s =>
    by_cases hn : name ∈ t.names
    · simp [hn]
    · simp only [List.contains_iff_mem, hn, if_false, Except.ok.injEq, Prod.mk.injEq,
        Option.some.injEq, not_false_eq_true, true_and]
      constructor
      · rintro ⟨rfl, rfl⟩
        exact ⟨rfl, rfl⟩
      · rintro ⟨rfl, rfl⟩
        exact ⟨rfl, rfl⟩

theorem names_append (t : Imports) (name short : String) :
    names ⟨t.entries ++ [(name, short)]⟩ = t.names ++ [name] := by
  simp [names]

theorem Registered.nodup {t : Imports} (h : t.Registered) : t.names.Nodup := by
  induction h with
  | empty => simp [names]
  | add h e ih =>
    obtain ⟨_, hn, rfl⟩ := add_eq_ok_iff.mp e
    rw [names_append]
    exact List.nodup_append.mpr ⟨ih, by simp, fun a ha b hb hab => by
      simp only [List.mem_singleton] at hb
      exact hn (hb ▸ hab ▸ ha)⟩

theorem Registered.short? {t : Imports} (h : t.Registered) {name short : String}
    (hm : (name, short) ∈ t.entries) : Name.short? name = some short := by
  induction h with
  | empty => simp at hm
  | add h e ih =>
    obtain ⟨hs, _, rfl⟩ := add_eq_ok_iff.mp e
    rcases List.mem_append.mp hm with hm | hm
    · exact ih hm
    · simp only [List.mem_singleton, Prod.mk.injEq] at hm
      obtain ⟨rfl, rfl⟩ := hm
      exact hs

/-- A name with a short name is one from end to end. -/
theorem isNameChar_of_short? {name short : String} (h : Name.short? name = some short) :
    ∀ c ∈ name.toList, Name.isNameChar c = true := by
  obtain ⟨q, hm⟩ := Name.short?_eq_some_iff.mp h
  have ha := Name.match?_append hm
  rw [List.append_nil, (Name.match?_run hm).1] at ha
  rw [← ha]
  exact fun c hc => List.mem_takeWhile_imp hc

theorem mem_names_iff {t : Imports} {name : String} :
    name ∈ t.names ↔ ∃ short, (name, short) ∈ t.entries := by
  simp [names]

theorem shortName?_eq_none_iff {t : Imports} {name : String} :
    t.shortName? name = none ↔ name ∉ t.names := by
  rw [shortName?, List.lookup_eq_none_iff, mem_names_iff]
  constructor
  · rintro h ⟨short, hm⟩
    simpa using h _ hm
  · intro h p hp
    simp only [bne_iff_ne, ne_eq]
    rintro rfl
    exact h ⟨p.2, hp⟩

theorem Registered.shortName?_eq_some_iff {t : Imports} (h : t.Registered) {name short : String} :
    t.shortName? name = some short ↔ (name, short) ∈ t.entries := by
  constructor
  · intro hs
    obtain ⟨l₁, l₂, hl, _⟩ := List.lookup_eq_some_iff.mp hs
    simp [hl]
  · intro hm
    cases hs : t.shortName? name with
    | none => exact absurd (mem_names_iff.mpr ⟨short, hm⟩) (shortName?_eq_none_iff.mp hs)
    | some s =>
      obtain ⟨l₁, l₂, hl, _⟩ := List.lookup_eq_some_iff.mp hs
      have h1 := h.short? hm
      have h2 : Name.short? name = some s := h.short? (by simp [hl])
      rw [h1] at h2
      exact congrArg some (Option.some.inj h2).symm

theorem displays_iff {t : Imports} {short : String} :
    t.displays short = true ↔ ∃ name, (name, short) ∈ t.entries := by
  simp [displays]

end JavaScribe.Imports
