import JavaScribe.Proofs.Shortening

/-!
# Shortened names that read as imported ones

What is displayed is read from its leading part. Where that is the short name of an import, a
shortened name is taken for another type. The rule for the package asks whether the whole rest of a
name is a short name, and the rule for `java.lang` asks nothing, so there are two such cases.
-/
namespace JavaScribe.Naming
open Name (isNameChar)

/-- The part of a name before its first dot. -/
def leading (s : String) : String := String.ofList (s.toList.takeWhile (· != '.'))

lemma leading_of_not_mem {s : String} (h : '.' ∉ s.toList) : leading s = s := by
  have : s.toList.takeWhile (· != '.') = s.toList :=
    List.takeWhile_eq_self_iff.mpr fun c hc => by
      simp only [bne_iff_ne, ne_eq]
      rintro rfl
      exact h hc
  rw [leading, this, String.ofList_toList]

lemma leading_append_dot {s : String} (h : '.' ∉ s.toList) (more : String) :
    leading (s ++ "." ++ more) = s := by
  have hc : ∀ c ∈ s.toList, (c != '.') = true := fun c hc => by
    simp only [bne_iff_ne, ne_eq]
    rintro rfl
    exact h hc
  simp [leading, List.takeWhile_append_of_pos hc]

lemma not_mem_leading (s : String) : '.' ∉ (leading s).toList := by
  intro h
  rw [leading, String.toList_ofList] at h
  simpa using List.mem_takeWhile_imp h

lemma leading_cases (s : String) : leading s = s ∨ ∃ more, s = leading s ++ "." ++ more := by
  have hs := List.takeWhile_append_dropWhile (p := (· != '.')) (l := s.toList)
  cases hd : s.toList.dropWhile (· != '.') with
  | nil =>
    left
    rw [hd, List.append_nil] at hs
    rw [leading, hs, String.ofList_toList]
  | cons c cs =>
    right
    have hc : c = '.' := by
      have := List.head?_dropWhile_not (· != '.') s.toList
      simpa [hd] using this
    subst hc
    refine ⟨String.ofList cs, String.toList_inj.mp ?_⟩
    rw [hd] at hs
    simpa [leading] using hs.symm

lemma StartsUpper.leading {s : String} (h : StartsUpper s) : StartsUpper (leading s) := by
  obtain ⟨c, hc, hu⟩ := h
  obtain ⟨cs, hs⟩ := List.head?_eq_some_iff.mp hc
  have hd : c ≠ '.' := by
    rintro rfl
    exact absurd hu (by decide)
  exact ⟨c, by simp [Naming.leading, hs, hd], hu⟩

lemma shorten_captured {t : Imports} (ht : t.Registered) {package name m : String}
    (h : ∀ c ∈ name.toList, isNameChar c = true) (hn : name ∉ t.names)
    (hne : shorten t package name ≠ name)
    (hm : (m, leading (shorten t package name)) ∈ t.entries) :
    ∃ short more m, (m, short) ∈ t.entries ∧ '.' ∉ short.toList ∧
      ((package ≠ "" ∧ StartsUpper short ∧ name = package ++ (short ++ "." ++ more) ∧
          ∀ m, (m, short ++ "." ++ more) ∉ t.entries) ∨
        ((∀ r, name = package ++ r → ¬ ClassRest r) ∧
          (name = "java.lang." ++ short ∨ name = "java.lang." ++ (short ++ "." ++ more)))) := by
  have hs : Shown t package name (shorten t package name) := shown_shorten ht h
  generalize shorten t package name = out at hne hm hs
  cases hs with
  | imported hi => exact absurd (Imports.mem_names_iff.mpr ⟨_, hi⟩) hn
  | shadowed | unchanged => exact absurd rfl hne
  | sibling _ hr hc hs =>
    -- a rest without a dot is its own leading part, and that is no short name
    obtain he | ⟨more, he⟩ := leading_cases out
    · exact absurd (he ▸ hm) (hs m)
    · have hd : '.' ∈ out.toList := by rw [he]; simp
      have hu : StartsUpper out := hc.resolve_left (not_not.mpr hd)
      refine ⟨leading out, more, m, hm, not_mem_leading out, Or.inl ⟨?_, hu.leading, ?_, ?_⟩⟩
      · rintro rfl
        exact hne (by simp [hr])
      · exact he ▸ hr
      · exact he ▸ hs
  | builtin _ hp hr =>
    obtain he | ⟨more, he⟩ := leading_cases out
    · exact ⟨leading out, "", m, hm, not_mem_leading out, Or.inr ⟨hp, Or.inl (he.symm ▸ hr)⟩⟩
    · exact ⟨leading out, more, m, hm, not_mem_leading out, Or.inr ⟨hp, Or.inr (he ▸ hr)⟩⟩

/-- A name is shortened to what reads as an imported type in these cases and no other: it lies in a
class of the package whose own name is imported from elsewhere, or it is a name of `java.lang` whose
first part is. -/
theorem shorten_captured_iff {t : Imports} (ht : t.Registered) {package name : String}
    (h : ∀ c ∈ name.toList, isNameChar c = true) (hn : name ∉ t.names) :
    (shorten t package name ≠ name ∧ ∃ m, (m, leading (shorten t package name)) ∈ t.entries) ↔
      ∃ short more m, (m, short) ∈ t.entries ∧ '.' ∉ short.toList ∧
        ((package ≠ "" ∧ StartsUpper short ∧ name = package ++ (short ++ "." ++ more) ∧
            ∀ m, (m, short ++ "." ++ more) ∉ t.entries) ∨
          ((∀ r, name = package ++ r → ¬ ClassRest r) ∧
            (name = "java.lang." ++ short ∨ name = "java.lang." ++ (short ++ "." ++ more)))) := by
  constructor
  · rintro ⟨hne, m, hm⟩
    exact shorten_captured ht h hn hne hm
  · rintro ⟨short, more, m, hm, hd, ⟨hp, hu, hr, hs⟩ | ⟨hp, hr | hr⟩⟩
    · have hc : ClassRest (short ++ "." ++ more) := Or.inr ((hu.append ".").append more)
      rw [(Shown.sibling hn hr hc hs).eq_shorten ht h, leading_append_dot hd]
      refine ⟨fun he => hp ?_, m, hm⟩
      rw [he] at hr
      exact eq_empty_of_eq_append hr
    · rw [(Shown.builtin hn hp hr).eq_shorten ht h, leading_of_not_mem hd]
      refine ⟨fun he => ?_, m, hm⟩
      rw [he] at hr
      exact absurd (eq_empty_of_eq_append hr) (by decide)
    · rw [(Shown.builtin hn hp hr).eq_shorten ht h, leading_append_dot hd]
      refine ⟨fun he => ?_, m, hm⟩
      rw [he] at hr
      exact absurd (eq_empty_of_eq_append hr) (by decide)

/-- The table that holds `q.String`. -/
def stringImported : Imports := ⟨[("q.String", "String")]⟩

lemma stringImported_registered : stringImported.Registered :=
  .add .empty (by cbv : Imports.add {} "q.String" = .ok ("String", stringImported))

theorem builtin_string_captured :
    stringImported.Registered ∧ (∀ c ∈ "java.lang.String".toList, isNameChar c = true) ∧
      "java.lang.String" ∉ stringImported.names ∧
      shorten stringImported "p." "java.lang.String" ≠ "java.lang.String" ∧
      ∃ m, (m, leading (shorten stringImported "p." "java.lang.String")) ∈
        stringImported.entries := by
  have hc : ∀ c ∈ "java.lang.String".toList, isNameChar c = true :=
    List.all_eq_true.mp (by decide +kernel)
  have hn : "java.lang.String" ∉ stringImported.names := by decide +kernel
  have hp : ∀ r, "java.lang.String" = "p." ++ r → ¬ ClassRest r :=
    (classRest?_eq_none_iff hc).mp (by decide +kernel)
  exact ⟨stringImported_registered, hc, hn,
    (shorten_captured_iff stringImported_registered hc hn).mpr ⟨"String", "", "q.String",
      by decide +kernel, by decide +kernel, Or.inr ⟨hp, Or.inl (by decide +kernel)⟩⟩⟩

/-- A shortened name can read as an imported type. -/
theorem not_shorten_never_captured :
    ¬ ∀ (t : Imports) (package name m : String), t.Registered →
      (∀ c ∈ name.toList, isNameChar c = true) → name ∉ t.names →
      shorten t package name ≠ name → (m, leading (shorten t package name)) ∉ t.entries := by
  intro h
  have hs : shorten stringImported "p." "java.lang.String" = "String" := by decide +kernel
  have hc : ∀ c ∈ "java.lang.String".toList, isNameChar c = true :=
    List.all_eq_true.mp (by decide +kernel)
  refine h stringImported "p." "java.lang.String" "q.String" stringImported_registered hc
    (by decide +kernel) ?_ ?_
  · rw [hs]
    decide +kernel
  · rw [hs]
    decide +kernel

end JavaScribe.Naming
