import JavaScribe.Logging
import Mathlib.Data.List.Infix

/-!
# The way up in the tree of loggers

Below the package logger are the loggers whose names go on after its name and a dot. From most of
them the way up leads to it, whatever other loggers there are (`reaches_of_not_stray`). It does not
from a name that goes on with a second dot: the search for the logger above passes over the dot
before one that it has found, and so over the name of the package (`Strays.not_reaches`).
-/
namespace JavaScribe.Logging

/-- A full name that goes on with two dots after the name of the package. -/
def Stray (full : String) : Prop := (packageName ++ "..").toList <+: full.toList

instance (full : String) : Decidable (Stray full) :=
  inferInstanceAs (Decidable ((packageName ++ "..").toList <+: full.toList))

/-! ## Names above a name -/

lemma mem_namesAboveFrom {cs p : List Char} {n : ℕ} (h : p ∈ namesAboveFrom cs n) :
    ∃ i < n, cs[i]? = some '.' ∧ p = cs.take i := by
  fun_induction namesAboveFrom cs n with
  | case1 => simp at h
  | case2 => simp at h
  | case3 n hd ih =>
    rcases List.mem_cons.mp h with rfl | h
    · exact ⟨n + 1, by omega, hd, rfl⟩
    · obtain ⟨i, hi, hp⟩ := ih h
      exact ⟨i, by omega, hp⟩
  | case4 n hd ih =>
    obtain ⟨i, hi, hp⟩ := ih h
    exact ⟨i, by omega, hp⟩

/-- The name of the package logger in front of the names below it. -/
def stem : List Char := packageName.toList

lemma stem_length : stem.length = 10 := rfl

lemma dot_not_mem_stem : '.' ∉ stem := by decide

section
variable {t : List Char}

/-- No dot of a name stands within the name of the package. -/
lemma stem_length_le {i : ℕ} (h : (stem ++ t)[i]? = some '.') : stem.length ≤ i := by
  by_contra hi
  rw [List.getElem?_append_left (by omega)] at h
  exact dot_not_mem_stem (List.mem_of_getElem? h)

lemma dot_after_stem : (stem ++ '.' :: t)[stem.length]? = some '.' := by
  simp

lemma head?_after_dot : (stem ++ '.' :: t)[stem.length + 1]? = t.head? := by
  rw [List.getElem?_append_right (by omega)]
  simp [List.head?_eq_getElem?]

/-- The name of the package is found above a name that does not go on with a second dot. -/
lemma stem_mem_namesAboveFrom (ht : t.head? ≠ some '.') {n : ℕ} (hn : stem.length < n) :
    stem ∈ namesAboveFrom (stem ++ '.' :: t) n := by
  fun_induction namesAboveFrom (stem ++ '.' :: t) n with
  | case1 => omega
  | case2 => simp [stem_length] at hn
  | case3 n hd ih =>
    rcases eq_or_ne (n + 1) stem.length with he | he
    · simp [he]
    · have hne : n + 1 ≠ stem.length + 1 := fun he => ht (by rw [← head?_after_dot, ← he, hd])
      exact List.mem_cons_of_mem _ (ih (by omega))
  | case4 n hd ih =>
    have hne : n + 1 ≠ stem.length := fun he => hd (by rw [he, dot_after_stem])
    exact ih (by omega)

/-- What is above such a name is the package logger, or again such a name. -/
lemma eq_of_mem_namesAboveFrom (ht : t.head? ≠ some '.') {p : List Char} {n : ℕ}
    (h : p ∈ namesAboveFrom (stem ++ '.' :: t) n) :
    p = stem ∨ ∃ t', p = stem ++ '.' :: t' ∧ t'.head? ≠ some '.' := by
  obtain ⟨i, -, hd, rfl⟩ := mem_namesAboveFrom h
  rcases (stem_length_le hd).eq_or_lt with rfl | hi
  · exact Or.inl (List.take_left' rfl)
  · have hne : i ≠ stem.length + 1 := fun he => ht (by rw [← head?_after_dot, ← he, hd])
    obtain ⟨k, rfl⟩ : ∃ k, i = stem.length + (k + 2) := ⟨i - (stem.length + 2), by omega⟩
    refine Or.inr ⟨t.take (k + 1), ?_, ?_⟩
    · rw [List.take_append]
      simp
    · cases t with
      | nil => simp
      | cons c t => simpa using ht

/-- Above a name with two dots after that of the package, that of the package is not the first to be
found if the one that ends with the two dots is there to be found. -/
lemma find?_namesAboveFrom_ne {q : List Char → Bool} (hq : q (stem ++ ['.', '.']) = true) {n : ℕ}
    (hn : stem.length + 1 < n) :
    (namesAboveFrom (stem ++ '.' :: '.' :: t) n).find? q ≠ some stem := by
  fun_induction namesAboveFrom (stem ++ '.' :: '.' :: t) n with
  | case1 => omega
  | case2 => simp [stem_length] at hn
  | case3 n hd ih =>
    set cs := stem ++ '.' :: '.' :: t with hcs
    cases hf : q (cs.take (n + 1)) with
    | true =>
      have hlen : n + 1 < cs.length := (List.getElem?_eq_some_iff.mp hd).1
      rw [List.find?_cons_of_pos hf]
      intro he
      have hl := congrArg List.length (Option.some.inj he)
      rw [List.length_take] at hl
      omega
    | false =>
      rw [List.find?_cons_of_neg (by simp [hf])]
      rcases Nat.lt_or_ge (stem.length + 1) n with hn' | hn'
      · exact ih hn'
      · have hne : n ≠ stem.length + 1 := by
          rintro rfl
          have htake : cs.take (stem.length + 1 + 1) = stem ++ ['.', '.'] := rfl
          simp [htake, hq] at hf
        -- The dot before is passed over, and no other dot is as far in front.
        intro hs
        obtain ⟨i, hi, hdi, -⟩ := mem_namesAboveFrom (List.mem_of_find?_eq_some hs)
        have hle := stem_length_le hdi
        omega
  | case4 n hd ih =>
    have hne : n + 1 ≠ stem.length + 1 := fun he => hd (by rw [he, head?_after_dot]; rfl)
    exact ih (by omega)

end

/-! ## The way up -/

/-- The name of the package logger, or one that goes on after it with one dot. -/
def Direct (full : String) : Prop :=
  full = packageName ∨ ∃ t, full.toList = stem ++ '.' :: t ∧ t.head? ≠ some '.'

/-- Every logger that is asked for is the package logger or below it by its name. -/
lemma loggerName_cases (name : String) :
    loggerName name = packageName ∨ ∃ t, (loggerName name).toList = stem ++ '.' :: t := by
  unfold loggerName
  split
  · rename_i h
    refine h.imp id fun hp => ?_
    obtain ⟨t, ht⟩ := List.isPrefixOf_iff_prefix.mp hp
    exact ⟨t, ht.symm⟩
  · exact Or.inr ⟨name.toList, by simp [stem]⟩

lemma direct_of_not_stray {name : String} (h : ¬ Stray (loggerName name)) :
    Direct (loggerName name) := by
  refine (loggerName_cases name).imp id ?_
  rintro ⟨t, ht⟩
  refine ⟨t, ht, fun hd => h ?_⟩
  obtain ⟨t', rfl⟩ := List.head?_eq_some_iff.mp hd
  exact ⟨t', by rw [ht]; rfl⟩

variable {r : Registry} {full : String}

lemma reachesIn_of_direct (hp : packageName ∈ r.loggers) {n : ℕ} (hn : full.toList.length ≤ n)
    (h : Direct full) : r.reachesIn n full = true := by
  induction n generalizing full with
  | zero =>
    rcases h with rfl | ⟨t, ht, -⟩
    · simp [Registry.reachesIn]
    · simp [ht] at hn
  | succ n ih =>
    rcases h with rfl | ⟨t, ht, hd⟩
    · simp [Registry.reachesIn]
    have hm : packageName ∈ namesAbove full := by
      rw [namesAbove, ht]
      exact List.mem_map.mpr ⟨stem, stem_mem_namesAboveFrom hd (by simp), rfl⟩
    obtain ⟨p, hparent⟩ : ∃ p, r.parent? full = some p := by
      rw [← Option.isSome_iff_exists, Registry.parent?, List.find?_isSome]
      exact ⟨packageName, hm, List.contains_iff_mem.mpr hp⟩
    obtain ⟨cs, hcs, rfl⟩ := List.mem_map.mp (List.mem_of_find?_eq_some hparent)
    rw [ht] at hcs
    have hdirect : Direct (String.ofList cs) := by
      refine (eq_of_mem_namesAboveFrom hd hcs).imp (fun he => by rw [he]; rfl) ?_
      rintro ⟨t', rfl, ht'⟩
      exact ⟨t', String.toList_ofList, ht'⟩
    have hlt : (String.ofList cs).toList.length ≤ n := by
      obtain ⟨i, hi, -, rfl⟩ := mem_namesAboveFrom hcs
      rw [String.toList_ofList, List.length_take, ← ht]
      rw [← ht] at hi
      omega
    simp [Registry.reachesIn, hparent, ih hlt hdirect]

/-- From a name that is not stray, the way up leads to the package logger in every registry that
has it. -/
theorem reaches_of_not_stray {name : String} (hp : packageName ∈ r.loggers)
    (h : ¬ Stray (loggerName name)) : r.reaches (loggerName name) = true :=
  reachesIn_of_direct hp le_rfl (direct_of_not_stray h)

/-- The shortest stray name. -/
def strayest : String := packageName ++ ".."

lemma exists_of_stray (h : Stray full) : ∃ t, full.toList = stem ++ '.' :: '.' :: t := by
  obtain ⟨t, ht⟩ := h
  exact ⟨t, ht.symm⟩

/-- The logger of the shortest stray name is there, and no others than those that were there at
first and such with stray names. -/
structure Strays (r : Registry) : Prop where
  strayest : strayest ∈ r.loggers
  others : ∀ name ∈ r.loggers, name ∈ ({} : Registry).loggers ∨ Stray name

/-- Above a stray name is another, or none. -/
lemma Strays.parent? (hr : Strays r) (h : Stray full) {p : String} (hp : r.parent? full = some p) :
    Stray p := by
  obtain ⟨t, ht⟩ := exists_of_stray h
  rw [Registry.parent?, namesAbove, List.find?_map] at hp
  obtain ⟨cs, hcs, rfl⟩ := Option.map_eq_some_iff.mp hp
  have hstem : cs ≠ stem := by
    rintro rfl
    refine find?_namesAboveFrom_ne (q := r.loggers.contains ∘ String.ofList) ?_ ?_ (ht ▸ hcs)
    · exact List.contains_iff_mem.mpr hr.strayest
    · simp
  obtain ⟨i, hi, -, hi'⟩ := mem_namesAboveFrom (List.mem_of_find?_eq_some hcs)
  have hother : ∀ name : String, stem.length + 1 < name.toList.length →
      name.toList[stem.length + 1]? ≠ some '.' → String.ofList cs ≠ name := by
    rintro _ hl hd rfl
    rw [String.toList_ofList] at hl hd
    refine hd ?_
    rw [hi', List.getElem?_take_of_lt, ht, head?_after_dot]
    · rfl
    · rw [hi', List.length_take] at hl
      omega
  have hm : String.ofList cs ∈ r.loggers := by
    have hc := List.find?_some hcs
    rwa [Function.comp_apply, List.contains_iff_mem] at hc
  refine (hr.others _ hm).resolve_left fun hm => ?_
  simp only [List.mem_cons, List.not_mem_nil, or_false] at hm
  rcases hm with hm | hm | hm | hm | hm
  · exact hstem (by rw [← String.toList_ofList (l := cs), hm]; rfl)
  · exact hother _ (by decide) (by decide) hm
  · exact hother _ (by decide) (by decide) hm
  · exact hother _ (by decide) (by decide) hm
  · exact hother _ (by decide) (by decide) hm

/-- From a stray name the way up does not lead to the package logger. -/
theorem Strays.not_reaches (hr : Strays r) (h : Stray full) : r.reaches full = false := by
  have hne : ∀ {full : String}, Stray full → (full == packageName) = false := by
    intro full h
    obtain ⟨t, ht⟩ := exists_of_stray h
    rw [beq_eq_false_iff_ne]
    rintro rfl
    simpa [stem] using congrArg List.length ht
  have hin : ∀ n {full : String}, Stray full → r.reachesIn n full = false := by
    intro n
    induction n with
    | zero => intro full h; exact hne h
    | succ n ih =>
      intro full h
      cases hp : r.parent? full with
      | none => simp [Registry.reachesIn, hne h, hp]
      | some p => simp [Registry.reachesIn, hne h, hp, ih (hr.parent? h hp)]
  exact hin _ h

end JavaScribe.Logging
