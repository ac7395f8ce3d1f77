import JavaScribe.Proofs.JavaStrings
import JavaScribe.Text.Literal
import Mathlib.Tactic.IntervalCases

/-!
# Literals read back

Java reads the literal of a text back as that text and stops right after it, whatever follows. This
goes by one lemma for each character (`readBody?_literalChar`), since what a character is written as
starts after an even number of backslashes and leaves an even number behind.
-/
namespace JavaScribe.Text
open Java

/-! ## Hexadecimal digits -/

lemma hex_four {n : ℕ} (h : n < 0x100) :
    hex 4 n = ['0', '0', Nat.digitChar (n / 16), Nat.digitChar (n % 16)] := by
  rcases Nat.lt_or_ge n 16 with hn | hn
  · rw [hex, Nat.toDigits_of_lt_base hn, Nat.div_eq_of_lt hn, Nat.mod_eq_of_lt hn]
    rfl
  · rw [hex, Nat.toDigits_of_base_le (by decide) hn, Nat.toDigits_of_lt_base (by omega)]
    rfl

lemma unitsOf_digitChar {d : ℕ} (h : d < 16) :
    ∃ u, unitsOf (Nat.digitChar d) = [u] ∧ hexDigit? u = some d ∧ u ≠ letterU := by
  interval_cases d <;> exact ⟨_, rfl, by decide, by decide⟩

lemma not_isControl_digitChar {d : ℕ} (h : d < 16) : isControl (Nat.digitChar d) = false := by
  interval_cases d <;> rfl

/-- The code units of four hexadecimal digits. -/
lemma exists_hexUnits {n : ℕ} (h : n < 0x100) :
    ∃ digits, (hex 4 n).flatMap unitsOf = digits ∧ digits.length = 4 ∧ letterU ∉ digits ∧
      hexUnit? digits = some (UInt16.ofNat n) := by
  obtain ⟨zero, hzero, hz, hz'⟩ := unitsOf_digitChar (d := 0) (by decide)
  obtain ⟨high, hhigh, hh, hh'⟩ := unitsOf_digitChar (d := n / 16) (by omega)
  obtain ⟨low, hlow, hl, hl'⟩ := unitsOf_digitChar (d := n % 16) (by omega)
  refine ⟨[zero, zero, high, low], ?_, rfl, by simp [hz'.symm, hh'.symm, hl'.symm], ?_⟩
  · have hzero : unitsOf '0' = [zero] := hzero
    simp [hex_four h, hzero, hhigh, hlow]
  · have hn : ((0 * 16 + 0) * 16 + n / 16) * 16 + n % 16 = n := by omega
    simp only [hexUnit?, hz, hh, hl, Option.bind_eq_bind, Option.bind_some, Option.pure_def, hn]

/-! ## One character -/

/-- How a character is written in a literal: as itself, as an escape of its own, or by its code
point. -/
inductive Written (c : Char) : List UInt16 → Prop
  | plain (h : ∀ u ∈ unitsOf c, IsPlain u) : Written c (unitsOf c)
  | escape {e v : UInt16} (hc : unitsOf c = [v]) (hv : simpleEscape? e = some v) :
    Written c [backslash, e]
  | unicode {digits : List UInt16} {v : UInt16} (hc : unitsOf c = [v]) (hp : IsPlain v)
    (hl : digits.length = 4) (hu : letterU ∉ digits) (hv : hexUnit? digits = some v) :
    Written c (backslash :: letterU :: digits)

lemma isPlain_of_mem_unitsOf {c : Char} {u : UInt16} (h : u ∈ unitsOf c)
    (hb : ¬ (c = '\x22' ∨ c = '\\')) (hl : c ≠ '\n') (hr : c ≠ '\r') : IsPlain u := by
  have hne : ∀ {d : Char} {v : UInt16}, v.toNat = d.toNat → v.toNat < 0x80 → c ≠ d → u ≠ v := by
    rintro d v hv hs hcd rfl
    exact hcd (Char.toNat_inj.mp ((toNat_of_mem_unitsOf h hs).trans hv))
  rw [not_or] at hb
  exact ⟨hne (d := '\\') rfl (by decide) hb.2, hne (d := '\x22') rfl (by decide) hb.1,
    hne (d := '\n') rfl (by decide) hl, hne (d := '\r') rfl (by decide) hr⟩

lemma written_literalChar (c : Char) : Written c ((literalChar c).flatMap unitsOf) := by
  unfold literalChar
  split
  · rename_i h
    rcases h with rfl | rfl
    · exact .escape (v := 0x22) rfl (by decide)
    · exact .escape (v := 0x5c) rfl (by decide)
  rename_i hb
  split
  · subst c
    exact .escape (v := 0x08) rfl (by decide)
  split
  · subst c
    exact .escape (v := 0x09) rfl (by decide)
  split
  · subst c
    exact .escape (v := 0x0a) rfl (by decide)
  rename_i hl
  split
  · subst c
    exact .escape (v := 0x0c) rfl (by decide)
  split
  · subst c
    exact .escape (v := 0x0d) rfl (by decide)
  rename_i hr
  have hplain : ∀ u ∈ unitsOf c, IsPlain u := fun u hu => isPlain_of_mem_unitsOf hu hb hl hr
  split
  · rename_i hc
    have hn : c.toNat < 0x100 := by
      simp only [isControl, Bool.or_eq_true, Bool.and_eq_true, decide_eq_true_eq] at hc
      omega
    have hunit : unitsOf c = [UInt16.ofNat c.toNat] := if_pos (by omega)
    obtain ⟨digits, hd, hlen, hu, hv⟩ := exists_hexUnits hn
    have hw : ('\\' :: 'u' :: hex 4 c.toNat).flatMap unitsOf = backslash :: letterU :: digits := by
      rw [← hd]
      rfl
    rw [hw]
    exact .unicode hunit (hplain _ (by simp [hunit])) hlen hu hv
  · have hw : [c].flatMap unitsOf = unitsOf c := List.flatMap_singleton ..
    rw [hw]
    exact .plain hplain

namespace Written
variable {c : Char} {us front : List UInt16}

/-- A character is read back, and the reader goes on after it as at first. -/
theorem read (h : Written c us) (rest : List UInt16) :
    readBody? (translated false (us ++ rest)) =
      (readBody? (translated false rest)).map fun r => (unitsOf c ++ r.1, r.2) := by
  cases h with
  | plain h => exact readBody?_plain h rest
  | escape hc hv => rw [hc]; exact readBody?_escape hv rest
  | unicode hc hp hl hu hv => rw [hc]; exact readBody?_unicode hl hu hv hp rest

/-- No string ends within a character. -/
theorem front_unread (h : Written c us) (hf : front <+: us) (hne : front ≠ us) :
    readBody? (translated false front) = none := by
  cases h with
  | plain h =>
    have hr := readBody?_plain (fun u hu => h u (hf.subset hu)) []
    rwa [List.append_nil, readBody?_nil, Option.map_none] at hr
  | escape =>
    rcases List.prefix_cons_iff.mp hf with rfl | ⟨after, rfl, ha⟩
    · exact readBody?_nil
    rcases List.prefix_cons_iff.mp ha with rfl | ⟨more, rfl, hm⟩
    · exact readBody?_backslash
    · rw [List.prefix_nil.mp hm] at hne
      exact absurd rfl hne
  | @unicode digits _ _ _ hl hu _ =>
    rcases List.prefix_cons_iff.mp hf with rfl | ⟨after, rfl, ha⟩
    · exact readBody?_nil
    rcases List.prefix_cons_iff.mp ha with rfl | ⟨more, rfl, hm⟩
    · exact readBody?_backslash
    have hlt : more.length < digits.length :=
      lt_of_le_of_ne hm.length_le fun he => hne (by rw [hm.eq_of_length he])
    exact readBody?_broken (hl ▸ hlt) fun h => hu (hm.subset h)

end Written

/-! ## A text -/

/-- What stands between the quotes of a literal. -/
def escaped (data : List Char) : List UInt16 := (data.flatMap literalChar).flatMap unitsOf

lemma escaped_cons (c : Char) (data : List Char) :
    escaped (c :: data) = (literalChar c).flatMap unitsOf ++ escaped data := by
  simp [escaped]

lemma units_literal (data : String) :
    units (literal data) = doubleQuote :: (escaped data.toList ++ [doubleQuote]) := by
  have hq : unitsOf '\x22' = [doubleQuote] := rfl
  simp [units, literal_toList, escaped, hq, List.flatMap_append]

lemma readBody?_escaped (data : List Char) (rest : List UInt16) :
    readBody? (translated false (escaped data ++ doubleQuote :: rest)) =
      some (data.flatMap unitsOf, translated false rest) := by
  induction data with
  | nil => exact readBody?_quote rest
  | cons c data ih =>
    rw [escaped_cons, List.append_assoc, (written_literalChar c).read, ih]
    rfl

/-- What is read of a literal ends at its last quote and nowhere before. -/
lemma readBody?_front (data : List Char) {front : List UInt16}
    (hf : front <+: escaped data ++ [doubleQuote]) (hne : front ≠ escaped data ++ [doubleQuote]) :
    readBody? (translated false front) = none := by
  induction data generalizing front with
  | nil =>
    rcases List.prefix_cons_iff.mp hf with rfl | ⟨more, rfl, hm⟩
    · exact readBody?_nil
    · rw [List.prefix_nil.mp hm] at hne
      exact absurd rfl hne
  | cons c data ih =>
    have hc := written_literalChar c
    rw [escaped_cons, List.append_assoc] at hf hne
    by_cases hw : (literalChar c).flatMap unitsOf <+: front
    · obtain ⟨more, rfl⟩ := hw
      have hm := (List.prefix_append_right_inj _).mp hf
      rw [hc.read, ih hm fun he => hne (by rw [he]), Option.map_none]
    · have hp := (List.prefix_or_prefix_of_prefix hf (List.prefix_append _ _)).resolve_right hw
      exact hc.front_unread hp fun he => hw (he ▸ List.prefix_refl _)

/-! ## A literal -/

theorem readString?_literal (data : String) (rest : List UInt16) :
    readString? (units (literal data) ++ rest) = some (units data, rest) := by
  have ht : translated false (doubleQuote :: (escaped data.toList ++ doubleQuote :: rest)) =
      ⟨some doubleQuote, [doubleQuote]⟩ ::
        translated false (escaped data.toList ++ doubleQuote :: rest) :=
    translated_of_ne (by decide) _
  have hb := readBody?_escaped data.toList rest
  rw [units_literal, List.cons_append, List.append_assoc, List.singleton_append, readString?, ht]
  simp [hb, translated_spelling, units]

lemma readString?_front {data : String} {front : List UInt16}
    (hf : front <+: units (literal data)) (hne : front ≠ units (literal data)) :
    readString? front = none := by
  rw [units_literal] at hf hne
  rcases List.prefix_cons_iff.mp hf with rfl | ⟨more, rfl, hm⟩
  · rw [readString?, translated]
  · have hb := readBody?_front data.toList hm fun he => hne (by rw [he])
    rw [readString?, translated_of_ne (by decide)]
    simp [hb]

theorem literal_injective : Function.Injective literal := by
  intro a b h
  have hr := readString?_literal a []
  rw [h, readString?_literal b [], Option.some.injEq, Prod.mk.injEq] at hr
  exact (units_injective hr.1).symm

lemma not_isControl_literalChar (c : Char) : ∀ d ∈ literalChar c, isControl d = false := by
  have hslash : isControl '\\' = false := rfl
  have hpair : ∀ e, isControl e = false → ∀ d ∈ ['\\', e], isControl d = false := by
    intro e he d hd
    simp only [List.mem_cons, List.not_mem_nil, or_false] at hd
    rcases hd with rfl | rfl
    · exact hslash
    · exact he
  unfold literalChar
  split
  · rename_i h
    rcases h with rfl | rfl <;> exact hpair _ rfl
  iterate 5
    split
    · exact hpair _ rfl
  split
  · rename_i hc
    have hn : c.toNat < 0x100 := by
      simp only [isControl, Bool.or_eq_true, Bool.and_eq_true, decide_eq_true_eq] at hc
      omega
    have hzero : isControl '0' = false := rfl
    have hu : isControl 'u' = false := rfl
    simp [hex_four hn, hslash, hzero, hu, not_isControl_digitChar (show c.toNat / 16 < 16 by omega),
      not_isControl_digitChar (show c.toNat % 16 < 16 by omega)]
  · rename_i hc
    simpa using hc

/-- The literal of a text is read back as that text, and exactly the literal is consumed, whatever
follows. No front of it is a literal, so no character of the text ends it. Different texts have
different literals, and there are no control characters in a literal. -/
theorem literal_reads_back :
    (∀ data rest, readString? (units (literal data) ++ rest) = some (units data, rest)) ∧
    (∀ data front, front <+: units (literal data) → front ≠ units (literal data) →
      readString? front = none) ∧
    Function.Injective literal ∧
    ∀ data, ∀ c ∈ (literal data).toList, isControl c = false := by
  refine ⟨readString?_literal, fun _ _ => readString?_front, literal_injective,
    fun data c hc => ?_⟩
  rw [literal_toList] at hc
  have hq : isControl '\x22' = false := rfl
  rcases List.mem_append.mp hc with hc | hc
  · rcases List.mem_cons.mp hc with rfl | hc
    · exact hq
    · obtain ⟨d, -, hd⟩ := List.mem_flatMap.mp hc
      exact not_isControl_literalChar d c hd
  · rw [List.mem_singleton.mp hc, hq]

end JavaScribe.Text
