import Mathlib.Data.List.TakeWhile
import Mathlib.Logic.Function.Basic

/-!
# How Java reads a string

Java reads its source as code units of UTF-16, in two phases. First every Unicode escape is
translated: a backslash with an even number of backslashes right before it, one letter `u` or more,
and four hexadecimal digits (`translated`). Then a string token is read from what that gives, with
escapes of its own (`readString?`). Each symbol of the first phase keeps its spelling, so that it is
known which part of the source a token has consumed.
-/
namespace JavaScribe.Java

/-! ## Code units -/

/-- The code units of a character: one, or a pair of surrogates. -/
def unitsOf (c : Char) : List UInt16 :=
  if c.toNat < 0x10000 then [UInt16.ofNat c.toNat]
  else [UInt16.ofNat (0xd800 + (c.toNat - 0x10000) / 0x400),
    UInt16.ofNat (0xdc00 + (c.toNat - 0x10000) % 0x400)]

def units (s : String) : List UInt16 := s.toList.flatMap unitsOf

lemma ofNat_inj {n m : ℕ} (hn : n < 0x10000) (hm : m < 0x10000) :
    UInt16.ofNat n = UInt16.ofNat m ↔ n = m := by
  rw [← UInt16.toNat_inj, UInt16.toNat_ofNat', UInt16.toNat_ofNat', Nat.mod_eq_of_lt hn,
    Nat.mod_eq_of_lt hm]

lemma toNat_valid (c : Char) : c.toNat < 0xd800 ∨ 0xdfff < c.toNat ∧ c.toNat < 0x110000 :=
  c.valid

/-- No character begins as another does. -/
lemma unitsOf_append {c d : Char} {a b : List UInt16} (h : unitsOf c ++ a = unitsOf d ++ b) :
    c = d ∧ a = b := by
  have hc := toNat_valid c
  have hd := toNat_valid d
  rw [← Char.toNat_inj]
  unfold unitsOf at h
  split at h <;> split at h <;>
    simp only [List.cons_append, List.nil_append, List.cons.injEq] at h
  · exact ⟨(ofNat_inj (by omega) (by omega)).mp h.1, h.2⟩
  · have hn := (ofNat_inj (by omega) (by omega)).mp h.1
    omega
  · have hn := (ofNat_inj (by omega) (by omega)).mp h.1
    omega
  · have hhigh := (ofNat_inj (by omega) (by omega)).mp h.1
    have hlow := (ofNat_inj (by omega) (by omega)).mp h.2.1
    exact ⟨by omega, h.2.2⟩

theorem units_injective : Function.Injective units := by
  suffices hl : ∀ a b : List Char, a.flatMap unitsOf = b.flatMap unitsOf → a = b from
    fun s t h => String.toList_inj.mp (hl _ _ h)
  have hne : ∀ c, unitsOf c ≠ [] := fun c => by unfold unitsOf; split <;> simp
  intro a
  induction a with
  | nil =>
    intro b h
    cases b with
    | nil => rfl
    | cons d b => simp [hne] at h
  | cons c a ih =>
    intro b h
    cases b with
    | nil => simp [hne] at h
    | cons d b =>
      rw [List.flatMap_cons, List.flatMap_cons] at h
      obtain ⟨rfl, hr⟩ := unitsOf_append h
      rw [ih b hr]

/-- A code unit of ASCII is a character by itself. -/
lemma toNat_of_mem_unitsOf {c : Char} {u : UInt16} (h : u ∈ unitsOf c) (hu : u.toNat < 0x80) :
    c.toNat = u.toNat := by
  have hc := toNat_valid c
  unfold unitsOf at h
  split at h <;> simp only [List.mem_cons, List.not_mem_nil, or_false] at h
  · rw [h, UInt16.toNat_ofNat', Nat.mod_eq_of_lt (by omega)]
  · rcases h with rfl | rfl <;> rw [UInt16.toNat_ofNat', Nat.mod_eq_of_lt (by omega)] at hu <;>
      omega

/-! ## Unicode escapes -/

def backslash : UInt16 := 0x5c
def doubleQuote : UInt16 := 0x22
def letterU : UInt16 := 0x75

/-- A code unit after the translation of Unicode escapes, with its spelling in the source. A broken
escape has no value. -/
structure Symbol where
  value : Option UInt16
  spelling : List UInt16
  deriving DecidableEq, Repr

def hexDigit? (u : UInt16) : Option ℕ :=
  if 0x30 ≤ u ∧ u ≤ 0x39 then some (u.toNat - 0x30)
  else if 0x41 ≤ u ∧ u ≤ 0x46 then some (u.toNat - 0x41 + 10)
  else if 0x61 ≤ u ∧ u ≤ 0x66 then some (u.toNat - 0x61 + 10)
  else none

/-- The code unit that is given by four hexadecimal digits. -/
def hexUnit? : List UInt16 → Option UInt16
  | [a, b, c, d] => do
    let a ← hexDigit? a
    let b ← hexDigit? b
    let c ← hexDigit? c
    let d ← hexDigit? d
    return UInt16.ofNat (((a * 16 + b) * 16 + c) * 16 + d)
  | _ => none

/-- A source with its Unicode escapes translated. The number of backslashes right before it is odd
or even. What stands for a backslash by an escape does not count as one. -/
def translated (odd : Bool) : List UInt16 → List Symbol
  | [] => []
  | u :: rest =>
    let marks := (rest.takeWhile (· = letterU)).length
    if u = backslash ∧ odd = false ∧ marks ≠ 0 then
      match hexUnit? ((rest.drop marks).take 4) with
      | some v => ⟨some v, u :: rest.take (marks + 4)⟩ :: translated false (rest.drop (marks + 4))
      | none => ⟨none, u :: rest.take marks⟩ :: translated false (rest.drop marks)
    else ⟨some u, [u]⟩ :: translated (u == backslash && !odd) rest
termination_by source => source.length
decreasing_by all_goals simp only [List.length_cons, List.length_drop]; omega

/-- Nothing of the source is lost. -/
theorem translated_spelling (odd : Bool) (source : List UInt16) :
    (translated odd source).flatMap Symbol.spelling = source := by
  fun_induction translated odd source with
  | case1 => rfl
  | case2 odd u rest marks h v hv ih => simp [ih]
  | case3 odd u rest marks h hv ih => simp [ih]
  | case4 odd u rest marks h ih => simp [ih]

variable {u v e : UInt16} {odd : Bool}

lemma translated_of_ne (h : u ≠ backslash) (rest : List UInt16) :
    translated odd (u :: rest) = ⟨some u, [u]⟩ :: translated false rest := by
  have hb : (u == backslash) = false := beq_eq_false_iff_ne.mpr h
  rw [translated]
  simp [h, hb]

/-- A backslash that starts no Unicode escape, and what it escapes. -/
lemma translated_pair (h : e ≠ letterU) (rest : List UInt16) :
    translated false (backslash :: e :: rest) =
      ⟨some backslash, [backslash]⟩ :: ⟨some e, [e]⟩ :: translated false rest := by
  have hm : (e :: rest).takeWhile (· = letterU) = [] := by simp [h]
  rw [translated, hm, translated]
  simp

lemma takeWhile_letterU {digits : List UInt16} (h : letterU ∉ digits) (rest : List UInt16)
    (hr : digits = [] → rest = []) :
    (letterU :: (digits ++ rest)).takeWhile (· = letterU) = [letterU] := by
  cases digits with
  | nil => simp [hr rfl]
  | cons d digits =>
    have hd : d ≠ letterU := fun he => h (by simp [he])
    simp [hd]

/-- A Unicode escape of four digits. -/
lemma translated_unicode {digits : List UInt16} (hl : digits.length = 4) (hu : letterU ∉ digits)
    (hv : hexUnit? digits = some v) (rest : List UInt16) :
    translated false (backslash :: letterU :: (digits ++ rest)) =
      ⟨some v, backslash :: letterU :: digits⟩ :: translated false rest := by
  have hm := takeWhile_letterU hu rest (by rintro rfl; simp at hl)
  have hdigits : (digits ++ rest).take 4 = digits := List.take_left' hl
  have htake : (letterU :: digits ++ rest).take (1 + 4) = letterU :: digits :=
    List.take_left' (by simp [hl])
  have hdrop : (letterU :: digits ++ rest).drop (1 + 4) = rest :=
    List.drop_left' (by simp [hl])
  rw [List.cons_append] at htake hdrop
  rw [translated, hm]
  simp [hdigits, hv, htake, hdrop]

/-- A Unicode escape that breaks off at the end of the source. -/
lemma translated_broken {digits : List UInt16} (hl : digits.length < 4) (hu : letterU ∉ digits) :
    translated false (backslash :: letterU :: digits) =
      ⟨none, [backslash, letterU]⟩ :: translated false digits := by
  have hm := takeWhile_letterU hu [] fun _ => rfl
  have hv : hexUnit? (digits.take 4) = none := by
    rw [List.take_of_length_le (by omega)]
    unfold hexUnit?
    split
    · simp at hl
    · rfl
  rw [List.append_nil] at hm
  rw [translated, hm]
  simp [hv]

/-! ## String tokens -/

/-- What a code unit stands for after a backslash, other than an octal digit. -/
def simpleEscape? (u : UInt16) : Option UInt16 :=
  if u = 0x62 then some 0x08
  else if u = 0x74 then some 0x09
  else if u = 0x6e then some 0x0a
  else if u = 0x66 then some 0x0c
  else if u = 0x72 then some 0x0d
  else if u = 0x22 ∨ u = 0x27 ∨ u = 0x5c then some u
  else none

def octalDigit? (u : UInt16) : Option ℕ :=
  if 0x30 ≤ u ∧ u ≤ 0x37 then some (u.toNat - 0x30) else none

/-- The octal digits in front, up to a number of them. -/
def octalDigits : ℕ → List Symbol → List ℕ
  | 0, _ => []
  | _, [] => []
  | n + 1, s :: rest =>
    match s.value.bind octalDigit? with
    | some d => d :: octalDigits n rest
    | none => []

/-- What an escape stands for whose backslash has been read, with the number of symbols after the
backslash that belong to it. An octal escape is as long as it can be up to the value of a byte. -/
def readEscape? : List Symbol → Option (UInt16 × ℕ)
  | [] => none
  | s :: rest => do
    let u ← s.value
    match simpleEscape? u with
    | some v => return (v, 1)
    | none =>
      let digits := octalDigits (if u ≤ 0x33 then 3 else 2) (s :: rest)
      if digits = [] then none
      else return (UInt16.ofNat (digits.foldl (fun n d => n * 8 + d) 0), digits.length)

/-- Reads a string after its opening quote, up to and with its closing one: the code units that it
holds, and what is left over. -/
def readBody? : List Symbol → Option (List UInt16 × List Symbol)
  | [] => none
  | s :: rest =>
    match s.value with
    | none => none
    | some u =>
      if u = doubleQuote then some ([], rest)
      else if u = 0x0a ∨ u = 0x0d then none
      else if u = backslash then
        match readEscape? rest with
        | none => none
        | some (v, n) => (readBody? (rest.drop n)).map fun r => (v :: r.1, r.2)
      else (readBody? rest).map fun r => (u :: r.1, r.2)
termination_by symbols => symbols.length
decreasing_by all_goals simp only [List.length_cons, List.length_drop]; omega

/-- Reads the string token at the front of a source: the code units that it holds, and the source
after it. -/
def readString? (source : List UInt16) : Option (List UInt16 × List UInt16) :=
  match translated false source with
  | [] => none
  | s :: symbols =>
    if s.value = some doubleQuote then
      (readBody? symbols).map fun r => (r.1, r.2.flatMap Symbol.spelling)
    else none

/-- An octal escape, a backslash that is escaped before a `u`, and a quote by its code point. -/
example : readString? (units "\"\\101\\\\u0041\\uu0022;") = some (units "A\\u0041", units ";") := by
  cbv

/-- A code unit that stands for itself in a string. -/
def IsPlain (u : UInt16) : Prop := u ≠ backslash ∧ u ≠ doubleQuote ∧ u ≠ 0x0a ∧ u ≠ 0x0d

lemma readBody?_quote (rest : List UInt16) :
    readBody? (translated false (doubleQuote :: rest)) = some ([], translated false rest) := by
  rw [translated_of_ne (by decide), readBody?]
  simp

lemma readBody?_symbol (h : IsPlain u) (spelling : List UInt16) (rest : List Symbol) :
    readBody? (⟨some u, spelling⟩ :: rest) = (readBody? rest).map fun r => (u :: r.1, r.2) := by
  obtain ⟨hb, hq, hl, hr⟩ := h
  rw [readBody?]
  simp [hb, hq, hl, hr]

lemma readBody?_plain {us : List UInt16} (h : ∀ u ∈ us, IsPlain u) (rest : List UInt16) :
    readBody? (translated false (us ++ rest)) =
      (readBody? (translated false rest)).map fun r => (us ++ r.1, r.2) := by
  induction us with
  | nil => simp
  | cons u us ih =>
    have hu := h u (by simp)
    rw [List.cons_append, translated_of_ne hu.1, readBody?_symbol hu,
      ih fun u hu => h u (by simp [hu]), Option.map_map]
    rfl

lemma readBody?_escape (hv : simpleEscape? e = some v) (rest : List UInt16) :
    readBody? (translated false (backslash :: e :: rest)) =
      (readBody? (translated false rest)).map fun r => (v :: r.1, r.2) := by
  have he : e ≠ letterU := by
    rintro rfl
    simp [simpleEscape?, letterU] at hv
  have hr : readEscape? (⟨some e, [e]⟩ :: translated false rest) = some (v, 1) := by
    simp [readEscape?, hv]
  rw [translated_pair he, readBody?, hr]
  simp [backslash, doubleQuote]

lemma readBody?_unicode {digits : List UInt16} (hl : digits.length = 4) (hu : letterU ∉ digits)
    (hv : hexUnit? digits = some v) (hp : IsPlain v) (rest : List UInt16) :
    readBody? (translated false (backslash :: letterU :: (digits ++ rest))) =
      (readBody? (translated false rest)).map fun r => (v :: r.1, r.2) := by
  rw [translated_unicode hl hu hv, readBody?_symbol hp]

/-! ## Strings that break off -/

lemma readBody?_nil : readBody? (translated false []) = none := by
  rw [translated, readBody?]

lemma readBody?_backslash : readBody? (translated false [backslash]) = none := by
  simp [translated, readBody?, readEscape?, backslash, doubleQuote]

lemma readBody?_broken {digits : List UInt16} (hl : digits.length < 4) (hu : letterU ∉ digits) :
    readBody? (translated false (backslash :: letterU :: digits)) = none := by
  rw [translated_broken hl hu, readBody?]

end JavaScribe.Java
