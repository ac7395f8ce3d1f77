import JavaScribe.Proofs.Exits
import JavaScribe.Proofs.Separators

/-!
# Braces

`braces?` reads a text and counts the braces that are open after it. A text without braces leaves
the count as it is, and so does a shortened type, if the text that it is the short form of had no
braces. The account of braces follows the count beside the nesting.
-/
namespace JavaScribe

/-- How many braces are open after a text, when so many were open before; none when a brace is
closed that was not open. -/
def Text.braces? : ℕ → List Char → Option ℕ
  | k, [] => some k
  | k, c :: cs =>
    if c = '\x7b' then braces? (k + 1) cs
    else if c = '\x7d' then
      match k with
      | 0 => none
      | k + 1 => braces? k cs
    else braces? k cs

def Braceless (text : String) : Prop := '\x7b' ∉ text.toList ∧ '\x7d' ∉ text.toList

instance (text : String) : Decidable (Braceless text) := inferInstanceAs (Decidable (_ ∧ _))

namespace Text
variable {k j : ℕ} {cs : List Char}

@[simp] lemma braces?_nil (k : ℕ) : braces? k [] = some k := rfl

@[simp] lemma braces?_open (k : ℕ) (cs : List Char) :
    braces? k ('\x7b' :: cs) = braces? (k + 1) cs := rfl

@[simp] lemma braces?_close (k : ℕ) (cs : List Char) :
    braces? (k + 1) ('\x7d' :: cs) = braces? k cs := rfl

lemma braces?_other {c : Char} (ho : c ≠ '\x7b') (hc : c ≠ '\x7d') (k : ℕ) (cs : List Char) :
    braces? k (c :: cs) = braces? k cs := by
  simp [braces?, ho, hc]

lemma braces?_append (k : ℕ) (a b : List Char) :
    braces? k (a ++ b) = (braces? k a).bind fun j => braces? j b := by
  fun_induction braces? k a with
  | case1 => rfl
  | case2 k cs ih => exact ih
  | case3 cs => rfl
  | case4 cs _ k ih => exact ih
  | case5 k c cs ho hc ih => rw [List.cons_append, braces?_other ho hc, ih]

lemma braces?_of_braceless {text : String} (h : Braceless text) (k : ℕ) :
    braces? k text.toList = some k := by
  obtain ⟨ho, hc⟩ := h
  generalize text.toList = cs at ho hc
  induction cs with
  | nil => rfl
  | cons c cs ih =>
    simp only [List.mem_cons, not_or] at ho hc
    rw [braces?_other (Ne.symm ho.1) (Ne.symm hc.1), ih ho.2 hc.2]

/-- No brace is a name character. -/
lemma braces?_bare (k : ℕ) (cs : List Char) : braces? k (bare cs) = braces? k cs := by
  fun_induction braces? k cs with
  | case1 => rfl
  | case2 k cs ih => rw [bare_other (by decide), braces?_open, ih]
  | case3 cs =>
    rw [bare_other (by decide)]
    rfl
  | case4 cs _ k ih => rw [bare_other (by decide), braces?_close, ih]
  | case5 k c cs ho hc ih =>
    cases hn : Name.isNameChar c with
    | true =>
      have hb : bare (c :: cs) = bare cs := by simp [bare, hn]
      rw [hb, ih]
    | false => rw [bare_other hn, braces?_other ho hc, ih]

/-- The braces that are open are those that were opened and not closed. -/
theorem count_of_braces? (h : braces? k cs = some j) :
    cs.count '\x7b' + k = cs.count '\x7d' + j := by
  fun_induction braces? k cs with
  | case1 => simpa using h
  | case2 k cs ih =>
    have hc := ih h
    simp only [List.count_cons_self, List.count_cons_of_ne (by decide : '\x7b' ≠ '\x7d')]
    omega
  | case3 => simp at h
  | case4 cs _ k ih =>
    have hc := ih h
    simp only [List.count_cons_self, List.count_cons_of_ne (by decide : '\x7d' ≠ '\x7b')]
    omega
  | case5 k c cs ho hc ih =>
    rw [List.count_cons_of_ne ho, List.count_cons_of_ne hc]
    exact ih h

/-- Nowhere in a text that can be read are more braces closed than opened. -/
theorem count_le_of_prefix {p : List Char} (h : braces? 0 cs = some j) (hp : p <+: cs) :
    p.count '\x7d' ≤ p.count '\x7b' := by
  obtain ⟨rest, rfl⟩ := hp
  rw [braces?_append] at h
  obtain ⟨i, hi, -⟩ := Option.bind_eq_some_iff.mp h
  have hc := count_of_braces? hi
  omega

end Text

lemma braceless_empty : Braceless "" := by decide

lemma braceless_append {a b : String} : Braceless (a ++ b) ↔ Braceless a ∧ Braceless b := by
  simp only [Braceless, String.toList_append, List.mem_append]
  tauto

lemma Modifier.braceless_keyword (m : Modifier) : Braceless (m.keyword ++ " ") := by
  cases m <;> decide

lemma Text.mem_of_mem_linesOf {cs l : List Char} (h : l ∈ linesOf cs) : ∀ c ∈ l, c ∈ cs :=
  fun c hc => (mem_of_mem_splitOn (linesOf_eq_splitOn cs ▸ h) c hc).1

lemma Braceless.lines {text l : String} (h : Braceless text) (hl : l ∈ Text.lines text) :
    Braceless l := by
  obtain ⟨cs, hm, rfl⟩ := List.mem_map.mp hl
  have hc := Text.mem_of_mem_linesOf hm
  simp only [Braceless, String.toList_ofList]
  exact ⟨fun ho => h.1 (hc _ ho), fun ho => h.2 (hc _ ho)⟩

/-! ## The account of braces -/

/-- The text that a step brings, but for the indentation; a type stands in full. -/
def Step.shown : Step → String
  | .write text => text
  | .writeType (.text text) => text
  | _ => ""

namespace Braces
open Text

/-- The nesting and the open braces after a step. -/
def next (a : Nesting × Option ℕ) (x : Step) : Option (Nesting × Option ℕ) :=
  (a.1.next x).map fun n => (n, a.2.bind fun k => braces? k x.shown.toList)

end Braces

namespace Scribe
open Text
variable {σ : Type} {w : Scribe σ} {x : Step}

lemma braces?_typeText (hr : w.naming.imports.Registered) {text written : String}
    (h : w.setting.typeText? (.text text) = some written) (k : ℕ) :
    braces? k written.toList = braces? k text.toList := by
  cases hs : w.shortens with
  | false =>
    obtain rfl : text = written := by simpa [Setting.typeText?, setting, hs] using h
    rfl
  | true =>
    cases hp : w.naming.package with
    | none => simp [Setting.typeText?, setting, hs, Naming.display, hp, Except.toOption] at h
    | some package =>
      have hd := Naming.display_ok hp text
      obtain rfl : Naming.shortenText w.naming.imports package text = written := by
        simpa [Setting.typeText?, setting, hs, hd, Except.toOption] using h
      rw [← braces?_bare, Naming.bare_shortenText hr, braces?_bare]

lemma braceless_indentation {unit : String} (h : Braceless unit) (n : ℕ) :
    Braceless (indentation unit n) := by
  have hm : ∀ c ∈ (indentation unit n).toList, c ∈ unit.toList := by
    induction n with
    | zero => simp [indentation]
    | succ n ih =>
      intro c hc
      have hs : (indentation unit (n + 1)).toList = unit.toList ++ (indentation unit n).toList := by
        simp [indentation, List.replicate_succ]
      rcases List.mem_append.mp (hs ▸ hc) with hc | hc
      · exact hc
      · exact ih c hc
  exact ⟨fun ho => h.1 (hm _ ho), fun hc => h.2 (hm _ hc)⟩

/-- What a step offers has the braces of what it brings. -/
lemma braces?_piece (hr : w.naming.imports.Registered) (hu : Braceless w.unit) {text : String}
    (h : w.piece? x = some text) (k : ℕ) : braces? k text.toList = braces? k x.shown.toList := by
  cases x with
  | write t =>
    obtain rfl : t = text := Option.some.inj h
    rfl
  | indent deeper =>
    obtain rfl := Option.some.inj h
    exact braces?_of_braceless (braceless_indentation hu _) k
  | writeType type =>
    cases type with
    | text t => exact braces?_typeText hr h k
    | _ =>
      have hd : ∀ v : Value, (∀ t, v ≠ .text t) → w.setting.typeText? v = none := by
        intro v hv
        cases hs : w.shortens <;> cases hp : w.naming.package <;> cases v <;>
          simp_all [Setting.typeText?, setting, Naming.display, Except.toOption]
      simp [piece?, hd] at h
  | _ => simp [piece?] at h

/-- What is open, and how many braces are, as long as the sink has taken every text. -/
structure Bracing (w : Scribe (Watched σ)) (a : Nesting × Option ℕ) : Prop where
  nesting : w.nesting = a.1
  registered : w.naming.imports.Registered
  unit : Braceless w.unit
  taken : w.sink.refused = false → braces? 0 w.sink.taken.toList = a.2

end Scribe

/-- The account of what is open and of the braces of what has been taken. -/
def Account.braces (σ : Type) [Sink σ] : Account (Watched σ) Braces.next where
  holds := Scribe.Bracing
  done := by
    rintro w w' ⟨_, k⟩ x ⟨rfl, hr, hu, ht⟩ h
    refine ⟨(w'.nesting, k.bind fun k => Text.braces? k x.shown.toList),
      by simp [Braces.next, h.nesting], rfl, h.registered hr, h.unit ▸ hu, fun hw => ?_⟩
    cases hp : w.piece? x with
    | some text =>
      obtain ⟨htaken, hrefused⟩ := Watched.taken_of_write (h.taken text hp)
      obtain rfl := ht (hrefused ▸ hw)
      rw [htaken, String.toList_append, Text.braces?_append]
      congr 1
      funext k
      exact Scribe.braces?_piece hr hu hp k
    | none =>
      obtain ⟨hx, hs⟩ := h.silent hp
      have hsame : w'.sink.taken = w.sink.taken ∧ w'.sink.refused = w.sink.refused := by
        rcases hs with hs | hs <;> rw [hs] <;> exact ⟨rfl, rfl⟩
      have hshown : x.shown = "" := by
        cases x with
        | write | writeType => simp [Step.writes] at hx
        | _ => rfl
      rw [hsame.1, ht (hsame.2 ▸ hw)]
      cases k <;> simp [hshown]
  failed := by
    rintro w w' ⟨_, k⟩ x fault ⟨rfl, hr, hu, ht⟩ h
    have hs := h.setting
    have hsink : w'.sink.refused = false →
        w'.sink.taken = w.sink.taken ∧ w.sink.refused = false := by
      intro hw
      rcases h.cause with ⟨text, refusal, -, -, hp⟩ | ⟨-, hp | ⟨v, hp⟩⟩
      · simp [Watched.refused_of_write hp] at hw
      · exact ⟨by rw [hp], hp ▸ hw⟩
      · exact ⟨by rw [hp]; rfl, by rw [hp] at hw; exact hw⟩
    have hnaming : w'.naming = w.naming := congrArg Setting.naming hs
    have hunit : w'.unit = w.unit := congrArg Setting.unit hs
    refine ⟨congrArg Setting.nesting hs, hnaming ▸ hr, hunit ▸ hu, fun hw => ?_⟩
    obtain ⟨htaken, hrefused⟩ := hsink hw
    rw [htaken]
    exact ht hrefused
  stuck := by
    rintro w ⟨_, k⟩ x ⟨rfl, -⟩ h
    simp [Braces.next, h]

end JavaScribe
