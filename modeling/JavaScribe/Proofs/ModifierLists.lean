import JavaScribe.Proofs.ImportNames
import JavaScribe.Proofs.Runs

/-!
# Lists of modifiers

Modifiers may be given in any order, more than once, and by their keywords in any letter case. What
a declaration goes on with is one list for all that denote the same (`modifiers_canonical`): the
denoted modifiers in the order of declarations, each once. The first text that is no keyword is the
fault that is reported.
-/
namespace JavaScribe

/-- A way to give a modifier: as it is, or by its keyword in any letter case. -/
inductive Spelling where
  | exact (m : Modifier)
  | word (s : String)

namespace Spelling

def value : Spelling → Value
  | exact m => .modifier m
  | word s => .text s

def Denotes : Spelling → Modifier → Prop
  | exact m, n => m = n
  | word s, n => Text.lower s = n.keyword

instance (x : Spelling) (m : Modifier) : Decidable (x.Denotes m) :=
  match x with
  | exact n => inferInstanceAs (Decidable (n = m))
  | word s => inferInstanceAs (Decidable (Text.lower s = m.keyword))

end Spelling

namespace Modifier

/-- Where a modifier stands among all. -/
def position (m : Modifier) : ℕ := all.idxOf m

lemma ofKeyword?_eq_some_iff {s : String} {m : Modifier} :
    ofKeyword? s = some m ↔ s = m.keyword := by
  constructor
  · intro h
    have hk := List.find?_some h
    exact (beq_iff_eq.mp hk).symm
  · rintro rfl
    cases m <;> decide +kernel

lemma ofKeyword?_eq_none_iff {s : String} :
    ofKeyword? s = none ↔ ∀ m : Modifier, s ≠ m.keyword := by
  simp [Option.eq_none_iff_forall_ne_some, ofKeyword?_eq_some_iff]

lemma pairwise_ordered (ms : List Modifier) :
    (ordered ms).Pairwise (fun a b => a.position < b.position) :=
  List.Pairwise.sublist List.filter_sublist (by decide)

lemma ordered_congr {ms ns : List Modifier} (h : ∀ m, m ∈ ms ↔ m ∈ ns) :
    ordered ms = ordered ns := by
  apply List.filter_congr
  intro m _
  simp [h m]

lemma ordered_singleton (m : Modifier) : ordered [m] = [m] := by cases m <;> decide

end Modifier

namespace Argument
open Spelling

/-- The values that are given as modifiers: a text or a modifier by itself, or the items of a
collection. -/
def given? : Value → Option (List Value)
  | .none => some []
  | .text s => some (if s.isEmpty then [] else [.text s])
  | .modifier m => some [.modifier m]
  | v => v.items?

/-! ## Looking through -/

lemma modifiers_collection {v : Value} {vs : List Value} (hi : v.items? = some vs)
    (ht : v.truthy = !vs.isEmpty) (hs : ∀ s, v ≠ .text s) :
    modifiers v = (vs.mapM modifier).map Modifier.ordered := by
  cases vs with
  | nil => simp [modifiers, ht, pure, Except.pure, Except.map, Modifier.ordered]
  | cons x vs =>
    have hm : modifiers v = (do
        let vs ← items v
        return Modifier.ordered (← vs.mapM modifier)) := by
      cases v with
      | text s => exact absurd rfl (hs s)
      | modifier m => simp [Value.items?] at hi
      | _ => simp [modifiers, ht]
    rw [hm, items_eq_ok_iff.mpr hi]
    simp only [bind, Except.bind, pure, Except.pure]
    cases (x :: vs).mapM modifier <;> rfl

/-- One by itself is looked through like a collection that has only it. -/
lemma modifiers_eq {v : Value} {vs : List Value} (h : given? v = some vs) :
    modifiers v = (vs.mapM modifier).map Modifier.ordered := by
  cases v with
  | none =>
    obtain rfl := Option.some.inj h
    rfl
  | text s =>
    obtain rfl := Option.some.inj h
    by_cases hs : s = ""
    · subst hs
      rfl
    · cases hm : modifier (.text s) <;>
        simp [modifiers, Value.truthy, hs, hm, bind, Except.bind, pure, Except.pure, Except.map,
          Modifier.ordered_singleton]
  | modifier m =>
    obtain rfl := Option.some.inj h
    cases m <;> rfl
  | list vs | tuple vs | set vs =>
    exact modifiers_collection h (by obtain rfl := Option.some.inj h; rfl) (by simp)
  | map es =>
    exact modifiers_collection h (by obtain rfl := Option.some.inj h; simp [Value.truthy])
      (by simp)
  | _ => simp [given?, Value.items?] at h

lemma modifier_eq_ok_iff {x : Spelling} {m : Modifier} :
    modifier x.value = .ok m ↔ x.Denotes m := by
  cases x with
  | exact n => simp [value, modifier, Denotes]
  | word s =>
    rw [Denotes, ← Modifier.ofKeyword?_eq_some_iff]
    cases h : Modifier.ofKeyword? (Text.lower s) <;> simp [value, modifier, h]

lemma modifier_eq_error_iff {x : Spelling} {fault : Fault} :
    modifier x.value = .error fault ↔
      ∃ s, x = .word s ∧ (∀ m : Modifier, Text.lower s ≠ m.keyword) ∧
        fault = .unknownModifier (Text.lower s) := by
  cases x with
  | exact n => simp [value, modifier]
  | word s =>
    simp only [word.injEq, exists_eq_left', ← Modifier.ofKeyword?_eq_none_iff]
    cases h : Modifier.ofKeyword? (Text.lower s) <;> simp [value, modifier, h, eq_comm]

/-- The first item that fails is the fault, and no item behind it matters. -/
lemma mapM_eq_error_iff {α β ε : Type} {f : α → Except ε β} {xs : List α} {e : ε} :
    xs.mapM f = .error e ↔ ∃ before x after,
      xs = before ++ x :: after ∧ (∀ y ∈ before, ∃ b, f y = .ok b) ∧ f x = .error e := by
  induction xs with
  | nil => simp [pure, Except.pure]
  | cons x xs ih =>
    rw [List.mapM_cons]
    constructor
    · intro h
      cases hx : f x with
      | error e' =>
        simp only [hx, bind, Except.bind, Except.error.injEq] at h
        exact ⟨[], x, xs, rfl, by simp, h ▸ hx⟩
      | ok b =>
        have hxs : xs.mapM f = .error e := by
          cases hr : xs.mapM f <;> simp_all [bind, Except.bind, pure, Except.pure]
        obtain ⟨before, y, after, rfl, hb, hy⟩ := ih.mp hxs
        exact ⟨x :: before, y, after, rfl, List.forall_mem_cons.mpr ⟨⟨b, hx⟩, hb⟩, hy⟩
    · rintro ⟨before, y, after, h, hb, hy⟩
      cases before with
      | nil =>
        obtain ⟨rfl, rfl⟩ := List.cons.inj h
        simp [hy, bind, Except.bind]
      | cons z before =>
        obtain ⟨rfl, rfl⟩ := List.cons.inj h
        rw [List.forall_mem_cons] at hb
        obtain ⟨⟨b, hx⟩, hb⟩ := hb
        have hxs := ih.mpr ⟨before, y, after, rfl, hb, hy⟩
        simp only [hx, bind, Except.bind]
        rw [hxs]

/-! ## What is denoted -/

variable {v : Value} {xs : List Spelling}

lemma modifiers_eq_mapM (hv : given? v = some (xs.map value)) :
    modifiers v = (xs.mapM fun x => modifier x.value).map Modifier.ordered := by
  rw [modifiers_eq hv, List.mapM_map]
  rfl

lemma modifiers_eq_ok_iff (hv : given? v = some (xs.map value)) {ms : List Modifier} :
    modifiers v = .ok ms ↔ ∃ ns, List.Forall₂ Denotes xs ns ∧ Modifier.ordered ns = ms := by
  have hd : (fun (x : Spelling) m => modifier x.value = .ok m) = Denotes := by
    funext x m
    exact propext modifier_eq_ok_iff
  rw [modifiers_eq_mapM hv, ← hd]
  simp only [← mapM_eq_ok_iff]
  cases xs.mapM fun x => modifier x.value <;> simp [Except.map]

theorem modifiers_eq_error_iff (hv : given? v = some (xs.map value)) {fault : Fault} :
    modifiers v = .error fault ↔
      ∃ before s after, xs = before ++ .word s :: after ∧
        (∀ x ∈ before, ∃ m, x.Denotes m) ∧ (∀ m : Modifier, Text.lower s ≠ m.keyword) ∧
        fault = .unknownModifier (Text.lower s) := by
  have hm : modifiers v = .error fault ↔
      (xs.mapM fun x => modifier x.value) = .error fault := by
    rw [modifiers_eq_mapM hv]
    cases xs.mapM fun x => modifier x.value <;> simp [Except.map]
  rw [hm, mapM_eq_error_iff]
  simp only [modifier_eq_ok_iff, modifier_eq_error_iff]
  constructor
  · rintro ⟨before, _, after, hxs, hb, s, rfl, hs⟩
    exact ⟨before, s, after, hxs, hb, hs⟩
  · rintro ⟨before, s, after, hxs, hb, hs⟩
    exact ⟨before, .word s, after, hxs, hb, s, rfl, hs⟩

lemma exists_of_denotes {ns : List Modifier} (h : List.Forall₂ Denotes xs ns) :
    ∀ x ∈ xs, ∃ m, x.Denotes m := by
  induction h with
  | nil => simp
  | @cons x n xs ns hx _ ih => exact List.forall_mem_cons.mpr ⟨⟨n, hx⟩, ih⟩

lemma mem_iff_of_denotes {ns : List Modifier} (h : List.Forall₂ Denotes xs ns) (m : Modifier) :
    m ∈ ns ↔ ∃ x ∈ xs, x.Denotes m := by
  induction h with
  | nil => simp
  | @cons x n xs ns hx _ ih =>
    -- A spelling denotes one modifier only.
    have hn : x.Denotes m ↔ m = n := by
      rw [← modifier_eq_ok_iff] at hx ⊢
      rw [hx, Except.ok.injEq, eq_comm]
    simp [ih, hn]

theorem exists_modifiers_iff (hv : given? v = some (xs.map value)) :
    (∃ ms, modifiers v = .ok ms) ↔
      ∀ s, .word s ∈ xs → ∃ m : Modifier, Text.lower s = m.keyword := by
  constructor
  · rintro ⟨ms, h⟩ s hs
    obtain ⟨ns, hd, -⟩ := (modifiers_eq_ok_iff hv).mp h
    exact exists_of_denotes hd _ hs
  · intro h
    cases hm : modifiers v with
    | ok ms => exact ⟨ms, rfl⟩
    | error fault =>
      obtain ⟨before, s, after, rfl, -, hn, -⟩ := (modifiers_eq_error_iff hv).mp hm
      obtain ⟨m, hk⟩ := h s (by simp)
      exact absurd hk (hn m)

/-- What denotes the same comes to the same. -/
theorem modifiers_eq_of_denotes {v' : Value} {ys : List Spelling} {ms : List Modifier}
    (hv : given? v = some (xs.map value)) (hv' : given? v' = some (ys.map value))
    (h : modifiers v = .ok ms) (hy : ∀ s, .word s ∈ ys → ∃ m : Modifier, Text.lower s = m.keyword)
    (hsame : ∀ m, (∃ x ∈ xs, x.Denotes m) ↔ ∃ y ∈ ys, y.Denotes m) : modifiers v' = .ok ms := by
  obtain ⟨ns, hd, rfl⟩ := (modifiers_eq_ok_iff hv).mp h
  obtain ⟨ms', h'⟩ := (exists_modifiers_iff hv').mpr hy
  obtain ⟨ns', hd', rfl⟩ := (modifiers_eq_ok_iff hv').mp h'
  have hm : ∀ m, m ∈ ns' ↔ m ∈ ns := by
    intro m
    rw [mem_iff_of_denotes hd', mem_iff_of_denotes hd, hsame]
  rw [h', Modifier.ordered_congr hm]

end Argument

/-! ## Declarations -/

/-- What is declared with modifiers. -/
inductive Declaration where
  | type (name : Value) (kind : String) (superclass interfaces : Value)
  | method (result name parameters throws : Value)
  | constructor (parameters throws : Value)
  | field (type : Value) (name : String) (initial : Option String)

def Declaration.call (modifiers : Value) : Declaration → Call
  | .type name kind superclass interfaces => .openType name kind modifiers superclass interfaces
  | .method result name parameters throws => .openMethod result name modifiers parameters throws
  | .constructor parameters throws => .openConstructor modifiers parameters throws
  | .field fieldType name initial => .field fieldType name modifiers initial

lemma Declaration.steps_call_congr {v v' : Value} (h : Argument.modifiers v' = Argument.modifiers v)
    (d : Declaration) (n : Nesting) : (d.call v').steps n = (d.call v).steps n := by
  cases d with
  | constructor parameters throws =>
    cases ht : n.types.head? <;>
      simp only [call, Call.steps, Call.constructorSteps, Call.methodSteps, ht, h]
  | _ => simp only [call, Call.steps, Call.typeSteps, Call.methodSteps, Call.fieldSteps, h]

namespace Scribe
open Argument Spelling

variable {σ : Type} [Sink σ]

lemma checked_methodSteps (w : Scribe σ) (result name modifiers parameters throws : Value) :
    Checked w (Call.methodSteps result name modifiers parameters throws) fun steps =>
      ∃ ms front scope, Argument.modifiers modifiers = .ok ms ∧
        (scope = .abstractMethod ↔ .abstract ∈ ms) ∧ steps = front ++ [.enter scope] := by
  refine Checked.require (.after fun ps _ => .after fun ts _ => ?_)
  have hlast : ∀ (front : List Step) (x y : Step), front ++ [x, y] = (front ++ [x]) ++ [y] := by
    simp
  split
  · exact .fail
  · refine .after fun ms hms => .of ?_
    by_cases ha : .abstract ∈ ms
    · rw [if_pos ha]
      exact ⟨ms, _, .abstractMethod, hms, by simp [ha], hlast _ _ _⟩
    · rw [if_neg ha]
      refine ⟨ms, _, _, hms, ?_, hlast _ _ _⟩
      split <;> simp [ha]

lemma openMethod_top {w w' : Scribe σ} {result name modifiers parameters throws : Value}
    {ms : List Modifier} (hms : Argument.modifiers modifiers = .ok ms)
    (hp : w.perform (.openMethod result name modifiers parameters throws) = ⟨none, w'⟩) :
    w'.scopes.top = some .abstractMethod ↔ .abstract ∈ ms := by
  have hr : w.run (Call.methodSteps result name modifiers parameters throws) = ⟨none, w'⟩ := hp
  rcases w.checked_methodSteps result name modifiers parameters throws with
    ⟨fault, he⟩ | ⟨_, ⟨ms', front, scope, hms', hscope, rfl⟩, he⟩
  · simp [hr, failing] at he
  · obtain rfl := Except.ok.inj (hms.symm.trans hms')
    rw [hr] at he
    obtain ⟨-, hlast⟩ := run_append_of_done (by rw [← he])
    have hw : w' = ((w.run front).scribe.run [.enter scope]).scribe := by rw [← hlast, ← he]
    rw [hw, ← hscope]
    simp [run, step, done, note, Scopes.top]

/-- Modifiers are accepted exactly if every text among them is a keyword in some letter case, and
else the first that is none is the fault. What comes of them is in the order of declarations, each
once, and holds just what they denote. So it comes of itself again, and all that denotes the same
declares the same; a method is opened as abstract exactly if that is denoted. -/
theorem modifiers_canonical {v : Value} {xs : List Spelling}
    (hv : given? v = some (xs.map value)) :
    ((∃ ms, Argument.modifiers v = .ok ms) ↔
      ∀ s, .word s ∈ xs → ∃ m : Modifier, Text.lower s = m.keyword) ∧
    (∀ fault, Argument.modifiers v = .error fault ↔
      ∃ before s after, xs = before ++ .word s :: after ∧
        (∀ x ∈ before, ∃ m, x.Denotes m) ∧ (∀ m : Modifier, Text.lower s ≠ m.keyword) ∧
        fault = .unknownModifier (Text.lower s)) ∧
    ∀ ms, Argument.modifiers v = .ok ms →
      ms.Pairwise (fun a b => a.position < b.position) ∧
      (∀ m, m ∈ ms ↔ ∃ x ∈ xs, x.Denotes m) ∧
      Argument.modifiers (.list (ms.map .modifier)) = .ok ms ∧
      (∀ (w w' : Scribe σ) (result name parameters throws : Value),
        w.perform (.openMethod result name v parameters throws) = ⟨none, w'⟩ →
          (w'.scopes.top = some .abstractMethod ↔ ∃ x ∈ xs, x.Denotes .abstract)) ∧
      ∀ (v' : Value) (ys : List Spelling), given? v' = some (ys.map value) →
        (∀ s, .word s ∈ ys → ∃ m : Modifier, Text.lower s = m.keyword) →
        (∀ m, (∃ x ∈ xs, x.Denotes m) ↔ ∃ y ∈ ys, y.Denotes m) →
          Argument.modifiers v' = .ok ms ∧
          ∀ (d : Declaration) (w : Scribe σ), w.perform (d.call v') = w.perform (d.call v) := by
  refine ⟨exists_modifiers_iff hv, fun fault => modifiers_eq_error_iff hv, fun ms hms => ?_⟩
  obtain ⟨ns, hd, hns⟩ := (modifiers_eq_ok_iff hv).mp hms
  have hmem : ∀ m, m ∈ ms ↔ ∃ x ∈ xs, x.Denotes m := by
    intro m
    rw [← hns, Modifier.mem_ordered, mem_iff_of_denotes hd]
  refine ⟨hns ▸ Modifier.pairwise_ordered ns, hmem, ?_, ?_, ?_⟩
  · have hself : given? (.list (ms.map .modifier)) = some ((ms.map exact).map value) := by
      simp [given?, Value.items?, value]
    refine modifiers_eq_of_denotes hv hself hms (by simp) fun m => ?_
    rw [← hmem]
    simp [Denotes]
  · intro w w' result name parameters throws hp
    rw [openMethod_top hms hp, hmem]
  · intro v' ys hv' hy hsame
    have hms' := modifiers_eq_of_denotes hv hv' hms hy hsame
    refine ⟨hms', fun d w => ?_⟩
    rw [perform, d.steps_call_congr (hms'.trans hms.symm)]
    rfl

/-- A page with a type open on it. -/
def inType : Scribe Page :=
  { sink := {}, naming := { package := some "" }, scopes := [.typeBody], types := ["Foo"] }

/-- Two modifiers, one of them given twice and in two letter cases. -/
theorem abstract_method_spelled_twice :
    let xs : List Spelling := [.word "ABSTRACT", .exact .pub, .word "Public"]
    let ys : List Spelling := [.exact .pub, .word "abstract"]
    let v : Value := .list (xs.map value)
    let v' : Value := .set (ys.map value)
    given? v = some (xs.map value) ∧ given? v' = some (ys.map value) ∧
      Argument.modifiers v = .ok [.pub, .abstract] ∧
      (∀ s, .word s ∈ ys → ∃ m : Modifier, Text.lower s = m.keyword) ∧
      (∀ m, (∃ x ∈ xs, x.Denotes m) ↔ ∃ y ∈ ys, y.Denotes m) ∧
      Argument.modifiers v' = .ok [.pub, .abstract] ∧
      ∃ w', inType.perform (.openMethod "void" "run" v .none .none) = ⟨none, w'⟩ ∧
        inType.perform (.openMethod "void" "run" v' .none .none) = ⟨none, w'⟩ ∧
        w'.scopes.top = some .abstractMethod := by
  intro xs ys v v'
  have hv : given? v = some (xs.map value) := rfl
  have hv' : given? v' = some (ys.map value) := rfl
  have hms : Argument.modifiers v = .ok [.pub, .abstract] := by decide +kernel
  have hy : ∀ s, .word s ∈ ys → ∃ m : Modifier, Text.lower s = m.keyword := by
    intro s hs
    obtain rfl : s = "abstract" := by simpa [ys] using hs
    exact ⟨.abstract, by decide +kernel⟩
  have hsame : ∀ m, (∃ x ∈ xs, x.Denotes m) ↔ ∃ y ∈ ys, y.Denotes m := by
    intro m
    cases m <;> decide +kernel
  obtain ⟨-, -, hall⟩ := @modifiers_canonical Page _ v xs hv
  obtain ⟨-, -, -, htop, hother⟩ := hall _ hms
  obtain ⟨hms', hperform⟩ := hother v' ys hv' hy hsame
  have hp : inType.perform (.openMethod "void" "run" v .none .none) =
      ⟨none, (inType.perform (.openMethod "void" "run" v .none .none)).scribe⟩ := by
    decide +kernel
  exact ⟨hv, hv', hms, hy, hsame, hms', _, hp,
    (hperform (.method "void" "run" .none .none) inType).trans hp,
    (htop _ _ _ _ _ _ hp).mpr ⟨.word "ABSTRACT", by simp [xs], by decide +kernel⟩⟩

end Scribe
end JavaScribe
