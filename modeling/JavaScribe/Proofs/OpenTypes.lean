import JavaScribe.Proofs.Effects

/-!
# The names of the open types

The names of the open types are kept beside the scopes, and not as a part of them. Every call keeps
the two in step, also when the sink breaks it off: there is a name for each scope that is the body
of a type (`Reached.named`), and the names are those that were given to the calls of the run whose
types are still open (`types_moveAll`).
-/
namespace JavaScribe

/-- There is a name for each open type. -/
def Nesting.Named (n : Nesting) : Prop := n.types.length = n.scopes.count .typeBody

/-- The open types, innermost first, each as the number of scopes around it and its name. -/
def labelled : Scopes → OpenTypes → List (ℕ × String)
  | [], _ => []
  | .typeBody :: scopes, name :: types => (scopes.length, name) :: labelled scopes types
  | _ :: scopes, types => labelled scopes types

def Nesting.labels (n : Nesting) : List (ℕ × String) := labelled n.scopes n.types

/-- The name that a move gives to the type that it is to open. -/
def Move.typeName? : Move → Option Value
  | .call (.openType name _ _ _ _) => some name
  | _ => none

section
variable {scope : Scope} {scopes : Scopes} {types : OpenTypes} {p : ℕ × String}

lemma labelled_cons_of_ne (h : scope ≠ .typeBody) :
    labelled (scope :: scopes) types = labelled scopes types := by
  cases scope <;> first | rfl | exact absurd rfl h

lemma labelled_append {notes : Scopes} (h : ∀ s ∈ notes, s ≠ .typeBody) :
    labelled (notes ++ scopes) types = labelled scopes types := by
  induction notes with
  | nil => rfl
  | cons s notes ih =>
    rw [List.forall_mem_cons] at h
    rw [List.cons_append, labelled_cons_of_ne h.1, ih h.2]

lemma lt_of_mem_labelled (h : p ∈ labelled scopes types) : p.1 < scopes.length := by
  fun_induction labelled scopes types with
  | case1 => simp at h
  | case2 scopes name types ih =>
    rcases List.mem_cons.mp h with rfl | h
    · simp
    · exact (ih h).trans (Nat.lt_succ_self _)
  | case3 scope scopes types _ ih => exact (ih h).trans (Nat.lt_succ_self _)

lemma filter_labelled {k : ℕ} (h : scopes.length ≤ k) :
    (labelled scopes types).filter (·.1 < k) = labelled scopes types :=
  List.filter_eq_self.mpr fun _ hp => decide_eq_true ((lt_of_mem_labelled hp).trans_le h)

/-- The innermost scope is that of the innermost type, or of none. -/
lemma labelled_eq_cons (h : p ∈ labelled scopes types) (hp : p.1 + 1 = scopes.length) :
    ∃ rest, labelled scopes types = p :: rest := by
  fun_cases labelled scopes types with
  | case1 => simp [labelled] at h
  | case2 scopes name types =>
    rcases List.mem_cons.mp h with rfl | h
    · exact ⟨_, rfl⟩
    · have hlt := lt_of_mem_labelled h
      simp only [List.length_cons] at hp
      omega
  | case3 scope scopes types hs =>
    rw [labelled] at h
    · have hlt := lt_of_mem_labelled h
      simp only [List.length_cons] at hp
      omega
    · exact hs

lemma map_snd_labelled (h : types.length = scopes.count .typeBody) :
    (labelled scopes types).map Prod.snd = types := by
  fun_induction labelled scopes types with
  | case1 types => simpa [eq_comm] using h
  | case2 scopes name types ih => simpa using ih (by simpa using h)
  | case3 scope scopes types hs ih =>
    refine ih ?_
    by_cases ht : scope = .typeBody
    · subst ht
      cases types with
      | nil => simp at h
      | cons name types => exact absurd rfl (hs name types rfl)
    · simpa [ht] using h

end

namespace Call
variable {c : Call}

lemma typeBody_not_mem_openings : .typeBody ∉ c.openings := by
  cases c with
  | openMethod result => cases result <;> simp [openings]
  | _ => simp [openings]

lemma typeBody_not_mem_closings : .typeBody ∉ c.closings := by
  cases c <;> simp [closings]

end Call

section
variable {c : Call} {n n' : Nesting} {e : Exit}

/-- There stays a name for each open type. -/
theorem Effect.named (h : Effect c n e n') (hn : n.Named) : n'.Named := by
  unfold Nesting.Named at hn ⊢
  cases h with
  | failed | refused | unshown | stayed => exact hn
  | openedType => simp [hn]
  | @opened scope hs =>
    have hne : scope ≠ .typeBody := fun h => Call.typeBody_not_mem_openings (h ▸ hs)
    simp [hn, hne]
  | openedUnwritten => simp [hn]
  | closedType _ hs =>
    subst hs
    simpa using hn
  | closedNameless _ hs => simp [hs] at hn
  | @closed _ scope _ _ hm hs =>
    subst hs
    have hne : scope ≠ .typeBody := fun h => Call.typeBody_not_mem_closings (h ▸ hm)
    simpa [hne] using hn
  | between _ hs =>
    subst hs
    simpa using hn
  | @leaked _ _ _ notes _ hs =>
    have hz : notes.count .typeBody = 0 :=
      List.count_eq_zero.mpr fun h => absurd (hs _ h) (by simp [Scope.isNote])
    simp [hn, hz]

/-- A call opens a type of the name that it is given, inside all others, or it leaves those types
open that are not deeper than what is open afterwards. -/
theorem Effect.labels (h : Effect c n e n') (hn : n.Named) :
    (∃ name : String, (Move.call c).typeName? = some (.text name) ∧
        n'.labels = (n.scopes.length, name) :: n.labels ∧
        n'.scopes.length = n.scopes.length + 1) ∨
      ((Move.call c).typeName? = none ∨ n'.scopes.length ≤ n.scopes.length) ∧
        n'.labels = n.labels.filter (·.1 < n'.scopes.length) := by
  unfold Nesting.labels
  cases h with
  | failed | refused | unshown | stayed =>
    exact Or.inr ⟨Or.inr le_rfl, (filter_labelled le_rfl).symm⟩
  | openedType hc =>
    subst hc
    exact Or.inl ⟨_, rfl, rfl, rfl⟩
  | @opened scope hs =>
    have hne : scope ≠ .typeBody := fun h => Call.typeBody_not_mem_openings (h ▸ hs)
    have hc : (Move.call c).typeName? = none := by
      cases c <;> first | rfl | simp [Call.openings] at hs
    exact Or.inr ⟨Or.inl hc, (labelled_cons_of_ne hne).trans (filter_labelled (by simp)).symm⟩
  | openedUnwritten hc =>
    subst hc
    exact Or.inr ⟨Or.inl rfl, (filter_labelled (by simp)).symm⟩
  | closedType _ hs =>
    subst hs
    refine Or.inr ⟨Or.inr (by simp), ?_⟩
    simp [labelled, filter_labelled]
  | closedNameless _ hs => simp [Nesting.Named, hs] at hn
  | @closed _ scope _ _ hm hs =>
    subst hs
    have hne : scope ≠ .typeBody := fun h => Call.typeBody_not_mem_closings (h ▸ hm)
    refine Or.inr ⟨Or.inr (by simp), ?_⟩
    rw [labelled_cons_of_ne hne, filter_labelled le_rfl]
  | between _ hs =>
    subst hs
    refine Or.inr ⟨Or.inr (by simp), ?_⟩
    rw [labelled_cons_of_ne (by simp), filter_labelled le_rfl]
  | @leaked _ _ _ notes hc hs =>
    subst hc
    have hne : ∀ s ∈ notes, s ≠ .typeBody := by
      rintro s hm rfl
      simpa [Scope.isNote] using hs _ hm
    exact Or.inr ⟨Or.inl rfl, (labelled_append hne).trans (filter_labelled (by simp)).symm⟩

/-- A type that is opened without a fault is on top with its name. -/
lemma Effect.of_opened {name kind : String} {modifiers superclass interfaces : Value}
    (h : Effect (.openType name kind modifiers superclass interfaces) n .done n') :
    n' = ⟨.typeBody :: n.scopes, name :: n.types⟩ := by
  cases h with
  | stayed hs => simp [Call.stays] at hs
  | openedType hc =>
    obtain ⟨hname, -⟩ := Call.openType.inj hc
    rw [Value.text.inj hname]
  | opened hs => simp [Call.openings] at hs
  | closedType hc | leaked hc => simp at hc
  | closed hs => simp [Call.closings] at hs

end

/-! ## Runs -/

namespace Scribe
variable {σ : Type} [Sink σ] {w : Scribe σ} {m : Move} {ms : List Move} {d : ℕ}

/-- More than so many scopes are open all the time, at first and after each of the moves. -/
def StaysDeeper (w : Scribe σ) (d : ℕ) (ms : List Move) : Prop :=
  ∀ front ∈ ms.inits, d < (w.moveAll front).depth

instance (w : Scribe σ) (d : ℕ) (ms : List Move) : Decidable (w.StaysDeeper d ms) :=
  inferInstanceAs (Decidable (∀ front ∈ ms.inits, d < (w.moveAll front).depth))

lemma staysDeeper_nil : w.StaysDeeper d [] ↔ d < w.depth := by
  simp [StaysDeeper]

lemma staysDeeper_cons :
    w.StaysDeeper d (m :: ms) ↔ d < w.depth ∧ (w.move m).scribe.StaysDeeper d ms := by
  simp [StaysDeeper]

lemma StaysDeeper.lt (h : w.StaysDeeper d ms) : d < w.depth := h [] (by simp)

/-- The names that the moves of a run have given to the types that are still open, in the order in
which they were opened. A type is open as long as there are more scopes than were around it. -/
def openedTypes (w : Scribe σ) : List Move → List Value
  | [] => []
  | m :: ms =>
    let v := (w.move m).scribe
    match m.typeName? with
    | some name =>
      if v.StaysDeeper w.depth ms then name :: v.openedTypes ms else v.openedTypes ms
    | none => v.openedTypes ms

lemma named_move (h : w.nesting.Named) (m : Move) : (w.move m).scribe.nesting.Named := by
  cases m with
  | setUnit | setShortens => exact h
  | call c =>
    obtain ⟨e, -, he⟩ := w.perform_effect c
    exact he.named h

omit [Sink σ] in
lemma named_blank (sink : σ) (unit : String) (shortens : Bool) :
    (blank sink unit shortens).nesting.Named := rfl

lemma named_moveAll (h : w.nesting.Named) (ms : List Move) : (w.moveAll ms).nesting.Named :=
  moveAll_invariant (P := fun w : Scribe σ => w.nesting.Named) h fun _ m _ h => named_move h m

lemma Reached.named (h : w.Reached) : w.nesting.Named := by
  obtain ⟨sink, unit, shortens, moves, rfl⟩ := h
  exact named_moveAll (named_blank sink unit shortens) moves

/-- Directly inside a type there is the name of the type. -/
lemma Reached.exists_owner (h : w.Reached) (ht : w.scopes.top = some .typeBody) :
    ∃ owner types, w.types = owner :: types := by
  have hn : w.types.length = w.scopes.count .typeBody := h.named
  obtain ⟨scopes, hs⟩ := List.head?_eq_some_iff.mp ht
  refine List.exists_cons_of_length_pos ?_
  rw [hn, hs]
  simp

lemma labels_move (hn : w.nesting.Named) (m : Move) :
    (∃ name : String, m.typeName? = some (.text name) ∧
        (w.move m).scribe.nesting.labels = (w.depth, name) :: w.nesting.labels ∧
        (w.move m).scribe.depth = w.depth + 1) ∨
      (m.typeName? = none ∨ (w.move m).scribe.depth ≤ w.depth) ∧
        (w.move m).scribe.nesting.labels =
          w.nesting.labels.filter (·.1 < (w.move m).scribe.depth) := by
  cases m with
  | setUnit | setShortens => exact Or.inr ⟨Or.inl rfl, (filter_labelled le_rfl).symm⟩
  | call c =>
    obtain ⟨e, -, he⟩ := w.perform_effect c
    exact he.labels hn

/-- A type is open after a run if it was open at first and there were always more scopes than are
around it. -/
lemma mem_labels_moveAll (hn : w.nesting.Named) {p : ℕ × String} (hp : p ∈ w.nesting.labels)
    (hs : w.StaysDeeper p.1 ms) : p ∈ (w.moveAll ms).nesting.labels := by
  induction ms generalizing w with
  | nil => exact hp
  | cons m ms ih =>
    obtain ⟨-, hs⟩ := staysDeeper_cons.mp hs
    refine ih (named_move hn m) ?_ hs
    rcases labels_move hn m with ⟨name, -, hl, -⟩ | ⟨-, hl⟩
    · exact hl ▸ List.mem_cons_of_mem _ hp
    · exact hl ▸ List.mem_filter.mpr ⟨hp, decide_eq_true hs.lt⟩

/-- Where so many scopes are open as right inside a type that has stayed open, the name on top is
that of the type. -/
lemma head?_types_moveAll (hn : w.nesting.Named) {p : ℕ × String} (hp : p ∈ w.nesting.labels)
    (hs : w.StaysDeeper p.1 ms) (hd : (w.moveAll ms).depth = p.1 + 1) :
    (w.moveAll ms).types.head? = some p.2 := by
  obtain ⟨rest, hl⟩ := labelled_eq_cons (mem_labels_moveAll hn hp hs) hd.symm
  have ht : (w.moveAll ms).nesting.labels.map Prod.snd = (w.moveAll ms).types :=
    map_snd_labelled (named_moveAll hn ms)
  rw [← ht]
  exact congrArg (fun l => (l.map Prod.snd).head?) hl

/-- What is open after a run was open before it and has never been closed, or is a type that the
run has opened and not closed. -/
theorem labels_moveAll (hn : w.nesting.Named) (ms : List Move) :
    (w.moveAll ms).nesting.labels.reverse.map (fun p => Value.text p.2) =
      (w.nesting.labels.filter fun p => w.StaysDeeper p.1 ms).reverse.map
          (fun p => Value.text p.2) ++ w.openedTypes ms := by
  induction ms generalizing w with
  | nil =>
    have hall : ∀ p ∈ w.nesting.labels, decide (w.StaysDeeper p.1 []) = true := fun p hp =>
      decide_eq_true (staysDeeper_nil.mpr (lt_of_mem_labelled hp))
    simp [openedTypes, List.filter_eq_self.mpr hall]
  | cons m ms ih =>
    have hkept : ∀ p ∈ w.nesting.labels,
        (w.StaysDeeper p.1 (m :: ms) ↔ (w.move m).scribe.StaysDeeper p.1 ms) := fun p hp => by
      have hlt : p.1 < w.depth := lt_of_mem_labelled hp
      rw [staysDeeper_cons, and_iff_right hlt]
    have hfilter : w.nesting.labels.filter (fun p => w.StaysDeeper p.1 (m :: ms)) =
        w.nesting.labels.filter fun p => (w.move m).scribe.StaysDeeper p.1 ms :=
      List.filter_congr fun p hp => by simp only [hkept p hp]
    rw [moveAll_cons, ih (named_move hn m), hfilter]
    rcases labels_move hn m with ⟨name, hm, hl, -⟩ | ⟨hm, hl⟩
    · rw [hl, openedTypes, hm]
      by_cases hs : (w.move m).scribe.StaysDeeper w.depth ms
      · simp [hs]
      · simp [hs]
    · have hnone : w.openedTypes (m :: ms) = (w.move m).scribe.openedTypes ms := by
        rw [openedTypes]
        rcases hm with hm | hm
        · rw [hm]
        · have hs : ¬ (w.move m).scribe.StaysDeeper w.depth ms := fun h => by
            have := h.lt
            omega
          split
          · rw [if_neg hs]
          · rfl
      rw [hnone, hl, List.filter_filter]
      congr 3
      refine List.filter_congr fun p _ => ?_
      by_cases hs : (w.move m).scribe.StaysDeeper p.1 ms
      · simp [hs, hs.lt]
      · simp [hs]

/-- The names on the stack are those of the types that the run has opened and not closed. -/
theorem types_moveAll (sink : σ) (unit : String) (shortens : Bool) (moves : List Move) :
    ((blank sink unit shortens).moveAll moves).types.reverse.map Value.text =
      (blank sink unit shortens).openedTypes moves := by
  have hn := named_blank sink unit shortens
  have hl := labels_moveAll hn moves
  have ht : ((blank sink unit shortens).moveAll moves).nesting.labels.map Prod.snd =
      ((blank sink unit shortens).moveAll moves).types := map_snd_labelled (named_moveAll hn moves)
  have hempty : (blank sink unit shortens).nesting.labels = [] := rfl
  rw [hempty] at hl
  rw [← ht, ← List.map_reverse, List.map_map]
  exact hl

end Scribe
end JavaScribe
