import JavaScribe.Argument
import Mathlib

/-!
# The names of an import call

An import call may be given names one by one or in collections. `Flattens` says which names its
arguments hold when all of them are texts. These are the arguments with which the call goes ahead,
and it goes ahead with the same names in order by code points, each once (`imports_eq_ok_iff`).
-/
namespace JavaScribe.Argument

/-- The names that one argument holds: a text is one, and all items of a collection are. -/
inductive Holds : Value → List String → Prop
  | name (name : String) : Holds (.text name) [name]
  | items {v : Value} {names : List String} (ht : ∀ name, v ≠ .text name)
      (hi : v.items? = some (names.map .text)) : Holds v names

/-- The names that arguments hold, from front to back. -/
def Flattens (args : List Value) (names : List String) : Prop :=
  ∃ groups, List.Forall₂ Holds args groups ∧ groups.flatten = names

/-! ## Order -/

lemma pairwise_insertName {name : String} {names : List String} (h : names.Pairwise (· < ·)) :
    (insertName name names).Pairwise (· < ·) := by
  induction names with
  | nil => simp [insertName]
  | cons n ns ih =>
    obtain ⟨hn, hns⟩ := List.pairwise_cons.mp h
    simp only [insertName]
    split
    · exact h
    · rename_i hne
      split
      · rename_i hlt
        refine List.pairwise_cons.mpr ⟨fun m hm => ?_, h⟩
        rcases List.mem_cons.mp hm with rfl | hm
        · exact hlt
        · exact hlt.trans (hn m hm)
      · rename_i hlt
        have hgt : n < name := lt_of_le_of_ne (not_lt.mp hlt) (Ne.symm hne)
        refine List.pairwise_cons.mpr ⟨fun m hm => ?_, ih hns⟩
        rcases mem_insertName.mp hm with rfl | hm
        · exact hgt
        · exact hn m hm

lemma pairwise_sortNames (names : List String) : (sortNames names).Pairwise (· < ·) := by
  suffices h : ∀ sorted : List String, sorted.Pairwise (· < ·) →
      (names.foldl (fun sorted name => insertName name sorted) sorted).Pairwise (· < ·) from
    h [] List.Pairwise.nil
  induction names with
  | nil => exact fun _ h => h
  | cons n ns ih => exact fun sorted h => ih _ (pairwise_insertName h)

/-- There is only one way to put names in order. -/
lemma sortNames_eq {names sorted : List String} (hs : sorted.Pairwise (· < ·))
    (hm : ∀ n, n ∈ sorted ↔ n ∈ names) : sortNames names = sorted :=
  (pairwise_sortNames names).eq_of_mem_iff hs fun n => mem_sortNames.trans (hm n).symm

/-! ## Flat lists -/

lemma mapM_eq_ok_iff {α β ε : Type} {f : α → Except ε β} {xs : List α} {ys : List β} :
    xs.mapM f = .ok ys ↔ List.Forall₂ (fun x y => f x = .ok y) xs ys := by
  induction xs generalizing ys with
  | nil => cases ys <;> simp [pure, Except.pure]
  | cons x xs ih =>
    rw [List.mapM_cons]
    cases hx : f x with
    | error e => cases ys <;> simp [bind, Except.bind, hx]
    | ok b =>
      cases hr : xs.mapM f with
      | error e => cases ys <;> simp [bind, Except.bind, ← ih, hr]
      | ok bs => cases ys <;> simp [bind, Except.bind, pure, Except.pure, ← ih, hr, hx]

lemma member_eq_ok {v w : Value} (h : member v = .ok w) : v = w := by
  unfold member at h
  split at h
  · simp at h
  · exact Except.ok.inj h

lemma mapM_member_eq_ok {vs ws : List Value} (h : vs.mapM member = .ok ws) : vs = ws :=
  List.forall₂_eq_eq_eq ▸ (mapM_eq_ok_iff.mp h).imp fun _ _ => member_eq_ok

lemma mapM_member_text (names : List String) :
    (names.map Value.text).mapM member = .ok (names.map .text) :=
  mapM_eq_ok_iff.mpr (List.forall₂_same.mpr fun v hv => by
    obtain ⟨name, -, rfl⟩ := List.mem_map.mp hv
    simp [member, unhashable?])

lemma items_eq_ok_iff {v : Value} {vs : List Value} : items v = .ok vs ↔ v.items? = some vs := by
  unfold items
  split <;> simp_all

lemma importItems_eq_ok_iff {v : Value} {names : List String} :
    importItems v = .ok (names.map .text) ↔ Holds v names := by
  by_cases ht : ∃ name, v = .text name
  · obtain ⟨name, rfl⟩ := ht
    constructor
    · intro h
      have hnames : [name].map Value.text = names.map .text := Except.ok.inj h
      obtain rfl := List.map_injective_iff.mpr (fun _ _ => Value.text.inj) hnames
      exact .name name
    · intro h
      cases h with
      | name => rfl
      | items ht => exact absurd rfl (ht name)
  · push Not at ht
    have hi : importItems v = (do (← items v).mapM member) := by
      cases v <;> first | rfl | exact absurd rfl (ht _)
    rw [hi]
    constructor
    · intro h
      cases hv : items v with
      | error fault => simp [hv, bind, Except.bind] at h
      | ok vs =>
        rw [hv] at h
        obtain rfl := mapM_member_eq_ok h
        exact .items ht (items_eq_ok_iff.mp hv)
    · intro h
      cases h with
      | name name => exact absurd rfl (ht name)
      | items _ hv =>
        rw [items_eq_ok_iff.mpr hv]
        exact mapM_member_text names

/-! ## What an import call goes ahead with -/

lemma insert_members {v : Value} {vs ws : List Value} (h : Value.insert v vs = .ok ws) :
    (∀ w ∈ vs, w ∈ ws) ∧ ∃ w ∈ ws, v = w ∨ v.agrees w = true := by
  induction vs generalizing ws with
  | nil =>
    obtain rfl := Except.ok.inj h
    simp
  | cons u us ih =>
    unfold Value.insert at h
    split at h
    · rename_i ha
      obtain rfl := Except.ok.inj h
      exact ⟨fun _ => id, u, by simp, Or.inr ha⟩
    · cases hb : v.before u with
      | error pair => simp [hb, bind, Except.bind] at h
      | ok first =>
        cases first with
        | true =>
          obtain rfl : v :: u :: us = ws := by
            simpa [hb, bind, Except.bind, pure, Except.pure] using h
          exact ⟨fun w hw => List.mem_cons_of_mem _ hw, v, by simp, Or.inl rfl⟩
        | false =>
          cases hr : Value.insert v us with
          | error pair => simp [hb, hr, bind, Except.bind] at h
          | ok rest =>
            obtain rfl : u :: rest = ws := by
              simpa [hb, hr, bind, Except.bind, pure, Except.pure] using h
            obtain ⟨hall, w, hw, hv⟩ := ih hr
            exact ⟨List.forall_mem_cons.mpr ⟨by simp, fun w hw => .tail _ (hall w hw)⟩, w,
              .tail _ hw, hv⟩

lemma eq_text_of_agrees {v : Value} {name : String} (h : v.agrees (.text name) = true) :
    v = .text name := by
  cases v <;> simp_all [Value.agrees, Value.quantity?]

lemma foldlM_insert_members {vs acc ws : List Value}
    (h : vs.foldlM (fun sorted v => Value.insert v sorted) acc = .ok ws) :
    (∀ w ∈ acc, w ∈ ws) ∧ ∀ v ∈ vs, ∃ w ∈ ws, v = w ∨ v.agrees w = true := by
  induction vs generalizing acc with
  | nil =>
    obtain rfl := Except.ok.inj h
    simp
  | cons v vs ih =>
    rw [List.foldlM_cons] at h
    cases hv : Value.insert v acc with
    | error pair => simp [hv, bind, Except.bind] at h
    | ok next =>
      rw [hv] at h
      obtain ⟨hacc, w, hw, hvw⟩ := insert_members hv
      obtain ⟨hnext, hvs⟩ := ih h
      exact ⟨fun u hu => hnext u (hacc u hu), List.forall_mem_cons.mpr ⟨⟨w, hnext w hw, hvw⟩, hvs⟩⟩

/-- Values that come out as texts when they are brought into order have all been texts. -/
lemma text_of_sort {vs : List Value} {sorted : List String}
    (h : Value.sort vs = .ok (sorted.map .text)) : ∀ v ∈ vs, v ∈ Set.range Value.text := by
  intro v hv
  obtain ⟨w, hw, hvw⟩ := (foldlM_insert_members h).2 v hv
  obtain ⟨name, -, rfl⟩ := List.mem_map.mp hw
  rcases hvw with rfl | ha
  · exact ⟨name, rfl⟩
  · exact ⟨name, (eq_text_of_agrees ha).symm⟩

lemma mapM_text_eq_ok {vs : List Value} {names : List String} (h : vs.mapM text = .ok names) :
    vs = names.map .text := by
  have hall := (mapM_eq_ok_iff.mp h).imp fun v name hv => show v = Value.text name by
    cases v <;> simp_all [text]
  exact List.forall₂_eq_eq_eq ▸ List.forall₂_map_right_iff.mpr hall

/-- An import call goes ahead just when its arguments hold nothing but texts. -/
theorem imports_eq_ok_iff {args : List Value} {sorted : List String} :
    imports args = .ok sorted ↔ ∃ names, Flattens args names ∧ sortNames names = sorted := by
  constructor
  · intro h
    unfold imports at h
    cases hg : args.mapM importItems with
    | error fault => simp [hg, bind, Except.bind] at h
    | ok found =>
      cases hs : Value.sort found.flatten with
      | error pair => simp [hg, hs, bind, Except.bind, throw, throwThe, MonadExceptOf.throw] at h
      | ok vs =>
        replace h : vs.mapM text = .ok sorted := by simpa [hg, hs, bind, Except.bind] using h
        obtain rfl := mapM_text_eq_ok h
        obtain ⟨groups, rfl⟩ : found ∈ Set.range (List.map (List.map Value.text)) := by
          simp only [Set.range_list_map, Set.mem_ofPred_eq]
          exact fun group hgroup v hv => text_of_sort hs v (List.mem_flatten.mpr ⟨_, hgroup, hv⟩)
        have hholds : List.Forall₂ Holds args groups :=
          (List.forall₂_map_right_iff.mp (mapM_eq_ok_iff.mp hg)).imp fun _ _ =>
            importItems_eq_ok_iff.mp
        rw [← List.map_flatten, sort_text] at hs
        exact ⟨_, ⟨groups, hholds, rfl⟩,
          List.map_injective_iff.mpr (fun _ _ => Value.text.inj) (Except.ok.inj hs)⟩
  · rintro ⟨_, ⟨groups, hholds, rfl⟩, rfl⟩
    have hg : args.mapM importItems = .ok (groups.map (List.map Value.text)) :=
      mapM_eq_ok_iff.mpr (List.forall₂_map_right_iff.mpr
        (hholds.imp fun _ _ => importItems_eq_ok_iff.mpr))
    have hs : Value.sort (groups.map (List.map Value.text)).flatten =
        .ok ((sortNames groups.flatten).map .text) := by rw [← List.map_flatten, sort_text]
    simpa [imports, hg, hs, bind, Except.bind] using mapM_text (sortNames groups.flatten)

lemma pairwise_imports {args : List Value} {sorted : List String} (h : imports args = .ok sorted) :
    sorted.Pairwise (· < ·) := by
  obtain ⟨names, -, rfl⟩ := imports_eq_ok_iff.mp h
  exact pairwise_sortNames names

end JavaScribe.Argument
