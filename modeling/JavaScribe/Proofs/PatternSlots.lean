import JavaScribe.Format
import Mathlib

/-!
# Patterns with a place between texts

A text can be put into a pattern by doubling its percent signs, and then no part of it is read as a
directive, whatever stands before it. So a pattern made of texts with a place for an argument
between each two is filled by putting the texts of the arguments into these places, if there are as
many arguments as places (`arguments_inserted`).
-/
namespace JavaScribe.Format

variable {size : ℕ} {args : List Value}

/-- The pattern that stands for a text. -/
def escaped (cs : List Char) : List Char :=
  cs.flatMap fun c => if c = '%' then ['%', '%'] else [c]

/-- A text with more texts after it, each behind a place for an argument. -/
def slotted (first : String) (rest : List String) : String :=
  String.ofList (escaped first.toList ++ rest.flatMap fun text => '%' :: 's' :: escaped text.toList)

/-- The text with the text of an argument in each place. -/
def inserted (first : String) (rest : List String) (args : List Value) : String :=
  first ++ String.join (List.zipWith (fun v text => v.plain ++ text) args rest)

lemma segments_literal {c : Char} (hc : c ≠ '%') (cs : List Char) :
    segments size (c :: cs) = .literal c :: segments size cs := by
  rw [segments] <;> simp [hc]

lemma segments_percent (cs : List Char) :
    segments size ('%' :: '%' :: cs) = .literal '%' :: segments size cs := by
  rw [segments]

/-- A place ends with its letter, whatever follows. -/
lemma segments_slot (cs : List Char) :
    segments size ('%' :: 's' :: cs) =
      .directive {} 's' (size - cs.length - 1) :: segments size cs := by
  have hr : Directive.read ('s' :: cs) = ({}, 's' :: cs) := rfl
  rw [segments]
  · split
    · rename_i h
      simp [hr] at h
    · rename_i d c after h
      obtain ⟨rfl, rfl, rfl⟩ : {} = d ∧ 's' = c ∧ cs = after := by simpa using hr.symm.trans h
      rfl
  · simp
  · simp

lemma map_append_map (front back : List Char) (r : Except FormatError (List Char)) :
    (r.map (back ++ ·)).map (front ++ ·) = r.map (front ++ back ++ ·) := by
  cases r <;> simp [Except.map]

lemma fill_escaped (cs tail : List Char) :
    fill (segments size (escaped cs ++ tail)) args =
      (fill (segments size tail) args).map (cs ++ ·) := by
  induction cs with
  | nil => cases h : fill (segments size tail) args <;> simp [escaped, Except.map, h]
  | cons c cs ih =>
    have hs : segments size (escaped (c :: cs) ++ tail) =
        .literal c :: segments size (escaped cs ++ tail) := by
      by_cases hc : c = '%'
      · subst hc
        exact segments_percent _
      · simpa [escaped, hc] using segments_literal hc _
    rw [hs, fill, ih]
    exact map_append_map [c] cs _

lemma fill_slot_nil (index : ℕ) (rest : List Segment) :
    fill (.directive {} 's' index :: rest) [] = .error .missingArgument := rfl

lemma fill_slot_cons (index : ℕ) (rest : List Segment) (v : Value) :
    fill (.directive {} 's' index :: rest) (v :: args) =
      if v.isOverlong then .error .integerTooLong
      else (fill rest args).map (v.plain.toList ++ ·) := by
  have hf : Directive.field {} (v :: args) = .ok (⟨{}, 0, none⟩, v :: args) := rfl
  have hw : Field.write ⟨{}, 0, none⟩ 's' index v = v.asText.map String.toList := by
    have ht : Field.text ⟨{}, 0, none⟩ = String.toList := funext Field.text_plain
    simp [Field.write, Field.convert, ht]
  rw [fill, hf]
  simp only [bind, Except.bind, hw, Value.asText, Value.showing]
  split_ifs
  · rfl
  · cases fill rest args <;> rfl

/-- Filling follows the texts with the arguments that are left. The first that has no text is the
fault, also where arguments are missing or left over in the end. -/
theorem fill_slotted (first : String) (rest : List String) (args : List Value) :
    fill (segments size (slotted first rest).toList) args =
      if (args.take rest.length).any Value.isOverlong then .error .integerTooLong
      else if args.length < rest.length then .error .missingArgument
      else if rest.length < args.length then .error .unusedArgument
      else .ok (inserted first rest args).toList := by
  induction rest generalizing first args with
  | nil =>
    have hs : (slotted first []).toList = escaped first.toList ++ [] := by simp [slotted]
    rw [hs, fill_escaped]
    cases args with
    | nil => simp [segments, fill, inserted, Except.map]
    | cons v args => simp [segments, fill, Except.map]
  | cons text rest ih =>
    have hs : (slotted first (text :: rest)).toList =
        escaped first.toList ++ '%' :: 's' :: (slotted text rest).toList := by
      simp [slotted]
    rw [hs, fill_escaped, segments_slot]
    cases args with
    | nil => simp [fill_slot_nil, Except.map]
    | cons v args =>
      rw [fill_slot_cons, ih]
      simp only [List.length_cons, List.take_succ_cons, List.any_cons, Nat.add_lt_add_iff_right]
      cases v.isOverlong with
      | true => rfl
      | false =>
        simp only [Bool.false_eq_true, if_false, Bool.false_or]
        split_ifs
        · rfl
        · rfl
        · rfl
        · simp [inserted, Except.map]

lemma interpolate_slotted (first : String) (rest : List String) (hargs : args ≠ []) :
    interpolate (slotted first rest) args =
      if (args.take rest.length).any Value.isOverlong then .error .integerTooLong
      else if args.length < rest.length then .error .missingArgument
      else if rest.length < args.length then .error .unusedArgument
      else .ok (inserted first rest args) := by
  have he : args.isEmpty = false := by simpa using hargs
  simp only [interpolate, he, Bool.false_eq_true, if_false, fill_slotted]
  split_ifs
  · rfl
  · rfl
  · rfl
  · simp [Except.map]

/-- Arguments for all places are put into them as their texts, and percent signs in them mean
nothing. With fewer arguments than places, or with more, the pattern is not filled; without
arguments any pattern stands for itself. An argument for a place must have a text, and if one has
none this is the fault. -/
theorem arguments_inserted (first : String) (rest : List String) (args : List Value)
    (pattern : String) :
    ((∀ v ∈ args.take rest.length, v.isOverlong = false) →
      (rest ≠ [] → args.length = rest.length →
        interpolate (slotted first rest) args = .ok (inserted first rest args)) ∧
      (1 ≤ args.length → args.length < rest.length →
        interpolate (slotted first rest) args = .error .missingArgument ∧
          FormatError.message .missingArgument = "not enough arguments for format string") ∧
      (rest.length < args.length →
        interpolate (slotted first rest) args = .error .unusedArgument ∧
          FormatError.message .unusedArgument =
            "not all arguments converted during string formatting")) ∧
    ((∃ v ∈ args.take rest.length, v.isOverlong = true) →
      interpolate (slotted first rest) args = .error .integerTooLong) ∧
    interpolate pattern [] = .ok pattern := by
  refine ⟨fun hv => ?_, fun hv => ?_, rfl⟩
  · have hs : (args.take rest.length).any Value.isOverlong = false := by simpa using hv
    refine ⟨fun hr hl => ?_, fun hp hl => ⟨?_, rfl⟩, fun hl => ⟨?_, rfl⟩⟩
    · have hn : args ≠ [] := List.ne_nil_of_length_pos (hl ▸ List.length_pos_iff.mpr hr)
      rw [interpolate_slotted first rest hn, hs, if_neg hl.not_lt, if_neg hl.not_gt]
      rfl
    · have hn : args ≠ [] := List.ne_nil_of_length_pos hp
      rw [interpolate_slotted first rest hn, hs, if_pos hl]
      rfl
    · have hn : args ≠ [] := List.ne_nil_of_length_pos (Nat.zero_lt_of_lt hl)
      rw [interpolate_slotted first rest hn, hs, if_neg hl.le.not_gt, if_pos hl]
      rfl
  · have hs : (args.take rest.length).any Value.isOverlong = true := List.any_eq_true.mpr hv
    have hn : args ≠ [] := by
      rintro rfl
      simp at hv
    rw [interpolate_slotted first rest hn, hs, if_pos rfl]

/-- Texts that would go on with a directive, and an argument that looks like a pattern. -/
theorem arguments_inserted_among_percents :
    let pattern := "100%%d %s%%s-%s5d%%"
    let args : List Value := [.text "%s%%", .int (-3), .none]
    pattern = slotted "100%d " ["%s-", "5d%"] ∧
      (args.take 2).length = ["%s-", "5d%"].length ∧
      interpolate pattern (args.take 2) = .ok "100%d %s%%%s--35d%" ∧
      1 ≤ (args.take 1).length ∧ (args.take 1).length < ["%s-", "5d%"].length ∧
      interpolate pattern (args.take 1) = .error .missingArgument ∧
      ["%s-", "5d%"].length < args.length ∧
      interpolate pattern args = .error .unusedArgument := by
  intro pattern args
  have hp : pattern = slotted "100%d " ["%s-", "5d%"] := by decide +kernel
  have hi : inserted "100%d " ["%s-", "5d%"] (args.take 2) = "100%d %s%%%s--35d%" := by
    decide +kernel
  have hv : ∀ v ∈ args, v.isOverlong = false := by decide +kernel
  have hall := ((arguments_inserted "100%d " ["%s-", "5d%"] (args.take 2) "").1
    fun v hm => hv v (List.mem_of_mem_take (List.mem_of_mem_take hm))).1 (by simp) rfl
  have hfew := ((arguments_inserted "100%d " ["%s-", "5d%"] (args.take 1) "").1
    fun v hm => hv v (List.mem_of_mem_take (List.mem_of_mem_take hm))).2.1 (by decide) (by decide)
  have hmany := ((arguments_inserted "100%d " ["%s-", "5d%"] args "").1
    fun v hm => hv v (List.mem_of_mem_take hm)).2.2 (by decide)
  rw [← hp] at hall hfew hmany
  exact ⟨hp, rfl, hi ▸ hall, by decide, by decide, hfew.1, by decide, hmany.1⟩

end JavaScribe.Format
