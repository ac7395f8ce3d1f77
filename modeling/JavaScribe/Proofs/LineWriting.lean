import JavaScribe.Proofs.Layout

/-!
# Writing lines

The steps of what stands in one place write the lines of `Layout`, at the depth of the open scopes,
and leave everything as it was.
-/
namespace JavaScribe.Setting
open Annotation Line
variable {s : Setting} {package : String}

lemma indentation_zero : s.indentation 0 = Scribe.indentation s.unit s.depth := rfl

lemma run?_modifierSteps (ms : List Modifier) :
    s.run? (Call.modifierSteps ms) = some (keywords ms, s) := by
  induction ms with
  | nil => simp [Call.modifierSteps, keywords]
  | cons m ms ih =>
    simp only [Call.modifierSteps] at ih
    simp [Call.modifierSteps, keywords, ih]

lemma run?_typeList (h : s.naming.package = some package) (types : List String) :
    s.run? (Step.typeList (types.map .text)) =
      some (", ".intercalate (types.map (s.typeText package)), s) := by
  induction types with
  | nil => simp [Step.typeList]
  | cons t ts ih =>
    cases ts with
    | nil => simp [Step.typeList, run?_writeType h]
    | cons t' ts =>
      simp only [List.map_cons] at ih
      simp [Step.typeList, run?_writeType h, ih, String.append_assoc]

lemma run?_clause (h : s.naming.package = some package) (keyword : String)
    (types : List String) :
    s.run? (Step.clause keyword (types.map .text)) =
      some (clause s.unit s.depth keyword (types.map (s.typeText package)), s) := by
  cases types with
  | nil => simp [Step.clause, clause]
  | cons t ts =>
    have hl := run?_typeList h (t :: ts)
    simp only [List.map_cons] at hl
    simp [Step.clause, clause, hl, indentation_zero, String.append_assoc]

lemma run?_parameterSteps (h : s.naming.package = some package)
    (pairs : List (String × String)) :
    s.run? (Call.parameterSteps (pairs.flatMap fun p => [.text p.1, .text p.2])) =
      some (parameterText (s.typeText package) pairs, s) := by
  induction pairs with
  | nil => simp [Call.parameterSteps, parameterText]
  | cons p ps ih =>
    cases ps with
    | nil => simp [Call.parameterSteps, parameterText, run?_writeType h, String.append_assoc]
    | cons p' ps =>
      have hs : ∀ rest, Call.parameterSteps (.text p.1 :: .text p.2 :: .text p'.1 :: rest) =
          [.writeType (.text p.1), .write " ", .writeType (.text p.2), .write ", "] ++
            Call.parameterSteps (.text p'.1 :: rest) := fun rest => rfl
      simp only [List.flatMap_cons, parameterText, List.map_cons, List.cons_append,
        List.nil_append] at ih ⊢
      rw [hs]
      simp only [List.cons_append, List.nil_append, run?_writeType h, run?_write, ih]
      simp only [after_some, String.intercalate_cons_cons, String.append_assoc]

/-! ## Lists of lines -/

lemma run?_line {written text : String} (h : written = text ++ "\n") (rest : List Step) :
    s.run? (Step.line written ++ rest) = after (render s.unit [⟨s.depth, text⟩]) (s.run? rest) := by
  subst h
  simp [Step.line, indentation_zero, String.append_assoc]

lemma run?_lines {α : Type} {written text : α → String} (h : ∀ a, written a = text a ++ "\n")
    (as : List α) :
    s.run? (as.flatMap fun a => Step.line (written a)) =
      some (render s.unit (as.map fun a => ⟨s.depth, text a⟩), s) := by
  induction as with
  | nil => simp
  | cons a as ih =>
    rw [List.flatMap_cons, run?_line (h a), ih]
    simp

lemma constantStep_eq {v : Value} (h : v.isOverlong = false) (mark : String) :
    Call.constantStep v mark = Step.line (v.plain ++ mark) := by
  rw [Call.constantStep, Value.asText_of_not_isOverlong h]
  rfl

lemma run?_constantSteps {vs : List Value} (h : ∀ v ∈ vs, v.isOverlong = false) :
    s.run? (Call.constantSteps vs) =
      some (render s.unit (listed "," ";" (fun v mark => [⟨s.depth, v.plain ++ mark⟩]) vs), s) := by
  induction vs with
  | nil => simp [Call.constantSteps, listed]
  | cons v vs ih =>
    rw [List.forall_mem_cons] at h
    cases vs with
    | nil =>
      have hl : v.plain ++ ";\n" = v.plain ++ ";" ++ "\n" := by simp [String.append_assoc]
      have hr := run?_line (s := s) hl []
      simpa [Call.constantSteps, constantStep_eq h.1, listed] using hr
    | cons v' vs =>
      have hl : v.plain ++ ",\n" = v.plain ++ "," ++ "\n" := by simp [String.append_assoc]
      rw [Call.constantSteps, constantStep_eq h.1, run?_line hl, ih h.2]
      · simp [listed]
      · simp

lemma run?_hanging (l : String) (more : List String) :
    s.run? (Step.line l ++ more.flatMap (fun l => [.write "\n", .indent 2, .write l]) ++
      [.write ";\n"]) = some (render s.unit (hanging s.depth (l :: more)), s) := by
  have hm : ∀ more : List String,
      s.run? (more.flatMap fun l => [.write "\n", .indent 2, .write l]) =
        some (joined "\n" "\n"
          (fun l => Scribe.indentation s.unit (s.depth + 2) ++ l) more, s) := by
    intro more
    induction more with
    | nil => rfl
    | cons m more ih => simp [ih, joined, indentation, String.append_assoc]
  rw [List.append_assoc]
  simp [Step.line, run?_append (hm more), render_hanging, indentation_zero, String.append_assoc]

lemma run?_javadoc (text : String) :
    s.run? (Step.line "/**\n" ++
      (if text.isEmpty then Text.lines text else Text.dropEmptyEnd (Text.lines text)).flatMap
        (fun l => Step.line (if l.isEmpty then " *\n" else " * " ++ l ++ "\n")) ++
      Step.line " */\n") = some (render s.unit (javadocLines s.depth text), s) := by
  have hl : ∀ l : String, (if l.isEmpty then " *\n" else " * " ++ l ++ "\n") =
      (if l.isEmpty then " *" else " * " ++ l) ++ "\n" := by
    intro l
    cases l.isEmpty <;> rfl
  have hs : "/**\n" = "/**" ++ "\n" := rfl
  have he : " */\n" = " */" ++ "\n" := rfl
  have hend := run?_line (s := s) he []
  rw [List.append_nil] at hend
  rw [List.append_assoc, run?_line hs, run?_append (run?_lines hl _), hend]
  simp [javadocLines]

/-! ## Annotations -/

lemma elementText_eq {v : Value} (h : v.isOverlong = false) :
    elementText v = .ok (valueText v) := by
  cases v with
  | bool b => cases b <;> rfl
  | _ => exact Value.asText_of_not_isOverlong h

lemma element_eq {v : Value} (h : v.isOverlong = false) :
    element v = [.write (valueText v)] := by
  rw [element, elementText_eq h]
  rfl

lemma key_eq {k : Value} (h : k.isOverlong = false) : key k = [.write (k.plain ++ " = ")] := by
  rw [key, Value.asText_of_not_isOverlong h]
  rfl

lemma run?_elements (separator : String) {vs : List Value} (h : ∀ v ∈ vs, v.isOverlong = false) :
    s.run? (elements separator vs) =
      some (joined separator ",\n" (fun v => s.indentation 0 ++ valueText v) vs, s) := by
  induction vs generalizing separator with
  | nil => rfl
  | cons v vs ih =>
    rw [List.forall_mem_cons] at h
    simp [elements, element_eq h.1, joined, ih _ h.2, String.append_assoc]

lemma run?_value {v : Value} (h : v.isOverlong = false) :
    s.run? (value v) = some (valueBody s.unit s.depth v, s) := by
  have ha : ∀ vs, Value.anyOverlong vs = false →
      s.run? (array vs) = some (arrayBody s.unit s.depth vs, s) := by
    intro vs hvs
    have hr := run?_elements (s := s.enter .annotationArray) "\n"
      (Value.anyOverlong_eq_false.mp hvs)
    simp only [array, List.cons_append, List.nil_append, run?_write, run?_enter]
    rw [run?_append hr, run?_leave (by simp)]
    simp [arrayBody, indentation_zero, String.append_assoc]
  cases hs : v.isArray with
  | false =>
    rw [value_of_single hs, element_eq h, valueBody_of_not_isArray hs]
    simp
  | true =>
    cases v with
    | list vs | tuple vs => exact ha vs h
    | _ => simp [Value.isArray] at hs

lemma run?_splitAttributes (separator : String) {es : List (Value × Value)}
    (h : ∀ e ∈ es, e.1.isOverlong = false ∧ e.2.isOverlong = false) :
    s.run? (splitAttributes separator es) =
      some (joined separator ",\n" (fun e => s.indentation 0 ++ (e.1.plain ++ " = " ++
        valueBody s.unit s.depth e.2)) es, s) := by
  induction es generalizing separator with
  | nil => rfl
  | cons e es ih =>
    obtain ⟨k, v⟩ := e
    obtain ⟨⟨hk, hv⟩, hes⟩ := List.forall_mem_cons.mp h
    simp only [splitAttributes, key_eq hk, List.cons_append, List.nil_append, run?_write,
      run?_indent]
    rw [run?_append (run?_value hv), ih _ hes]
    simp [joined, String.append_assoc]

lemma run?_inlineAttributes (separator : String) {es : List (Value × Value)}
    (h : ∀ e ∈ es, e.1.isOverlong = false ∧ e.2.isOverlong = false)
    (ha : es.any (·.2.isArray) = false) :
    s.run? (inlineAttributes separator es) =
      some (joined separator ", " assignment es, s) := by
  induction es generalizing separator with
  | nil => rfl
  | cons e es ih =>
    obtain ⟨k, v⟩ := e
    obtain ⟨⟨hk, hv⟩, hes⟩ := List.forall_mem_cons.mp h
    obtain ⟨hva, hea⟩ : v.isArray = false ∧ es.any (·.2.isArray) = false := by simpa using ha
    simp only [inlineAttributes, key_eq hk, List.cons_append, List.nil_append, run?_write]
    rw [run?_append (run?_value hv), ih _ hes hea, valueBody_of_not_isArray hva]
    simp [joined, assignment, String.append_assoc]

lemma run?_attributes {es : List (Value × Value)}
    (h : ∀ e ∈ es, e.1.isOverlong = false ∧ e.2.isOverlong = false) :
    s.run? (attributes es) = some (attributesBody s.unit s.depth es, s) := by
  match es with
  | [] => rfl
  | [(k, v)] =>
    obtain ⟨hk, hv⟩ := h (k, v) (by simp)
    cases hd : isDefaultKey k <;>
      simp [attributes, attributesBody, hd, key_eq hk, run?_append (run?_value hv),
        String.append_assoc]
  | e :: e' :: es =>
    cases hs : isSplit (e :: e' :: es) with
    | true =>
      have hr := run?_splitAttributes (s := s.enter .annotationAttribute) "\n" h
      simp only [attributes, hs, if_true, List.append_assoc, List.cons_append,
        List.nil_append, run?_write, run?_enter]
      rw [run?_append hr, run?_leave (by simp)]
      simp [attributesBody, hs, indentation_zero, String.append_assoc]
    | false =>
      have ha : (e :: e' :: es).any (·.2.isArray) = false := by
        simp only [isSplit, Bool.or_eq_false_iff] at hs
        exact hs.2
      have hr := run?_inlineAttributes (s := s.enter .annotationAttribute) "" h ha
      simp only [attributes, hs, List.append_assoc, List.cons_append,
        List.nil_append, run?_write, run?_enter, Bool.false_eq_true, if_false]
      rw [run?_append hr, run?_leave (by simp)]
      simp [attributesBody, hs, String.append_assoc]

lemma run?_annotation_steps {name : Value} {shown : String} (h : s.typeText? name = some shown)
    {v : Value} (hv : v.isOverlong = false) : s.run? (steps name v) =
      some (render s.unit (annotationLines s.depth ("@" ++ shown) v), s) := by
  have hone : s.run? ([.write "("] ++ value v ++ [.write ")\n"]) =
      some ("(" ++ valueBody s.unit s.depth v ++ ")\n", s) := by
    simp [run?_append (run?_value hv), String.append_assoc]
  simp only [steps, List.cons_append, List.nil_append, run?_indent, run?_write,
    run?_writeType_shown h, indentation_zero]
  cases v with
  | none => simp [ending, annotationLines, String.append_assoc]
  | map es =>
    have hr := run?_attributes (s := s) (Value.anyOverlongEntry_eq_false.mp hv)
    simp [ending, annotationLines, run?_append hr, render_attributeLines, String.append_assoc]
  | _ =>
    simp only [ending, hone, after_some, annotationLines, render_valueLines, Option.some.injEq,
      Prod.mk.injEq, and_true]
    rw [← String.toList_inj]
    simp

end JavaScribe.Setting
