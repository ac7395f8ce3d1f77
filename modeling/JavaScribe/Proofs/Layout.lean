import JavaScribe.Proofs.Writing

/-!
# Lines

A page is laid out in lines, each with a depth and a text. Here are the lines of what fits no single
one: heads with a clause, lists with a mark after each item, values of annotations. The steps that
write such a thing put its separators in front of the items, the lines have marks at their ends;
`joined_listed` turns the one into the other.
-/
namespace JavaScribe

structure Line where
  depth : ℕ
  text : String
  deriving DecidableEq, Repr

namespace Line
open Annotation (isDefaultKey isSplit)

def render (unit : String) (lines : List Line) : String :=
  String.join (lines.map fun l => Scribe.indentation unit l.depth ++ l.text ++ "\n")

@[simp] lemma render_nil (unit : String) : render unit [] = "" := by simp [render]

@[simp] lemma render_cons (unit : String) (l : Line) (lines : List Line) :
    render unit (l :: lines) =
      Scribe.indentation unit l.depth ++ l.text ++ "\n" ++ render unit lines := by
  simp [render]

@[simp] lemma render_append (unit : String) (a b : List Line) :
    render unit (a ++ b) = render unit a ++ render unit b := by
  simp [render]

/-- Lines of items, each marked with `mid` at its end and the last one with `last`. -/
def listed {α : Type} (mid last : String) (item : α → String → List Line) : List α → List Line
  | [] => []
  | [a] => item a last
  | a :: b :: rest => item a mid ++ listed mid last item (b :: rest)

/-- The modifiers of a declaration, each with a blank after it. -/
def keywords (ms : List Modifier) : String := String.join (ms.map fun m => m.keyword ++ " ")

/-- Parameters with their types, given how a type is displayed. -/
def parameterText (display : String → String) (pairs : List (String × String)) : String :=
  ", ".intercalate (pairs.map fun p => display p.1 ++ " " ++ display p.2)

/-- A head with a clause of types, on a line of its own if there are any. -/
def headed (depth : ℕ) (head keyword : String) (types : List String) (mark : String) :
    List Line :=
  if types.isEmpty then [⟨depth, head ++ mark⟩]
  else [⟨depth, head⟩, ⟨depth, "    " ++ keyword ++ " " ++ ", ".intercalate types ++ mark⟩]

/-- A text whose lines after the first hang two units deeper. -/
def hanging (depth : ℕ) : List String → List Line
  | [] => []
  | [l] => [⟨depth, l ++ ";"⟩]
  | l :: more => ⟨depth, l⟩ :: listed "" ";" (fun l mark => [⟨depth + 2, l ++ mark⟩]) more

/-- The text of a value that is no array, in an annotation. -/
def valueText : Value → String
  | .bool true => "true"
  | .bool false => "false"
  | v => v.plain

def arrayLines (depth : ℕ) (before : String) (items : List Value) (mark : String) : List Line :=
  ⟨depth, before ++ "\x7b"⟩ ::
    (listed "," "" (fun v mark => [⟨depth + 1, valueText v ++ mark⟩]) items ++
      [⟨depth, "\x7d" ++ mark⟩])

/-- A value of an annotation between a text and a mark. -/
def valueLines (depth : ℕ) (before : String) (v : Value) (mark : String) : List Line :=
  match v with
  | .list items | .tuple items => arrayLines depth before items mark
  | v => [⟨depth, before ++ valueText v ++ mark⟩]

def assignment (e : Value × Value) : String := e.1.plain ++ " = " ++ valueText e.2

/-- The lines of attributes in parentheses, after the name of an annotation. -/
def attributeLines (depth : ℕ) (head : String) : List (Value × Value) → List Line
  | [] => [⟨depth, head⟩]
  | [(k, v)] =>
    valueLines depth (head ++ "(" ++ if isDefaultKey k then "" else k.plain ++ " = ") v ")"
  | es =>
    if isSplit es then
      ⟨depth, head ++ "("⟩ ::
        (listed "," "" (fun e mark => valueLines (depth + 1) (e.1.plain ++ " = ") e.2 mark) es ++
          [⟨depth, ")"⟩])
    else [⟨depth, head ++ "(" ++ ", ".intercalate (es.map assignment) ++ ")"⟩]

def annotationLines (depth : ℕ) (head : String) : Value → List Line
  | .none => [⟨depth, head⟩]
  | .map es => attributeLines depth head es
  | v => valueLines depth (head ++ "(") v ")"

/-- A documentation comment. A line without text has no blank at its end. -/
def javadocLines (depth : ℕ) (text : String) : List Line :=
  let lines := if text.isEmpty then Text.lines text else Text.dropEmptyEnd (Text.lines text)
  ⟨depth, "/**"⟩ ::
    (lines.map (fun l => ⟨depth, if l.isEmpty then " *" else " * " ++ l⟩) ++ [⟨depth, " */"⟩])

/-- The text of a clause that follows a head. -/
def clause (unit : String) (depth : ℕ) (keyword : String) (types : List String) : String :=
  if types.isEmpty then ""
  else "\n" ++ Scribe.indentation unit depth ++ "    " ++ keyword ++ " " ++ ", ".intercalate types

lemma render_headed (unit : String) (depth : ℕ) (head keyword : String) (types : List String)
    (mark : String) :
    render unit (headed depth head keyword types mark) =
      Scribe.indentation unit depth ++ head ++ clause unit depth keyword types ++ mark ++ "\n" := by
  cases types <;> simp [headed, clause, String.append_assoc]

section
variable {α : Type} {unit mid last : String} {item : α → String → List Line} {body : α → String}

/-- Texts with a separator before each, the first one with its own. -/
def joined (first sep : String) (body : α → String) : List α → String
  | [] => ""
  | a :: rest => first ++ body a ++ joined sep sep body rest

lemma intercalate_cons (sep : String) (a : α) (as : List α) :
    sep.intercalate ((a :: as).map body) = body a ++ joined sep sep body as := by
  induction as generalizing a with
  | nil => simp [joined]
  | cons b bs ih =>
    have hi := ih b
    simp only [List.map_cons] at hi
    simp only [List.map_cons, String.intercalate_cons_cons, joined, hi, String.append_assoc]

lemma joined_intercalate (sep : String) (as : List α) :
    joined "" sep body as = sep.intercalate (as.map body) := by
  cases as with
  | nil => simp [joined]
  | cons a as => rw [intercalate_cons, joined, String.empty_append]

/-- An item that is one line up to its mark is followed by it and the end of the line. -/
theorem joined_listed
    (h : ∀ a mark, render unit (item a mark) = body a ++ mark ++ "\n") {as : List α}
    (hs : as ≠ []) (first : String) :
    joined first (mid ++ "\n") body as ++ last ++ "\n" =
      first ++ render unit (listed mid last item as) := by
  induction as generalizing first with
  | nil => exact absurd rfl hs
  | cons a rest ih =>
    cases rest with
    | nil => simp [joined, listed, h, String.append_assoc]
    | cons b rest =>
      have hi := ih (by simp) (mid ++ "\n")
      simp only [joined, listed, render_append, h, String.append_assoc] at hi ⊢
      simp only [hi]

lemma listed_map {β : Type} (f : β → α) (bs : List β) :
    listed mid last item (bs.map f) = listed mid last (item ∘ f) bs := by
  induction bs with
  | nil => rfl
  | cons b bs ih =>
    cases bs with
    | nil => rfl
    | cons c cs => exact congrArg (item (f b) mid ++ ·) ih

/-- Items between an opening and a closing line, with commas. -/
lemma joined_block (h : ∀ a mark, render unit (item a mark) = body a ++ mark ++ "\n")
    (as : List α) (rest : String) :
    joined "\n" ",\n" body as ++ ("\n" ++ rest) =
      "\n" ++ (render unit (listed "," "" item as) ++ rest) := by
  cases as with
  | nil => simp [joined, listed]
  | cons a as =>
    have hj := @joined_listed _ unit "," "" item body h (a :: as) (by simp) "\n"
    have hr := congrArg (· ++ rest) hj
    simpa [String.append_assoc] using hr

end

lemma render_hanging (unit : String) (depth : ℕ) (l : String) (more : List String) :
    render unit (hanging depth (l :: more)) = Scribe.indentation unit depth ++ l ++
      joined "\n" "\n" (fun l => Scribe.indentation unit (depth + 2) ++ l) more ++ ";" ++ "\n" := by
  cases more with
  | nil => simp [hanging, joined, String.append_assoc]
  | cons m more =>
    have hj := @joined_listed _ unit "" ";" (fun l mark => [⟨depth + 2, l ++ mark⟩])
      (fun l => Scribe.indentation unit (depth + 2) ++ l) (by simp [String.append_assoc])
      (m :: more) (by simp) "\n"
    simp only [String.empty_append] at hj
    simp only [hanging, render_cons, String.append_assoc] at hj ⊢
    rw [hj]

/-- The text of an array, from brace to brace. -/
def arrayBody (unit : String) (depth : ℕ) (items : List Value) : String :=
  "\x7b" ++ joined "\n" ",\n"
    (fun v => Scribe.indentation unit (depth + 1) ++ valueText v) items ++
    "\n" ++ Scribe.indentation unit depth ++ "\x7d"

def valueBody (unit : String) (depth : ℕ) : Value → String
  | .list items | .tuple items => arrayBody unit depth items
  | v => valueText v

lemma valueBody_of_not_isArray {unit : String} {depth : ℕ} {v : Value} (h : v.isArray = false) :
    valueBody unit depth v = valueText v := by
  cases v with
  | list items => simp [Value.isArray] at h
  | tuple items => simp [Value.isArray] at h
  | _ => rfl

lemma render_arrayLines (unit : String) (depth : ℕ) (before : String) (items : List Value)
    (mark : String) :
    render unit (arrayLines depth before items mark) = Scribe.indentation unit depth ++ before ++
      arrayBody unit depth items ++ mark ++ "\n" := by
  have h := @joined_block _ unit (fun v mark => [⟨depth + 1, valueText v ++ mark⟩])
    (fun v => Scribe.indentation unit (depth + 1) ++ valueText v)
    (by simp [String.append_assoc]) items
  rw [← String.toList_inj]
  simp [arrayLines, arrayBody, String.append_assoc, h]

lemma render_valueLines (unit : String) (depth : ℕ) (before : String) (v : Value) (mark : String) :
    render unit (valueLines depth before v mark) = Scribe.indentation unit depth ++ before ++
      valueBody unit depth v ++ mark ++ "\n" := by
  cases v with
  | list items => exact render_arrayLines unit depth before items mark
  | tuple items => exact render_arrayLines unit depth before items mark
  | _ => simp [valueLines, valueBody, String.append_assoc]

/-- The text of attributes, from parenthesis to parenthesis. -/
def attributesBody (unit : String) (depth : ℕ) : List (Value × Value) → String
  | [] => ""
  | [(k, v)] =>
    "(" ++ (if isDefaultKey k then "" else k.plain ++ " = ") ++
      valueBody unit depth v ++ ")"
  | es =>
    if isSplit es then
      "(" ++ joined "\n" ",\n" (fun e => Scribe.indentation unit (depth + 1) ++
        (e.1.plain ++ " = " ++ valueBody unit (depth + 1) e.2)) es ++ "\n" ++
        Scribe.indentation unit depth ++ ")"
    else "(" ++ joined "" ", " assignment es ++ ")"

lemma render_attributeLines (unit : String) (depth : ℕ) (head : String)
    (es : List (Value × Value)) :
    render unit (attributeLines depth head es) =
      Scribe.indentation unit depth ++ head ++ attributesBody unit depth es ++ "\n" := by
  have h := @joined_block (Value × Value) unit
    (fun e mark => valueLines (depth + 1) (e.1.plain ++ " = ") e.2 mark)
    (fun e => Scribe.indentation unit (depth + 1) ++
      (e.1.plain ++ " = " ++ valueBody unit (depth + 1) e.2))
    (by simp [render_valueLines, String.append_assoc])
  simp only [String.append_assoc] at h
  rw [← String.toList_inj]
  match es with
  | [] => simp [attributeLines, attributesBody]
  | [(k, v)] => simp only [attributeLines, attributesBody, render_valueLines, String.append_assoc]
  | e :: e' :: es =>
    by_cases hs : isSplit (e :: e' :: es)
    · simp [attributeLines, attributesBody, hs, String.append_assoc, h]
    · simp [attributeLines, attributesBody, hs, joined_intercalate]

end Line
end JavaScribe
