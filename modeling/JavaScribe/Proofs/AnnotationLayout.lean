import JavaScribe.Proofs.LineWriting

/-!
# The layout of annotations

The text of an annotation, as it reads from its name on: a value at a depth, attributes at a depth,
and what stands in parentheses. The brackets of an array and the parentheses of attributes that are
split open and close alike, and both go back to where they were opened. A value by itself and the
same value as the attribute `value` look the same (`annotation_layout`).
-/
namespace JavaScribe
namespace Line
open Annotation (isDefaultKey isSplit maxOnLine)

/-- Items between brackets, each on a line of its own that is one unit deeper, with a comma after
all but the last. The closing bracket stands on a line of its own. -/
def bracketed (unit : String) (depth : ℕ) (opening closing : String) (items : List String) :
    String :=
  opening ++ "\n" ++
    render unit (listed "," "" (fun item mark => [⟨depth + 1, item ++ mark⟩]) items) ++
    Scribe.indentation unit depth ++ closing

/-- The text of a value on a line at a depth: the elements of an array in braces, `true` or `false`
for a boolean, and the plain text of all else. The same goes for the elements, but that these are
not laid out again. -/
def valueAt (unit : String) (depth : ℕ) : Value → String
  | .list items | .tuple items => bracketed unit depth "\x7b" "\x7d" (items.map valueText)
  | v => valueText v

/-- All values but lists and tuples may share a line with others. -/
def isFlat : Value → Bool
  | .list _ | .tuple _ => false
  | _ => true

def attributeAt (unit : String) (depth : ℕ) (e : Value × Value) : String :=
  e.1.plain ++ " = " ++ valueAt unit depth e.2

/-- The text of attributes after the name of an annotation. -/
def attributesAt (unit : String) (depth : ℕ) : List (Value × Value) → String
  | [] => ""
  | [(k, v)] =>
    "(" ++ (if k = .text "value" then "" else k.plain ++ " = ") ++ valueAt unit depth v ++ ")"
  | es =>
    if es.length ≤ 3 ∧ ∀ e ∈ es, isFlat e.2 then
      "(" ++ ", ".intercalate (es.map (attributeAt unit depth)) ++ ")"
    else bracketed unit depth "(" ")" (es.map (attributeAt unit (depth + 1)))

/-- The text of what an annotation is given, after its name. -/
def givenAt (unit : String) (depth : ℕ) : Value → String
  | .none => ""
  | .map es => attributesAt unit depth es
  | v => "(" ++ valueAt unit depth v ++ ")"

variable {unit : String} {depth : ℕ} {v : Value}

lemma bracketed_map {α : Type} (opening closing : String) (text : α → String) (as : List α) :
    bracketed unit depth opening closing (as.map text) =
      opening ++ joined "\n" ",\n" (fun a => Scribe.indentation unit (depth + 1) ++ text a) as ++
        "\n" ++ Scribe.indentation unit depth ++ closing := by
  have hj := @joined_block _ unit (fun a mark => [⟨depth + 1, text a ++ mark⟩])
    (fun a => Scribe.indentation unit (depth + 1) ++ text a) (by simp [String.append_assoc]) as
    (Scribe.indentation unit depth ++ closing)
  simp only [bracketed, listed_map, Function.comp_def, String.append_assoc, hj]

lemma valueAt_eq (v : Value) : valueAt unit depth v = valueBody unit depth v := by
  cases v with
  | list items | tuple items => exact bracketed_map _ _ _ items
  | _ => rfl

lemma isDefaultKey_iff {k : Value} : isDefaultKey k = true ↔ k = .text "value" := by
  cases k <;> simp [isDefaultKey]

lemma isFlat_iff : isFlat v = true ↔ v.isArray = false := by
  cases v <;> simp [isFlat, Value.isArray]

lemma isSplit_eq_false_iff {es : List (Value × Value)} :
    isSplit es = false ↔ es.length ≤ 3 ∧ ∀ e ∈ es, isFlat e.2 := by
  rw [isSplit, Bool.or_eq_false_iff, decide_eq_false_iff_not, not_lt, List.any_eq_false]
  simp only [maxOnLine, Bool.not_eq_true, isFlat_iff]

lemma attributesAt_eq (es : List (Value × Value)) :
    attributesAt unit depth es = attributesBody unit depth es := by
  match es with
  | [] => rfl
  | [(k, v)] => simp only [attributesAt, attributesBody, isDefaultKey_iff, valueAt_eq]
  | (k, v) :: e :: es =>
    cases hs : isSplit ((k, v) :: e :: es) with
    | true =>
      have hf := isSplit_eq_false_iff.not.mp (ne_false_of_eq_true hs)
      simp only [attributesAt, attributesBody, hs, if_neg hf, if_true, bracketed_map, attributeAt,
        valueAt_eq]
    | false =>
      have hf := isSplit_eq_false_iff.mp hs
      -- None of these values is an array, so the depth of their scope does not show.
      have ha : ((k, v) :: e :: es).map (attributeAt unit depth) =
          ((k, v) :: e :: es).map assignment :=
        List.map_congr_left fun a ha => by
          rw [attributeAt, assignment, valueAt_eq, valueBody_of_not_isArray (isFlat_iff.mp (hf.2 a ha))]
      simp only [attributesAt, attributesBody, hs, if_pos hf, ha, joined_intercalate,
        Bool.false_eq_true, if_false]

lemma render_annotationLines (head : String) (v : Value) :
    render unit (annotationLines depth head v) =
      Scribe.indentation unit depth ++ head ++ givenAt unit depth v ++ "\n" := by
  cases v with
  | none => simp [annotationLines, givenAt]
  | map es => rw [annotationLines, render_attributeLines, givenAt, attributesAt_eq]
  | _ =>
    simp only [annotationLines, render_valueLines, givenAt, valueAt_eq, String.append_assoc]

lemma givenAt_value (hv : v ≠ .none) (hm : ∀ es, v ≠ .map es) :
    givenAt unit depth (.map [(.text "value", v)]) = givenAt unit depth v := by
  cases v with
  | none => exact absurd rfl hv
  | map es => exact absurd rfl (hm es)
  | _ => simp [givenAt, attributesAt]

end Line

namespace Scribe
open Line
variable {σ : Type} [Sink σ] {w : Scribe σ} {name : Value} {shown : String}

/-- The reply to an annotation. -/
def annotate (w : Scribe σ) (name v : Value) : Reply σ := w.perform <| Call.annotation name v

lemma perform_annotated (ha : Sink.Accepts w.sink) (hn : w.setting.typeText? name = some shown)
    {v : Value} (hv : v.isOverlong = false) :
    ∃ w', w.annotate name v = ⟨none, w'⟩ ∧ w'.setting = w.setting ∧
      Sink.Wrote w.sink (indentation w.unit w.depth ++ "@" ++ shown ++
        givenAt w.unit w.depth v ++ "\n") w'.sink := by
  have hr := Setting.run?_annotation_steps hn hv
  rw [render_annotationLines, ← String.append_assoc] at hr
  exact run_of_run? ha hr

/-- An annotation is written with all that it is given, and what is open stays open. A value that is
neither left out nor a mapping is written as the mapping of `value` to it is. -/
theorem annotation_layout (ha : Sink.Accepts w.sink) (hn : w.setting.typeText? name = some shown)
    {v : Value} (hv : v.isOverlong = false) :
    (∃ w', w.annotate name v = ⟨none, w'⟩ ∧ w'.setting = w.setting ∧
      Sink.Wrote w.sink (indentation w.unit w.depth ++ "@" ++ shown ++
        givenAt w.unit w.depth v ++ "\n") w'.sink) ∧
    (v ≠ .none → (∀ es, v ≠ .map es) → ∃ text w₁ w₂,
      w.annotate name v = ⟨none, w₁⟩ ∧
      w.annotate name (.map [(.text "value", v)]) = ⟨none, w₂⟩ ∧
      w₁.setting = w₂.setting ∧
      Sink.Wrote w.sink text w₁.sink ∧ Sink.Wrote w.sink text w₂.sink) := by
  refine ⟨perform_annotated ha hn hv, fun hnone hm => ?_⟩
  have hv' : (Value.map [(.text "value", v)]).isOverlong = false := by
    simpa [Value.isOverlong, Value.anyOverlongEntry] using hv
  obtain ⟨w₁, hp₁, hs₁, hw₁⟩ := perform_annotated ha hn hv
  obtain ⟨w₂, hp₂, hs₂, hw₂⟩ := perform_annotated ha hn hv'
  rw [givenAt_value hnone hm] at hw₂
  exact ⟨_, w₁, w₂, hp₁, hp₂, hs₁.trans hs₂.symm, hw₁, hw₂⟩

/-- A page with one scope open. -/
def inBody : Scribe Page :=
  { sink := {}, naming := ⟨{}, some "p."⟩, scopes := [.typeBody] }

theorem annotation_split_by_array :
    let v := Value.map [("a", .bool true), ("names", .list ["x", .bool false, .int 1])]
    (∃ w', inBody.annotate "p.Foo" v = ⟨none, w'⟩ ∧ w'.setting = inBody.setting ∧
      w'.sink.text =
        "  @Foo(\n    a = true,\n    names = \x7b\n      x,\n      false,\n" ++
          "      1\n    \x7d\n  )\n") ∧
    ∃ w₁ w₂, inBody.annotate "p.Foo" (.tuple []) = ⟨none, w₁⟩ ∧
      inBody.annotate "p.Foo" (.map [("value", .tuple [])]) = ⟨none, w₂⟩ ∧
      w₁.sink = w₂.sink := by
  intro v
  have ha : Sink.Accepts inBody.sink := Page.accepts rfl rfl rfl
  have hn : inBody.setting.typeText? "p.Foo" = some "Foo" := by decide +kernel
  have hw : ∀ {text : String} {p : Page}, Sink.Wrote inBody.sink text p → p = { text } := by
    intro text p h
    rw [(Page.wrote_iff rfl rfl rfl).mp h]
    simp [inBody]
  obtain ⟨⟨w', hp, hs, ht⟩, -⟩ := annotation_layout ha hn (by decide +kernel : v.isOverlong = false)
  obtain ⟨-, hsame⟩ := annotation_layout ha hn (rfl : (Value.tuple []).isOverlong = false)
  obtain ⟨text, w₁, w₂, hp₁, hp₂, -, ht₁, ht₂⟩ := hsame (by simp) (by simp)
  refine ⟨⟨w', hp, hs, ?_⟩, w₁, w₂, hp₁, hp₂, (hw ht₁).trans (hw ht₂).symm⟩
  rw [hw ht]
  decide +kernel

end Scribe
end JavaScribe
