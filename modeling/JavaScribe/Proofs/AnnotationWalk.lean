import JavaScribe.Proofs.CallSteps
import JavaScribe.Proofs.Exits

/-!
# The walk through an annotation

An annotation writes marks and the texts of values, and it opens and closes scopes around its arrays
and around its attributes. A `Course` says what an account makes of each of these. From it follows
what the account makes of a whole annotation, whatever its value (`Course.walks_ending`).
-/
namespace JavaScribe
variable {α : Type} {next : α → Step → Option α} {post : Exit → α → Prop} {a b c : α}
  {xs ys : List Step}

/-- The steps bring the part from `a` to `b`, whatever is to follow. -/
def Walks (next : α → Step → Option α) (post : Exit → α → Prop) (a b : α) (xs : List Step) : Prop :=
  ∀ rest, Leads next post b rest → Leads next post a (xs ++ rest)

namespace Walks

lemma nil : Walks next post a a [] := fun _ h => h

lemma append (hx : Walks next post a b xs) (hy : Walks next post b c ys) :
    Walks next post a c (xs ++ ys) := by
  intro rest h
  rw [List.append_assoc]
  exact hx _ (hy rest h)

lemma leads (h : Walks next post a b xs) (hd : post .done b) : Leads next post a xs := by
  simpa using h [] (leads_nil.mpr hd)

end Walks

namespace Annotation

/-- What an annotation writes besides the texts of values, but for the braces of its arrays. -/
def marks : List String := ["", "\n", ",\n", ", ", "(", ")", ")\n"]

end Annotation

/-- What an account makes of the annotations whose texts are all of one kind, piece by piece. -/
structure Course {α : Type} (next : α → Step → Option α) (post : Exit → α → Prop)
    (kind : String → Prop) where
  /-- The parts with which an annotation can be gone through. -/
  fits : α → Prop
  inArray : α → α
  /-- The part within the attributes, where there are several. -/
  inAttributes : α → α
  fits_inArray : ∀ {a}, fits a → fits (inArray a)
  fits_inAttributes : ∀ {a}, fits a → fits (inAttributes a)
  of_marks : ∀ text ∈ Annotation.marks, kind text
  of_key : ∀ {text}, kind text → kind (text ++ " = ")
  write : ∀ {a text}, fits a → kind text → Walks next post a a [.write text]
  indent : ∀ {a}, fits a → Walks next post a a [.indent 0]
  unshown : ∀ {a b}, fits a → Walks next post a b [.fail (.format .integerTooLong)]
  openArray : ∀ {a}, fits a →
    Walks next post a (inArray a) [.write "\x7b", .enter .annotationArray]
  closeArray : ∀ {a}, fits a →
    Walks next post (inArray a) a
      [.leave "emit_annotation" [.annotationArray], .write "\n", .indent 0, .write "\x7d"]
  openAttributes : ∀ {a}, fits a → Walks next post a (inAttributes a) [.enter .annotationAttribute]
  closeAttributes : ∀ {a}, fits a →
    Walks next post (inAttributes a) a [.leave "emit_annotation" [.annotationAttribute]]

namespace Course
open Annotation
variable {kind : String → Prop} (C : Course next post kind)
include C

lemma walks_mark {text : String} (ha : C.fits a) (ht : text ∈ marks) :
    Walks next post a a [.write text] :=
  C.write ha (C.of_marks text ht)

lemma walks_newLine {text : String} (ha : C.fits a) (ht : text ∈ marks) :
    Walks next post a a [.write text, .indent 0] :=
  (C.walks_mark ha ht).append (C.indent ha)

lemma walks_spell {shown : Except FormatError String} {steps : String → List Step} (ha : C.fits a)
    (hs : ∀ text, shown = .ok text → Walks next post a a (steps text))
    (he : ∀ e, shown = .error e → e = .integerTooLong) :
    Walks next post a a (Step.spell shown steps) := by
  cases shown with
  | ok text => exact hs text rfl
  | error e =>
    obtain rfl := he e rfl
    exact C.unshown ha

lemma walks_element {v : Value} (ha : C.fits a)
    (hv : ∀ text ∈ (elementText v).toOption.toList, kind text) : Walks next post a a (element v) :=
  C.walks_spell ha (fun text ht => C.write ha (hv text (by simp [ht, Except.toOption])))
    fun _ => elementText_eq_error

lemma walks_key {k : Value} (ha : C.fits a) (hk : ∀ text ∈ k.asText.toOption.toList, kind text) :
    Walks next post a a (key k) :=
  C.walks_spell ha (fun text ht => C.write ha (C.of_key (hk text (by simp [ht, Except.toOption]))))
    fun _ => Value.asText_eq_error

lemma walks_elements {vs : List Value} {separator : String} (ha : C.fits a)
    (hs : separator ∈ marks) (hv : ∀ v ∈ vs, ∀ text ∈ (elementText v).toOption.toList, kind text) :
    Walks next post a a (elements separator vs) := by
  induction vs generalizing separator with
  | nil => exact .nil
  | cons v vs ih =>
    rw [List.forall_mem_cons] at hv
    exact ((C.walks_newLine ha hs).append (C.walks_element ha hv.1)).append
      (ih (by decide : ",\n" ∈ marks) hv.2)

lemma walks_array {vs : List Value} (ha : C.fits a)
    (hv : ∀ v ∈ vs, ∀ text ∈ (elementText v).toOption.toList, kind text) :
    Walks next post a a (array vs) :=
  ((C.openArray ha).append (C.walks_elements (C.fits_inArray ha) (by decide) hv)).append
    (C.closeArray ha)

lemma walks_value {v : Value} (ha : C.fits a) (hv : ∀ text ∈ printed v, kind text) :
    Walks next post a a (value v) := by
  cases hs : v.isArray with
  | false =>
    rw [value_of_single hs]
    exact C.walks_element ha (printed_of_single hs ▸ hv)
  | true =>
    cases v with
    | list vs | tuple vs =>
      exact C.walks_array ha fun w hw text ht => hv text (List.mem_flatMap.mpr ⟨w, hw, ht⟩)
    | _ => simp [Value.isArray] at hs

/-- The name of an attribute with its value. -/
lemma walks_entry {e : Value × Value} (ha : C.fits a) (he : ∀ text ∈ entryTexts e, kind text) :
    Walks next post a a (key e.1 ++ value e.2) := by
  simp only [entryTexts, List.forall_mem_append] at he
  exact (C.walks_key ha he.1).append (C.walks_value ha he.2)

lemma walks_splitAttributes {es : List (Value × Value)} {separator : String} (ha : C.fits a)
    (hs : separator ∈ marks) (he : ∀ e ∈ es, ∀ text ∈ entryTexts e, kind text) :
    Walks next post a a (splitAttributes separator es) := by
  induction es generalizing separator with
  | nil => exact .nil
  | cons e es ih =>
    rw [List.forall_mem_cons] at he
    have hw := ((C.walks_newLine ha hs).append (C.walks_entry ha he.1)).append
      (ih (by decide : ",\n" ∈ marks) he.2)
    simpa [splitAttributes] using hw

lemma walks_inlineAttributes {es : List (Value × Value)} {separator : String} (ha : C.fits a)
    (hs : separator ∈ marks) (he : ∀ e ∈ es, ∀ text ∈ entryTexts e, kind text) :
    Walks next post a a (inlineAttributes separator es) := by
  induction es generalizing separator with
  | nil => exact .nil
  | cons e es ih =>
    rw [List.forall_mem_cons] at he
    have hw := ((C.walks_mark ha hs).append (C.walks_entry ha he.1)).append
      (ih (by decide : ", " ∈ marks) he.2)
    simpa [inlineAttributes] using hw

lemma walks_attribute {e : Value × Value} (ha : C.fits a)
    (he : ∀ text ∈ entryTexts e, kind text) : Walks next post a a (attributes [e]) := by
  have hv : ∀ text ∈ printed e.2, kind text := (List.forall_mem_append.mp he).2
  have hopen := C.walks_mark ha (by decide : "(" ∈ marks)
  have hclose := C.walks_mark ha (by decide : ")" ∈ marks)
  cases hk : isDefaultKey e.1 with
  | true =>
    have hw := (hopen.append (C.walks_value ha hv)).append hclose
    simpa [attributes, hk] using hw
  | false =>
    have hw := (hopen.append (C.walks_entry ha he)).append hclose
    simpa [attributes, hk] using hw

lemma walks_several {e e' : Value × Value} {es : List (Value × Value)} (ha : C.fits a)
    (he : ∀ d ∈ e :: e' :: es, ∀ text ∈ entryTexts d, kind text) :
    Walks next post a a (attributes (e :: e' :: es)) := by
  have hi := C.fits_inAttributes ha
  have hopen := (C.walks_mark ha (by decide : "(" ∈ marks)).append (C.openAttributes ha)
  have hclose := C.walks_mark ha (by decide : ")" ∈ marks)
  cases hs : isSplit (e :: e' :: es) with
  | true =>
    have hattributes := C.walks_splitAttributes hi (by decide : "\n" ∈ marks) he
    have hline := C.walks_newLine ha (by decide : "\n" ∈ marks)
    have hw := (((hopen.append hattributes).append (C.closeAttributes ha)).append hline).append
      hclose
    simpa [attributes, hs] using hw
  | false =>
    have hattributes := C.walks_inlineAttributes hi (by decide : "" ∈ marks) he
    have hw := ((hopen.append hattributes).append (C.closeAttributes ha)).append hclose
    simpa [attributes, hs] using hw

lemma walks_attributes {es : List (Value × Value)} (ha : C.fits a)
    (he : ∀ e ∈ es, ∀ text ∈ entryTexts e, kind text) :
    Walks next post a a (attributes es) := by
  match es with
  | [] => exact .nil
  | [e] => exact C.walks_attribute ha (he e (by simp))
  | e :: e' :: es => exact C.walks_several ha he

/-- An annotation leaves the part as it was, whatever its value. -/
theorem walks_ending {v : Value} (ha : C.fits a) (hv : ∀ text ∈ texts v, kind text) :
    Walks next post a a (ending v) := by
  have hline := C.walks_mark ha (by decide : "\n" ∈ marks)
  have hone : (∀ text ∈ printed v, kind text) →
      Walks next post a a ([.write "("] ++ value v ++ [.write ")\n"]) := fun hp =>
    ((C.walks_mark ha (by decide)).append (C.walks_value ha hp)).append
      (C.walks_mark ha (by decide))
  cases v with
  | none => exact hline
  | map es =>
    refine (C.walks_attributes ha fun e he text ht => hv text ?_).append hline
    exact List.mem_flatMap.mpr ⟨e, he, ht⟩
  | _ => exact hone hv

end Course
end JavaScribe
