import JavaScribe.Format.Error
import JavaScribe.Modifier
import JavaScribe.Number.Layout
import JavaScribe.Text.Quoted

/-!
# Values

A value is what a caller may hand over where the kind of argument is open: an attribute of an
annotation, an argument of a pattern, a list of names or of modifiers, the text of a type. Each has
a kind and a truth value, and some have items. Each would have a text and a form in which it stands
inside a collection, but neither can be had of a value with an integer that is too long.
-/
namespace JavaScribe

inductive Value where
  | none
  | bool (b : Bool)
  | int (n : Int)
  | float (x : Binary64)
  | text (s : String)
  | list (items : List Value)
  | tuple (items : List Value)
  | set (items : List Value)
  | map (entries : List (Value × Value))
  | modifier (m : Modifier)
  deriving Repr

namespace Value

instance : Coe String Value := ⟨text⟩

mutual

def same : Value → Value → Bool
  | none, none => true
  | bool a, bool b => a == b
  | int a, int b => a == b
  | float a, float b => a == b
  | text a, text b => a == b
  | list a, list b => sameItems a b
  | tuple a, tuple b => sameItems a b
  | set a, set b => sameItems a b
  | map a, map b => sameEntries a b
  | modifier a, modifier b => a == b
  | _, _ => false

def sameItems : List Value → List Value → Bool
  | [], [] => true
  | a :: as, b :: bs => same a b && sameItems as bs
  | _, _ => false

def sameEntries : List (Value × Value) → List (Value × Value) → Bool
  | [], [] => true
  | (k, v) :: es, (k', v') :: es' => (same k k' && same v v') && sameEntries es es'
  | _, _ => false

end

mutual

theorem same_iff : (a b : Value) → (same a b = true ↔ a = b)
  | none, b => by cases b <;> simp [same]
  | bool _, b => by cases b <;> simp [same]
  | int _, b => by cases b <;> simp [same]
  | float _, b => by cases b <;> simp [same]
  | text _, b => by cases b <;> simp [same]
  | list a, b => by cases b <;> simp [same, sameItems_iff a]
  | tuple a, b => by cases b <;> simp [same, sameItems_iff a]
  | set a, b => by cases b <;> simp [same, sameItems_iff a]
  | map a, b => by cases b <;> simp [same, sameEntries_iff a]
  | modifier _, b => by cases b <;> simp [same]

theorem sameItems_iff : (as bs : List Value) → (sameItems as bs = true ↔ as = bs)
  | [], bs => by cases bs <;> simp [sameItems]
  | a :: as, bs => by cases bs <;> simp [sameItems, same_iff a, sameItems_iff as]

theorem sameEntries_iff :
    (es es' : List (Value × Value)) → (sameEntries es es' = true ↔ es = es')
  | [], es' => by cases es' <;> simp [sameEntries]
  | (k, v) :: es, es' => by
    cases es' <;> simp [sameEntries, same_iff k, same_iff v, sameEntries_iff es, Prod.ext_iff]

end

instance : DecidableEq Value := fun a b => decidable_of_iff _ (same_iff a b)

def kind : Value → String
  | none => "NoneType"
  | bool _ => "bool"
  | int _ => "int"
  | float _ => "float"
  | text _ => "str"
  | list _ => "list"
  | tuple _ => "tuple"
  | set _ => "set"
  | map _ => "dict"
  | modifier _ => "Modifier"

/-- Whether a value counts as true: all do but nothing, false, zero and what is empty. -/
def truthy : Value → Bool
  | none => false
  | bool b => b
  | int n => n != 0
  | float x => !x.isZero
  | text s => !s.isEmpty
  | list vs => !vs.isEmpty
  | tuple vs => !vs.isEmpty
  | set vs => !vs.isEmpty
  | map es => !es.isEmpty
  | modifier _ => true

/-- The items of a collection, the keys of a mapping, the characters of a text. -/
def items? : Value → Option (List Value)
  | text s => some (s.toList.map fun c => text (String.singleton c))
  | list vs => some vs
  | tuple vs => some vs
  | set vs => some vs
  | map es => some (es.map Prod.fst)
  | _ => Option.none

def isArray : Value → Bool
  | list _ => true
  | tuple _ => true
  | _ => false

mutual

/-- The form of a value inside a collection, with all digits of every integer. -/
def quoted : Value → String
  | none => "None"
  | bool b => if b then "True" else "False"
  | int n => toString n
  | float x => x.text
  | text s => Text.quote s
  | list vs => "[" ++ ", ".intercalate (quotedItems vs) ++ "]"
  | tuple vs => "(" ++ ", ".intercalate (quotedItems vs) ++ (if vs.length = 1 then ",)" else ")")
  | set vs =>
    if vs.isEmpty then "set()"
    else "\x7b" ++ ", ".intercalate (quotedItems vs) ++ "\x7d"
  | map es => "\x7b" ++ ", ".intercalate (quotedEntries es) ++ "\x7d"
  | modifier m => "<Modifier." ++ m.constant ++ ": " ++ Text.quote m.keyword ++ ">"

def quotedItems : List Value → List String
  | [] => []
  | v :: vs => v.quoted :: quotedItems vs

def quotedEntries : List (Value × Value) → List String
  | [] => []
  | (k, v) :: es => (k.quoted ++ ": " ++ v.quoted) :: quotedEntries es

end

/-- The text of a value, with all digits of every integer: a text as it is, a modifier as its
keyword, all else as inside a collection. -/
def plain : Value → String
  | text s => s
  | modifier m => m.keyword
  | v => v.quoted

theorem plain_text (s : String) : plain (text s) = s := rfl

mutual

/-- Whether an integer in a value has more digits than a text may have of it. -/
def isOverlong : Value → Bool
  | int n => decide (Number.tenTo FormatError.maxTextDigits ≤ n.natAbs)
  | list vs => anyOverlong vs
  | tuple vs => anyOverlong vs
  | set vs => anyOverlong vs
  | map es => anyOverlongEntry es
  | _ => false

def anyOverlong : List Value → Bool
  | [] => false
  | v :: vs => v.isOverlong || anyOverlong vs

def anyOverlongEntry : List (Value × Value) → Bool
  | [] => false
  | (k, v) :: es => (k.isOverlong || v.isOverlong) || anyOverlongEntry es

end

theorem anyOverlong_eq_false {vs : List Value} :
    anyOverlong vs = false ↔ ∀ v ∈ vs, v.isOverlong = false := by
  induction vs with
  | nil => simp [anyOverlong]
  | cons v vs ih => simp [anyOverlong, ih]

theorem anyOverlongEntry_eq_false {es : List (Value × Value)} :
    anyOverlongEntry es = false ↔
      ∀ e ∈ es, e.1.isOverlong = false ∧ e.2.isOverlong = false := by
  induction es with
  | nil => simp [anyOverlongEntry]
  | cons e es ih => simp [anyOverlongEntry, ih]

/-- A text that shows a value, unless an integer in it is too long. -/
def showing (v : Value) (shown : String) : Except FormatError String :=
  if v.isOverlong then .error .integerTooLong else .ok shown

/-- The text of a value, if it can be had. -/
def asText (v : Value) : Except FormatError String := v.showing v.plain

/-- The form of a value inside a collection, if it can be had. -/
def asQuoted (v : Value) : Except FormatError String := v.showing v.quoted

theorem asText_text (s : String) : asText (text s) = .ok s := rfl

theorem asText_of_isOverlong {v : Value} (h : v.isOverlong = true) :
    v.asText = .error .integerTooLong := by
  simp [asText, showing, h]

theorem asText_of_not_isOverlong {v : Value} (h : v.isOverlong = false) :
    v.asText = .ok v.plain := by
  simp [asText, showing, h]

theorem asText_eq_error {v : Value} {e : FormatError} (h : v.asText = .error e) :
    e = .integerTooLong := by
  cases hv : v.isOverlong with
  | true => exact (Except.error.inj ((asText_of_isOverlong hv).symm.trans h)).symm
  | false => exact absurd ((asText_of_not_isOverlong hv).symm.trans h) (by simp)

end Value
end JavaScribe
