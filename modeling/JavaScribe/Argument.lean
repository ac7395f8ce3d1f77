import JavaScribe.Fault
import JavaScribe.Format
import JavaScribe.Value.Order

/-!
# Arguments

Where a call takes several modifiers or names, a caller may give one by itself, any collection of
them, or nothing. The functions here bring such a value to a plain list, or say what is wrong with
it. A value is looked through from front to back and the first fault is the one reported. Where a
call takes a pattern with its arguments, the filled pattern is what it goes on with.
-/
namespace JavaScribe.Argument

/-- The items of a value that must have some. -/
def items (v : Value) : Except Fault (List Value) :=
  match v.items? with
  | some vs => .ok vs
  | none => .error (.notIterable v.kind)

/-- The modifier that a value is or spells, in any letter case. -/
def modifier : Value → Except Fault Modifier
  | .modifier m => .ok m
  | .text s =>
    match Modifier.ofKeyword? (Text.lower s) with
    | some m => .ok m
    | none => .error (.unknownModifier (Text.lower s))
  | v => .error (.noLetterCase v.kind)

/-- Modifiers, each once and in the order in which they are written. -/
def modifiers (v : Value) : Except Fault (List Modifier) :=
  if !v.truthy then .ok []
  else match v with
    | .text s => (modifier (.text s)).map fun m => [m]
    | .modifier m => .ok [m]
    | v => do
      let vs ← items v
      return Modifier.ordered (← vs.mapM modifier)

def text : Value → Except Fault String
  | .text s => .ok s
  | v => .error (.notText v.kind)

/-- A list of names, which are not looked at. A text is one name, even when it is empty. -/
def names : Value → Except Fault (List Value)
  | .text s => .ok [.text s]
  | v => if v.truthy then items v else .ok []

/-- A pattern filled with arguments. Without arguments any value stands for itself. -/
def filled (pattern : Value) (arguments : List Value) : Except Fault Value :=
  match pattern with
  | .text s => ((interpolate s arguments).mapError Fault.format).map Value.text
  | v => if arguments.isEmpty then .ok v else .error (.notFillable v.kind)

/-- The text of a filled pattern that is to be cut into lines. -/
def filledText (pattern : Value) (arguments : List Value) : Except Fault String := do
  match ← filled pattern arguments with
  | .text s => return s
  | v => throw (.noLines v.kind)

mutual

/-- The kind of the first collection in a value that may not be member of a set. -/
def unhashable? : Value → Option String
  | .list _ => some "list"
  | .set _ => some "set"
  | .map _ => some "dict"
  | .tuple vs => firstUnhashable? vs
  | _ => none

def firstUnhashable? : List Value → Option String
  | [] => none
  | v :: vs => (unhashable? v).or (firstUnhashable? vs)

end

def member (v : Value) : Except Fault Value :=
  match unhashable? v with
  | some kind => .error (.unhashable kind)
  | none => .ok v

/-- The names that one argument of an import call stands for: itself, or its items. -/
def importItems : Value → Except Fault (List Value)
  | .text s => .ok [.text s]
  | v => do (← items v).mapM member

/-- Puts a name into a list that is in order, unless it is there. -/
def insertName (name : String) : List String → List String
  | [] => [name]
  | n :: ns =>
    if name = n then n :: ns
    else if name < n then name :: n :: ns
    else n :: insertName name ns

/-- Names in order by code points, each once. -/
def sortNames (names : List String) : List String :=
  names.foldl (fun sorted name => insertName name sorted) []

/-- The names of an import call, in order and each once. Where not all are texts, some cannot be
brought into order, or the first in order is no text. -/
def imports (args : List Value) : Except Fault (List String) := do
  let vs ← args.mapM importItems
  match Value.sort vs.flatten with
  | .ok sorted => sorted.mapM text
  | .error (v, w) => throw (.unordered v.kind w.kind)

theorem mem_insertName {name x : String} {ns : List String} :
    x ∈ insertName name ns ↔ x = name ∨ x ∈ ns := by
  induction ns with
  | nil => simp [insertName]
  | cons n ns ih =>
    simp only [insertName]
    split
    · rename_i h; subst h; simp
    · split
      · simp
      · simp [ih, or_left_comm]

theorem mem_sortNames {x : String} {ns : List String} : x ∈ sortNames ns ↔ x ∈ ns := by
  suffices h : ∀ sorted, x ∈ ns.foldl (fun sorted name => insertName name sorted) sorted ↔
      x ∈ sorted ∨ x ∈ ns by
    simpa [sortNames] using h []
  induction ns with
  | nil => simp
  | cons n ns ih => intro sorted; simp [ih, mem_insertName, or_assoc, or_left_comm]

theorem insert_text (name : String) (ns : List String) :
    Value.insert (.text name) (ns.map .text) = .ok ((insertName name ns).map .text) := by
  induction ns with
  | nil => rfl
  | cons n ns ih =>
    by_cases h : name = n
    · simp [Value.insert, insertName, Value.agrees_text, h]
    · by_cases hlt : name < n
      · simp [Value.insert, insertName, Value.agrees_text, Value.before_text, h, hlt, bind,
          Except.bind, pure, Except.pure]
      · simp [Value.insert, insertName, Value.agrees_text, Value.before_text, h, hlt, bind,
          Except.bind, pure, Except.pure, ih]

theorem sort_text (ns : List String) :
    Value.sort (ns.map .text) = .ok ((sortNames ns).map .text) := by
  suffices h : ∀ sorted : List String,
      (ns.map Value.text).foldlM (fun sorted v => Value.insert v sorted) (sorted.map .text) =
        .ok ((ns.foldl (fun sorted name => insertName name sorted) sorted).map Value.text) from
    h []
  induction ns with
  | nil => intro sorted; rfl
  | cons n ns ih =>
    intro sorted
    simp only [List.map_cons, List.foldlM_cons, insert_text, List.foldl_cons]
    exact ih _

theorem mapM_text (ns : List String) : (ns.map Value.text).mapM text = .ok ns := by
  induction ns with
  | nil => rfl
  | cons n ns ih => simp [List.mapM_cons, ih, text, bind, Except.bind, pure, Except.pure]

end JavaScribe.Argument
