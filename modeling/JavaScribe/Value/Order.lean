import JavaScribe.Number.Quantity
import JavaScribe.Value

/-!
# Agreement and order of values

Values agree when they count as the same key or the same member: numbers by what they count, all
else item by item. Numbers, texts and collections of comparable items are ordered; two values of
which neither can come first are themselves the answer to the question which one does.
-/
namespace JavaScribe.Value
open Number

/-- What a number counts. A truth value counts one or zero. -/
def quantity? : Value → Option Quantity
  | bool b => some (.ofInt (if b then 1 else 0))
  | int n => some (.ofInt n)
  | float x => some x.quantity
  | _ => Option.none

mutual

/-- Whether two values are the same key. -/
def agrees : Value → Value → Bool
  | none, none => true
  | text a, text b => a == b
  | list a, list b => agreeItems a b
  | tuple a, tuple b => agreeItems a b
  | modifier a, modifier b => a == b
  | v, w =>
    match v.quantity?, w.quantity? with
    | some x, some y => x.agrees y
    | _, _ => false

def agreeItems : List Value → List Value → Bool
  | [], [] => true
  | a :: as, b :: bs => a.agrees b && agreeItems as bs
  | _, _ => false

end

mutual

/-- Whether one value comes before another, or the pair that cannot be compared. Collections are
ordered by the first items that do not agree. -/
def before : Value → Value → Except (Value × Value) Bool
  | text a, text b => .ok (a < b)
  | list a, list b => beforeItems a b
  | tuple a, tuple b => beforeItems a b
  | v, w =>
    match v.quantity?, w.quantity? with
    | some x, some y => .ok (x.less y)
    | _, _ => .error (v, w)

def beforeItems : List Value → List Value → Except (Value × Value) Bool
  | [], bs => .ok (!bs.isEmpty)
  | _ :: _, [] => .ok false
  | a :: as, b :: bs => if a.agrees b then beforeItems as bs else a.before b

end

/-- Puts a value into a list that is in order, unless one that agrees with it is there. -/
def insert (v : Value) : List Value → Except (Value × Value) (List Value)
  | [] => .ok [v]
  | w :: ws =>
    if v.agrees w then .ok (w :: ws)
    else do
      if ← v.before w then return v :: w :: ws
      return w :: (← insert v ws)

/-- Values in order, each once. -/
def sort (vs : List Value) : Except (Value × Value) (List Value) :=
  vs.foldlM (fun sorted v => insert v sorted) []

/-- Puts an entry into a mapping: a key that is there already keeps its place. -/
def put (k v : Value) : List (Value × Value) → List (Value × Value)
  | [] => [(k, v)]
  | (k', v') :: es => if k'.agrees k then (k', v) :: es else (k', v') :: put k v es

/-- The mapping with the given entries, the last of each key. -/
def ofEntries (es : List (Value × Value)) : Value :=
  map (es.foldl (fun acc e => put e.1 e.2 acc) [])

/-- The set of the given values. -/
def ofMembers (vs : List Value) : Value :=
  set (vs.foldl (fun acc v => if acc.any (·.agrees v) then acc else acc ++ [v]) [])

theorem agrees_text (a b : String) : agrees (text a) (text b) = (a == b) := by simp [agrees]

theorem before_text (a b : String) : before (text a) (text b) = .ok (decide (a < b)) := by
  simp [before]

end JavaScribe.Value
