import JavaScribe.Fault
import JavaScribe.Name

/-!
# Imports

The import table keeps the imported names in the order in which they came, each with the short
name under which it is displayed. Nothing is ever taken out of it.
-/
namespace JavaScribe

structure Imports where
  entries : List (String × String) := []
  deriving DecidableEq, Repr

namespace Imports

def names (t : Imports) : List String := t.entries.map Prod.fst

def size (t : Imports) : Nat := t.entries.length

def contains (t : Imports) (name : String) : Bool := t.names.contains name

def shortName? (t : Imports) (name : String) : Option String := t.entries.lookup name

def displays (t : Imports) (short : String) : Bool := (t.entries.map Prod.snd).contains short

/-- Adds a name, which must be a qualified name and must be new. -/
def add (t : Imports) (name : String) : Except Fault (String × Imports) :=
  match Name.short? name with
  | none => .error (.notQualified name)
  | some short =>
    if t.contains name then .error (.importedTwice name)
    else .ok (short, ⟨t.entries ++ [(name, short)]⟩)

theorem entries_add {t t' : Imports} {name short : String}
    (h : t.add name = .ok (short, t')) : t'.entries = t.entries ++ [(name, short)] := by
  unfold add at h
  split at h
  · exact absurd h (by simp)
  · split at h
    · exact absurd h (by simp)
    · injection h with h
      injection h with h1 h2
      subst h1 h2
      rfl

end Imports
end JavaScribe
