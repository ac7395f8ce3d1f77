import JavaScribe.Fault

/-!
# Steps

Every call on a scribe is carried out as a list of steps. A step checks something, writes one
piece of text, or changes one thing that the scribe keeps; the first that fails ends the call and
leaves the scribe as the steps before it have made it.
-/
namespace JavaScribe

inductive Step where
  /-- The innermost scope must be one of these; none stands for file level. -/
  | require (operation : String) (allowed : List (Option Scope))
  | enter (scope : Scope)
  /-- Closes the innermost scope, which must be one of these. -/
  | leave (operation : String) (expected : List Scope)
  | pushName (name : String)
  | popName
  | write (text : String)
  /-- Writes the indentation, so many units deeper than the open scopes ask for. -/
  | indent (deeper : Nat)
  /-- Writes the text of a type, in its shortest form if the scribe shortens types. It fails for a
  value that is no text. -/
  | writeType (type : Value)
  /-- Finds the shortest form of the text of a type and writes nothing. -/
  | display (type : Value)
  | register (name : String)
  /-- There must be no package yet. -/
  | requireNoPackage (requested : Value)
  | setPackage (name : Value)
  | fail (fault : Fault)
  | close
  deriving DecidableEq, Repr

/-- The steps that follow when an argument is in order, or the failure. -/
def Step.after {α : Type} (checked : Except Fault α) (next : α → List Step) : List Step :=
  match checked with
  | .ok a => next a
  | .error fault => [.fail fault]

/-- The steps that follow when a value can be put into a text, or the failure. -/
def Step.spell (shown : Except FormatError String) (next : String → List Step) : List Step :=
  Step.after (shown.mapError .format) next

namespace Step

def line (text : String) : List Step := [indent 0, write text]

def typeList : List Value → List Step
  | [] => []
  | [t] => [writeType t]
  | t :: ts => writeType t :: write ", " :: typeList ts

/-- A clause with types on a line of its own, if there are any. -/
def clause (keyword : String) (types : List Value) : List Step :=
  if types.isEmpty then []
  else [write "\n", indent 0, write ("    " ++ keyword ++ " ")] ++ typeList types

theorem after_ok {α : Type} (a : α) (next : α → List Step) : after (.ok a) next = next a := rfl

theorem spell_ok (text : String) (next : String → List Step) :
    spell (.ok text) next = next text := rfl

end Step
end JavaScribe
