import JavaScribe.Event
import JavaScribe.Imports
import JavaScribe.Text.LetterCase

/-!
# How names are displayed

In the text of a type every name is displayed in the shortest form that the imports and the package
allow: an imported name by its short name, a class of the package by what follows the package, a
class of `java.lang` by what follows that. All else in the text is kept.
-/
namespace JavaScribe

/-- The text of a type with type arguments, such as `java.util.Map<K, V>`. -/
def parameterized (raw : String) (arguments : List String) : String :=
  if arguments.isEmpty then raw else raw ++ "<" ++ ", ".intercalate arguments ++ ">"

structure Naming where
  imports : Imports := {}
  /-- The package with a dot after it, empty for the default package; none before it is set. -/
  package : Option String := none
  deriving DecidableEq, Repr

inductive Resolution where
  | imported (short : String)
  | sibling (rest : String)
  /-- A class of the package whose rest is the short name of an import. -/
  | shadowed (rest : String)
  | builtin (rest : String)
  | unchanged
  deriving DecidableEq, Repr

namespace Naming

def builtinPackage : String := "java.lang."

/-- What follows a package in a name under it. -/
def after? (package name : String) : Option String :=
  if package.toList.isPrefixOf name.toList then
    some (String.ofList (name.toList.drop package.toList.length))
  else none

/-- Whether the rest of a name under the package is taken for a class: directly in the package, or
nested in one whose name is upper-case. Otherwise the name belongs to a package below. -/
def isClassRest (rest : String) : Bool :=
  match rest.toList with
  | [] => true
  | c :: cs => !(c :: cs).contains '.' || Text.isUpper c

/-- The rest of a name that is taken for a class of the package. -/
def classRest? (package name : String) : Option String :=
  (after? package name).filter isClassRest

def resolve (imports : Imports) (package name : String) : Resolution :=
  match imports.shortName? name with
  | some short => .imported short
  | none =>
    match classRest? package name with
    | some rest => if imports.displays rest then .shadowed rest else .sibling rest
    | none =>
      match after? builtinPackage name with
      | some rest => .builtin rest
      | none => .unchanged

end Naming

def Resolution.display (name : String) : Resolution → String
  | imported short => short
  | sibling rest => rest
  | shadowed _ => name
  | builtin rest => rest
  | unchanged => name

def Resolution.event? (name : String) : Resolution → Option Event
  | shadowed rest => some (.ambiguous rest name)
  | _ => none

namespace Naming

def shorten (imports : Imports) (package name : String) : String :=
  (resolve imports package name).display name

def shortenPiece (imports : Imports) (package : String) : Name.Piece → List Char
  | .name cs => (shorten imports package (String.ofList cs)).toList
  | .other c => [c]

def pieceEvent? (imports : Imports) (package : String) : Name.Piece → Option Event
  | .name cs =>
    let name := String.ofList cs
    (resolve imports package name).event? name
  | .other _ => none

def shortenText (imports : Imports) (package text : String) : String :=
  String.ofList ((Name.pieces text.toList).flatMap (shortenPiece imports package))

/-- The text of a type in its shortest form. There must be a package, if only the default one. -/
def display (n : Naming) (type : Value) : Except Fault String :=
  match n.package, type with
  | none, _ => .error (.about type (.typeBeforePackage type))
  | some package, .text text => .ok (shortenText n.imports package text)
  | some _, v => .error (.notText v.kind)

def remarks (n : Naming) (type : Value) : List Event :=
  match n.package, type with
  | some package, .text text =>
    (Name.pieces text.toList).filterMap (pieceEvent? n.imports package)
  | _, _ => []

/-- One name in its shortest form. An imported name does not need the package. -/
def displayName (n : Naming) (name : String) : Except Fault String :=
  match n.package with
  | some package => .ok (shorten n.imports package name)
  | none =>
    match n.imports.shortName? name with
    | some short => .ok short
    | none => .error .noPackage

def isSibling (n : Naming) (name : String) : Except Fault Bool :=
  match n.package with
  | some package => .ok (classRest? package name).isSome
  | none => .error .noPackage

theorem display_ok {n : Naming} {package : String} (h : n.package = some package)
    (text : String) : n.display (.text text) = .ok (shortenText n.imports package text) := by
  simp [display, h]

theorem shorten_imported {imports : Imports} {name short : String}
    (h : imports.shortName? name = some short) (package : String) :
    shorten imports package name = short := by
  simp [shorten, resolve, h, Resolution.display]

end Naming
end JavaScribe
