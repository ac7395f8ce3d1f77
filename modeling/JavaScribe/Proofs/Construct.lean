import JavaScribe.Call
import JavaScribe.Proofs.Layout

/-!
# Constructs

Java source as trees. A construct carries its arguments, each with what it stands for, and holds
what stands in it, so that every tree is properly nested. `calls` are the calls that ask for a
construct, in the order of the page; `lines` is how it is printed, given how a type is displayed,
the name of the innermost type and the depth.
-/
namespace JavaScribe
open Line

structure ModifierList where
  given : Value
  modifiers : List Modifier
  resolved : Argument.modifiers given = .ok modifiers

structure TypeList where
  given : Value
  types : List String
  resolved : Argument.names given = .ok (types.map .text)

/-- Types with the names of parameters. -/
structure ParameterList where
  given : Value
  pairs : List (String × String)
  resolved : Argument.names given = .ok (pairs.flatMap fun p => [.text p.1, .text p.2])

/-- Values that have a text. -/
structure ItemList where
  given : Value
  items : List Value
  resolved : Argument.items given = .ok items
  shown : ∀ v ∈ items, v.isOverlong = false

/-- A pattern with arguments that fill it. -/
structure Filled where
  pattern : Value
  arguments : List Value
  text : String
  resolved : Argument.filledText pattern arguments = .ok text

/-- A construct that is asked for by one call. -/
inductive Leaf where
  | field (type name : String) (modifiers : ModifierList) (initial : Option String)
  | enumConstant (name : String)
  | lastEnumConstant (name : String)
  | enumConstants (names : ItemList)
  | annotation (name : String) (value : Value) (shown : value.isOverlong = false)
  | javadoc (text : Filled)
  | comment (text : Filled)
  | blankLine

namespace Leaf

def call : Leaf → Call
  | field type name modifiers initial => .field (.text type) name modifiers.given initial
  | enumConstant name => .enumConstant name
  | lastEnumConstant name => .lastEnumConstant name
  | enumConstants names => .enumConstants names.given
  | annotation name value _ => Call.annotation (.text name) value
  | javadoc text => .javadoc text.pattern text.arguments
  | comment text => .comment text.pattern text.arguments
  | blankLine => .blankLine

def lines (display : String → String) (depth : ℕ) : Leaf → List Line
  | field type name modifiers initial =>
    [⟨depth, keywords modifiers.modifiers ++ display type ++ " " ++ name ++
      initial.elim "" (" = " ++ ·) ++ ";"⟩]
  | enumConstant name => [⟨depth, name ++ ","⟩]
  | lastEnumConstant name => [⟨depth, name ++ ";"⟩]
  | enumConstants names => listed "," ";" (fun v mark => [⟨depth, v.plain ++ mark⟩]) names.items
  | annotation name value _ => annotationLines depth ("@" ++ display name) value
  | javadoc text => javadocLines depth text.text
  | comment text => [⟨depth, "// " ++ text.text⟩]
  | blankLine => [⟨0, ""⟩]

end Leaf

structure TypeHead where
  name : String
  kind : String
  modifiers : ModifierList
  superclass : Option String
  interfaces : TypeList

namespace TypeHead

def call (h : TypeHead) : Call :=
  .openType (.text h.name) h.kind h.modifiers.given (h.superclass.elim .none .text)
    h.interfaces.given

def lines (display : String → String) (depth : ℕ) (h : TypeHead) : List Line :=
  headed depth
    (keywords h.modifiers.modifiers ++ h.kind ++ " " ++ display h.name ++
      h.superclass.elim "" (" extends " ++ display ·))
    "implements" (h.interfaces.types.map display) " \x7b"

end TypeHead

/-- What a method or a constructor is called. -/
inductive Signature where
  | method (result name : String)
  /-- A constructor whose name is given. -/
  | named (name : String)
  /-- A constructor of the innermost type. -/
  | unnamed
  deriving DecidableEq

structure MethodHead where
  signature : Signature
  modifiers : ModifierList
  parameters : ParameterList
  throws : TypeList

namespace MethodHead

def IsAbstract (h : MethodHead) : Prop := .abstract ∈ h.modifiers.modifiers

instance (h : MethodHead) : Decidable h.IsAbstract :=
  inferInstanceAs (Decidable (.abstract ∈ h.modifiers.modifiers))

def IsConstructor (h : MethodHead) : Prop := ∀ result name, h.signature ≠ .method result name

def call (h : MethodHead) : Call :=
  match h.signature with
  | .method result name =>
    .openMethod (.text result) (.text name) h.modifiers.given h.parameters.given h.throws.given
  | .named name =>
    .openMethod .none (.text name) h.modifiers.given h.parameters.given h.throws.given
  | .unnamed => .openConstructor h.modifiers.given h.parameters.given h.throws.given

def scope (h : MethodHead) : Scope :=
  match h.signature with
  | .method _ _ => .methodBody
  | .named _ => .constructorBody
  | .unnamed => .constructorBody

def title (display : String → String) (owner : String) (h : MethodHead) : String :=
  match h.signature with
  | .method result name => display result ++ " " ++ name
  | .named name => display name
  | .unnamed => display owner

def lines (display : String → String) (owner : String) (depth : ℕ) (h : MethodHead)
    (mark : String) : List Line :=
  headed depth
    (keywords h.modifiers.modifiers ++ h.title display owner ++ "(" ++
      parameterText display h.parameters.pairs ++ ")")
    "throws" (h.throws.types.map display) mark

end MethodHead

mutual

/-- What may stand in the body of a method. -/
inductive Item where
  | leaf (leaf : Leaf)
  | statement (text : Filled)
  | switch (subject : String) (body : List Item)
  | block (header : String) (body : List Item) (rest : Chain)

/-- How a block goes on: it is closed, or another one follows on the same line. -/
inductive Chain where
  | close (tail : Option String)
  | next (header : String) (body : List Item) (rest : Chain)

end

/-- What may stand in the body of a type. -/
inductive Member where
  | leaf (leaf : Leaf)
  | type (head : TypeHead) (members : List Member)
  | abstractMethod (head : MethodHead) (isAbstract : head.IsAbstract)
  | method (head : MethodHead) (isConcrete : ¬ head.IsAbstract) (body : List Item)
  /-- A constructor that is closed as one. -/
  | constructor (head : MethodHead) (isConcrete : ¬ head.IsAbstract)
      (isConstructor : head.IsConstructor) (body : List Item)
  | initializer (isStatic : Value) (body : List Item)

inductive Construct where
  | member (member : Member)
  | item (item : Item)

/-! ## Calls -/

mutual

def Item.calls : Item → List Call
  | .leaf l => [l.call]
  | .statement text => [.statement text.pattern text.arguments]
  | .switch subject body => .openSwitch subject :: (Item.callsOf body ++ [.closeSwitch])
  | .block header body rest => .openBlock header :: (Item.callsOf body ++ rest.calls)

def Chain.calls : Chain → List Call
  | .close tail => [.closeBlock tail]
  | .next header body rest => .nextBlock header :: (Item.callsOf body ++ rest.calls)

def Item.callsOf : List Item → List Call
  | [] => []
  | i :: is => i.calls ++ Item.callsOf is

end

mutual

def Member.calls : Member → List Call
  | .leaf l => [l.call]
  | .type head members => head.call :: (Member.callsOf members ++ [.closeType])
  | .abstractMethod head _ => [head.call, .closeMethod]
  | .method head _ body => head.call :: (Item.callsOf body ++ [.closeMethod])
  | .constructor head _ _ body => head.call :: (Item.callsOf body ++ [.closeConstructor])
  | .initializer isStatic body =>
    .openInitializer isStatic :: (Item.callsOf body ++ [.closeInitializer])

def Member.callsOf : List Member → List Call
  | [] => []
  | m :: ms => m.calls ++ Member.callsOf ms

end

def Construct.calls : Construct → List Call
  | .member m => m.calls
  | .item i => i.calls

/-! ## Lines -/

section
variable (display : String → String)

mutual

def Item.lines (depth : ℕ) : Item → List Line
  | .leaf l => l.lines display depth
  | .statement text => hanging depth (Text.lines text.text)
  | .switch subject body =>
    ⟨depth, "switch(" ++ subject ++ ") \x7b"⟩ ::
      (Item.linesOf (depth + 1) body ++ [⟨depth, "\x7d"⟩])
  | .block header body rest =>
    ⟨depth, header ++ " \x7b"⟩ :: (Item.linesOf (depth + 1) body ++ rest.lines depth)

def Chain.lines (depth : ℕ) : Chain → List Line
  | .close none => [⟨depth, "\x7d"⟩]
  | .close (some tail) => [⟨depth, "\x7d " ++ tail ++ ";"⟩]
  | .next header body rest =>
    ⟨depth, "\x7d " ++ header ++ " \x7b"⟩ :: (Item.linesOf (depth + 1) body ++ rest.lines depth)

def Item.linesOf (depth : ℕ) : List Item → List Line
  | [] => []
  | i :: is => i.lines depth ++ Item.linesOf depth is

end

mutual

def Member.lines (owner : String) (depth : ℕ) : Member → List Line
  | .leaf l => l.lines display depth
  | .type head members =>
    head.lines display depth ++ (Member.linesOf head.name (depth + 1) members ++ [⟨depth, "\x7d"⟩])
  | .abstractMethod head _ => head.lines display owner depth ";"
  | .method head _ body | .constructor head _ _ body =>
    head.lines display owner depth " \x7b" ++
      (Item.linesOf display (depth + 1) body ++ [⟨depth, "\x7d"⟩])
  | .initializer isStatic body =>
    ⟨depth, if isStatic.truthy then "static \x7b" else "\x7b"⟩ ::
      (Item.linesOf display (depth + 1) body ++ [⟨depth, "\x7d"⟩])

def Member.linesOf (owner : String) (depth : ℕ) : List Member → List Line
  | [] => []
  | m :: ms => m.lines owner depth ++ Member.linesOf owner depth ms

end

def Construct.lines (owner : String) (depth : ℕ) : Construct → List Line
  | .member m => m.lines display owner depth
  | .item i => i.lines display depth

end

/-! ## Where a construct may stand -/

def Item.MayStand (n : Nesting) : Item → Prop
  | .leaf _ => True
  | .statement _ | .switch _ _ | .block _ _ _ => n.scopes.top ∈ Scope.statementScopes.map some

/-- A constructor without a name of its own needs an open type. -/
def MethodHead.MayStand (n : Nesting) (h : MethodHead) : Prop :=
  n.scopes.top = some .typeBody ∧ (h.signature = .unnamed → n.types ≠ [])

def Member.MayStand (n : Nesting) : Member → Prop
  | .leaf _ => True
  | .type _ _ => n.scopes.top ∈ [none, some .typeBody]
  | .abstractMethod head _ | .method head _ _ | .constructor head _ _ _ => head.MayStand n
  | .initializer _ _ => n.scopes.top = some .typeBody

def Construct.MayStand (n : Nesting) : Construct → Prop
  | .member m => m.MayStand n
  | .item i => i.MayStand n

end JavaScribe
