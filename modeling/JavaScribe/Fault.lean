import JavaScribe.Format.Error
import JavaScribe.Scope
import JavaScribe.Value

/-!
# Faults

The reasons for which a call is refused or breaks off, with the message of each, and the checks on
what is open that can fail.
-/
namespace JavaScribe

inductive Refusal where
  | closed
  | failed (reason : String)
  /-- What is offered is a value of another kind than text. -/
  | notText (kind : String)
  /-- What is offered cannot be looked through for a text. -/
  | notSearchable (kind : String)
  deriving DecidableEq, Repr

inductive Fault where
  /-- The innermost scope is none of those that an operation expects. -/
  | misplaced (operation : String) (expected : List (Option Scope)) (actual : Option Scope)
  | importedTwice (name : String)
  | notQualified (name : String)
  | packageTwice (current : String) (requested : Value)
  | typeBeforePackage (type : Value)
  /-- A parameter list does not alternate types and names. -/
  | unevenParameters (parameters : List Value)
  | unknownModifier (keyword : String)
  /-- A modifier is given by a value that has no letter case. -/
  | noLetterCase (kind : String)
  | notIterable (kind : String)
  | unhashable (kind : String)
  /-- Of two values neither can come first. -/
  | unordered (left right : String)
  | notText (kind : String)
  /-- A package is named by a value to which nothing can be appended. -/
  | notAppendable (kind : String)
  /-- A pattern with arguments is a value that cannot be filled. -/
  | notFillable (kind : String)
  /-- A pattern is a value that has no lines. -/
  | noLines (kind : String)
  /-- A name is held against the package before there is one. -/
  | noPackage
  | noOpenType
  | unknownLevel (level : String)
  /-- A level is given by a constant that holds a table. -/
  | levelIsTable (table : String)
  | format (error : FormatError)
  | sink (refusal : Refusal)
  deriving DecidableEq, Repr

def Refusal.message : Refusal → String
  | closed => "I/O operation on closed file"
  | failed reason => reason
  | notText kind => "string argument expected, got " ++ Text.quote kind
  | notSearchable kind => "argument of type " ++ Text.quote kind ++ " is not iterable"

/-- The message for a value with which a text cannot be combined by an operator. -/
def operandMessage (operator left right : String) : String :=
  "unsupported operand type(s) for " ++ operator ++ ": " ++ Text.quote left ++ " and " ++
    Text.quote right

/-- The message for a value to which no text can be appended. A sequence can only be extended by
one of its own kind. -/
def appendMessage (kind : String) : String :=
  if kind = "list" ∨ kind = "tuple" then
    "can only concatenate " ++ kind ++ " (not \"str\") to " ++ kind
  else operandMessage "+" kind "str"

def Fault.message : Fault → String
  | misplaced operation expected actual =>
    operation ++ ": expected " ++ " or ".intercalate (expected.map Scope.place) ++ ", found " ++
      Scope.place actual
  | importedTwice name => "Duplicate import: " ++ name
  | notQualified name => "Not a qualified name: " ++ Text.quote name
  | packageTwice current requested =>
    "Package already set to " ++ Text.quote current ++ ", cannot set " ++ requested.quoted
  | typeBeforePackage type => "Cannot compress " ++ type.quoted ++ " before emit_package()"
  | unevenParameters parameters =>
    "Parameters must be type/name pairs, got " ++ toString parameters.length ++ " entries"
  | unknownModifier keyword => Text.quote keyword ++ " is not a valid Modifier"
  | noLetterCase kind => Text.quote kind ++ " object has no attribute 'lower'"
  | notIterable kind => Text.quote kind ++ " object is not iterable"
  | unhashable kind => "unhashable type: " ++ Text.quote kind
  | unordered left right =>
    "'<' not supported between instances of " ++ Text.quote left ++ " and " ++ Text.quote right
  | notText kind => "expected string or bytes-like object, got " ++ Text.quote kind
  | notAppendable kind => appendMessage kind
  | notFillable kind => operandMessage "%" kind "tuple"
  | noLines kind => Text.quote kind ++ " object has no attribute 'split'"
  | noPackage => "startswith first arg must be str or a tuple of str, not NoneType"
  | noOpenType => "pop from empty list"
  | unknownLevel level => "Unknown level: " ++ Text.quote level
  | levelIsTable table => "Level not an integer or a valid string: " ++ table
  | format error => error.message
  | sink refusal => refusal.message

/-- The fault that is reported where its message is to show a value. -/
def Fault.about (v : Value) (fault : Fault) : Fault :=
  if v.isOverlong then .format .integerTooLong else fault

@[simp] theorem Fault.about_text (text : String) (fault : Fault) :
    about (.text text) fault = fault := rfl

theorem Fault.about_of_isOverlong {v : Value} (h : v.isOverlong = true) (fault : Fault) :
    about v fault = .format .integerTooLong := by
  simp [Fault.about, h]

theorem Fault.about_of_not_isOverlong {v : Value} (h : v.isOverlong = false) (fault : Fault) :
    about v fault = fault := by
  simp [Fault.about, h]

/-- The open scopes, when the innermost is among those allowed; none stands for file level. -/
def Scopes.require (s : Scopes) (operation : String) (allowed : List (Option Scope)) :
    Except Fault Unit :=
  if s.top ∈ allowed then .ok () else .error (.misplaced operation allowed s.top)

/-- Closes the innermost scope, which must be one of those expected. At file level there is none
to close, whatever is expected. -/
def Scopes.leave (s : Scopes) (operation : String) (expected : List (Option Scope)) :
    Except Fault (Scope × Scopes) :=
  match s with
  | [] => .error (.misplaced operation expected none)
  | t :: rest =>
    if some t ∈ expected then .ok (t, rest)
    else .error (.misplaced operation expected (some t))

/-- The names of the open types, innermost first. -/
abbrev OpenTypes := List String

/-- Takes the innermost name off the stack. -/
def OpenTypes.close (s : OpenTypes) : Except Fault (String × OpenTypes) :=
  match s with
  | [] => .error .noOpenType
  | name :: rest => .ok (name, rest)

theorem Scopes.require_ok {s : Scopes} {operation : String}
    {allowed : List (Option Scope)} : s.require operation allowed = .ok () ↔ s.top ∈ allowed := by
  unfold Scopes.require
  split <;> simp [*]

end JavaScribe
