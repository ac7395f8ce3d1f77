import JavaScribe.Step

/-!
# Layout of annotations

An annotation stands on a line of its own, with its attributes in parentheses. A single attribute
named `value` is written without its name. Two or more attributes go each on a line of its own
when there are more than three or when one of them is an array. An array has each element on a
line of its own, between braces. A value that has no text breaks the annotation off where it was to
be written.
-/
namespace JavaScribe.Annotation
open Step

def maxOnLine : Nat := 3

def elementText : Value → Except FormatError String
  | .bool b => .ok (if b then "true" else "false")
  | v => v.asText

def element (v : Value) : List Step := spell (elementText v) fun text => [write text]

def elements (separator : String) : List Value → List Step
  | [] => []
  | v :: vs => [write separator, indent 0] ++ element v ++ elements ",\n" vs

def array (vs : List Value) : List Step :=
  [write "\x7b", enter .annotationArray] ++ elements "\n" vs ++
    [leave "emit_annotation" [.annotationArray], write "\n", indent 0, write "\x7d"]

def value : Value → List Step
  | .list vs => array vs
  | .tuple vs => array vs
  | v => element v

theorem value_of_single {v : Value} (h : v.isArray = false) : value v = element v := by
  cases v <;> first | rfl | simp [Value.isArray] at h

/-- The name of an attribute in front of its value. -/
def key (k : Value) : List Step := spell k.asText fun text => [write (text ++ " = ")]

def inlineAttributes (separator : String) : List (Value × Value) → List Step
  | [] => []
  | (k, v) :: es =>
    [write separator] ++ key k ++ value v ++ inlineAttributes ", " es

def splitAttributes (separator : String) : List (Value × Value) → List Step
  | [] => []
  | (k, v) :: es =>
    [write separator, indent 0] ++ key k ++ value v ++ splitAttributes ",\n" es

/-- Whether a name is that of the attribute that can do without it. -/
def isDefaultKey : Value → Bool
  | .text s => s == "value"
  | _ => false

def isSplit (es : List (Value × Value)) : Bool :=
  maxOnLine < es.length || es.any (·.2.isArray)

def attributes : List (Value × Value) → List Step
  | [] => []
  | [(k, v)] =>
    [write "("] ++ (if isDefaultKey k then [] else key k) ++ value v ++ [write ")"]
  | es =>
    [write "(", enter .annotationAttribute] ++
      (if isSplit es then splitAttributes "\n" es else inlineAttributes "" es) ++
      [leave "emit_annotation" [.annotationAttribute]] ++
      (if isSplit es then [write "\n", indent 0] else []) ++ [write ")"]

/-- What follows the name of an annotation: nothing, attributes, or one value. The parenthesis
after one value is written together with the end of the line. -/
def ending : Value → List Step
  | .none => [write "\n"]
  | .map es => attributes es ++ [write "\n"]
  | v => [write "("] ++ value v ++ [write ")\n"]

def steps (name v : Value) : List Step :=
  [indent 0, write "@", writeType name] ++ ending v

end JavaScribe.Annotation
