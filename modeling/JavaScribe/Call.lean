import JavaScribe.Annotation
import JavaScribe.Argument
import JavaScribe.Text.Lines

/-!
# Calls

What a scribe can be asked to write, and the steps that each call consists of. Checks come before
the first piece of text wherever the call can be refused for its place or for its lists. The steps
depend on the scribe only through what is open: the innermost scope tells what is being closed,
and a constructor has the name of the innermost type.
-/
namespace JavaScribe

inductive Call where
  /-- The package declaration; what counts as no name means the default package. -/
  | package (name : Value)
  | imports (names : List Value)
  | staticImports (names : List Value)
  | openType (name : Value) (kind : String) (modifiers superclass interfaces : Value := .none)
  | closeType
  /-- A method; without a result type, a constructor of the given name. -/
  | openMethod (result name : Value) (modifiers parameters throws : Value := .none)
  | closeMethod
  | openConstructor (modifiers parameters throws : Value := .none)
  | closeConstructor
  | openInitializer (isStatic : Value)
  | closeInitializer
  | field (type : Value) (name : String) (modifiers : Value := .none)
      (initial : Option String := none)
  | enumConstant (name : String)
  | lastEnumConstant (name : String)
  | enumConstants (names : Value)
  | statement (pattern : Value) (arguments : List Value := [])
  | openBlock (header : String)
  | nextBlock (header : String)
  | closeBlock (tail : Option String := none)
  | openSwitch (subject : String)
  | closeSwitch
  | annotation (name : Value) (value : Value := .none)
  | javadoc (pattern : Value) (arguments : List Value := [])
  | comment (pattern : Value) (arguments : List Value := [])
  | blankLine
  /-- Asks for the text of a type in its shortest form; nothing is written. -/
  | displayType (type : Value)
  | close
  deriving DecidableEq, Repr

structure Nesting where
  scopes : Scopes := []
  types : OpenTypes := []
  deriving DecidableEq, Repr

namespace Call
open Step

def closingBrace : List Step := line "\x7d\n"

def modifierSteps (ms : List Modifier) : List Step := ms.map fun m => write (m.keyword ++ " ")

def parameterSteps : List Value → List Step
  | type :: name :: rest =>
    [writeType type, write " ", writeType name] ++
      (if rest.isEmpty then [] else [write ", "]) ++ parameterSteps rest
  | _ => []

/-- Distinct names in order, each registered just before its line is written. -/
def importSteps (keyword : String) (names : List Value) : List Step :=
  after (Argument.imports names) fun names =>
    names.flatMap fun n => [register n, write (keyword ++ " " ++ n ++ ";\n")]

/-- The declaration of a package. A value may be written as its name and still not be one, since the
name has to be put in front of others. -/
def packageHead (name : Value) : List Step :=
  requireNoPackage name ::
    (if name.truthy then
      spell name.asText fun text =>
        write ("package " ++ text ++ ";\n\n") ::
          (match name with
            | .text _ => []
            | v => [fail (.notAppendable v.kind)])
      else [])

def packageSteps (name : Value) : List Step :=
  packageHead name ++ [setPackage name]

/-- A name that is no text is never put on the stack, since it cannot be written. -/
def typeSteps (name : Value) (kind : String) (modifiers superclass interfaces : Value) :
    List Step :=
  [require "begin_type" [none, some .typeBody]] ++
  after (Argument.modifiers modifiers) fun ms =>
  after (Argument.names interfaces) fun is =>
    [indent 0] ++ modifierSteps ms ++ [write (kind ++ " "), writeType name] ++
      (match superclass with
        | .none => []
        | s => [write " extends ", writeType s]) ++
      clause "implements" is ++ [write " \x7b\n", enter .typeBody, pushName name.plain]

/-- A method, or a constructor when there is no result type. An abstract one gets no body, but it
is closed like the others. -/
def methodSteps (result name modifiers parameters throws : Value) : List Step :=
  [require "begin_method" [some .typeBody]] ++
  after (Argument.names parameters) fun ps =>
  after (Argument.names throws) fun ts =>
  if ps.length % 2 = 1 then [fail (.unevenParameters ps)]
  else after (Argument.modifiers modifiers) fun ms =>
    [indent 0] ++ modifierSteps ms ++
      (match result with
        | .none => [writeType name]
        | r => writeType r :: spell name.asText fun text => [write (" " ++ text)]) ++
      [write "("] ++ parameterSteps ps ++ [write ")"] ++ clause "throws" ts ++
      (if .abstract ∈ ms then [write ";\n", enter .abstractMethod]
        else [write " \x7b\n", enter (if result = .none then .constructorBody else .methodBody)])

def constructorSteps (owner : Option String) (modifiers parameters throws : Value) : List Step :=
  [require "begin_constructor" [some .typeBody]] ++
  match owner with
  | none => [fail .noOpenType]
  | some name => methodSteps .none name modifiers parameters throws

def fieldSteps (type : Value) (name : String) (modifiers : Value) (initial : Option String) :
    List Step :=
  after (Argument.modifiers modifiers) fun ms =>
    [indent 0] ++ modifierSteps ms ++ [writeType type, write (" " ++ name)] ++
      (match initial with
        | none => []
        | some value => [write (" = " ++ value)]) ++
      [write ";\n"]

def constantStep (v : Value) (mark : String) : List Step :=
  indent 0 :: spell v.asText fun text => [write (text ++ mark)]

def constantSteps : List Value → List Step
  | [] => []
  | [v] => constantStep v ";\n"
  | v :: vs => constantStep v ",\n" ++ constantSteps vs

def statementPlace (operation : String) : Step :=
  require operation (Scope.statementScopes.map some)

/-- A statement whose lines after the first hang two units deeper. -/
def statementSteps (pattern : Value) (arguments : List Value) : List Step :=
  [statementPlace "emit_statement"] ++
  after (Argument.filledText pattern arguments) fun text =>
    match Text.lines text with
    | [] => []
    | first :: more =>
      line first ++ more.flatMap (fun l => [write "\n", indent 2, write l]) ++ [write ";\n"]

/-- A documentation comment with one line per line of the text. Empty lines at the end are dropped,
but an empty text still has one. -/
def javadocSteps (pattern : Value) (arguments : List Value) : List Step :=
  after (Argument.filledText pattern arguments) fun text =>
    let lines := Text.lines text
    let lines := if text.isEmpty then lines else Text.dropEmptyEnd lines
    line "/**\n" ++
      lines.flatMap (fun l => line (if l.isEmpty then " *\n" else " * " ++ l ++ "\n")) ++
      line " */\n"

def commentSteps (pattern : Value) (arguments : List Value) : List Step :=
  [indent 0] ++ after (Argument.filled pattern arguments) fun v =>
    spell v.asText fun text => [write ("// " ++ text ++ "\n")]

def steps (n : Nesting) : Call → List Step
  | package name => packageSteps name
  | imports names => importSteps "import" names
  | staticImports names => importSteps "import static" names
  | openType name kind modifiers superclass interfaces =>
    typeSteps name kind modifiers superclass interfaces
  | closeType => [leave "end_type" [.typeBody], popName] ++ closingBrace
  | openMethod result name modifiers parameters throws =>
    methodSteps result name modifiers parameters throws
  | closeMethod =>
    [leave "end_method" [.methodBody, .constructorBody, .abstractMethod]] ++
      (if n.scopes.top = some .abstractMethod then [] else closingBrace)
  | openConstructor modifiers parameters throws =>
    constructorSteps n.types.head? modifiers parameters throws
  | closeConstructor => [leave "end_constructor" [.constructorBody]] ++ closingBrace
  | openInitializer isStatic =>
    [require "begin_initializer" [some .typeBody]] ++
      line (if isStatic.truthy then "static \x7b\n" else "\x7b\n") ++ [enter .initializer]
  | closeInitializer => [leave "end_initializer" [.initializer]] ++ closingBrace
  | field type name modifiers initial => fieldSteps type name modifiers initial
  | enumConstant name => constantStep name ",\n"
  | lastEnumConstant name => constantStep name ";\n"
  | enumConstants names =>
    after (Argument.items names) constantSteps
  | statement pattern arguments => statementSteps pattern arguments
  | openBlock header =>
    [statementPlace "begin_control_flow"] ++ line (header ++ " \x7b\n") ++ [enter .controlFlow]
  | nextBlock header =>
    [leave "next_control_flow" [.controlFlow], indent 0, enter .controlFlow,
      write ("\x7d " ++ header ++ " \x7b\n")]
  | closeBlock none => [leave "end_control_flow" [.controlFlow]] ++ closingBrace
  | closeBlock (some tail) =>
    [leave "end_control_flow" [.controlFlow]] ++ line ("\x7d " ++ tail ++ ";\n")
  | openSwitch subject =>
    [statementPlace "begin_switch", indent 0, enter .switchBody,
      write ("switch(" ++ subject ++ ") \x7b\n")]
  | closeSwitch => [leave "end_switch" [.switchBody]] ++ closingBrace
  | annotation name value => Annotation.steps name value
  | javadoc pattern arguments => javadocSteps pattern arguments
  | comment pattern arguments => commentSteps pattern arguments
  | blankLine => [write "\n"]
  | displayType type => [display type]
  | close => [Step.close]

end Call
end JavaScribe
