import JavaScribe.Fault
import JavaScribe.Text.LetterCase

/-!
# Loggers

Loggers form a tree by their names. A message passes when its level is at least that of the
nearest logger above that has one, and then goes to the handlers of all loggers above, each of
which has a level of its own. Only the package logger is ever given a level and handlers; the
root of the tree has a level and no handlers. A message that meets no handler is written to the
console as it is, if it is a warning or worse.
-/
namespace JavaScribe.Logging

def packageName : String := "javawriter"

inductive Target where
  | console
  | file
  deriving DecidableEq, Repr

structure Handler where
  target : Target
  level : Nat
  deriving DecidableEq, Repr

structure Decision where
  logger : String
  level : Nat
  passes : Bool
  deriving DecidableEq, Repr

structure Registry where
  /-- The level of the package logger; zero leaves it to the root. -/
  level : Nat := 0
  handlers : List Handler := []
  /-- Whether messages go on from the package logger to the root. -/
  propagate : Bool := true
  loggers : List String :=
    ["javawriter", "javawriter.imports", "javawriter.scopes", "javawriter.compression",
      "javawriter.writer.writer"]
  /-- What was decided since levels were last set. A logger keeps to it. -/
  decisions : List Decision := []
  deriving DecidableEq, Repr

def warning : Nat := 30

def rootLevel : Nat := warning

def levelOf? (name : String) : Option Nat :=
  match name with
  | "NOTSET" => some 0
  | "DEBUG" => some 10
  | "INFO" => some 20
  | "WARNING" => some 30
  | "WARN" => some 30
  | "ERROR" => some 40
  | "CRITICAL" => some 50
  | "FATAL" => some 50
  | _ => none

def levelName (level : Nat) : String :=
  match level with
  | 0 => "NOTSET"
  | 10 => "DEBUG"
  | 20 => "INFO"
  | 30 => "WARNING"
  | 40 => "ERROR"
  | 50 => "CRITICAL"
  | n => "Level " ++ toString n

/-- The name of a constant that is taken for a level and is none: it holds a text. -/
def formatConstant : String := "BASIC_FORMAT"

def basicFormat : String := "%(levelname)s:%(name)s:%(message)s"

/-- The name of another constant that is taken for a level and is none: it holds a table. -/
def stylesConstant : String := "_STYLES"

/-- An entry of the table of styles: its mark, the class it stands for and its format. -/
def styleEntry (mark style format : String) : String :=
  Text.quote mark ++ ": (<class 'logging." ++ style ++ "'>, " ++ Text.quote format ++ ")"

/-- The table of the three ways to write a format, each with the basic format in that way. -/
def styles : String :=
  "\x7b" ++ ", ".intercalate [
    styleEntry "%" "PercentStyle" basicFormat,
    styleEntry "\x7b" "StrFormatStyle" "\x7blevelname\x7d:\x7bname\x7d:\x7bmessage\x7d",
    styleEntry "$" "StringTemplateStyle"
      "$\x7blevelname\x7d:$\x7bname\x7d:$\x7bmessage\x7d"] ++ "\x7d"

/-- The level that a setting stands for, in any letter case. A warning is what a name means that
is not known. -/
def parseLevel (setting : String) : Except Fault Nat :=
  let name := Text.capital setting
  if name = formatConstant then .error (.unknownLevel basicFormat)
  else if name = stylesConstant then .error (.levelIsTable styles)
  else .ok ((levelOf? name).getD warning)

/-- The full name of the logger that is asked for by a name. -/
def loggerName (name : String) : String :=
  if name = packageName ∨ (packageName ++ ".").toList.isPrefixOf name.toList then name
  else packageName ++ "." ++ name

/-- The names above a name, nearest first: what stands before each of its dots. A dot at the front
does not count, nor does one with a dot that counts right after it. -/
def namesAboveFrom (name : List Char) : Nat → List (List Char)
  | 0 => []
  | 1 => []
  | n + 2 =>
    if name[n + 1]? = some '.' then name.take (n + 1) :: namesAboveFrom name n
    else namesAboveFrom name (n + 1)

def namesAbove (name : String) : List String :=
  (namesAboveFrom name.toList name.toList.length).map String.ofList

namespace Registry

def add (r : Registry) (name : String) : Registry :=
  if r.loggers.contains name then r else { r with loggers := r.loggers ++ [name] }

/-- The full name of the logger that is asked for by a name. From then on there is that logger. -/
def get (r : Registry) (name : String) : String × Registry :=
  (loggerName name, r.add (loggerName name))

/-- The logger above; none for one that is directly below the root. -/
def parent? (r : Registry) (name : String) : Option String :=
  (namesAbove name).find? r.loggers.contains

/-- Whether the package logger is at or above a logger, looked for within so many steps. -/
def reachesIn (r : Registry) : Nat → String → Bool
  | 0, name => name == packageName
  | n + 1, name => name == packageName || (r.parent? name).any (r.reachesIn n)

/-- Whether the package logger is at or above a logger. Each step up makes the name shorter. -/
def reaches (r : Registry) (name : String) : Bool := r.reachesIn name.toList.length name

def threshold (r : Registry) (name : String) : Nat :=
  if r.reaches name && r.level != 0 then r.level else rootLevel

/-- Whether a logger lets a level pass: as it has decided before, or by its threshold. -/
def admits (r : Registry) (name : String) (level : Nat) : Bool × Registry :=
  match r.decisions.find? (fun d => d.logger == name && d.level == level) with
  | some d => (d.passes, r)
  | none =>
    let passes : Bool := r.threshold name ≤ level
    (passes, { r with decisions := ⟨name, level, passes⟩ :: r.decisions })

def handlersFor (r : Registry) (name : String) : List Handler :=
  if r.reaches name then r.handlers else []

/-- Sets the package logger up: one handler for the console and one for a file, if there is one.
The level comes from the setting, or else from the environment, or else it is that of warnings. A
setting that is no level changes nothing. -/
def setup (r : Registry) (setting environment : Option String) (toFile : Bool) :
    Except Fault Registry := do
  let level ← parseLevel ((setting.or environment).getD "WARNING")
  let file : List Handler := if toFile then [⟨.file, level⟩] else []
  return { r.add packageName with
    level
    handlers := ⟨.console, level⟩ :: file
    propagate := false
    decisions := [] }

end Registry

structure Output where
  console : String := ""
  file : String := ""
  deriving DecidableEq, Repr

/-- A message as a handler writes it, after the time. -/
def formatted (name : String) (level : Nat) (message : String) : String :=
  name ++ " - " ++ levelName level ++ " - " ++ message ++ "\n"

def Output.add (o : Output) (line : String) (h : Handler) : Output :=
  match h.target with
  | .console => { o with console := o.console ++ line }
  | .file => { o with file := o.file ++ line }

def Registry.emit (r : Registry) (name : String) (level : Nat) (message : String) : Output :=
  match r.handlersFor name with
  | [] => if warning ≤ level then { console := message ++ "\n" } else {}
  | hs =>
    (hs.filter (fun h => h.level ≤ level)).foldl (Output.add · (formatted name level message)) {}

def Registry.log (r : Registry) (name : String) (level : Nat) (message : String) :
    Output × Registry :=
  let (full, r) := r.get name
  let (passes, r) := r.admits full level
  (if passes then r.emit full level message else {}, r)

theorem loggerName_loggerName (name : String) : loggerName (loggerName name) = loggerName name := by
  by_cases h : name = packageName ∨ (packageName ++ ".").toList.isPrefixOf name.toList
  · simp only [loggerName, if_pos h]
  · have hp : (packageName ++ ".").toList.isPrefixOf (packageName ++ "." ++ name).toList := by
      rw [List.isPrefixOf_iff_prefix, String.toList_append (s := packageName ++ ".")]
      exact List.prefix_append _ _
    simp only [loggerName, if_neg h]
    rw [if_pos (Or.inr hp)]

end JavaScribe.Logging
