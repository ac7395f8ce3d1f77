import JavaScribe.Scope
import JavaScribe.Value

/-!
# Events

What a scribe notes down while it works. Each event is a message of one logger.
-/
namespace JavaScribe

inductive Event where
  /-- A scope has been opened, and this many are open now. -/
  | entered (scope : Scope) (depth : Nat)
  /-- A scope has been closed, and this many are open now. -/
  | left (scope : Scope) (depth : Nat)
  | imported (name short : String)
  | packageSet (name : Value)
  /-- A class of the package is displayed in full, since its short form is that of an import. -/
  | ambiguous (short name : String)
  | closed
  deriving DecidableEq, Repr

namespace Event

def logger : Event → String
  | entered _ _ => "javawriter.scopes"
  | left _ _ => "javawriter.scopes"
  | imported _ _ => "javawriter.imports"
  | packageSet _ => "javawriter.writer.writer"
  | ambiguous _ _ => "javawriter.compression"
  | closed => "javawriter.writer.writer"

def message : Event → String
  | entered scope depth => "push " ++ scope.label ++ " (depth " ++ toString depth ++ ")"
  | left scope depth => "pop " ++ scope.label ++ " (depth " ++ toString depth ++ ")"
  | imported name short => "Imported " ++ name ++ " as " ++ short
  | packageSet name => "Package set to " ++ name.quoted
  | ambiguous short name => short ++ " is ambiguous, keeping " ++ name
  | closed => "Output closed"

end Event
end JavaScribe
