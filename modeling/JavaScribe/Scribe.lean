import JavaScribe.Call
import JavaScribe.Naming
import JavaScribe.Sink

/-!
# The scribe

A scribe puts Java source on a sink, one construct at a time. It keeps the open scopes, the names
of the open types, the imports and the package, and the events it has noted down; what has been
written is kept by the sink alone. A call that fails leaves the scribe as the steps before the
failing one have made it, and the next call goes on from there.
-/
namespace JavaScribe

structure Scribe (σ : Type) where
  sink : σ
  unit : String := "  "
  shortens : Bool := true
  naming : Naming := {}
  scopes : Scopes := []
  types : OpenTypes := []
  closed : Bool := false
  /-- The events noted down, oldest first. -/
  log : List Event := []
  deriving DecidableEq, Repr

structure Reply (σ : Type) where
  fault : Option Fault
  scribe : Scribe σ
  deriving DecidableEq, Repr

namespace Scribe

variable {σ : Type}

def nesting (w : Scribe σ) : Nesting := ⟨w.scopes, w.types⟩

def depth (w : Scribe σ) : Nat := w.scopes.length

def done (w : Scribe σ) : Reply σ := ⟨none, w⟩

def failing (w : Scribe σ) (fault : Fault) : Reply σ := ⟨some fault, w⟩

def note (w : Scribe σ) (e : Event) : Scribe σ := { w with log := w.log ++ [e] }

def indentation (unit : String) (n : Nat) : String := String.join (List.replicate n unit)

def put [Sink σ] (w : Scribe σ) (text : String) : Reply σ :=
  match Sink.write w.sink text with
  | (none, sink) => done { w with sink }
  | (some refusal, sink) => failing { w with sink } (.sink refusal)

/-- Offers a value to the sink, which takes it if it is a text. -/
def offer [Sink σ] (w : Scribe σ) (v : Value) : Reply σ :=
  match v with
  | .text s => w.put s
  | v =>
    let (refusal, sink) := Sink.refuse w.sink v
    failing { w with sink } (.sink refusal)

/-- The scribe with the events of displaying the text of a type noted down. -/
def remarked (w : Scribe σ) (type : Value) : Scribe σ :=
  { w with log := w.log ++ w.naming.remarks type }

/-- The prefix that goes with the name of a package. It is empty for a value that counts as no
name. -/
def packagePrefix : Value → String
  | .text "" => ""
  | .text name => name ++ "."
  | _ => ""

/-- A package as it was named: without the dots at the end. -/
def withoutEndDots (s : String) : String :=
  String.ofList (s.toList.reverse.dropWhile (· == '.')).reverse

def step [Sink σ] (w : Scribe σ) : Step → Reply σ
  | .require operation allowed =>
    match w.scopes.require operation allowed with
    | .ok () => w.done
    | .error fault => w.failing fault
  | .enter scope =>
    let scopes := scope :: w.scopes
    done ({ w with scopes }.note (.entered scope scopes.length))
  | .leave operation expected =>
    match w.scopes.leave operation (expected.map some) with
    | .ok (scope, scopes) => done ({ w with scopes }.note (.left scope scopes.length))
    | .error fault => w.failing fault
  | .pushName name => done { w with types := name :: w.types }
  | .popName =>
    match w.types.close with
    | .ok (_, types) => done { w with types }
    | .error fault => w.failing fault
  | .write text => w.put text
  | .indent deeper => w.put (indentation w.unit (w.depth + deeper))
  | .writeType type =>
    if w.shortens then
      match w.naming.display type with
      | .ok short => (w.remarked type).put short
      | .error fault => w.failing fault
    else w.offer type
  | .display type =>
    match w.naming.display type with
    | .ok _ => done (w.remarked type)
    | .error fault => w.failing fault
  | .register name =>
    match w.naming.imports.add name with
    | .ok (short, imports) =>
      done ({ w with naming := { w.naming with imports } }.note (.imported name short))
    | .error fault => w.failing fault
  | .requireNoPackage requested =>
    match w.naming.package with
    | none => w.done
    | some current =>
      w.failing (.about requested (.packageTwice (withoutEndDots current) requested))
  | .setPackage name =>
    done ({ w with naming := { w.naming with package := some (packagePrefix name) } }.note
      (.packageSet name))
  | .fail fault => w.failing fault
  | .close =>
    if w.closed then w.done
    else done ({ w with sink := Sink.close w.sink, closed := true }.note .closed)

/-- Carries steps out up to the first that fails. -/
def run [Sink σ] (w : Scribe σ) : List Step → Reply σ
  | [] => w.done
  | s :: rest =>
    match w.step s with
    | ⟨none, w'⟩ => w'.run rest
    | failed => failed

def perform [Sink σ] (w : Scribe σ) (c : Call) : Reply σ := w.run (c.steps w.nesting)

/-- Carries calls out one after the other, whether or not they fail. -/
def performAll [Sink σ] (w : Scribe σ) (calls : List Call) : Scribe σ :=
  calls.foldl (fun w c => (w.perform c).scribe) w

def displayType (w : Scribe σ) (type : Value) : Except Fault String := w.naming.display type

theorem put_scribe [Sink σ] (w : Scribe σ) (text : String) :
    (w.put text).scribe = { w with sink := (Sink.write w.sink text).2 } := by
  unfold put
  split <;> rename_i h <;> simp [done, failing, h]

theorem run_cons [Sink σ] (w : Scribe σ) (s : Step) (rest : List Step) :
    w.run (s :: rest) =
      if (w.step s).fault.isNone then (w.step s).scribe.run rest else w.step s := by
  simp only [run]
  rcases w.step s with ⟨_ | _, _⟩ <;> rfl

theorem run_append [Sink σ] (w : Scribe σ) (first second : List Step) :
    w.run (first ++ second) =
      if (w.run first).fault.isNone then (w.run first).scribe.run second else w.run first := by
  induction first generalizing w with
  | nil => rfl
  | cons s rest ih =>
    rw [List.cons_append, run_cons, run_cons]
    cases h : (w.step s).fault with
    | none => simp only [Option.isNone_none, if_true]; exact ih _
    | some f => simp [h]

end Scribe
end JavaScribe
