/-!
# Scopes

A scope is a context that a call has opened and a later call closes. How many scopes are open is
how deep the page is indented, and the innermost one decides which calls are in order.
-/
namespace JavaScribe

inductive Scope where
  | typeBody
  /-- A method without a body; nothing can be put into it. -/
  | abstractMethod
  | methodBody
  | constructorBody
  | controlFlow
  | annotationAttribute
  | annotationArray
  | initializer
  | switchBody
  deriving DecidableEq, Repr

instance : LawfulBEq (Option Scope) := inferInstance

namespace Scope

def all : List Scope :=
  [typeBody, abstractMethod, methodBody, constructorBody, controlFlow, annotationAttribute,
    annotationArray, initializer, switchBody]

def label : Scope → String
  | typeBody => "type"
  | abstractMethod => "abstract method"
  | methodBody => "method"
  | constructorBody => "constructor"
  | controlFlow => "control flow"
  | annotationAttribute => "annotation attribute"
  | annotationArray => "annotation array value"
  | initializer => "initializer"
  | switchBody => "switch"

def ofLabel? (s : String) : Option Scope := all.find? (·.label == s)

def statementScopes : List Scope :=
  [methodBody, constructorBody, controlFlow, initializer, switchBody]

def place : Option Scope → String
  | some s => s.label
  | none => "file level"

theorem mem_all (s : Scope) : s ∈ all := by cases s <;> simp [all]

end Scope

abbrev Scopes := List Scope

namespace Scopes

def top (s : Scopes) : Option Scope := s.head?

def allowsStatement (s : Scopes) : Bool :=
  match s.top with
  | some t => Scope.statementScopes.contains t
  | none => false

end Scopes
end JavaScribe
