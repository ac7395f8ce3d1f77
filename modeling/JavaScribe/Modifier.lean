import JavaScribe.Text.LetterCase

/-!
# Modifiers

The modifiers of a Java declaration, in the order in which they are written.
-/
namespace JavaScribe

inductive Modifier where
  | pub
  | prot
  | priv
  | abstract
  | default
  | static
  | final
  | transient
  | volatile
  | synchronized
  | native
  | strictfp
  deriving DecidableEq, Repr

namespace Modifier

/-- All modifiers, in the order in which they are written. -/
def all : List Modifier :=
  [pub, prot, priv, abstract, default, static, final, transient, volatile, synchronized, native,
    strictfp]

def keyword : Modifier → String
  | pub => "public"
  | prot => "protected"
  | priv => "private"
  | abstract => "abstract"
  | default => "default"
  | static => "static"
  | final => "final"
  | transient => "transient"
  | volatile => "volatile"
  | synchronized => "synchronized"
  | native => "native"
  | strictfp => "strictfp"

def constant (m : Modifier) : String := m.keyword.map Char.toUpper

def ofKeyword? (s : String) : Option Modifier := all.find? (·.keyword == s)

def ofConstant? (s : String) : Option Modifier := all.find? (·.constant == s)

/-- Those of the given modifiers that there are, each once and in order. -/
def ordered (ms : List Modifier) : List Modifier := all.filter ms.contains

theorem mem_all (m : Modifier) : m ∈ all := by cases m <;> simp [all]

theorem mem_ordered {m : Modifier} {ms : List Modifier} : m ∈ ordered ms ↔ m ∈ ms := by
  simp [ordered, mem_all]

end Modifier
end JavaScribe
