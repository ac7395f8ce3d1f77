/-!
# Sets of characters as spans of code points

A span is an arithmetic progression of code points, both ends included. A property of characters
is a list of spans; a letter-case mapping is a list of spans with the distance to add.
-/
namespace JavaScribe.Text

structure Span where
  first : Nat
  last : Nat
  step : Nat
  deriving DecidableEq, Repr

def Span.has (s : Span) (n : Nat) : Bool :=
  s.first ≤ n && n ≤ s.last && (n - s.first) % s.step == 0

def onSpans (spans : List Span) (c : Char) : Bool := spans.any (·.has c.toNat)

end JavaScribe.Text
