import JavaScribe.Number.Binary64

/-!
# Comparing numbers

Integers and floating-point numbers are compared by what they count, and exactly. A quantity is
what such a number counts: a ratio, one of the two infinities, or nothing that could be compared.
-/
namespace JavaScribe
namespace Number

inductive Quantity where
  | nan
  | infinite (negative : Bool)
  | ratio (num : Int) (den : Nat)
  deriving DecidableEq, Repr

namespace Quantity

def ofInt (n : Int) : Quantity := ratio n 1

/-- Whether two quantities are equal. What is not a number equals nothing, itself included. -/
def agrees : Quantity → Quantity → Bool
  | infinite a, infinite b => a == b
  | ratio n d, ratio n' d' => n * d' == n' * d
  | _, _ => false

def less : Quantity → Quantity → Bool
  | infinite a, infinite b => a && !b
  | infinite a, ratio _ _ => a
  | ratio _ _, infinite b => !b
  | ratio n d, ratio n' d' => n * d' < n' * d
  | _, _ => false

end Quantity
end Number

open Number in
/-- What a floating-point number counts. The two zeros count the same. -/
def Binary64.quantity : Binary64 → Quantity
  | .nan => .nan
  | .infinite negative => .infinite negative
  | .finite negative m e =>
    let x := magnitude m e
    .ratio (if negative then -x.num else x.num) x.den

end JavaScribe
