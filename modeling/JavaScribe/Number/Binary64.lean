import JavaScribe.Number.Rounding

/-!
# Binary floating-point numbers

A `Binary64` is a value of the 64-bit binary format, held exactly: a finite number is a natural
mantissa times a power of two, with a sign that zero has too.
-/
namespace JavaScribe

inductive Binary64 where
  | nan
  | infinite (negative : Bool)
  | finite (negative : Bool) (mantissa : Nat) (exponent : Int)
  deriving DecidableEq, Repr

namespace Binary64
open Number

/-- The value of a bit pattern: a sign, eleven bits of exponent and fifty-two of fraction. -/
def ofBits (bits : UInt64) : Binary64 :=
  let n := bits.toNat
  let negative : Bool := twoTo 63 ≤ n
  let exponent : Nat := n / twoTo 52 % twoTo 11
  let fraction : Nat := n % twoTo 52
  if exponent = 2047 then
    if fraction = 0 then .infinite negative else .nan
  else if exponent = 0 then .finite negative fraction (-1074)
  else .finite negative (twoTo 52 + fraction) ((exponent : Int) - 1075)

def magnitude (mantissa : Nat) (exponent : Int) : Fraction :=
  ⟨mantissa * twoTo exponent.toNat, twoTo (-exponent).toNat⟩

def isZero : Binary64 → Bool
  | .finite _ m _ => m == 0
  | _ => false

/-- The number nearest to an integer, ties to the even mantissa; none when it is out of range. -/
def ofInt? (i : Int) : Option Binary64 :=
  let n := i.natAbs
  let negative : Bool := i < 0
  if n = 0 then some (.finite false 0 (-1074))
  else
    let width := n.log2 + 1
    if width ≤ 53 then some (.finite negative (n * twoTo (53 - width)) ((width : Int) - 53))
    else
      let shift := width - 53
      let m := roundDiv n (twoTo shift)
      let (m, shift) := if m = twoTo 53 then (twoTo 52, shift + 1) else (m, shift)
      if 971 < shift then none else some (.finite negative m shift)

/-- The integer next to a finite number on the side of zero. -/
def truncate (negative : Bool) (mantissa : Nat) (exponent : Int) : Int :=
  let x := magnitude mantissa exponent
  let n : Nat := x.num / x.den
  if negative then -(n : Int) else n

end Binary64
end JavaScribe
