import JavaScribe.Number.Shortest

/-!
# How decimals are laid out

A magnitude is written with a fixed number of places, with one digit before the point and a power
of ten, or in whichever of the two is the more readable. A floating-point number by itself is
written with its shortest digits: positionally from `1e-4` to below `1e16`, and then with at least
one digit after the point.
-/
namespace JavaScribe
namespace Number

/-- Decimal digits, with zeros in front up to a width. -/
def padded (n width : Nat) : List Char :=
  let digits := Nat.toDigits 10 n
  List.replicate (width - digits.length) '0' ++ digits

def dropTrailingZeros (digits : List Char) : List Char :=
  (digits.reverse.dropWhile (· == '0')).reverse

/-- A power of ten: its mark, its sign and at least two digits. -/
def powerText (mark : Char) (e : Int) : List Char :=
  mark :: (if e < 0 then '-' else '+') :: padded e.natAbs 2

/-- How a magnitude is to be written. -/
structure Layout where
  /-- Keep the point where no digit follows it, and the zeros at the end of `general`. -/
  full : Bool
  /-- The letter before a power of ten. -/
  mark : Char
  deriving DecidableEq, Repr

def Layout.fraction (l : Layout) (digits : List Char) : List Char :=
  if digits.isEmpty && !l.full then [] else '.' :: digits

def zeros (n : Nat) : List Char := List.replicate n '0'

/-- As many places after the point as are asked for, without those that are zero because the
denominator is a power of two. -/
def exactPlaces (x : Fraction) (places : Nat) : Nat :=
  if x.den = twoTo x.den.log2 then min places x.den.log2 else places

def Layout.fixed (l : Layout) (x : Fraction) (places : Nat) : List Char :=
  let exact := exactPlaces x places
  let digits := padded (x.scale exact).round (exact + 1)
  let whole := digits.length - exact
  digits.take whole ++ l.fraction (digits.drop whole ++ zeros (places - exact))

/-- The first `count` digits of a magnitude, rounded, and the power of ten of the first. Zeros at
the end may be left out. -/
def leadingDigits (x : Fraction) (count : Nat) : List Char × Int :=
  if x.num = 0 then (['0'], 0)
  else
    let e := x.decade
    let exact := exactPlaces x ((count : Int) - 1 - e).toNat
    let count := min count (exact + 1 + e).toNat
    let c := (x.scale ((count : Int) - 1 - e)).round
    if c = tenTo count then (padded (c / 10) count, e + 1) else (padded c count, e)

/-- One digit before the point, a given number after it, and a power of ten. -/
def Layout.scientific (l : Layout) (x : Fraction) (places : Nat) : List Char :=
  let (digits, e) := leadingDigits x (places + 1)
  let rest := digits.drop 1
  digits.take 1 ++ l.fraction (rest ++ zeros (places - rest.length)) ++ powerText l.mark e

/-- A given number of significant digits, positionally if the first stands for a power of ten from
`-4` to below that number. -/
def Layout.general (l : Layout) (x : Fraction) (significant : Nat) : List Char :=
  let count := max significant 1
  let (digits, e) := leadingDigits x count
  let digits := if l.full then digits ++ zeros (count - digits.length) else digits
  let trim := if l.full then id else dropTrailingZeros
  if e < -4 ∨ (count : Int) ≤ e then
    digits.take 1 ++ l.fraction (trim (digits.drop 1)) ++ powerText l.mark e
  else if e < 0 then
    '0' :: l.fraction (trim (zeros (e.natAbs - 1) ++ digits))
  else
    let whole := e.toNat + 1
    let digits := digits ++ zeros (whole - digits.length)
    digits.take whole ++ l.fraction (trim (digits.drop whole))

def Decimal.text (d : Decimal) : List Char :=
  let all := Nat.toDigits 10 d.coefficient
  let e := d.exponent + all.length - 1
  let digits := dropTrailingZeros all
  if e < -4 ∨ 16 ≤ e then
    let fraction := digits.drop 1
    digits.take 1 ++ (if fraction.isEmpty then [] else '.' :: fraction) ++ powerText 'e' e
  else if e < 0 then
    '0' :: '.' :: List.replicate (e.natAbs - 1) '0' ++ digits
  else
    let whole := e.toNat + 1
    let fraction := digits.drop whole
    digits.take whole ++ List.replicate (whole - digits.length) '0' ++
      '.' :: (if fraction.isEmpty then ['0'] else fraction)

end Number

namespace Binary64
open Number

def signed (negative : Bool) (digits : List Char) : List Char :=
  if negative then '-' :: digits else digits

def text : Binary64 → String
  | .nan => "nan"
  | .infinite negative => String.ofList (signed negative "inf".toList)
  | .finite negative 0 _ => String.ofList (signed negative "0.0".toList)
  | .finite negative m e => String.ofList (signed negative (shortest m e).text)

end Binary64
end JavaScribe
