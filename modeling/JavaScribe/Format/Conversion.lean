import JavaScribe.Format.Error
import JavaScribe.Format.Pattern
import JavaScribe.Value

/-!
# Conversions

What each letter of a directive makes of its argument. Text is cut to the precision and padded
with blanks. A number is a sign, the mark of its base and digits, and may be padded with zeros
between the mark and the digits.
-/
namespace JavaScribe.Format

structure Field where
  flags : Flags
  width : Nat
  precision : Option Nat
  deriving DecidableEq, Repr

def blanks (n : Nat) : List Char := List.replicate n ' '

def Field.pad (f : Field) (cs : List Char) : List Char :=
  let room := blanks (f.width - cs.length)
  if f.flags.left then cs ++ room else room ++ cs

def Field.text (f : Field) (s : String) : List Char :=
  match f.precision with
  | some n => f.pad (s.toList.take n)
  | none => f.pad s.toList

/-- A number, taken apart as it is written. -/
structure Numeral where
  negative : Bool
  base : List Char
  digits : List Char
  deriving DecidableEq, Repr

def Field.sign (f : Field) (negative : Bool) : List Char :=
  if negative then ['-']
  else if f.flags.plus then ['+']
  else if f.flags.space then [' ']
  else []

def Field.numeral (f : Field) (n : Numeral) : List Char :=
  let lead := f.sign n.negative ++ n.base
  let room := f.width - (lead.length + n.digits.length)
  if f.flags.left then lead ++ n.digits ++ blanks room
  else if f.flags.zero then lead ++ List.replicate room '0' ++ n.digits
  else blanks room ++ lead ++ n.digits

def maxPrecision : Nat := Number.twoTo 31 - 1

/-- The greatest number of digits that an integer can be asked for. A sign and the mark of a base
still have to fit. -/
def maxDigits : Nat := maxPrecision - 3

/-- An integer in a base, with at least as many digits as the precision says. Only by tens can it be
too long for a text. -/
def Field.integer (f : Field) (base : Nat) (mark : List Char) (upper : Bool) (n : Int) :
    Except FormatError (List Char) :=
  let least := f.precision.getD 0
  if maxDigits < least then .error .tooManyDigits
  else if base = 10 ∧ (Value.int n).isOverlong then .error .integerTooLong
  else
    let digits := Nat.toDigits base n.natAbs
    let digits := List.replicate (least - digits.length) '0' ++ digits
    let mark := if f.flags.full then mark else []
    .ok (f.numeral ⟨decide (n < 0), mark, if upper then digits.map Char.toUpper else digits⟩)

/-- The integer that a value counts, the part before the point of a floating-point number. -/
def wholeOf (conversion : Char) : Value → Except FormatError Int
  | .bool b => .ok (if b then 1 else 0)
  | .int n => .ok n
  | .float .nan => .error .nanToInteger
  | .float (.infinite _) => .error .infinityToInteger
  | .float (.finite negative m e) => .ok (Binary64.truncate negative m e)
  | v => .error (.notReal conversion v.kind)

def integerOf (conversion : Char) : Value → Except FormatError Int
  | .bool b => .ok (if b then 1 else 0)
  | .int n => .ok n
  | v => .error (.notInteger conversion v.kind)

/-- The floating-point number that a value is, or is nearest to. -/
def realOf : Value → Except FormatError Binary64
  | .bool b => .ok (.finite false (if b then Number.twoTo 52 else 0) (if b then -52 else -1074))
  | .int n =>
    match Binary64.ofInt? n with
    | some x => .ok x
    | none => .error .integerTooLarge
  | .float x => .ok x
  | v => .error (.notNumber v.kind)

/-- The character that a value is or counts. -/
def characterOf : Value → Except FormatError Char
  | .text s =>
    match s.toList with
    | [c] => .ok c
    | _ => .error .notCharacter
  | .bool b => .ok (if b then '\x01' else '\x00')
  | .int n =>
    if n < 0 ∨ 0x110000 ≤ n then .error .characterOutOfRange
    else .ok (Char.ofNat n.toNat)
  | _ => .error .notCharacter

inductive Style where
  | fixed
  | scientific
  | general
  deriving DecidableEq, Repr

/-- How many digits follow the point before a power of ten. The greatest precision leaves no room
for the digit before the point, and then that digit is the only one. -/
def scientificPlaces (precision : Nat) : Nat := if precision = maxPrecision then 0 else precision

/-- A floating-point number, with six for the precision where none is given. -/
def Field.real (f : Field) (style : Style) (upper : Bool) (x : Binary64) : List Char :=
  let named (name : String) : List Char :=
    if upper then name.toList.map Char.toUpper else name.toList
  match x with
  | .nan => f.numeral ⟨false, [], named "nan"⟩
  | .infinite negative => f.numeral ⟨negative, [], named "inf"⟩
  | .finite negative m e =>
    let layout : Number.Layout := ⟨f.flags.full, if upper then 'E' else 'e'⟩
    let x := Binary64.magnitude m e
    let precision := f.precision.getD 6
    f.numeral ⟨negative, [], match style with
      | .fixed => layout.fixed x precision
      | .scientific => layout.scientific x (scientificPlaces precision)
      | .general => layout.general x precision⟩

/-- What the argument of a directive is written as, in a field of any width. -/
def Field.convert (f : Field) (conversion : Char) (index : Nat) (v : Value) :
    Except FormatError (List Char) :=
  match conversion with
  | 's' => v.asText.map f.text
  | 'r' => v.asQuoted.map f.text
  | 'a' => v.asQuoted.map fun text => f.text (Text.asciiOnly text)
  | 'd' => wholeOf 'd' v >>= f.integer 10 [] false
  | 'i' => wholeOf 'i' v >>= f.integer 10 [] false
  | 'u' => wholeOf 'u' v >>= f.integer 10 [] false
  | 'o' => integerOf 'o' v >>= f.integer 8 ['0', 'o'] false
  | 'x' => integerOf 'x' v >>= f.integer 16 ['0', 'x'] false
  | 'X' => integerOf 'X' v >>= f.integer 16 ['0', 'X'] true
  | 'e' => (realOf v).map (f.real .scientific false)
  | 'E' => (realOf v).map (f.real .scientific true)
  | 'f' => (realOf v).map (f.real .fixed false)
  | 'F' => (realOf v).map (f.real .fixed true)
  | 'g' => (realOf v).map (f.real .general false)
  | 'G' => (realOf v).map (f.real .general true)
  | 'c' => (characterOf v).map fun c => f.pad [c]
  | c => .error (.unknownConversion c index)

/-- The greatest width that there can be memory for. -/
def maxWidth : Nat := Number.twoTo 36

/-- What the argument of a directive is written as. A field that is too wide is found to be so only
when its text has been made. -/
def Field.write (f : Field) (conversion : Char) (index : Nat) (v : Value) :
    Except FormatError (List Char) :=
  if maxWidth < f.width then do
    let _ ← { f with width := 0 }.convert conversion index v
    throw .outOfMemory
  else f.convert conversion index v

theorem Field.text_plain (s : String) : Field.text ⟨{}, 0, none⟩ s = s.toList := by
  simp [Field.text, Field.pad, blanks]

end JavaScribe.Format
