/-!
# Why a pattern cannot be filled

The causes for which a pattern and its arguments do not go together, with the message of each. One
of them goes for every text that a value is put into: an integer must not be too long for it.
-/
namespace JavaScribe

inductive FormatError where
  | incomplete
  | keyed
  | missingArgument
  | unusedArgument
  /-- A width or precision taken from the arguments is no integer. -/
  | starNotInteger
  /-- A width or precision taken from the arguments does not fit the named word. -/
  | starOutOfRange (word : String)
  | widthTooBig
  | precisionTooBig
  /-- An integer is to have more digits than a text can be asked for. -/
  | tooManyDigits
  /-- A field is wider than any memory. -/
  | outOfMemory
  | unknownConversion (conversion : Char) (index : Nat)
  | notReal (conversion : Char) (kind : String)
  | notInteger (conversion : Char) (kind : String)
  | notNumber (kind : String)
  | notCharacter
  | characterOutOfRange
  | nanToInteger
  | infinityToInteger
  | integerTooLarge
  /-- An integer has more digits than a text may have of it. -/
  | integerTooLong
  deriving DecidableEq, Repr

namespace FormatError

/-- The most digits that an integer may have in a text. -/
def maxTextDigits : Nat := 4300

/-- A character that a message shows as itself, or a question mark. -/
def shown (c : Char) : Char := if 31 ≤ c.toNat ∧ c.toNat ≤ 126 then c else '?'

def message : FormatError → String
  | incomplete => "incomplete format"
  | keyed => "format requires a mapping"
  | missingArgument => "not enough arguments for format string"
  | unusedArgument => "not all arguments converted during string formatting"
  | starNotInteger => "* wants int"
  | starOutOfRange word => "Python int too large to convert to C " ++ word
  | widthTooBig => "width too big"
  | precisionTooBig => "precision too big"
  | tooManyDigits => "precision too large"
  | outOfMemory => ""
  | unknownConversion c index =>
    "unsupported format character '" ++ String.singleton (shown c) ++ "' (0x" ++
      String.ofList (Nat.toDigits 16 c.toNat) ++ ") at index " ++ toString index
  | notReal c kind =>
    "%" ++ String.singleton c ++ " format: a real number is required, not " ++ kind
  | notInteger c kind =>
    "%" ++ String.singleton c ++ " format: an integer is required, not " ++ kind
  | notNumber kind => "must be real number, not " ++ kind
  | notCharacter => "%c requires int or char"
  | characterOutOfRange => "%c arg not in range(0x110000)"
  | nanToInteger => "cannot convert float NaN to integer"
  | infinityToInteger => "cannot convert float infinity to integer"
  | integerTooLarge => "int too large to convert to float"
  | integerTooLong =>
    "Exceeds the limit (" ++ toString maxTextDigits ++ " digits) for integer string conversion; " ++
      "use sys.set_int_max_str_digits() to increase the limit"

end FormatError
end JavaScribe
