import JavaScribe.Text.Quoted

/-!
# String literals

The Java string literal that stands for a text. The quote, the backslash and five control
characters have short escapes; the other control characters are given by their code points, and
all else stands for itself.
-/
namespace JavaScribe.Text

def isControl (c : Char) : Bool := c.toNat ≤ 0x1f || 0x7f ≤ c.toNat && c.toNat ≤ 0x9f

def literalChar (c : Char) : List Char :=
  if c = '\x22' ∨ c = '\\' then ['\\', c]
  else if c = '\x08' then ['\\', 'b']
  else if c = '\t' then ['\\', 't']
  else if c = '\n' then ['\\', 'n']
  else if c = '\x0c' then ['\\', 'f']
  else if c = '\r' then ['\\', 'r']
  else if isControl c then '\\' :: 'u' :: hex 4 c.toNat
  else [c]

def literal (data : String) : String :=
  String.ofList ('\x22' :: data.toList.flatMap literalChar ++ ['\x22'])

theorem literal_toList (data : String) :
    (literal data).toList = '\x22' :: data.toList.flatMap literalChar ++ ['\x22'] := by
  simp [literal]

end JavaScribe.Text
