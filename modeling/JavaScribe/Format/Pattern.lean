/-!
# Patterns

A pattern is text with directives in it. A directive is a percent sign, flags, a width, a
precision, a length mark that has no meaning, and the letter of a conversion; a doubled percent
sign stands for one. `segments` cuts a pattern into characters and directives. It never fails: a
directive that breaks off, or asks for its argument by key, is a segment of its own, which ends
the pattern.
-/
namespace JavaScribe.Format

structure Flags where
  left : Bool := false
  plus : Bool := false
  /-- Leave a blank where a sign would stand. -/
  space : Bool := false
  /-- Write the mark of the base, and keep the point and the zeros of a fraction. -/
  full : Bool := false
  zero : Bool := false
  deriving DecidableEq, Repr

inductive Extent where
  | absent
  | exactly (n : Nat)
  | argument
  deriving DecidableEq, Repr

structure Directive where
  flags : Flags := {}
  width : Extent := .absent
  precision : Extent := .absent
  deriving DecidableEq, Repr

inductive Segment where
  | literal (c : Char)
  /-- The index is that of the conversion's letter in the pattern. -/
  | directive (d : Directive) (conversion : Char) (index : Nat)
  | unfinished (d : Directive)
  | keyed
  deriving DecidableEq, Repr

/-- The flags after one more character, if that is a flag. -/
def Flags.add? (f : Flags) (c : Char) : Option Flags :=
  if c = '-' then some { f with left := true }
  else if c = '+' then some { f with plus := true }
  else if c = ' ' then some { f with space := true }
  else if c = '#' then some { f with full := true }
  else if c = '0' then some { f with zero := true }
  else none

/-- The leading flags, and what follows them. -/
def Flags.read (f : Flags) : List Char → Flags × List Char
  | [] => (f, [])
  | c :: cs =>
    match f.add? c with
    | some g => g.read cs
    | none => (f, c :: cs)

def digitsValue (ds : List Char) : Nat := ds.foldl (fun n d => 10 * n + (d.toNat - 0x30)) 0

/-- A leading star or number, and what follows it. -/
def Extent.read : List Char → Extent × List Char
  | [] => (.absent, [])
  | c :: cs =>
    if c = '*' then (.argument, cs)
    else if c.isDigit then
      (.exactly (digitsValue ((c :: cs).takeWhile Char.isDigit)), cs.dropWhile Char.isDigit)
    else (.absent, c :: cs)

/-- A leading point and what it introduces; the point alone means zero. -/
def Extent.readPrecision : List Char → Extent × List Char
  | [] => (.absent, [])
  | c :: cs =>
    if c = '.' then
      match Extent.read cs with
      | (.absent, rest) => (.exactly 0, rest)
      | found => found
    else (.absent, c :: cs)

def skipLength : List Char → List Char
  | [] => []
  | c :: cs => if c = 'h' ∨ c = 'l' ∨ c = 'L' then cs else c :: cs

/-- All of a directive between the percent sign and the conversion, and what follows. -/
def Directive.read (cs : List Char) : Directive × List Char :=
  let (flags, cs) := Flags.read {} cs
  let (width, cs) := Extent.read cs
  let (precision, cs) := Extent.readPrecision cs
  ({ flags, width, precision }, skipLength cs)

theorem Flags.read_length (f : Flags) (cs : List Char) : (f.read cs).2.length ≤ cs.length := by
  induction cs generalizing f with
  | nil => simp [Flags.read]
  | cons c cs ih =>
    simp only [Flags.read]
    split
    · rename_i g _
      have := ih g
      simp only [List.length_cons]
      omega
    · simp

theorem dropWhile_length_le (p : Char → Bool) (cs : List Char) :
    (cs.dropWhile p).length ≤ cs.length := (List.dropWhile_suffix p).length_le

theorem Extent.read_length (cs : List Char) : (Extent.read cs).2.length ≤ cs.length := by
  cases cs with
  | nil => simp [Extent.read]
  | cons c cs =>
    have := dropWhile_length_le Char.isDigit cs
    simp only [Extent.read]
    split
    · simp
    · split
      · simp only [List.length_cons]; omega
      · simp

theorem Extent.readPrecision_length (cs : List Char) :
    (Extent.readPrecision cs).2.length ≤ cs.length := by
  cases cs with
  | nil => simp [Extent.readPrecision]
  | cons c cs =>
    have h := Extent.read_length cs
    simp only [Extent.readPrecision]
    split
    · simp only [List.length_cons]
      split
      · rename_i rest e
        rw [e] at h
        simp only at h ⊢
        omega
      · omega
    · simp

theorem skipLength_length (cs : List Char) : (skipLength cs).length ≤ cs.length := by
  cases cs with
  | nil => simp [skipLength]
  | cons c cs => simp only [skipLength]; split <;> simp

theorem Directive.read_length (cs : List Char) : (Directive.read cs).2.length ≤ cs.length := by
  have h1 := Flags.read_length {} cs
  have h2 := Extent.read_length (Flags.read {} cs).2
  have h3 := Extent.readPrecision_length (Extent.read (Flags.read {} cs).2).2
  have h4 := skipLength_length (Extent.readPrecision (Extent.read (Flags.read {} cs).2).2).2
  simp only [Directive.read]
  omega

/-- The segments of the rest of a pattern, given the size of the whole of it. -/
def segments (size : Nat) (cs : List Char) : List Segment :=
  match cs with
  | [] => []
  | '%' :: '%' :: rest => .literal '%' :: segments size rest
  | '%' :: '(' :: _ => [.keyed]
  | '%' :: rest =>
    match h : Directive.read rest with
    | (d, []) => [.unfinished d]
    | (d, c :: after) => .directive d c (size - after.length - 1) :: segments size after
  | c :: rest => .literal c :: segments size rest
termination_by cs.length
decreasing_by
  · simp only [List.length_cons]; omega
  · have := Directive.read_length rest
    rw [h] at this
    simp only [List.length_cons] at this ⊢
    omega
  · simp

end JavaScribe.Format
