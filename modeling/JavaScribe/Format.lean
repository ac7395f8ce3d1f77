import JavaScribe.Format.Conversion

/-!
# Filling patterns

The arguments are taken in order, one by each directive and one more for each width or precision
that is left to them. There must be as many as are taken. Without any arguments a pattern is not
read at all and stands for itself.
-/
namespace JavaScribe
namespace Format

/-- The integer that stands for a star, and the remaining arguments. -/
def takeStar : List Value → Except FormatError (Int × List Value)
  | [] => .error .missingArgument
  | .int n :: args => .ok (n, args)
  | .bool b :: args => .ok (if b then 1 else 0, args)
  | _ :: _ => .error .starNotInteger

/-- A width from the arguments that is negative asks for padding on the right. The least has no
opposite and asks for no width. -/
def takeWidth (flags : Flags) (args : List Value) :
    Extent → Except FormatError (Flags × Nat × List Value)
  | .absent => .ok (flags, 0, args)
  | .exactly n => if n < Number.twoTo 63 then .ok (flags, n, args) else .error .widthTooBig
  | .argument => do
    let (n, args) ← takeStar args
    if n < -(Number.twoTo 63 : Int) ∨ (Number.twoTo 63 : Int) ≤ n then
      throw (.starOutOfRange "ssize_t")
    return (if n < 0 then { flags with left := true } else flags, n.natAbs % Number.twoTo 63, args)

/-- A precision from the arguments that is negative means zero. -/
def takePrecision (args : List Value) : Extent → Except FormatError (Option Nat × List Value)
  | .absent => .ok (none, args)
  | .exactly n => if n < Number.twoTo 31 then .ok (some n, args) else .error .precisionTooBig
  | .argument => do
    let (n, args) ← takeStar args
    if n < -(Number.twoTo 31 : Int) ∨ (Number.twoTo 31 : Int) ≤ n then throw (.starOutOfRange "int")
    return (some n.toNat, args)

def Directive.field (d : Directive) (args : List Value) :
    Except FormatError (Field × List Value) := do
  let (flags, width, args) ← takeWidth d.flags args d.width
  let (precision, args) ← takePrecision args d.precision
  return (⟨flags, width, precision⟩, args)

def fill : List Segment → List Value → Except FormatError (List Char)
  | [], [] => .ok []
  | [], _ :: _ => .error .unusedArgument
  | .literal c :: rest, args => (fill rest args).map (c :: ·)
  | .keyed :: _, _ => .error .keyed
  | .unfinished d :: _, args => do
    let _ ← d.field args
    throw .incomplete
  | .directive d conversion index :: rest, args => do
    let (field, args) ← d.field args
    match args with
    | [] => throw .missingArgument
    | v :: args =>
      let text ← field.write conversion index v
      return text ++ (← fill rest args)

end Format

def interpolate (pattern : String) (args : List Value) : Except FormatError String :=
  if args.isEmpty then .ok pattern
  else
    let cs := pattern.toList
    (Format.fill (Format.segments cs.length cs) args).map String.ofList

end JavaScribe
