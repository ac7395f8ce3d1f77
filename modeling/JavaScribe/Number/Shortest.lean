import JavaScribe.Number.Binary64

/-!
# The shortest decimal of a floating-point number

Of all decimals that are nearer to a number than to its neighbours, the one with the fewest
digits is taken, and of those the nearest. An end of that interval belongs to it when the mantissa
is even, since a tie is read as the even one.
-/
namespace JavaScribe.Number

/-- A coefficient times a power of ten. -/
structure Decimal where
  coefficient : Nat
  exponent : Int
  deriving DecidableEq, Repr

/-- The decimals that are read back as one number, in fractions of a common denominator. -/
structure Basin where
  low : Nat
  value : Nat
  high : Nat
  den : Nat
  /-- Whether the two ends are read back as the number too. -/
  closed : Bool
  deriving DecidableEq, Repr

/-- The neighbour below is nearer when the mantissa is the least of its exponent. -/
def Basin.of (mantissa : Nat) (exponent : Int) : Basin :=
  let unit := twoTo exponent.toNat
  let below := if mantissa = twoTo 52 ∧ -1074 < exponent then 1 else 2
  { low := (4 * mantissa - below) * unit
    value := 4 * mantissa * unit
    high := (4 * mantissa + 2) * unit
    den := 4 * twoTo (-exponent).toNat
    closed := mantissa % 2 == 0 }

/-- The basin times a power of ten. -/
def Basin.scale (b : Basin) (power : Int) : Basin :=
  let up := tenTo power.toNat
  { b with
    low := b.low * up
    value := b.value * up
    high := b.high * up
    den := b.den * tenTo (-power).toNat }

/-- Whether a whole number lies in the basin. -/
def Basin.holds (b : Basin) (n : Nat) : Bool :=
  let x := n * b.den
  if b.closed then b.low ≤ x && x ≤ b.high else b.low < x && x < b.high

/-- The whole number of the basin nearest to its value, if one of the two next to it lies in the
basin. -/
def Basin.whole? (b : Basin) : Option Nat :=
  let n := b.value / b.den
  match b.holds n, b.holds (n + 1) with
  | true, true => some (roundDiv b.value b.den)
  | true, false => some n
  | false, true => some (n + 1)
  | false, false => none

/-- Seventeen digits always suffice. -/
def shortest (mantissa : Nat) (exponent : Int) : Decimal :=
  let b := Basin.of mantissa exponent
  let lead := (Binary64.magnitude mantissa exponent).decade
  let found := (List.range 17).findSome? fun (k : Nat) =>
    let power := lead - (k : Int)
    (b.scale (-power)).whole?.map (Decimal.mk · power)
  found.getD ⟨0, 0⟩

/-- What is chosen is read back as the number. -/
theorem Basin.holds_of_whole? {b : Basin} {n : Nat} (h : b.whole? = some n) :
    b.holds n = true := by
  unfold Basin.whole? at h
  simp only at h
  split at h
  · rename_i h1 h2
    injection h with h
    subst h
    rcases roundDiv_cases b.value b.den with ⟨e, _⟩ | ⟨e, _⟩
    · rw [e]; exact h1
    · rw [e]; exact h2
  · rename_i h1 _; injection h with h; subst h; exact h1
  · rename_i _ h2; injection h with h; subst h; exact h2
  · exact absurd h (by simp)

end JavaScribe.Number
