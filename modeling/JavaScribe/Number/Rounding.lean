/-!
# Rounding fractions of natural numbers

Every decimal written by the library is found exactly: a magnitude is a fraction of natural
numbers, scaled by a power of ten and rounded to the nearest whole number, a tie to the even one.
-/
namespace JavaScribe.Number

def twoTo (power : Nat) : Nat := Nat.pow 2 power

def tenTo (power : Nat) : Nat := Nat.pow 10 power

/-- The whole number nearest to `n / d`, the even one of two at the same distance. -/
def roundDiv (n d : Nat) : Nat :=
  let q := n / d
  let r := n % d
  if 2 * r < d then q else if d < 2 * r then q + 1 else q + q % 2

structure Fraction where
  num : Nat
  den : Nat
  deriving DecidableEq, Repr

def Fraction.scale (x : Fraction) (power : Int) : Fraction :=
  ⟨x.num * tenTo power.toNat, x.den * tenTo (-power).toNat⟩

def Fraction.round (x : Fraction) : Nat := roundDiv x.num x.den

def digitCount (n : Nat) : Nat := (Nat.toDigits 10 n).length

/-- The power of ten of the leading digit of a positive fraction: the greatest whose power is not
above it. -/
def Fraction.decade (x : Fraction) : Int :=
  if x.den ≤ x.num then (digitCount (x.num / x.den) : Int) - 1
  else
    let d := digitCount (x.den / x.num)
    if x.den ≤ x.num * tenTo (d - 1) then 1 - (d : Int) else -(d : Int)

/-- Rounding gives one of the two whole numbers next to the fraction, and on each side it is no
further off than one half. -/
theorem roundDiv_cases (n d : Nat) :
    (roundDiv n d = n / d ∧ 2 * (n % d) ≤ d) ∨ (roundDiv n d = n / d + 1 ∧ d ≤ 2 * (n % d)) := by
  unfold roundDiv
  simp only
  split
  · exact .inl ⟨rfl, by omega⟩
  · split
    · exact .inr ⟨rfl, by omega⟩
    · rcases Nat.mod_two_eq_zero_or_one (n / d) with h | h
      · exact .inl ⟨by omega, by omega⟩
      · exact .inr ⟨by omega, by omega⟩

theorem two_mul_roundDiv_le (n d : Nat) : 2 * (roundDiv n d * d) ≤ 2 * n + d := by
  have h : n / d * d + n % d = n := Nat.div_add_mod' n d
  rcases roundDiv_cases n d with ⟨e, _⟩ | ⟨e, _⟩
  · rw [e]; omega
  · rw [e, Nat.add_mul]; omega

theorem le_two_mul_roundDiv (n d : Nat) (hd : 0 < d) : 2 * n ≤ 2 * (roundDiv n d * d) + d := by
  have h : n / d * d + n % d = n := Nat.div_add_mod' n d
  have hr := Nat.mod_lt n hd
  rcases roundDiv_cases n d with ⟨e, _⟩ | ⟨e, _⟩
  · rw [e]; omega
  · rw [e, Nat.add_mul]; omega

end JavaScribe.Number
