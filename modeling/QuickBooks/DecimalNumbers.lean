import Mathlib.Tactic.Linarith

/-!
# Ninety-six bit decimals

A decimal number is a mantissa of at most ninety-six bits over a power of ten
with an exponent of at most twenty-eight.  A product that does not fit is
rounded, half to even, at the first scale at which it does; when it fits at no
scale the product overflows.
-/

namespace DecimalNumbers

/-- A mantissa below `2 ^ 96` in magnitude, over `10 ^ scale`. -/
structure Decimal where
  mantissa : Int
  scale : Nat
  mantissa_lt : mantissa.natAbs < 2 ^ 96
  scale_le : scale ≤ 28
deriving DecidableEq

namespace Decimal

/-- A mantissa over a power of ten, which literals show to be in range. -/
def ofParts (mantissa : Int) (scale : Nat)
    (fits : decide (mantissa.natAbs < 2 ^ 96 ∧ scale ≤ 28) = true := by exact Eq.refl true) :
    Decimal :=
  ⟨mantissa, scale, (of_decide_eq_true fits).1, (of_decide_eq_true fits).2⟩

@[simp]
theorem mantissa_ofParts (mantissa : Int) (scale : Nat)
    (fits : decide (mantissa.natAbs < 2 ^ 96 ∧ scale ≤ 28) = true) :
    (ofParts mantissa scale fits).mantissa = mantissa :=
  rfl

@[simp]
theorem scale_ofParts (mantissa : Int) (scale : Nat)
    (fits : decide (mantissa.natAbs < 2 ^ 96 ∧ scale ≤ 28) = true) :
    (ofParts mantissa scale fits).scale = scale :=
  rfl

def zero : Decimal :=
  ofParts 0 0

def hundred : Decimal :=
  ofParts 100 0

/-- A signed integer with the sign of the first argument and the given
magnitude. -/
def withSignOf (signed : Int) (magnitude : Nat) : Int :=
  if signed < 0 then -(magnitude : Int) else magnitude

theorem natAbs_withSignOf (signed : Int) (magnitude : Nat) :
    (withSignOf signed magnitude).natAbs = magnitude := by
  unfold withSignOf
  split_ifs <;> simp

/-- Quotient rounded to nearest, a midpoint going to the even neighbour. -/
def divHalfEven (number divisor : Nat) : Nat :=
  let quotient := number / divisor
  let twice := 2 * (number % divisor)
  if divisor < twice ∨ (twice = divisor ∧ quotient % 2 = 1) then
    quotient + 1
  else quotient

def divHalfAway (number divisor : Nat) : Nat :=
  (number + divisor / 2) / divisor

theorem divHalfAway_le {number divisor : Nat} (large : 2 ≤ divisor) :
    divHalfAway number divisor ≤ number := by
  unfold divHalfAway
  rcases Nat.eq_zero_or_pos number with rfl | positive
  · rw [Nat.div_eq_of_lt (by omega)]
  · apply Nat.div_le_of_le_mul
    have scaled : divisor + number ≤ divisor * number + 1 := by
      nlinarith
    omega

/-- Drop `dropped` digits, or more when `remaining` allows, until the rounded
product fits the mantissa. -/
def fitProduct (product : Int) : (dropped remaining : Nat) → Option Decimal
  | dropped, remaining =>
    let magnitude := divHalfEven product.natAbs (10 ^ dropped)
    if fits : magnitude < 2 ^ 96 ∧ remaining ≤ 28 then
      some ⟨withSignOf product magnitude, remaining,
        by rw [natAbs_withSignOf]; exact fits.1, fits.2⟩
    else
      match remaining with
      | 0 => none
      | remaining + 1 => fitProduct product (dropped + 1) remaining

/-- The product, or nothing when it overflows.  A zero factor gives a zero of
scale zero. -/
def mul? (first second : Decimal) : Option Decimal :=
  if first.mantissa = 0 ∨ second.mantissa = 0 then some zero
  else fitProduct (first.mantissa * second.mantissa) 0 (first.scale + second.scale)

/-- Rounding to two places, a midpoint going away from zero. -/
def roundTwoPlaces (number : Decimal) : Decimal :=
  if coarse : number.scale ≤ 2 then number
  else
    ⟨withSignOf number.mantissa
        (divHalfAway number.mantissa.natAbs (10 ^ (number.scale - 2))), 2,
      by
        rw [natAbs_withSignOf]
        have large : 2 ≤ 10 ^ (number.scale - 2) :=
          le_trans (by norm_num)
            (Nat.pow_le_pow_right (by norm_num) (by omega : 1 ≤ number.scale - 2))
        exact lt_of_le_of_lt (divHalfAway_le large) number.mantissa_lt,
      by norm_num⟩

def negated (number : Decimal) : Decimal :=
  ⟨-number.mantissa, number.scale, by rw [Int.natAbs_neg]; exact number.mantissa_lt,
    number.scale_le⟩

def trunc (number : Decimal) : Int :=
  number.mantissa.tdiv (10 ^ number.scale)

/-- The digits in base ten, with as many decimal places as the scale has. -/
def render (number : Decimal) : String :=
  let magnitude := number.mantissa.natAbs
  let whole := toString (magnitude / 10 ^ number.scale)
  let places := toString (magnitude % 10 ^ number.scale)
  let padding := String.ofList (List.replicate (number.scale - places.length) '0')
  (if number.mantissa < 0 then "-" else "") ++
    (if number.scale = 0 then whole else whole ++ "." ++ padding ++ places)

def sameNumber (first second : Decimal) : Bool :=
  first.mantissa * 10 ^ second.scale = second.mantissa * 10 ^ first.scale

def atMost (first second : Decimal) : Bool :=
  first.mantissa * 10 ^ second.scale ≤ second.mantissa * 10 ^ first.scale

def toRat (number : Decimal) : ℚ :=
  number.mantissa / 10 ^ number.scale

theorem toRat_le_iff {first second : Decimal} :
    first.toRat ≤ second.toRat ↔ first.atMost second = true := by
  have positive : ∀ number : Decimal, (0 : ℚ) < 10 ^ number.scale := fun _ => by positivity
  unfold toRat atMost
  rw [div_le_div_iff₀ (positive first) (positive second), decide_eq_true_eq]
  exact_mod_cast Iff.rfl

theorem toRat_zero : zero.toRat = 0 := by
  simp [toRat, zero]

end Decimal

end DecimalNumbers
