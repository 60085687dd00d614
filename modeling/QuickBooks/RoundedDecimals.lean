import QuickBooks.DecimalUnits

/-!
# Sums and quotients of decimals

A sum at the finer of the two scales, and a quotient rounded, half to even, at the
finest scale at which it fits.
-/

namespace DecimalNumbers

namespace Decimal

variable {first second : Decimal} {places : ℕ}

/-! ### Sums -/

/-! ### Quotients -/

theorem abs_divHalfEven_sub_le (number : ℕ) {divisor : ℕ} (positive : 0 < divisor) :
    |(divHalfEven number divisor : ℚ) - number / divisor| ≤ 1 / 2 := by
  have positiveRat : (0 : ℚ) < divisor := by exact_mod_cast positive
  have rest : ((number % divisor : ℕ) : ℚ) / divisor < 1 := by
    rw [div_lt_one positiveRat]
    exact_mod_cast Nat.mod_lt number positive
  have parts : (number / divisor : ℚ) =
      (number / divisor : ℕ) + ((number % divisor : ℕ) : ℚ) / divisor := by
    have whole : (number : ℚ) = divisor * (number / divisor : ℕ) + (number % divisor : ℕ) := by
      exact_mod_cast (Nat.div_add_mod number divisor).symm
    rw [whole, add_div, mul_div_cancel_left₀ _ positiveRat.ne']
  rw [parts]
  unfold divHalfEven
  dsimp only
  split_ifs with up
  · have large : (1 / 2 : ℚ) ≤ ((number % divisor : ℕ) : ℚ) / divisor := by
      rw [div_le_div_iff₀ two_pos positiveRat, one_mul]
      have twice : divisor ≤ (number % divisor) * 2 := by omega
      exact_mod_cast twice
    push_cast
    rw [abs_le]
    constructor <;> linarith
  · have small : ((number % divisor : ℕ) : ℚ) / divisor ≤ 1 / 2 := by
      rw [div_le_div_iff₀ positiveRat two_pos, one_mul]
      have twice : (number % divisor) * 2 ≤ divisor := by omega
      exact_mod_cast twice
    have notNegative : (0 : ℚ) ≤ ((number % divisor : ℕ) : ℚ) / divisor := by positivity
    rw [abs_le]
    constructor <;> linarith

/-- The quotient rounded at a scale, or at the finest coarser one at which it
fits. -/
def fitQuotient (numerator : ℤ) (denominator scale : ℕ) : Option Decimal :=
  let magnitude := divHalfEven (numerator.natAbs * 10 ^ scale) denominator
  if fits : magnitude < 2 ^ 96 ∧ scale ≤ 28 then
    some ⟨withSignOf numerator magnitude, scale,
      by rw [natAbs_withSignOf]; exact fits.1, fits.2⟩
  else
    match scale with
    | 0 => none
    | scale + 1 => fitQuotient numerator denominator scale

/-- The quotient, nothing when it overflows or the divisor is zero. -/
def div? (first second : Decimal) : Option Decimal :=
  if second.mantissa = 0 then none
  else fitQuotient (first.mantissa * 10 ^ second.scale * second.mantissa.sign)
    (second.mantissa.natAbs * 10 ^ first.scale) 28

theorem toRat_div_toRat (notZero : second.mantissa ≠ 0) :
    first.toRat / second.toRat =
      ((first.mantissa * 10 ^ second.scale * second.mantissa.sign : ℤ) : ℚ) /
        ((second.mantissa.natAbs * 10 ^ first.scale : ℕ) : ℚ) := by
  have notZeroRat : (second.mantissa : ℚ) ≠ 0 := by exact_mod_cast notZero
  have magnitude : (second.mantissa.natAbs : ℚ) ≠ 0 := by
    exact_mod_cast Int.natAbs_ne_zero.mpr notZero
  have signed : (second.mantissa.sign : ℚ) * second.mantissa = second.mantissa.natAbs := by
    rw [Nat.cast_natAbs, ← Int.cast_mul, Int.sign_mul_self_eq_abs]
  unfold toRat
  push_cast
  rw [div_div_div_eq, div_eq_div_iff (by positivity) (by positivity), ← signed]
  ring

theorem abs_round_sub_le (numerator : ℤ) {denominator : ℕ} (positive : 0 < denominator)
    (scale : ℕ) :
    |((withSignOf numerator (divHalfEven (numerator.natAbs * 10 ^ scale) denominator) : ℤ) : ℚ) /
        10 ^ scale - numerator / denominator| ≤ 1 / 2 / 10 ^ scale := by
  have scalePositive : (0 : ℚ) < 10 ^ scale := by positivity
  have near := abs_divHalfEven_sub_le (numerator.natAbs * 10 ^ scale) positive
  generalize divHalfEven (numerator.natAbs * 10 ^ scale) denominator = magnitude at near
  have scaled : |(magnitude / 10 ^ scale : ℚ) - numerator.natAbs / denominator| ≤
      1 / 2 / 10 ^ scale := by
    have combined : (magnitude / 10 ^ scale : ℚ) - numerator.natAbs / denominator =
        (magnitude - ((numerator.natAbs * 10 ^ scale : ℕ) : ℚ) / denominator) / 10 ^ scale := by
      push_cast
      rw [sub_div, div_right_comm, mul_div_cancel_right₀ _ scalePositive.ne']
    rw [combined, abs_div, abs_of_pos scalePositive]
    exact div_le_div_of_nonneg_right near scalePositive.le
  unfold withSignOf
  split_ifs with negative
  · have opposite : (numerator.natAbs : ℚ) = -numerator := by
      rw [Nat.cast_natAbs, abs_of_neg negative, Int.cast_neg]
    rw [opposite, neg_div, sub_neg_eq_add] at scaled
    rw [← abs_neg]
    push_cast
    rwa [neg_sub, neg_div, sub_neg_eq_add, add_comm]
  · have same : (numerator.natAbs : ℚ) = numerator := by
      rw [Nat.cast_natAbs, abs_of_nonneg (not_lt.mp negative)]
    rw [same] at scaled
    rwa [Int.cast_natCast]

end Decimal

end DecimalNumbers
