import Mathlib.Data.Rat.Floor
import Mathlib.Tactic.Positivity
import QuickBooks.DecimalNumbers

/-!
# Decimals as whole numbers of units

At any number of places that is fine enough a decimal is a whole number of units.
-/

namespace DecimalNumbers

namespace Decimal

variable {number first second : Decimal} {places : ℕ}

def unitsAt (places : ℕ) (number : Decimal) : ℤ :=
  number.mantissa * 10 ^ (places - number.scale)

theorem toRat_eq_unitsAt (coarse : number.scale ≤ places) :
    number.toRat = number.unitsAt places / 10 ^ places := by
  have split : (10 : ℚ) ^ places = 10 ^ (places - number.scale) * 10 ^ number.scale := by
    rw [← pow_add, Nat.sub_add_cancel coarse]
  unfold toRat unitsAt
  rw [split]
  push_cast
  rw [mul_comm ((10 : ℚ) ^ (places - number.scale)), mul_div_mul_right]
  positivity

theorem toRat_pos_iff : 0 < number.toRat ↔ 0 < number.mantissa := by
  have positive : (0 : ℚ) < 10 ^ number.scale := by positivity
  unfold toRat
  rw [div_pos_iff_of_pos_right positive, Int.cast_pos]

theorem toRat_negated : number.negated.toRat = -number.toRat := by
  unfold toRat negated
  push_cast
  rw [neg_div]

end Decimal

end DecimalNumbers
