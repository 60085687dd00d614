import QuickBooks.RoundedDecimals

/-!
# Results rounded to nearest

A sum, a product or a quotient of decimals is the exact one rounded to nearest at as
many places as it has room for.  Such a result has the sign of the exact one, and away
from zero the two differ by less than one part in `2 ^ 93`.
-/

namespace DecimalNumbers

/-- A number is another one rounded to nearest at some number of places, which are as
many as there can be, or leave no room for a further digit. -/
def IsNearest (number : Decimal) (exact : ℚ) : Prop :=
  ∃ places ≤ 28, number.scale ≤ places ∧ |number.toRat - exact| ≤ 1 / 2 / 10 ^ places ∧
    (number.toRat = exact ∨ places = 28 ∨
      2 ^ 96 ≤ 10 * ((number.unitsAt places).natAbs + 1))

namespace IsNearest

variable {number : Decimal} {exact : ℚ}

theorem abs_sub_le_scale (nearest : IsNearest number exact) :
    |number.toRat - exact| ≤ 1 / 2 / 10 ^ number.scale := by
  obtain ⟨places, -, coarse, near, -⟩ := nearest
  apply near.trans
  apply div_le_div_of_nonneg_left (by norm_num) (by positivity)
  exact pow_le_pow_right₀ (by norm_num) coarse

theorem nonneg (nearest : IsNearest number exact) (notNegative : 0 ≤ exact) :
    0 ≤ number.toRat := by
  have positive : (0 : ℚ) < 10 ^ number.scale := by positivity
  have near := (abs_le.mp nearest.abs_sub_le_scale).1
  by_contra negative
  have below : number.mantissa ≤ -1 := by
    have negativeMantissa : ¬ 0 ≤ number.mantissa := by
      intro notNegativeMantissa
      apply negative
      exact div_nonneg (by exact_mod_cast notNegativeMantissa) positive.le
    omega
  have atMost : number.toRat ≤ -1 / 10 ^ number.scale := by
    apply div_le_div_of_nonneg_right _ positive.le
    exact_mod_cast below
  have half : (1 / 2 / 10 ^ number.scale : ℚ) < 1 / 10 ^ number.scale :=
    div_lt_div_of_pos_right (by norm_num) positive
  rw [neg_div] at atMost
  linarith

theorem half_unit_le {places : ℕ} (coarse : number.scale ≤ places)
    (noRoom : 2 ^ 96 ≤ 10 * ((number.unitsAt places).natAbs + 1)) :
    1 / 2 / 10 ^ places ≤ |number.toRat| / 2 ^ 93 := by
  have positive : (0 : ℚ) < 10 ^ places := by positivity
  have large : 2 ^ 92 ≤ (number.unitsAt places).natAbs := by
    omega
  have largeRat : (2 : ℚ) ^ 92 ≤ |(number.unitsAt places : ℚ)| := by
    rw [← Int.cast_abs, Int.abs_eq_natAbs, Int.cast_natCast]
    exact_mod_cast large
  rw [Decimal.toRat_eq_unitsAt coarse, abs_div, abs_of_pos positive, div_right_comm _ _ (2 ^ 93)]
  apply div_le_div_of_nonneg_right _ positive.le
  rw [le_div_iff₀ (by norm_num)]
  calc (1 / 2 * 2 ^ 93 : ℚ) = 2 ^ 92 := by norm_num
    _ ≤ _ := largeRat

theorem close_of_one_le (nearest : IsNearest number exact) (atLeast : 1 ≤ number.toRat) :
    |number.toRat - exact| ≤ number.toRat / 2 ^ 93 := by
  have positive : 0 ≤ number.toRat := zero_le_one.trans atLeast
  obtain ⟨places, -, coarse, near, same | finest | noRoom⟩ := nearest
  · rw [same, sub_self, abs_zero, ← same]
    positivity
  · apply near.trans
    rw [finest, div_le_div_iff₀ (by norm_num) (by norm_num)]
    have scaled := mul_le_mul_of_nonneg_right atLeast (by norm_num : (0 : ℚ) ≤ 10 ^ 28)
    rw [one_mul] at scaled
    apply le_trans _ scaled
    norm_num
  · apply near.trans
    rw [← abs_of_nonneg positive]
    exact half_unit_le coarse noRoom

theorem close_of_units (nearest : IsNearest number exact) (notNegative : 0 ≤ exact) {units : ℤ}
    (isUnits : exact = units / 10 ^ 28) :
    |number.toRat - exact| ≤ number.toRat / 2 ^ 93 := by
  have positive := nearest.nonneg notNegative
  obtain ⟨places, inRange, coarse, near, same | rfl | noRoom⟩ := nearest
  · rw [same, sub_self, abs_zero, ← same]
    positivity
  · have scale : (0 : ℚ) < 10 ^ 28 := by norm_num
    rw [Decimal.toRat_eq_unitsAt coarse, isUnits, ← sub_div, abs_div, abs_of_pos scale,
      div_le_div_iff_of_pos_right scale] at near
    have sameUnits : number.unitsAt 28 - units = 0 := by
      rw [← Int.abs_lt_one_iff]
      have belowOne := near.trans_lt (by norm_num : (1 / 2 : ℚ) < 1)
      exact_mod_cast belowOne
    have same : number.toRat = exact := by
      rw [Decimal.toRat_eq_unitsAt coarse, isUnits, sub_eq_zero.mp sameUnits]
    rw [same, sub_self, abs_zero, ← same]
    positivity
  · apply near.trans
    rw [← abs_of_nonneg positive]
    exact half_unit_le coarse noRoom

end IsNearest

namespace Decimal

variable {first second result : Decimal}

/-! ### Sums and products -/

theorem noRoom_of_tooLarge {number finer divisor finerDivisor : ℕ} (positive : 0 < divisor)
    (finerPositive : 0 < finerDivisor)
    (tenfold : (finer / finerDivisor : ℚ) = 10 * (number / divisor))
    (tooLarge : 2 ^ 96 ≤ divHalfEven finer finerDivisor) :
    2 ^ 96 ≤ 10 * (divHalfEven number divisor + 1) := by
  have above := (abs_le.mp (abs_divHalfEven_sub_le finer finerPositive)).2
  have below := (abs_le.mp (abs_divHalfEven_sub_le number positive)).1
  have tooLargeRat : (2 : ℚ) ^ 96 ≤ divHalfEven finer finerDivisor := by
    exact_mod_cast tooLarge
  have enough : (2 : ℚ) ^ 96 ≤ 10 * (divHalfEven number divisor + 1) := by
    linarith
  exact_mod_cast enough

theorem isNearest_of_fits {product : ℤ} {dropped remaining : ℕ}
    (mantissaEq : result.mantissa =
      withSignOf product (divHalfEven product.natAbs (10 ^ dropped)))
    (scaleEq : result.scale = remaining)
    (finest : dropped = 0 ∨ 28 ≤ remaining ∨
      ∃ fewer, dropped = fewer + 1 ∧ 2 ^ 96 ≤ divHalfEven product.natAbs (10 ^ fewer)) :
    IsNearest result (product / 10 ^ (dropped + remaining)) := by
  have scalePositive : (0 : ℚ) < 10 ^ remaining := by positivity
  have toRatEq : result.toRat = ((withSignOf product
      (divHalfEven product.natAbs (10 ^ dropped)) : ℤ) : ℚ) / 10 ^ remaining := by
    rw [toRat, mantissaEq, scaleEq]
  have rounded := abs_round_sub_le product
    (Nat.pow_pos (n := dropped) (by norm_num : 0 < 10)) 0
  rw [pow_zero, mul_one, pow_zero, div_one, div_one] at rounded
  push_cast at rounded
  refine ⟨remaining, scaleEq ▸ result.scale_le, scaleEq.le, ?_, ?_⟩
  · rw [toRatEq, pow_add, ← div_div, ← sub_div, abs_div, abs_of_pos scalePositive]
    exact div_le_div_of_nonneg_right rounded scalePositive.le
  · rcases finest with rfl | finestScale | ⟨fewer, rfl, tooLarge⟩
    · left
      rw [toRatEq, pow_zero, zero_add]
      have whole : divHalfEven product.natAbs 1 = product.natAbs := by
        simp [divHalfEven, Nat.mod_one]
      have signed : withSignOf product product.natAbs = product := by
        unfold withSignOf
        split_ifs <;> omega
      rw [whole, signed]
    · right
      left
      exact le_antisymm (scaleEq ▸ result.scale_le) finestScale
    · right
      right
      have sameUnits : result.unitsAt remaining = result.mantissa := by
        simp [unitsAt, scaleEq]
      rw [sameUnits, mantissaEq, natAbs_withSignOf]
      apply noRoom_of_tooLarge _ _ _ tooLarge
      · positivity
      · positivity
      · push_cast
        rw [pow_succ]
        field_simp

theorem isNearest_fitProduct {product : ℤ} {dropped remaining : ℕ}
    (fitted : fitProduct product dropped remaining = some result)
    (finest : dropped = 0 ∨ 28 ≤ remaining ∨
      ∃ fewer, dropped = fewer + 1 ∧ 2 ^ 96 ≤ divHalfEven product.natAbs (10 ^ fewer)) :
    IsNearest result (product / 10 ^ (dropped + remaining)) := by
  induction remaining generalizing dropped with
  | zero =>
    unfold fitProduct at fitted
    dsimp only at fitted
    split_ifs at fitted with fits
    · obtain rfl := Option.some.inj fitted
      exact isNearest_of_fits rfl rfl finest
  | succ remaining ih =>
    unfold fitProduct at fitted
    dsimp only at fitted
    split_ifs at fitted with fits
    · obtain rfl := Option.some.inj fitted
      exact isNearest_of_fits rfl rfl finest
    · have nearest := ih fitted (by
        right
        by_cases inRange : remaining + 1 ≤ 28
        · right
          refine ⟨dropped, rfl, ?_⟩
          by_contra small
          exact fits ⟨not_le.mp small, inRange⟩
        · left
          omega)
      rwa [show dropped + 1 + remaining = dropped + (remaining + 1) by omega] at nearest

theorem toRat_mul_toRat : first.toRat * second.toRat =
    ((first.mantissa * second.mantissa : ℤ) : ℚ) / 10 ^ (0 + (first.scale + second.scale)) := by
  unfold toRat
  push_cast
  rw [zero_add, pow_add, div_mul_div_comm]

theorem isNearest_mul? (multiplied : first.mul? second = some result) :
    IsNearest result (first.toRat * second.toRat) := by
  rw [toRat_mul_toRat]
  unfold mul? at multiplied
  split_ifs at multiplied with zeroFactor
  · obtain rfl := Option.some.inj multiplied
    have nothing : first.mantissa * second.mantissa = 0 := by
      rcases zeroFactor with isZero | isZero <;> simp [isZero]
    refine ⟨0, by omega, le_refl _, ?_, .inl ?_⟩ <;> simp [nothing, toRat_zero]
  · exact isNearest_fitProduct multiplied (.inl rfl)

/-- The sum, rounded half to even where it does not fit at the finer of the two
scales. -/
def addNearest? (first second : Decimal) : Option Decimal :=
  let places := max first.scale second.scale
  fitProduct (first.unitsAt places + second.unitsAt places) 0 places

theorem isNearest_addNearest? (added : first.addNearest? second = some result) :
    IsNearest result (first.toRat + second.toRat) := by
  have nearest := isNearest_fitProduct added (.inl rfl)
  rw [toRat_eq_unitsAt (le_max_left first.scale second.scale),
    toRat_eq_unitsAt (le_max_right first.scale second.scale), ← add_div]
  rw [zero_add] at nearest
  exact_mod_cast nearest

/-! ### Quotients -/

theorem isNearest_fitQuotient {numerator : ℤ} {denominator scale : ℕ}
    (positive : 0 < denominator) (inRange : scale ≤ 28)
    (fitted : fitQuotient numerator denominator scale = some result)
    (finest : scale = 28 ∨
      2 ^ 96 ≤ divHalfEven (numerator.natAbs * 10 ^ (scale + 1)) denominator) :
    IsNearest result (numerator / denominator) := by
  -- the same at every scale at which the quotient fits
  have here : ∀ places, (places = 28 ∨
      2 ^ 96 ≤ divHalfEven (numerator.natAbs * 10 ^ (places + 1)) denominator) →
      ∀ fits : divHalfEven (numerator.natAbs * 10 ^ places) denominator < 2 ^ 96 ∧ places ≤ 28,
        IsNearest ⟨withSignOf numerator (divHalfEven (numerator.natAbs * 10 ^ places) denominator),
          places, by rw [natAbs_withSignOf]; exact fits.1, fits.2⟩ (numerator / denominator) := by
    intro places finest fits
    refine ⟨places, fits.2, le_refl _, abs_round_sub_le numerator positive places, .inr ?_⟩
    apply finest.imp_right
    intro tooLarge
    simp only [unitsAt, Nat.sub_self, pow_zero, mul_one, natAbs_withSignOf]
    apply noRoom_of_tooLarge positive positive _ tooLarge
    push_cast
    rw [pow_succ]
    ring
  induction scale with
  | zero =>
    unfold fitQuotient at fitted
    dsimp only at fitted
    split_ifs at fitted with fits
    · obtain rfl := Option.some.inj fitted
      exact here 0 finest fits
  | succ scale ih =>
    unfold fitQuotient at fitted
    dsimp only at fitted
    split_ifs at fitted with fits
    · obtain rfl := Option.some.inj fitted
      exact here (scale + 1) finest fits
    · apply ih (by omega) fitted
      right
      by_contra small
      exact fits ⟨not_le.mp small, inRange⟩

theorem isNearest_div? (divided : first.div? second = some result) :
    second.mantissa ≠ 0 ∧ IsNearest result (first.toRat / second.toRat) := by
  unfold div? at divided
  split_ifs at divided with isZero
  have positive : 0 < second.mantissa.natAbs * 10 ^ first.scale := by
    have magnitude := Int.natAbs_pos.mpr isZero
    positivity
  refine ⟨isZero, ?_⟩
  rw [toRat_div_toRat isZero]
  exact isNearest_fitQuotient positive (le_refl 28) divided (.inl rfl)

end Decimal

end DecimalNumbers
