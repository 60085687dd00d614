import QuickBooks.LandedCosts
import QuickBooks.NearestDecimals
import QuickBooks.FreightAllocations
import Mathlib.Algebra.Order.Ring.Pow

/-!
# Two allocations of one freight

The replica floors its shares and the ledger cuts them towards zero, and of shares that
are not negative both make the same cents and deal out the same leftover.  The decimals'
sum of the board feet falls short by less than one part in `2 ^ 93` for a line, so the
floors of a thousand million lines cannot come to more than the freight.
-/

namespace QuickBooks

open DecimalNumbers ExceptPrograms

/-- What the decimals promise: a sum or a quotient that they give is rounded to nearest,
and nothing is divided by zero. -/
structure ShopFloor.DecimalArithmetic.Rounds (arith : ShopFloor.DecimalArithmetic) : Prop where
  add {first second sum : Decimal} : arith.add first second = some sum →
    IsNearest sum (first.toRat + second.toRat)
  div {dividend divisor quotient : Decimal} : arith.div dividend divisor = some quotient →
    divisor.mantissa ≠ 0 ∧ IsNearest quotient (dividend.toRat / divisor.toRat)

namespace Mfg

namespace Landing

open ShopFloor (DecimalArithmetic allocateFreight boardFootWeight dealCents dealOrder freightShare
  sumDecimals)

variable {arith : DecimalArithmetic} {freight : Money} {total : Decimal} {bf : List Decimal}

/-! ### The same decimals -/

theorem toRat_nonneg_iff {number : Decimal} : 0 ≤ number.toRat ↔ 0 ≤ number.mantissa := by
  have positive : (0 : ℚ) < 10 ^ number.scale := by positivity
  rw [Decimal.toRat, le_div_iff₀ positive, zero_mul]
  exact_mod_cast Iff.rfl

theorem toRat_eq_zero_iff {number : Decimal} : number.toRat = 0 ↔ number.mantissa = 0 := by
  simp [Decimal.toRat]

theorem trunc_eq_floor {number : Decimal} (notNegative : 0 ≤ number.toRat) :
    number.trunc = number.floor :=
  Int.tdiv_eq_ediv_of_nonneg (toRat_nonneg_iff.mp notNegative)

theorem orPanic_eq_ok_iff {α : Type} {candidate : Option α} {result : α} :
    orPanic candidate = .ok result ↔ candidate = some result :=
  orRefuse_eq_ok_iff

theorem shopFloor_orPanic_eq_ok_iff {α : Type} {candidate : Option α} {result : α} :
    ShopFloor.orPanic candidate = .ok result ↔ candidate = some result :=
  orRefuse_eq_ok_iff

theorem sumDecimals_of_sumBoardFeet (sums : sumBoardFeet arith bf = .ok total) :
    sumDecimals arith bf = .ok total := by
  unfold sumBoardFeet at sums
  unfold sumDecimals
  generalize Decimal.zero = start at sums ⊢
  induction bf generalizing start with
  | nil => exact congrArg Except.ok (Except.ok.inj sums)
  | cons feet bf ih =>
    rw [List.foldlM_cons, bind_eq_ok_iff] at sums ⊢
    obtain ⟨sum, adds, sums⟩ := sums
    exact ⟨sum, shopFloor_orPanic_eq_ok_iff.mpr (orPanic_eq_ok_iff.mp adds), ih sum sums⟩

theorem ofInt_of_ofWhole {number : ℤ} {decimal : Decimal} (whole : ofWhole number = .ok decimal) :
    ShopFloor.ofInt number = .ok decimal := by
  unfold ofWhole at whole
  unfold ShopFloor.ofInt
  split_ifs at whole ⊢ with fits
  · exact congrArg Except.ok (Except.ok.inj whole)

theorem toRat_of_ofWhole {number : ℤ} {decimal : Decimal} (whole : ofWhole number = .ok decimal) :
    decimal.toRat = number := by
  unfold ofWhole at whole
  split_ifs at whole with fits
  obtain rfl := Except.ok.inj whole
  simp [Decimal.toRat]

theorem freightShare_of_exactShare {weight share rest : Decimal}
    (shares : exactShare arith freight total weight = .ok share) (notNegative : 0 ≤ share.toRat)
    (rests : fraction arith share = .ok rest) :
    freightShare arith freight total weight = .ok (floorCents share, rest) := by
  unfold exactShare at shares
  unfold fraction at rests
  simp only [bind_eq_ok_iff, orPanic_eq_ok_iff] at shares rests
  obtain ⟨cents, isCents, product, multiplies, divides⟩ := shares
  obtain ⟨whole, isWhole, subtracts⟩ := rests
  have truncEq := trunc_eq_floor notNegative
  simp only [freightShare, bind_eq_ok_iff, pure_eq_ok_iff, ShopFloor.mul, ShopFloor.div,
    ShopFloor.sub, ShopFloor.add, ShopFloor.neg, shopFloor_orPanic_eq_ok_iff]
  refine ⟨cents, ofInt_of_ofWhole isCents, product, multiplies, share, divides, whole, ?_,
    rest, subtracts, ?_⟩
  · rw [truncEq]
    exact ofInt_of_ofWhole isWhole
  · rw [truncEq]
    rfl

/-! ### Sums and shares that are not negative -/

def part : ℚ :=
  1 / 2 ^ 93

theorem part_pos : 0 < part := by
  norm_num [part]

theorem toRat_eq_units (number : Decimal) :
    number.toRat = (number.unitsAt 28 : ℤ) / 10 ^ 28 :=
  Decimal.toRat_eq_unitsAt number.scale_le

/-- The decimals' sum is the exact one up to a part for every term. -/
structure AddsUp (bf : List Decimal) (total : Decimal) : Prop where
  nonneg : 0 ≤ total.toRat
  lower : total.toRat * (1 - part) ^ bf.length ≤ (bf.map Decimal.toRat).sum
  upper : (bf.map Decimal.toRat).sum ≤ total.toRat * (1 + part) ^ bf.length

theorem AddsUp.snoc {feet sum : Decimal} (addsUp : AddsUp bf total)
    (notNegative : 0 ≤ feet.toRat) (nearest : IsNearest sum (total.toRat + feet.toRat)) :
    AddsUp (bf ++ [feet]) sum := by
  have exactNonneg := add_nonneg addsUp.nonneg notNegative
  have close : |sum.toRat - (total.toRat + feet.toRat)| ≤ sum.toRat * part := by
    have units : total.toRat + feet.toRat =
        ((total.unitsAt 28 + feet.unitsAt 28 : ℤ) : ℚ) / 10 ^ 28 := by
      rw [toRat_eq_units total, toRat_eq_units feet]
      push_cast
      rw [add_div]
    have bound := nearest.close_of_units exactNonneg units
    rwa [part, mul_one_div]
  obtain ⟨below, above⟩ := abs_le.mp close
  have onePart : (1 - part) ^ bf.length ≤ 1 :=
    pow_le_one₀ (by norm_num [part]) (by linarith [part_pos])
  have oneMore : 1 ≤ (1 + part) ^ bf.length :=
    one_le_pow₀ (by linarith [part_pos])
  have lowerPositive : 0 ≤ (1 - part) ^ bf.length :=
    pow_nonneg (by norm_num [part]) _
  refine ⟨nearest.nonneg exactNonneg, ?_, ?_⟩
  · rw [List.length_append, List.length_singleton, pow_succ, List.map_append, List.sum_append,
      List.map_singleton, List.sum_singleton]
    calc sum.toRat * ((1 - part) ^ bf.length * (1 - part))
        = sum.toRat * (1 - part) * (1 - part) ^ bf.length := by ring
      _ ≤ (total.toRat + feet.toRat) * (1 - part) ^ bf.length :=
          mul_le_mul_of_nonneg_right (by linarith) lowerPositive
      _ ≤ (bf.map Decimal.toRat).sum + feet.toRat := by
          rw [add_mul]
          exact add_le_add addsUp.lower (mul_le_of_le_one_right notNegative onePart)
  · rw [List.length_append, List.length_singleton, pow_succ, List.map_append, List.sum_append,
      List.map_singleton, List.sum_singleton]
    calc (bf.map Decimal.toRat).sum + feet.toRat
        ≤ (total.toRat + feet.toRat) * (1 + part) ^ bf.length := by
          rw [add_mul]
          exact add_le_add addsUp.upper (le_mul_of_one_le_right notNegative oneMore)
      _ ≤ sum.toRat * (1 + part) * (1 + part) ^ bf.length :=
          mul_le_mul_of_nonneg_right (by linarith) (by linarith)
      _ = sum.toRat * ((1 + part) ^ bf.length * (1 + part)) := by ring

theorem addsUp_of_sumBoardFeet (rounds : arith.Rounds)
    (notNegative : ∀ feet ∈ bf, 0 ≤ feet.toRat) (sums : sumBoardFeet arith bf = .ok total) :
    AddsUp bf total := by
  have kept := foldlM_invariant
    (fun consumed (sum : Decimal) =>
      (∀ feet ∈ consumed, 0 ≤ feet.toRat) → AddsUp consumed sum)
    (by
      intro consumed feet before after addsUp adds allNonneg
      rw [List.forall_mem_append] at allNonneg
      exact (addsUp allNonneg.1).snoc (allNonneg.2 feet List.mem_cons_self)
        (rounds.add (orPanic_eq_ok_iff.mp adds)))
    (by
      intro _
      refine ⟨?_, ?_, ?_⟩ <;> simp [Decimal.toRat_zero])
    sums
  exact kept notNegative

theorem exists_pos_of_addsUp (addsUp : AddsUp bf total) (notZero : total.mantissa ≠ 0) :
    0 < total.toRat ∧ ∃ feet ∈ bf, 0 < feet.toRat := by
  have positive : 0 < total.toRat := by
    apply lt_of_le_of_ne addsUp.nonneg
    exact fun isZero => notZero (toRat_eq_zero_iff.mp isZero.symm)
  refine ⟨positive, ?_⟩
  by_contra none
  push Not at none
  have atMost : (bf.map Decimal.toRat).sum ≤ 0 := by
    simpa using List.sum_le_sum (g := fun _ => (0 : ℚ)) none
  have partLess : 0 < 1 - part := by norm_num [part]
  have product := mul_pos positive (pow_pos partLess bf.length)
  linarith [addsUp.lower]

theorem floor_le_toRat (number : Decimal) : (number.floor : ℚ) ≤ number.toRat := by
  have positive : (0 : ℤ) < 10 ^ number.scale := by positivity
  have cut := Int.ediv_mul_le number.mantissa positive.ne'
  rw [Decimal.toRat, le_div_iff₀ (by positivity)]
  exact_mod_cast cut

theorem floorCents_nonneg {share : Decimal} (notNegative : 0 ≤ share.toRat) :
    0 ≤ floorCents share := by
  have floorNonneg : 0 ≤ share.floor :=
    Int.ediv_nonneg (toRat_nonneg_iff.mp notNegative) (by positivity)
  unfold floorCents
  split_ifs
  · exact floorNonneg
  · exact le_refl 0

theorem floorCents_le {share : Decimal} (notNegative : 0 ≤ share.toRat) :
    (floorCents share : ℚ) ≤ share.toRat := by
  unfold floorCents
  split_ifs
  · exact floor_le_toRat share
  · exact_mod_cast notNegative

def IsFloor (freight : Money) (total weight : Decimal) (share : ℤ × Decimal) : Prop :=
  0 ≤ share.1 ∧ (share.1 : ℚ) * (1 - part) ^ 2 ≤ freight.minor * weight.toRat / total.toRat

theorem share_spec (rounds : arith.Rounds) {weight share : Decimal} (cost : 0 ≤ freight.minor)
    (weightNonneg : 0 ≤ weight.toRat) (totalNonneg : 0 ≤ total.toRat)
    (shares : exactShare arith freight total weight = .ok share) :
    total.mantissa ≠ 0 ∧ 0 ≤ share.toRat ∧
      ∀ rest, IsFloor freight total weight (floorCents share, rest) := by
  unfold exactShare at shares
  simp only [bind_eq_ok_iff, orPanic_eq_ok_iff] at shares
  obtain ⟨cents, isCents, product, multiplies, divides⟩ := shares
  have costRat : (0 : ℚ) ≤ freight.minor := by exact_mod_cast cost
  have exactNonneg : 0 ≤ cents.toRat * weight.toRat := by
    rw [toRat_of_ofWhole isCents]
    exact mul_nonneg costRat weightNonneg
  have productNearest := Decimal.isNearest_mul? multiplies
  have productNonneg := productNearest.nonneg exactNonneg
  obtain ⟨notZero, shareNearest⟩ := rounds.div divides
  have quotientNonneg : 0 ≤ product.toRat / total.toRat := div_nonneg productNonneg totalNonneg
  have shareNonneg := shareNearest.nonneg quotientNonneg
  refine ⟨notZero, shareNonneg, fun rest => ⟨floorCents_nonneg shareNonneg, ?_⟩⟩
  dsimp only
  by_cases someCents : floorCents share = 0
  · rw [someCents, Int.cast_zero, zero_mul]
    exact div_nonneg (mul_nonneg costRat weightNonneg) totalNonneg
  -- a share of at least a cent is close to the quotient, and the product to its own
  have atLeast : (1 : ℚ) ≤ floorCents share := by
    have notNegative := floorCents_nonneg shareNonneg
    have positive : 1 ≤ floorCents share := by omega
    exact_mod_cast positive
  have shareClose := shareNearest.close_of_one_le (atLeast.trans (floorCents_le shareNonneg))
  have isUnits : cents.toRat * weight.toRat =
      ((freight.minor * weight.unitsAt 28 : ℤ) : ℚ) / 10 ^ 28 := by
    rw [toRat_of_ofWhole isCents, toRat_eq_units weight]
    push_cast
    rw [mul_div_assoc]
  have productClose := productNearest.close_of_units exactNonneg isUnits
  rw [toRat_of_ofWhole isCents] at productClose
  have shareBound : share.toRat * (1 - part) ≤ product.toRat / total.toRat := by
    have above := (abs_le.mp shareClose).2
    rw [part, mul_sub, mul_one, mul_one_div]
    linarith
  have productBound : product.toRat * (1 - part) ≤ freight.minor * weight.toRat := by
    have above := (abs_le.mp productClose).2
    rw [part, mul_sub, mul_one, mul_one_div]
    linarith
  have partLess : 0 ≤ 1 - part := by norm_num [part]
  calc (floorCents share : ℚ) * (1 - part) ^ 2
      ≤ share.toRat * (1 - part) ^ 2 :=
        mul_le_mul_of_nonneg_right (floorCents_le shareNonneg) (by positivity)
    _ = share.toRat * (1 - part) * (1 - part) := by ring
    _ ≤ product.toRat / total.toRat * (1 - part) :=
        mul_le_mul_of_nonneg_right shareBound partLess
    _ = product.toRat * (1 - part) / total.toRat := by ring
    _ ≤ freight.minor * weight.toRat / total.toRat :=
        div_le_div_of_nonneg_right productBound totalNonneg

/-! ### The floors of the shares -/

theorem sum_floors_le {shares : List (ℤ × Decimal)} (addsUp : AddsUp bf total)
    (positive : 0 < total.toRat) (cost : 0 ≤ freight.minor)
    (floors : List.Forall₂ (IsFloor freight total) bf shares)
    (few : bf.length ≤ 10 ^ 9) : (shares.map Prod.fst).sum ≤ freight.minor := by
  have summed : ((shares.map Prod.fst).sum : ℚ) * (1 - part) ^ 2 ≤
      freight.minor * (bf.map Decimal.toRat).sum / total.toRat := by
    clear addsUp few
    induction floors with
    | nil => simp
    | cons floor _ ih =>
      rw [List.map_cons, List.sum_cons, List.map_cons, List.sum_cons, Int.cast_add, add_mul,
        mul_add, add_div]
      exact add_le_add floor.2 ih
  have upper := freight.cents.le_upper
  change freight.minor ≤ 9223372036854775807 at upper
  by_contra more
  have atLeast : (freight.minor + 1 : ℚ) ≤ ((shares.map Prod.fst).sum : ℤ) := by
    have step : freight.minor + 1 ≤ (shares.map Prod.fst).sum := by omega
    exact_mod_cast step
  have costRat : (0 : ℚ) ≤ freight.minor := by exact_mod_cast cost
  have upperRat : (freight.minor : ℚ) + 1 ≤ 2 ^ 63 := by
    have step : freight.minor + 1 ≤ 2 ^ 63 := by omega
    exact_mod_cast step
  have fewRat : (bf.length : ℚ) ≤ 10 ^ 9 := by exact_mod_cast few
  have partLess : 0 ≤ 1 - part := by norm_num [part]
  have grown : (freight.minor + 1) * (1 - part) ^ 2 ≤
      freight.minor * (1 + part) ^ bf.length := by
    calc (freight.minor + 1) * (1 - part) ^ 2
        ≤ ((shares.map Prod.fst).sum : ℤ) * (1 - part) ^ 2 :=
          mul_le_mul_of_nonneg_right atLeast (by positivity)
      _ ≤ freight.minor * (bf.map Decimal.toRat).sum / total.toRat := summed
      _ ≤ freight.minor * (1 + part) ^ bf.length := by
          rw [div_le_iff₀ positive, mul_assoc, mul_comm (_ ^ _)]
          exact mul_le_mul_of_nonneg_left addsUp.upper costRat
  have cancelled : (1 + part) ^ bf.length * (1 - part) ^ bf.length ≤ 1 := by
    rw [← mul_pow]
    exact pow_le_one₀ (by norm_num [part]) (by norm_num [part])
  have shrunk : (freight.minor + 1) * (1 - part) ^ (bf.length + 2) ≤ freight.minor := by
    calc (freight.minor + 1) * (1 - part) ^ (bf.length + 2)
        = (freight.minor + 1) * (1 - part) ^ 2 * (1 - part) ^ bf.length := by ring
      _ ≤ freight.minor * (1 + part) ^ bf.length * (1 - part) ^ bf.length :=
          mul_le_mul_of_nonneg_right grown (by positivity)
      _ = freight.minor * ((1 + part) ^ bf.length * (1 - part) ^ bf.length) := by ring
      _ ≤ freight.minor := mul_le_of_le_one_right costRat cancelled
  have bernoulli := one_add_mul_le_pow (by norm_num [part] : (-2 : ℚ) ≤ -part) (bf.length + 2)
  rw [← sub_eq_add_neg] at bernoulli
  have linear : (freight.minor + 1 : ℚ) * (1 + ((bf.length + 2 : ℕ) : ℚ) * -part) ≤
      freight.minor :=
    (mul_le_mul_of_nonneg_left bernoulli (by linarith)).trans shrunk
  have lost : (freight.minor + 1 : ℚ) * (((bf.length + 2 : ℕ) : ℚ) * part) ≤
      2 ^ 63 * ((10 ^ 9 + 2) * part) := by
    apply mul_le_mul upperRat _ _ (by positivity)
    · apply mul_le_mul_of_nonneg_right _ part_pos.le
      push_cast
      linarith
    · exact mul_nonneg (Nat.cast_nonneg _) part_pos.le
  have little : (2 ^ 63 * ((10 ^ 9 + 2) * part) : ℚ) < 1 := by norm_num [part]
  linarith

/-! ### The cents of one list of weights -/

theorem inSixtyFour_eq_ok_iff {number result : ℤ} :
    inSixtyFour number = .ok result ↔
      (-9223372036854775808 ≤ number ∧ number ≤ 9223372036854775807) ∧ result = number := by
  unfold inSixtyFour
  split_ifs with fits
  · rw [pure_eq_ok_iff]
    exact ⟨fun same => ⟨fits, same.symm⟩, fun same => same.2.symm⟩
  · simp [fits]

theorem leftoverOrder_map_snd (shares : List (ℤ × Decimal)) :
    leftoverOrder (shares.map Prod.snd) = dealOrder shares := by
  unfold leftoverOrder dealOrder
  rw [List.zipIdx_map, ← List.map_insertionSort (fun first second : (ℤ × Decimal) × ℕ =>
    ShopFloor.isLess second.1.2 first.1.2 ∨
      (!ShopFloor.isLess first.1.2 second.1.2 ∧ first.2 ≤ second.2)), List.map_map]
  · rfl
  · intro first _ second _
    exact Iff.rfl

theorem sum_of_foldlM_inSixtyFour {cents : List ℤ} {allocated : ℤ}
    (adds : cents.foldlM (fun sum share => inSixtyFour (sum + share)) 0 = .ok allocated) :
    allocated = cents.sum := by
  apply foldlM_invariant (fun consumed (sum : ℤ) => sum = consumed.sum) _ rfl adds
  intro consumed share before after same step
  rw [(inSixtyFour_eq_ok_iff.mp step).2, same]
  simp

/-- The shares of some weights, floored and with their fractions, as the ledger has
them. -/
structure SharedBy (arith : DecimalArithmetic) (freight : Money) (bf : List Decimal)
    (total : Decimal) (shares : List (ℤ × Decimal)) : Prop where
  addsUp : AddsUp bf total
  notZero : total.mantissa ≠ 0
  sums : sumDecimals arith bf = .ok total
  made : bf.mapM (freightShare arith freight total) = .ok shares
  floors : List.Forall₂ (IsFloor freight total) bf shares

theorem exists_sharedBy (rounds : arith.Rounds) (cost : 0 ≤ freight.minor) (notEmpty : bf ≠ [])
    (notNegative : ∀ feet ∈ bf, 0 ≤ feet.toRat) {cents : List ℤ}
    (shared : freightShares arith freight bf = .ok cents) :
    ∃ total shares, SharedBy arith freight bf total shares ∧
      cents = dealCents (dealOrder shares) (freight.minor - (shares.map Prod.fst).sum).toNat 0
        (shares.map Prod.fst) := by
  unfold freightShares at shared
  simp only [bind_eq_ok_iff, pure_eq_ok_iff] at shared
  obtain ⟨total, sums, exact, exacts, allocated, adds, leftover, subtracts, fractions, rests,
    rfl⟩ := shared
  have addsUp := addsUp_of_sumBoardFeet rounds notNegative sums
  rw [mapM_eq_ok_iff] at exacts rests
  have specs := ((List.forall₂_and_left bf exact).mpr ⟨fun _ => id, exacts⟩).imp
    fun weight share both =>
      share_spec rounds cost (notNegative weight both.1) addsUp.nonneg both.2
  have notZero : total.mantissa ≠ 0 := by
    obtain _ | ⟨spec, -⟩ := specs
    · exact absurd rfl notEmpty
    · exact spec.1
  have lengths : (exact.map floorCents).length = fractions.length := by
    rw [List.length_map, rests.length_eq]
  refine ⟨total, (exact.map floorCents).zip fractions, ⟨addsUp, notZero,
    sumDecimals_of_sumBoardFeet sums, ?_, ?_⟩, ?_⟩
  · rw [mapM_eq_ok_iff]
    clear lengths sums addsUp notNegative adds notEmpty
    induction exacts generalizing fractions with
    | nil =>
      cases rests
      exact .nil
    | cons shares _ ih =>
      obtain ⟨spec, specs⟩ := List.forall₂_cons.mp specs
      obtain _ | ⟨rest, rests⟩ := rests
      exact .cons (freightShare_of_exactShare shares spec.2.1 rest) (ih _ rests specs)
  · clear lengths sums addsUp notNegative adds notEmpty exacts
    induction specs generalizing fractions with
    | nil =>
      cases rests
      exact .nil
    | cons spec _ ih =>
      obtain _ | ⟨rest, rests⟩ := rests
      exact .cons (spec.2.2 _) (ih _ rests)
  · rw [← leftoverOrder_map_snd, List.map_snd_zip lengths.ge, List.map_fst_zip lengths.le,
      (inSixtyFour_eq_ok_iff.mp subtracts).2, sum_of_foldlM_inSixtyFour adds]

theorem SharedBy.ne_nil {shares : List (ℤ × Decimal)}
    (shared : SharedBy arith freight bf total shares) (notEmpty : bf ≠ []) :
    dealOrder shares ≠ [] := by
  rw [← List.length_pos_iff, ShopFloor.length_dealOrder, ← shared.floors.length_eq]
  exact List.length_pos_iff.mpr notEmpty

theorem SharedBy.dealt_zero {shares : List (ℤ × Decimal)}
    (shared : SharedBy arith freight bf total shares) (zero : freight.minor = 0) :
    dealCents (dealOrder shares) (freight.minor - (shares.map Prod.fst).sum).toNat 0
      (shares.map Prod.fst) = bf.map fun _ => 0 := by
  have floorsZero : shares.map Prod.fst = bf.map fun _ => 0 := by
    have partLess : (0 : ℚ) < (1 - part) ^ 2 := by norm_num [part]
    have floors := shared.floors
    clear shared
    induction floors with
    | nil => rfl
    | cons floor _ ih =>
      obtain ⟨notNegative, bound⟩ := floor
      rw [zero, Int.cast_zero, zero_mul, zero_div] at bound
      have notPositive := nonpos_of_mul_nonpos_left bound partLess
      rw [List.map_cons, List.map_cons, ih]
      congr 1
      exact le_antisymm (by exact_mod_cast notPositive) notNegative
  rw [floorsZero, zero]
  simp [dealCents]

/-! ### The two allocations -/

variable {lines : List ReceiptLine} {landed : List LandedLine}

theorem toRat_nonneg_of_lineBoardFeet {line : ReceiptLine} {feet : Decimal}
    (measured : lineBoardFeet line = .ok feet) : 0 ≤ feet.toRat := by
  unfold lineBoardFeet at measured
  simp only [bind_eq_ok_iff, ensure_eq_ok_iff, orRefuse_eq_ok_iff, decide_eq_true_eq] at measured
  obtain ⟨-, ⟨sheets, perSheet⟩, -, -, multiplies⟩ := measured
  apply (Decimal.isNearest_mul? multiplies).nonneg
  exact mul_nonneg (toRat_nonneg_iff.mpr sheets.le) (toRat_nonneg_iff.mpr perSheet.le)

theorem landLine_eq_ok {line : ReceiptLine} {feet : Decimal} {share : ℤ} {result : LandedLine}
    (lands : landLine arith line feet share = .ok result) :
    result.boardFeet = feet ∧ result.freight.minor = share := by
  unfold landLine at lands
  simp only [bind_eq_ok_iff, pure_eq_ok_iff] at lands
  obtain ⟨-, -, -, -, -, -, amount, isAmount, -, -, -, -, rfl⟩ := lands
  exact ⟨rfl, Money.ofMinor?_eq_some_iff.mp (orRefuse_eq_ok_iff.mp isAmount)⟩

theorem landedCost_spec (rounds : arith.Rounds)
    (lands : landedCost arith lines freight = .ok landed) :
    lines.mapM lineBoardFeet = .ok (landed.map LandedLine.boardFeet) ∧ lines ≠ [] ∧
      0 ≤ freight.minor ∧ ∃ total shares,
      SharedBy arith freight (landed.map LandedLine.boardFeet) total shares ∧
      landed.map (fun line => line.freight.minor) = dealCents (dealOrder shares)
        (freight.minor - (shares.map Prod.fst).sum).toNat 0 (shares.map Prod.fst) := by
  unfold landedCost at lands
  simp only [bind_eq_ok_iff, ensure_eq_ok_iff, decide_eq_true_eq] at lands
  obtain ⟨-, someLine, -, cost, bf, measured, cents, shared, lands⟩ := lands
  have notEmpty : lines ≠ [] := by
    rintro rfl
    simp at someLine
  have lengths : lines.length = bf.length := (mapM_eq_ok_iff.mp measured).length_eq
  have someFeet : bf ≠ [] := by
    rw [← List.length_pos_iff, ← lengths]
    exact List.length_pos_iff.mpr notEmpty
  have notNegative : ∀ feet ∈ bf, 0 ≤ feet.toRat := by
    intro feet feetMem
    obtain ⟨line, -, isFeet⟩ := exists_of_mem_mapM measured feetMem
    exact toRat_nonneg_of_lineBoardFeet isFeet
  obtain ⟨total, shares, sharedBy, centsEq⟩ :=
    exists_sharedBy rounds cost someFeet notNegative shared
  have centsLength : cents.length = bf.length := by
    rw [centsEq, ShopFloor.length_dealCents (sharedBy.ne_nil someFeet), List.length_map,
      sharedBy.floors.length_eq]
  have rowLengths : (bf.zip cents).length = lines.length := by
    rw [List.length_zip, centsLength, min_self, lengths]
  have rows : (lines.zip (bf.zip cents)).map Prod.snd = bf.zip cents :=
    List.map_snd_zip rowLengths.le
  have feetEq : landed.map LandedLine.boardFeet = bf := by
    have read : landed.map LandedLine.boardFeet =
        ((lines.zip (bf.zip cents)).map Prod.snd).map Prod.fst := by
      rw [List.map_map]
      exact map_eq_of_mapM (fun _ _ made => (landLine_eq_ok made).1) lands
    rw [read, rows, List.map_fst_zip centsLength.ge]
  have minorsEq : landed.map (fun line => line.freight.minor) = cents := by
    have read : landed.map (fun line => line.freight.minor) =
        ((lines.zip (bf.zip cents)).map Prod.snd).map Prod.snd := by
      rw [List.map_map]
      exact map_eq_of_mapM (fun _ _ made => (landLine_eq_ok made).2) lands
    rw [read, rows, List.map_snd_zip centsLength.le]
  rw [feetEq, minorsEq]
  exact ⟨measured, notEmpty, cost, total, shares, sharedBy, centsEq⟩

theorem allocateFreight_of_sharedBy {receipt : List ShopFloor.ReceiptLine}
    {shares : List (ℤ × Decimal)} (shared : SharedBy arith freight bf total shares)
    (notEmpty : bf ≠ []) (notZero : freight.minor ≠ 0)
    (measured : receipt.mapM boardFootWeight = .ok bf) :
    allocateFreight arith receipt freight = ShopFloor.dealFreight freight shares := by
  have someLine : receipt ≠ [] := by
    rw [← List.length_pos_iff, (mapM_eq_ok_iff.mp measured).length_eq]
    exact List.length_pos_iff.mpr notEmpty
  obtain ⟨positive, feet, feetMem, feetPositive⟩ :=
    exists_pos_of_addsUp shared.addsUp shared.notZero
  have hasBoardFeet : (bf.any fun weight => 0 < weight.mantissa) = true := by
    rw [List.any_eq_true]
    exact ⟨feet, feetMem, decide_eq_true (Decimal.toRat_pos_iff.mp feetPositive)⟩
  have weighs : ShopFloor.shareWeights arith receipt = .ok bf := by
    unfold ShopFloor.shareWeights
    rw [bind_eq_ok_iff]
    refine ⟨bf, measured, ?_⟩
    rw [if_pos hasBoardFeet, bind_eq_ok_iff]
    refine ⟨total, shared.sums, ?_⟩
    dsimp only
    rw [if_pos (Decimal.toRat_pos_iff.mp positive)]
    rfl
  rw [ShopFloor.allocateFreight_eq someLine notZero, weighs]
  change ShopFloor.allocateByWeights arith freight bf = _
  unfold ShopFloor.allocateByWeights
  rw [shared.sums]
  change bf.mapM (freightShare arith freight total) >>= _ = _
  rw [shared.made]
  rfl

def sheetLine (line : ReceiptLine) : ShopFloor.ReceiptLine :=
  ⟨line.materialId, line.sheets, .sheet, some line.bfPerSheet⟩

theorem mapM_boardFootWeight_sheetLine (measured : lines.mapM lineBoardFeet = .ok bf) :
    (lines.map sheetLine).mapM boardFootWeight = .ok bf := by
  rw [mapM_eq_ok_iff] at measured ⊢
  rw [List.forall₂_map_left_iff]
  apply measured.imp
  intro line feet isFeet
  unfold lineBoardFeet at isFeet
  simp only [bind_eq_ok_iff, ensure_eq_ok_iff, orRefuse_eq_ok_iff] at isFeet
  obtain ⟨-, -, -, -, multiplies⟩ := isFeet
  simp only [boardFootWeight, sheetLine, bind_eq_ok_iff, orRefuse_eq_ok_iff, ShopFloor.mul,
    shopFloor_orPanic_eq_ok_iff]
  exact ⟨line.bfPerSheet, rfl, multiplies⟩

/-- The two allocations agree line by line; and up to a thousand million lines they come
to the freight. -/
theorem landedCost_agrees (rounds : arith.Rounds) {receipt : List ShopFloor.ReceiptLine}
    {allocations : List Money} (lands : landedCost arith lines freight = .ok landed)
    (allocates : allocateFreight arith receipt freight = .ok allocations)
    (sameWeights : receipt.mapM boardFootWeight = .ok (landed.map LandedLine.boardFeet)) :
    landed.map LandedLine.freight = allocations ∧
      (lines.length ≤ 10 ^ 9 →
        (landed.map fun line => line.freight.minor).sum = freight.minor ∧
          (allocations.map Money.minor).sum = freight.minor) := by
  obtain ⟨measured, notEmpty, cost, total, shares, shared, minorsEq⟩ :=
    landedCost_spec rounds lands
  have landedLength : lines.length = (landed.map LandedLine.boardFeet).length :=
    (mapM_eq_ok_iff.mp measured).length_eq
  have someFeet : landed.map LandedLine.boardFeet ≠ [] := by
    rw [← List.length_pos_iff, ← landedLength]
    exact List.length_pos_iff.mpr notEmpty
  have sameMinors : allocations.map Money.minor =
      landed.map fun line => line.freight.minor := by
    rw [minorsEq]
    by_cases zero : freight.minor = 0
    · have someLine : receipt ≠ [] := by
        rw [← List.length_pos_iff, (mapM_eq_ok_iff.mp sameWeights).length_eq]
        exact List.length_pos_iff.mpr someFeet
      rw [ShopFloor.allocateFreight_zero someLine zero] at allocates
      rw [shared.dealt_zero zero, ← Except.ok.inj allocates, List.map_map, List.map_const',
        ← (mapM_eq_ok_iff.mp sameWeights).length_eq, ← List.map_const']
      rfl
    · rw [allocateFreight_of_sharedBy shared someFeet zero sameWeights] at allocates
      exact (ShopFloor.dealFreight_spec allocates).2
  constructor
  · apply List.map_injective_iff.mpr fun _ _ => Money.ext
    rw [sameMinors, List.map_map]
    rfl
  · intro few
    have positive := (exists_pos_of_addsUp shared.addsUp shared.notZero).1
    have atMost := sum_floors_le shared.addsUp positive cost shared.floors
      (landedLength ▸ few)
    have inFloors : ∀ place ∈ dealOrder shares, place < (shares.map Prod.fst).length := by
      intro place placeMem
      simpa using ShopFloor.lt_of_mem_dealOrder placeMem
    have sumEq : (landed.map fun line => line.freight.minor).sum = freight.minor := by
      rw [minorsEq, ShopFloor.sum_dealCents (shared.ne_nil someFeet) inFloors]
      omega
    exact ⟨sumEq, by rw [sameMinors, sumEq]⟩

section Examples

/-- Decimals that are rounded half to even where they do not fit. -/
def nearestArithmetic : DecimalArithmetic where
  add := Decimal.addNearest?
  div := Decimal.div?
  reread := id

theorem rounds_nearestArithmetic : nearestArithmetic.Rounds where
  add := Decimal.isNearest_addNearest?
  div := Decimal.isNearest_div?

def equalSheets : List ReceiptLine :=
  List.replicate 3 ⟨"eva", .ofParts 1 0, .ofParts 10 0, .ofParts 1 0, .zero⟩

theorem landedCost_agrees_equalSheets : ∃ landed allocations,
    landedCost nearestArithmetic equalSheets (.fromMinor 100) = .ok landed ∧
      allocateFreight nearestArithmetic (equalSheets.map sheetLine) (.fromMinor 100) =
        .ok allocations ∧
      landed.map (fun line => line.freight.minor) = [34, 33, 33] ∧
      landed.map LandedLine.freight = allocations ∧
      (allocations.map Money.minor).sum = 100 := by
  have landedCents : (landedCost nearestArithmetic equalSheets (.fromMinor 100)).toOption.map
      (fun landed => landed.map fun line => line.freight.minor) = some [34, 33, 33] := by
    decide +kernel
  have allocatedCents : (allocateFreight nearestArithmetic (equalSheets.map sheetLine)
      (.fromMinor 100)).toOption.map (fun allocations => allocations.map Money.minor) =
        some [34, 33, 33] := by
    decide +kernel
  obtain ⟨landed, lands, minors⟩ := exists_ok_of_map_toOption landedCents
  obtain ⟨allocations, allocates, -⟩ := exists_ok_of_map_toOption allocatedCents
  have measured := mapM_boardFootWeight_sheetLine
    (landedCost_spec rounds_nearestArithmetic lands).1
  obtain ⟨same, sums⟩ := landedCost_agrees rounds_nearestArithmetic lands allocates measured
  exact ⟨landed, allocations, lands, allocates, minors, same, (sums (by decide)).2⟩

/-! ### A receipt of thirty thousand million lines -/

theorem mapM_replicate {ε α β : Type} {body : α → Except ε β} {element : α} {result : β}
    (made : body element = .ok result) (count : ℕ) :
    (List.replicate count element).mapM body = .ok (List.replicate count result) := by
  rw [mapM_eq_ok_iff, List.forall₂_iff_get]
  simp [made]

def bigSheet : Decimal :=
  .ofParts ((7 * 10 ^ 17 - 3 * 10 ^ 9) * (10 ^ 11 + 4)) 27

def tinySheet : Decimal :=
  .ofParts (10 ^ 11 + 4) 28

def sheetOf (boardFeet : Decimal) : ReceiptLine :=
  ⟨"eva", .ofParts 1 0, boardFeet, .zero, .zero⟩

def longReceipt (count : ℕ) : List ReceiptLine :=
  sheetOf bigSheet :: List.replicate count (sheetOf tinySheet)

def hugeFreight : Money :=
  .fromMinor 7000000000000000000

theorem add_tinySheet {sum : Decimal} (scaleEq : sum.scale = 27)
    (large : 2 ^ 96 ≤ 10 * sum.mantissa) (fits : sum.mantissa + 10 ^ 10 < 2 ^ 96) :
    ∃ next, nearestArithmetic.add sum tinySheet = some next ∧ next.scale = 27 ∧
      next.mantissa = sum.mantissa + 10 ^ 10 := by
  obtain ⟨units, unitsEq⟩ : ∃ units : ℕ, sum.mantissa = units :=
    ⟨sum.mantissa.toNat, (Int.toNat_of_nonneg (by omega)).symm⟩
  rw [unitsEq] at large fits ⊢
  have added : sum.unitsAt 28 + tinySheet.unitsAt 28 =
      ((10 * units + (10 ^ 11 + 4) : ℕ) : ℤ) := by
    simp [Decimal.unitsAt, scaleEq, unitsEq, tinySheet]
    ring
  have whole : Decimal.divHalfEven (10 * units + (10 ^ 11 + 4)) (10 ^ 0) =
      10 * units + (10 ^ 11 + 4) := by
    simp [Decimal.divHalfEven, Nat.mod_one]
  have tenth : Decimal.divHalfEven (10 * units + (10 ^ 11 + 4)) (10 ^ (0 + 1)) =
      units + 10 ^ 10 := by
    unfold Decimal.divHalfEven
    dsimp only
    rw [if_neg (by omega)]
    omega
  have finest : max sum.scale tinySheet.scale = 28 := by
    rw [scaleEq]
    rfl
  change ∃ next, sum.addNearest? tinySheet = some next ∧ _
  unfold Decimal.addNearest?
  dsimp only
  rw [finest, added]
  unfold Decimal.fitProduct
  simp only [Int.natAbs_natCast, whole]
  rw [dif_neg (by omega)]
  have tenthFits : Decimal.divHalfEven ((10 * units + (10 ^ 11 + 4) : ℕ) : ℤ).natAbs
      (10 ^ (0 + 1)) < 2 ^ 96 ∧ 27 ≤ 28 := by
    rw [Int.natAbs_natCast, tenth]
    omega
  have mantissaEq : Decimal.withSignOf ((10 * units + (10 ^ 11 + 4) : ℕ) : ℤ)
      (Decimal.divHalfEven ((10 * units + (10 ^ 11 + 4) : ℕ) : ℤ).natAbs (10 ^ (0 + 1))) =
        units + 10 ^ 10 := by
    rw [Int.natAbs_natCast, tenth]
    unfold Decimal.withSignOf
    rw [if_neg (by omega)]
    push_cast
    rfl
  unfold Decimal.fitProduct
  dsimp only
  rw [dif_pos tenthFits]
  exact ⟨_, rfl, rfl, mantissaEq⟩

theorem sum_tinySheets (count : ℕ) (sum : Decimal) (scaleEq : sum.scale = 27)
    (large : 2 ^ 96 ≤ 10 * sum.mantissa) (fits : sum.mantissa + count * 10 ^ 10 < 2 ^ 96) :
    ∃ total, (List.replicate count tinySheet).foldlM
        (fun sum feet => orPanic (nearestArithmetic.add sum feet)) sum = .ok total ∧
      total.scale = 27 ∧ total.mantissa = sum.mantissa + count * 10 ^ 10 := by
  induction count generalizing sum with
  | zero => exact ⟨sum, rfl, scaleEq, by simp⟩
  | succ count ih =>
    push_cast at fits
    obtain ⟨next, adds, nextScale, nextMantissa⟩ := add_tinySheet scaleEq large (by omega)
    obtain ⟨total, sums, totalScale, totalMantissa⟩ :=
      ih next nextScale (by omega) (by omega)
    refine ⟨total, ?_, totalScale, ?_⟩
    · rw [List.replicate_succ, List.foldlM_cons, adds]
      exact sums
    · rw [totalMantissa, nextMantissa]
      push_cast
      ring

def longTotal : Decimal :=
  .ofParts (7 * 10 ^ 28 + 28 * 10 ^ 17 - 12 * 10 ^ 9) 27

variable {count : ℕ}

theorem sum_longReceipt (isLong : count = 30000000000) :
    sumBoardFeet nearestArithmetic (bigSheet :: List.replicate count tinySheet) =
      .ok longTotal := by
  obtain ⟨total, sums, scaleEq, mantissaEq⟩ :=
    sum_tinySheets count bigSheet rfl (by decide) (by rw [isLong]; decide)
  have totalEq : total = longTotal := by
    have sameMantissa : total.mantissa = longTotal.mantissa := by
      rw [mantissaEq, isLong]
      decide
    cases total
    cases sameMantissa
    cases scaleEq
    rfl
  have first : orPanic (nearestArithmetic.add Decimal.zero bigSheet) = .ok bigSheet := by
    decide +kernel
  unfold sumBoardFeet
  rw [List.foldlM_cons, first, ← totalEq]
  exact sums

theorem foldlM_ones {ε α : Type} {step : ℤ → α → Except ε ℤ} {element : α}
    (adds : ∀ sum : ℤ, 0 ≤ sum → sum + 1 ≤ 9223372036854775807 →
      step sum element = .ok (sum + 1))
    (count : ℕ) {start : ℤ} (notNegative : 0 ≤ start)
    (fits : start + count ≤ 9223372036854775807) :
    (List.replicate count element).foldlM step start = .ok (start + count) := by
  induction count generalizing start with
  | zero =>
    rw [Nat.cast_zero, add_zero]
    rfl
  | succ count ih =>
    push_cast at fits ⊢
    rw [List.replicate_succ, List.foldlM_cons, adds start notNegative (by omega)]
    change (List.replicate count element).foldlM step (start + 1) = _
    rw [ih (by omega) (by omega)]
    congr 1
    ring

def longCents (count : ℕ) : List ℤ :=
  6999999970000000001 :: List.replicate count 1

theorem exists_exactShare (boardFeet : Decimal) (cents : ℤ)
    (evaluates : (do
        let share ← exactShare nearestArithmetic hugeFreight longTotal boardFeet
        let _ ← fraction nearestArithmetic share
        return floorCents share : Receiving ℤ) = .ok cents) :
    ∃ share rest, exactShare nearestArithmetic hugeFreight longTotal boardFeet = .ok share ∧
      fraction nearestArithmetic share = .ok rest ∧ floorCents share = cents := by
  simp only [bind_eq_ok_iff, pure_eq_ok_iff] at evaluates
  obtain ⟨share, shares, rest, rests, isCents⟩ := evaluates
  exact ⟨share, rest, shares, rests, isCents⟩

theorem freightShares_longReceipt (isLong : count = 30000000000) :
    freightShares nearestArithmetic hugeFreight (bigSheet :: List.replicate count tinySheet) =
      .ok (longCents count) := by
  obtain ⟨bigShare, bigRest, bigShares, bigRests, bigCents⟩ :=
    exists_exactShare bigSheet 6999999970000000001 (by decide +kernel)
  obtain ⟨share, rest, shares, rests, cents⟩ :=
    exists_exactShare tinySheet 1 (by decide +kernel)
  have floors : (bigShare :: List.replicate count share).map floorCents = longCents count := by
    rw [List.map_cons, List.map_replicate, bigCents, cents]
    rfl
  unfold freightShares
  simp only [bind_eq_ok_iff, pure_eq_ok_iff]
  refine ⟨longTotal, sum_longReceipt isLong, bigShare :: List.replicate count share, ?_,
    6999999970000000001 + count, ?_, -1, ?_, bigRest :: List.replicate count rest, ?_, ?_⟩
  · rw [mapM_eq_ok_iff]
    exact .cons bigShares (mapM_eq_ok_iff.mp (mapM_replicate shares count))
  · rw [floors]
    unfold longCents
    rw [List.foldlM_cons]
    apply foldlM_ones _ count (by norm_num) (by omega)
    intro sum notNegative fits
    exact inSixtyFour_eq_ok_iff.mpr ⟨by omega, rfl⟩
  · rw [isLong]
    rfl
  · rw [mapM_eq_ok_iff]
    exact .cons bigRests (mapM_eq_ok_iff.mp (mapM_replicate rests count))
  · rw [floors]
    rfl

theorem landedCost_longReceipt (isLong : count = 30000000000) :
    ∃ landed, landedCost nearestArithmetic (longReceipt count) hugeFreight = .ok landed ∧
      landed.map LandedLine.boardFeet = bigSheet :: List.replicate count tinySheet ∧
      (landed.map fun line => line.freight.minor) = longCents count := by
  obtain ⟨bigLine, bigLands, bigCents⟩ : ∃ line, landLine nearestArithmetic
      (sheetOf bigSheet) bigSheet 6999999970000000001 = .ok line ∧
        line.freight.minor = 6999999970000000001 :=
    exists_ok_of_map_toOption (by decide +kernel)
  obtain ⟨line, lands, cents⟩ : ∃ line, landLine nearestArithmetic
      (sheetOf tinySheet) tinySheet 1 = .ok line ∧ line.freight.minor = 1 :=
    exists_ok_of_map_toOption (by decide +kernel)
  have bigMeasured : lineBoardFeet (sheetOf bigSheet) = .ok bigSheet := by decide +kernel
  have measured : lineBoardFeet (sheetOf tinySheet) = .ok tinySheet := by decide +kernel
  refine ⟨bigLine :: List.replicate count line, ?_, ?_, ?_⟩
  rotate_left
  · rw [List.map_cons, List.map_replicate, (landLine_eq_ok bigLands).1, (landLine_eq_ok lands).1]
  · rw [List.map_cons, List.map_replicate, bigCents, cents]
    rfl
  unfold landedCost
  simp only [bind_eq_ok_iff]
  refine ⟨(), rfl, (), rfl, bigSheet :: List.replicate count tinySheet, ?_, longCents count,
    freightShares_longReceipt isLong, ?_⟩
  · rw [mapM_eq_ok_iff]
    exact .cons bigMeasured (mapM_eq_ok_iff.mp (mapM_replicate measured count))
  · unfold longReceipt longCents
    rw [List.zip_cons_cons, List.zip_cons_cons, List.zip_replicate', List.zip_replicate',
      mapM_eq_ok_iff]
    refine .cons bigLands ?_
    rw [List.forall₂_iff_get]
    simp [lands]

theorem allocateFreight_longReceipt (isLong : count = 30000000000)
    {receipt : List ShopFloor.ReceiptLine}
    (measured : receipt.mapM boardFootWeight =
      .ok (bigSheet :: List.replicate count tinySheet)) :
    ∃ allocations, allocateFreight nearestArithmetic receipt hugeFreight = .ok allocations := by
  have notEmpty : bigSheet :: List.replicate count tinySheet ≠ [] := List.cons_ne_nil _ _
  have notNegative : ∀ feet ∈ bigSheet :: List.replicate count tinySheet, 0 ≤ feet.toRat := by
    intro feet feetMem
    apply toRat_nonneg_iff.mpr
    rcases List.mem_cons.mp feetMem with rfl | later
    · decide
    · rw [List.eq_of_mem_replicate later]
      decide
  obtain ⟨total, shares, shared, -⟩ := exists_sharedBy rounds_nearestArithmetic (by decide)
    notEmpty notNegative (freightShares_longReceipt isLong)
  obtain rfl : longTotal = total := Except.ok.inj
    ((sumDecimals_of_sumBoardFeet (sum_longReceipt isLong)).symm.trans shared.sums)
  obtain ⟨bigShare, bigShares, bigCents⟩ : ∃ share, freightShare nearestArithmetic hugeFreight
      longTotal bigSheet = .ok share ∧ share.1 = 6999999970000000001 :=
    exists_ok_of_map_toOption (by decide +kernel)
  obtain ⟨share, isShare, cents⟩ : ∃ share, freightShare nearestArithmetic hugeFreight
      longTotal tinySheet = .ok share ∧ share.1 = 1 :=
    exists_ok_of_map_toOption (by decide +kernel)
  obtain rfl : bigShare :: List.replicate count share = shares := by
    apply Except.ok.inj
    rw [← shared.made, eq_comm, mapM_eq_ok_iff]
    exact .cons bigShares (mapM_eq_ok_iff.mp (mapM_replicate isShare count))
  have floors : (bigShare :: List.replicate count share).map Prod.fst = longCents count := by
    rw [List.map_cons, List.map_replicate, bigCents, cents]
    rfl
  obtain ⟨allocations, made⟩ : ∃ allocations, (longCents count).mapM (fun minor =>
      orRefuse (ShopFloor.MfgError.panicked "integer arithmetic overflowed")
        (Money.ofMinor? minor)) = .ok allocations := by
    apply exists_mapM_ok
    intro minor minorMem
    rcases List.mem_cons.mp minorMem with rfl | later
    · exact ⟨_, rfl⟩
    · rw [List.eq_of_mem_replicate later]
      exact ⟨_, rfl⟩
  refine ⟨allocations, ?_⟩
  rw [allocateFreight_of_sharedBy shared notEmpty (by decide) measured]
  unfold ShopFloor.dealFreight
  simp only [bind_eq_ok_iff, floors]
  refine ⟨6999999970000000001 + count, ?_, -1, ?_, ?_⟩
  · rw [List.foldlM_cons, bigCents]
    apply foldlM_ones _ count (by norm_num) (by omega)
    intro sum notNegative fits
    rw [cents]
    exact ShopFloor.inSixtyFour_eq_ok_iff.mpr ⟨by omega, rfl⟩
  · rw [isLong]
    rfl
  · rw [Int.toNat_of_nonpos (by norm_num)]
    exact made

/-- Of so many lines that the decimals' sum of their board feet falls short, both
allocations give a cent more than the freight. -/
theorem landedCost_gives_a_cent_more :
    ¬ ∀ lines freight landed receipt allocations,
      landedCost nearestArithmetic lines freight = .ok landed →
      allocateFreight nearestArithmetic receipt freight = .ok allocations →
      receipt.mapM boardFootWeight = .ok (landed.map LandedLine.boardFeet) →
        landed.map LandedLine.freight = allocations ∧
          (landed.map fun line => line.freight.minor).sum = freight.minor ∧
          (allocations.map Money.minor).sum = freight.minor := by
  intro always
  obtain ⟨count, isLong⟩ : ∃ count : ℕ, count = 30000000000 := ⟨_, rfl⟩
  obtain ⟨landed, lands, feetEq, minorsEq⟩ := landedCost_longReceipt isLong
  have measured := mapM_boardFootWeight_sheetLine
    (landedCost_spec rounds_nearestArithmetic lands).1
  obtain ⟨allocations, allocates⟩ := allocateFreight_longReceipt isLong (feetEq ▸ measured)
  obtain ⟨-, sumEq, -⟩ := always _ _ _ _ _ lands allocates measured
  rw [minorsEq, longCents, List.sum_cons, List.sum_replicate, isLong] at sumEq
  exact absurd sumEq (by decide)

end Examples

end Landing

end Mfg

end QuickBooks
