import QuickBooks.MaterialCosting
import QuickBooks.NearestDecimals
import QuickBooks.WholeCents

/-!
# The audit of the tax rounding

Every taxed sale of the replica is recomputed, its taxable base times the sum of its rates,
and rounded to cents in two ways.  Only where the two differ does the tax that was charged
tell which of them the book of record follows, and they differ on half cents only.
-/

namespace DecimalNumbers.Decimal

theorem divHalfEven_le {number divisor : ℕ} (large : 2 ≤ divisor) :
    divHalfEven number divisor ≤ number := by
  have split := Nat.div_add_mod number divisor
  have scaled : 2 * (number / divisor) ≤ divisor * (number / divisor) :=
    Nat.mul_le_mul_right _ large
  unfold divHalfEven
  dsimp only
  split_ifs <;> omega

theorem mod_eq_half_of_ne {number half : ℕ} (positive : 0 < half)
    (differ : divHalfAway number (2 * half) ≠ divHalfEven number (2 * half)) :
    number % (2 * half) = half := by
  have small := Nat.mod_lt number (Nat.mul_pos two_pos positive)
  have away : divHalfAway number (2 * half) =
      number / (2 * half) + if half ≤ number % (2 * half) then 1 else 0 := by
    rw [divHalfAway, Nat.mul_div_cancel_left half two_pos]
    nth_rewrite 1 [← Nat.div_add_mod number (2 * half)]
    rw [Nat.add_assoc, Nat.mul_add_div (by omega)]
    congr 1
    split_ifs with atLeast
    · exact Nat.div_eq_of_lt_le (by omega) (by omega)
    · exact Nat.div_eq_of_lt (by omega)
  rw [away] at differ
  unfold divHalfEven at differ
  dsimp only at differ
  split_ifs at differ <;> omega

theorem two_le_twentyEight : 2 ≤ 28 := by decide

theorem natAbs_halfEven_lt (number : Decimal) (fine : ¬number.scale ≤ 2) :
    (withSignOf number.mantissa
      (divHalfEven number.mantissa.natAbs (10 ^ (number.scale - 2)))).natAbs < 2 ^ 96 := by
  have large : 10 ^ 1 ≤ 10 ^ (number.scale - 2) :=
    Nat.pow_le_pow_right (by decide) (by omega)
  rw [natAbs_withSignOf]
  exact (divHalfEven_le (by omega)).trans_lt number.mantissa_lt

/-- Rounding to two places, a midpoint going to the even neighbour. -/
def roundTwoPlacesEven (number : Decimal) : Decimal :=
  if coarse : number.scale ≤ 2 then number
  else ⟨withSignOf number.mantissa
    (divHalfEven number.mantissa.natAbs (10 ^ (number.scale - 2))), 2,
    natAbs_halfEven_lt number coarse, two_le_twentyEight⟩

/-- A number of cents and a half, or the opposite of one. -/
def HalfCent (number : Decimal) : Prop :=
  ∃ cents : ℕ, 200 * number.mantissa.natAbs = (2 * cents + 1) * 10 ^ number.scale

theorem halfCent_of_ne {number : Decimal}
    (differ : number.roundTwoPlaces ≠ number.roundTwoPlacesEven) : number.HalfCent := by
  unfold roundTwoPlaces roundTwoPlacesEven at differ
  split_ifs at differ with coarse
  · exact absurd rfl differ
  obtain ⟨places, scaleEq⟩ : ∃ places, number.scale = places + 3 :=
    ⟨number.scale - 3, by omega⟩
  have power : 10 ^ (number.scale - 2) = 2 * (5 * 10 ^ places) := by
    rw [scaleEq, Nat.add_sub_assoc (by decide), pow_succ]
    ring
  have isHalf : number.mantissa.natAbs % (2 * (5 * 10 ^ places)) = 5 * 10 ^ places := by
    refine mod_eq_half_of_ne (by positivity) fun same => differ ?_
    simp only [power, same]
  have whole := Nat.div_add_mod number.mantissa.natAbs (2 * (5 * 10 ^ places))
  rw [isHalf] at whole
  refine ⟨number.mantissa.natAbs / (2 * (5 * 10 ^ places)), ?_⟩
  nth_rewrite 1 [← whole]
  rw [scaleEq]
  ring

end DecimalNumbers.Decimal

namespace QuickBooks.TaxAudit

open DecimalNumbers ExceptPrograms

/-- The sale documents that carry tax lines. -/
inductive TaxedType where
  | invoice
  | salesReceipt
  | creditMemo
  | refundReceipt
  | estimate
deriving DecidableEq

/-- A tax line: what it states of its base, its rate and whether it is one of per cent. -/
structure TaxComponent where
  netAmountTaxable : Option Decimal
  taxPercent : Option Decimal
  percentBased : Option Bool

structure TaxedSale where
  entityType : TaxedType
  qboId : String
  txnDate : String
  isDeleted : Bool
  taxLines : List TaxComponent
  totalTax : Option Decimal

structure TaxLineCheck where
  entityType : TaxedType
  qboId : String
  txnDate : String
  taxable : Decimal
  percent : Decimal
  exact : Decimal
  qboAmount : Money
deriving DecidableEq

structure TaxRoundingReport where
  documents : ℕ
  skipped : ℕ
  zeroTax : ℕ
  bothMatch : ℕ
  midpointAgree : ℕ
  halfUpOnly : List TaxLineCheck
  halfEvenOnly : List TaxLineCheck
  neither : List TaxLineCheck
deriving DecidableEq

def TaxRoundingReport.empty : TaxRoundingReport :=
  ⟨0, 0, 0, 0, 0, [], [], []⟩

inductive AuditFailure where
  | money (error : MoneyError)
  | panicked
deriving DecidableEq

variable (arith : ShopFloor.DecimalArithmetic)

/-- The base that all lines state and the sum of their rates; nothing when a line lacks one
or the bases differ. -/
def combined : List TaxComponent → Option Decimal → Decimal →
    Except AuditFailure (Option (Option Decimal × Decimal))
  | [], base, percent => return some (base, percent)
  | line :: lines, base, percent =>
    match line.netAmountTaxable, line.taxPercent with
    | some taxable, some rate =>
      if line.percentBased = some false ∨ base.any fun base => !base.sameNumber taxable then
        return none
      else do combined lines (some taxable) (← orRefuse .panicked (arith.add percent rate))
    | _, _ => return none

/-- A sale that is not taxed, that cannot be recomputed, or what it comes out at with the tax
that was charged. -/
inductive Recomputed where
  | untaxed
  | skipped
  | checked (check : TaxLineCheck) (total : Decimal)

def recompute (sale : TaxedSale) : Except AuditFailure Recomputed :=
  if sale.isDeleted ∨ sale.taxLines.isEmpty then return .untaxed
  else do
    match ← combined arith sale.taxLines none .zero, sale.totalTax with
    | some (some taxable, percent), some total =>
      if taxable.mantissa = 0 then return .untaxed
      else
        let product ← orRefuse .panicked (taxable.mul? percent)
        let exact ← orRefuse .panicked (arith.div product .hundred)
        return .checked ⟨sale.entityType, sale.qboId, sale.txnDate, taxable, percent, exact,
          .zero⟩ total
    | _, _ => return .skipped

/-- Whether the fraction of the cents is a half. -/
def onHalfCent (exact : Decimal) : Option Bool :=
  (exact.mul? .hundred).map fun cents =>
    cents.mantissa.natAbs % 10 ^ cents.scale * 10 = 5 * 10 ^ cents.scale

def classify (report : TaxRoundingReport) (check : TaxLineCheck) (amount : Decimal) :
    Except AuditFailure TaxRoundingReport := do
  let halfUp := check.exact.roundTwoPlaces
  let halfEven := check.exact.roundTwoPlacesEven
  let qboAmount ← (roundMoney amount .mirroredAmount).mapError .money
  let check := { check with qboAmount }
  let isHalfCent ← orRefuse .panicked (onHalfCent check.exact)
  let report := { report with documents := report.documents + 1 }
  if amount.mantissa = 0 ∧ halfUp.mantissa ≠ 0 then
    return { report with zeroTax := report.zeroTax + 1 }
  else if halfUp.sameNumber amount then
    if halfEven.sameNumber amount then
      if isHalfCent then return { report with midpointAgree := report.midpointAgree + 1 }
      else return { report with bothMatch := report.bothMatch + 1 }
    else return { report with halfUpOnly := report.halfUpOnly ++ [check] }
  else if halfEven.sameNumber amount then
    return { report with halfEvenOnly := report.halfEvenOnly ++ [check] }
  else return { report with neither := report.neither ++ [check] }

def auditSale (report : TaxRoundingReport) (sale : TaxedSale) :
    Except AuditFailure TaxRoundingReport := do
  match ← recompute arith sale with
  | .untaxed => return report
  | .skipped => return { report with skipped := report.skipped + 1 }
  | .checked check total => classify report check total

/-- Every sale that is recomputed was charged what a rule of rounding makes of it. -/
def Charged (rule : Decimal → Decimal) (sales : List TaxedSale) : Prop :=
  ∀ sale ∈ sales, ∀ check total, recompute arith sale = .ok (.checked check total) →
    (rule check.exact).sameNumber total = true

/-- Every recomputed sale is counted once, only half cents are evidence, and no evidence
speaks against a rule by which every sale was charged. -/
structure Sound (sales : List TaxedSale) (report : TaxRoundingReport) : Prop where
  counted : report.documents = report.zeroTax + report.bothMatch + report.midpointAgree +
    report.halfUpOnly.length + report.halfEvenOnly.length + report.neither.length
  evidence : ∀ check ∈ report.halfUpOnly ++ report.halfEvenOnly, check.exact.HalfCent
  halfUp : Charged arith Decimal.roundTwoPlaces sales →
    report.halfEvenOnly = [] ∧ report.neither = []
  halfEven : Charged arith Decimal.roundTwoPlacesEven sales →
    report.halfUpOnly = [] ∧ report.neither = []

variable {arith} {sales : List TaxedSale} {report : TaxRoundingReport}

theorem Charged.earlier {rule : Decimal → Decimal} {sale : TaxedSale}
    (charged : Charged arith rule (sales ++ [sale])) : Charged arith rule sales :=
  fun other otherMem => charged other (List.mem_append_left _ otherMem)

theorem Sound.step {sale : TaxedSale} {after : TaxRoundingReport}
    (sound : Sound arith sales report) (audits : auditSale arith report sale = .ok after) :
    Sound arith (sales ++ [sale]) after := by
  obtain ⟨counted, evidence, halfUp, halfEven⟩ := sound
  rw [auditSale, bind_eq_ok_iff] at audits
  obtain ⟨recomputed, recomputes, audits⟩ := audits
  have halfUp := fun charged : Charged arith Decimal.roundTwoPlaces (sales ++ [sale]) =>
    halfUp charged.earlier
  have halfEven := fun charged : Charged arith Decimal.roundTwoPlacesEven (sales ++ [sale]) =>
    halfEven charged.earlier
  cases recomputed with
  | untaxed =>
    rw [pure_eq_ok_iff] at audits
    subst audits
    exact ⟨counted, evidence, halfUp, halfEven⟩
  | skipped =>
    rw [pure_eq_ok_iff] at audits
    subst audits
    exact ⟨counted, evidence, halfUp, halfEven⟩
  | checked check total =>
    have chargedUp := fun charged : Charged arith Decimal.roundTwoPlaces (sales ++ [sale]) =>
      charged sale (by simp) check total recomputes
    have chargedEven := fun charged : Charged arith Decimal.roundTwoPlacesEven (sales ++ [sale]) =>
      charged sale (by simp) check total recomputes
    have differs (isNot : check.exact.roundTwoPlaces.sameNumber total ≠
        check.exact.roundTwoPlacesEven.sameNumber total) : check.exact.HalfCent :=
      Decimal.halfCent_of_ne fun same => isNot (by rw [same])
    simp only [classify, bind_eq_ok_iff] at audits
    obtain ⟨qboAmount, -, isHalfCent, -, audits⟩ := audits
    split_ifs at audits with zeroTax up even half even <;> rw [pure_eq_ok_iff] at audits <;>
      subst audits
    · exact ⟨by simp only; omega, evidence, halfUp, halfEven⟩
    · exact ⟨by simp only; omega, evidence, halfUp, halfEven⟩
    · exact ⟨by simp only; omega, evidence, halfUp, halfEven⟩
    · refine ⟨by simp only [List.length_append, List.length_singleton]; omega, ?_, halfUp,
        fun charged => absurd (chargedEven charged) even⟩
      have isHalf := differs fun same => even (same ▸ up)
      simpa [or_imp, forall_and, isHalf] using evidence
    · refine ⟨by simp only [List.length_append, List.length_singleton]; omega, ?_,
        fun charged => absurd (chargedUp charged) up, halfEven⟩
      have isHalf := differs fun same => up (same ▸ even)
      simpa [or_imp, forall_and, isHalf] using evidence
    · exact ⟨by simp only [List.length_append, List.length_singleton]; omega, evidence,
        fun charged => absurd (chargedUp charged) up,
        fun charged => absurd (chargedEven charged) even⟩

end QuickBooks.TaxAudit
