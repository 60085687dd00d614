import QuickBooks.MergedLegs
import QuickBooks.PostingBalance
import QuickBooks.WellFormedLedgers

/-!
# The posting rules agree with the class rule

The rules give a class to each leg as they build it, and the store checks the
class of each line by the band of its account.  Where the accounts that a
document and its context only name are balance-sheet accounts, every leg has a
class exactly when its account takes one.  Merging and voiding keep the account
and the class together, so the store's rule never refuses a derived line for
its class: it only asks that the account and the class are in the book.
-/

namespace QuickBooks

open ExceptPrograms

/-- The accounts that posting takes as it finds them are balance-sheet
accounts, and the fee of a settlement carries a class. -/
structure NamesBalanceSheet (doc : LedgerDocument) (ctx : PostingContext) : Prop where
  depositTo : ∀ account, doc.depositTo = some account → requiresClass account = false
  payFrom : ∀ account, doc.payFrom = some account → requiresClass account = false
  itemAssets : ∀ itemId item, ctx.items.lookup itemId = some item →
    ∀ asset, item.asset = some asset → requiresClass asset = false
  defaultDeposit : requiresClass ctx.config.defaultDepositAccount = false
  defaultBank : requiresClass ctx.config.defaultBankAccount = false
  settlementFee : doc.kind = .settlement →
    ∀ line, namedAccountLine doc Chart.merchantFees = some line → line.class ≠ none

def Classed (legs : List Leg) : Prop :=
  ∀ leg ∈ legs, requiresClass leg.account = leg.class.isSome

@[simp]
theorem classed_nil : Classed [] := by
  simp [Classed]

@[simp]
theorem classed_cons {leg : Leg} {legs : List Leg} :
    Classed (leg :: legs) ↔
      requiresClass leg.account = leg.class.isSome ∧ Classed legs := by
  simp [Classed]

@[simp]
theorem classed_append {first second : List Leg} :
    Classed (first ++ second) ↔ Classed first ∧ Classed second := by
  simp only [Classed, List.mem_append, or_imp, forall_and]

section Accounts

variable (account : AccountId) (amount : Money) («class» : Option ClassId)
  (entity : Option ContactRef)

@[simp]
theorem account_debit : (debit account amount «class» entity).account = account :=
  rfl

@[simp]
theorem account_credit : (credit account amount «class» entity).account = account :=
  rfl

@[simp]
theorem class_debit : (debit account amount «class» entity).class = «class» :=
  rfl

@[simp]
theorem class_credit : (credit account amount «class» entity).class = «class» :=
  rfl

@[simp]
theorem account_withTax (leg : Leg) (isTaxable : Bool) (taxAmount : Option Money)
    (taxRate : Option DecimalNumbers.Decimal) :
    (leg.withTax isTaxable taxAmount taxRate).account = leg.account :=
  rfl

@[simp]
theorem class_withTax (leg : Leg) (isTaxable : Bool) (taxAmount : Option Money)
    (taxRate : Option DecimalNumbers.Decimal) :
    (leg.withTax isTaxable taxAmount taxRate).class = leg.class :=
  rfl

@[simp]
theorem requiresClass_profitAndLoss :
    requiresClass (acct Chart.salesIncome) = true ∧
      requiresClass (acct Chart.shippingIncome) = true ∧
      requiresClass (acct Chart.discountsGiven) = true ∧
      requiresClass (acct Chart.returnsAllowances) = true ∧
      requiresClass (acct Chart.cogs) = true ∧
      requiresClass (acct Chart.manufacturingVariance) = true ∧
      requiresClass (acct Chart.inventoryAdjustment) = true ∧
      requiresClass (acct Chart.partsLabourApplied) = true ∧
      requiresClass (acct Chart.merchantFees) = true := by
  decide

@[simp]
theorem requiresClass_balanceSheet :
    requiresClass (acct Chart.undepositedFunds) = false ∧
      requiresClass (acct Chart.authnetClearing) = false ∧
      requiresClass (acct Chart.accountsReceivable) = false ∧
      requiresClass (acct Chart.inventoryRaw) = false ∧
      requiresClass (acct Chart.inventoryFinished) = false ∧
      requiresClass (acct Chart.accountsPayable) = false ∧
      requiresClass (acct Chart.inventoryReceivedNotBilled) = false ∧
      requiresClass (acct Chart.salesTaxPayable) = false ∧
      requiresClass (acct Chart.customerDeposits) = false := by
  decide

theorem requiresClass_of_isInventoryAsset {account : AccountId}
    (inventory : Chart.isInventoryAsset account.number = true) :
    requiresClass account = false := by
  unfold Chart.isInventoryAsset at inventory
  rw [decide_eq_true_eq] at inventory
  obtain ⟨-, band, -⟩ := inventory
  unfold requiresClass
  cases chars : account.number.toList with
  | nil => rfl
  | cons first rest =>
    rw [chars, List.take_succ_cons, List.cons.injEq] at band
    rw [band.1]
    rfl

theorem requiresClass_getD {named : Option AccountId} {fallback : AccountId}
    (namedSheet : ∀ account, named = some account → requiresClass account = false)
    (fallbackSheet : requiresClass fallback = false) :
    requiresClass (named.getD fallback) = false := by
  cases named with
  | none => exact fallbackSheet
  | some account => exact namedSheet account rfl

end Accounts

theorem classFor_fits {line : DocLine} {item : Option ItemAccounts}
    {header : Option ClassId} {account : AccountId} {«class» : Option ClassId}
    (resolves : classFor line item header account = .ok «class») :
    requiresClass account = «class».isSome := by
  unfold classFor at resolves
  split_ifs at resolves with sheet
  · rw [pure_eq_ok_iff] at resolves
    subst resolves
    simpa using sheet
  · cases found : resolveClass line item header with
    | none => simp [found] at resolves
    | some resolved =>
      rw [found, pure_eq_ok_iff] at resolves
      subst resolves
      simpa using sheet

section Lines

variable {doc : LedgerDocument} {ctx : PostingContext}

theorem lookupItem_eq_some {itemId : Option String} {item : ItemAccounts}
    (finds : lookupItem ctx itemId = .ok (some item)) :
    ∃ id, ctx.items.lookup id = some item := by
  unfold lookupItem at finds
  cases itemId with
  | none => simp [pure_eq_ok_iff] at finds
  | some id =>
    cases found : ctx.items.lookup id with
    | none => simp [found] at finds
    | some other =>
      simp only [found, pure_eq_ok_iff, Option.some.injEq] at finds
      exact ⟨id, finds ▸ found⟩

theorem inventoryCost_sheet (names : NamesBalanceSheet doc ctx) {line : DocLine}
    {itemId : Option String} {item : Option ItemAccounts} {asset : AccountId}
    {extended : Money} (finds : lookupItem ctx itemId = .ok item)
    (costs : inventoryCost line item = .ok (some (asset, extended))) :
    requiresClass asset = false := by
  unfold inventoryCost at costs
  cases item with
  | none => simp [pure_eq_ok_iff] at costs
  | some item =>
    obtain ⟨id, found⟩ := lookupItem_eq_some finds
    dsimp only at costs
    split at costs
    · rename_i named qty unitCost itemAsset _ _
      simp only [bind_eq_ok_iff, pure_eq_ok_iff] at costs
      obtain ⟨cost, _, costs⟩ := costs
      split_ifs at costs
      rw [Option.some.injEq, Prod.mk.injEq] at costs
      exact names.itemAssets id item found asset (costs.1 ▸ itemAsset)
    · simp [pure_eq_ok_iff] at costs

theorem postInventoryCogs_classed (names : NamesBalanceSheet doc ctx) {line : DocLine}
    {itemId : Option String} {item : Option ItemAccounts} {«class» : Option ClassId}
    {legs : List Leg} (finds : lookupItem ctx itemId = .ok item)
    (carries : «class».isSome = true)
    (posts : postInventoryCogs line item «class» = .ok legs) : Classed legs := by
  unfold postInventoryCogs at posts
  rw [bind_eq_ok_iff] at posts
  obtain ⟨cost, costs, rest⟩ := posts
  cases cost with
  | none =>
    rw [pure_eq_ok_iff] at rest
    subst rest
    exact classed_nil
  | some cost =>
    have sheet := inventoryCost_sheet names finds costs
    rw [pure_eq_ok_iff] at rest
    subst rest
    simp [carries, sheet]

theorem postInventoryReturn_classed (names : NamesBalanceSheet doc ctx) {line : DocLine}
    {itemId : Option String} {item : Option ItemAccounts} {«class» : Option ClassId}
    {legs : List Leg} (finds : lookupItem ctx itemId = .ok item)
    (carries : «class».isSome = true)
    (posts : postInventoryReturn line item «class» = .ok legs) : Classed legs := by
  unfold postInventoryReturn at posts
  rw [bind_eq_ok_iff] at posts
  obtain ⟨cost, costs, rest⟩ := posts
  cases cost with
  | none =>
    rw [pure_eq_ok_iff] at rest
    subst rest
    exact classed_nil
  | some cost =>
    have sheet := inventoryCost_sheet names finds costs
    rw [pure_eq_ok_iff] at rest
    subst rest
    simp [carries, sheet]

theorem revenueLine_classed (names : NamesBalanceSheet doc ctx)
    {running result : RunningLegs} {line : DocLine}
    (step : revenueLine doc ctx running line = .ok result)
    (classed : Classed running.1) : Classed result.1 := by
  obtain ⟨legs, total⟩ := running
  unfold revenueLine at step
  cases lineKind : line.kind <;> simp only [lineKind] at step
  case item =>
      simp only [bind_eq_ok_iff, pure_eq_ok_iff] at step
      obtain ⟨item, finds, «class», resolves, tax, _, sum, _, cost, costs, rfl⟩ := step
      have fits := classFor_fits resolves
      have costClassed := postInventoryCogs_classed names finds (by simpa using fits.symm) costs
      simpa [costClassed, fits] using classed
  case shipping =>
      simp only [bind_eq_ok_iff, pure_eq_ok_iff] at step
      obtain ⟨item, _, «class», resolves, tax, _, sum, _, rfl⟩ := step
      have fits := classFor_fits resolves
      simpa [fits] using classed
  case discount =>
      simp only [bind_eq_ok_iff, pure_eq_ok_iff] at step
      obtain ⟨item, _, «class», resolves, sum, _, rfl⟩ := step
      have fits := classFor_fits resolves
      simpa [fits] using classed
  all_goals
    rw [pure_eq_ok_iff] at step
    subst step
    exact classed

theorem returnsLine_classed (names : NamesBalanceSheet doc ctx)
    {running result : RunningLegs} {line : DocLine}
    (step : returnsLine doc ctx running line = .ok result)
    (classed : Classed running.1) : Classed result.1 := by
  obtain ⟨legs, total⟩ := running
  unfold returnsLine at step
  cases lineKind : line.kind <;> simp only [lineKind] at step
  case item =>
      simp only [bind_eq_ok_iff, pure_eq_ok_iff, if_true] at step
      obtain ⟨item, finds, «class», resolves, sum, _, cost, costs, rfl⟩ := step
      have fits := classFor_fits resolves
      have costClassed :=
        postInventoryReturn_classed names finds (by simpa using fits.symm) costs
      simpa [costClassed, fits] using classed
  case shipping =>
      simp only [bind_eq_ok_iff, pure_eq_ok_iff, reduceCtorEq, if_false] at step
      obtain ⟨item, _, «class», resolves, sum, _, cost, rfl, rfl⟩ := step
      have fits := classFor_fits resolves
      simpa [fits] using classed
  case discount =>
      simp only [bind_eq_ok_iff, pure_eq_ok_iff] at step
      obtain ⟨item, _, «class», resolves, sum, _, rfl⟩ := step
      have fits := classFor_fits resolves
      simpa [fits] using classed
  all_goals
    rw [pure_eq_ok_iff] at step
    subst step
    exact classed

theorem taxLeg_classed {tax : Option TaxDetail}
    {onSide : AccountId → Money → Option ClassId → Option ContactRef → Leg}
    (onSide_fits : ∀ account amount «class» entity,
      (onSide account amount «class» entity).account = account ∧
        (onSide account amount «class» entity).class = «class»)
    {running result : RunningLegs} (closes : taxLeg tax onSide running = .ok result)
    (classed : Classed running.1) : Classed result.1 := by
  unfold taxLeg at closes
  cases tax with
  | none =>
    rw [pure_eq_ok_iff] at closes
    subst closes
    exact classed
  | some tax =>
    simp only [bind_eq_ok_iff, pure_eq_ok_iff] at closes
    obtain ⟨sum, _, rfl⟩ := closes
    simpa [onSide_fits] using classed

theorem revenueLegs_classed (names : NamesBalanceSheet doc ctx) {result : RunningLegs}
    (builds : revenueLegs doc ctx = .ok result) : Classed result.1 := by
  unfold revenueLegs at builds
  rw [bind_eq_ok_iff] at builds
  obtain ⟨running, folds, closes⟩ := builds
  have classed : Classed running.1 :=
    foldlM_invariant (fun _ (running : RunningLegs) => Classed running.1)
      (fun _ _ _ _ holds step => revenueLine_classed names step holds) (by simp) folds
  exact taxLeg_classed (fun _ _ _ _ => ⟨rfl, rfl⟩) closes classed

theorem returnsLegs_classed (names : NamesBalanceSheet doc ctx) {result : RunningLegs}
    (builds : returnsLegs doc ctx = .ok result) : Classed result.1 := by
  unfold returnsLegs at builds
  rw [bind_eq_ok_iff] at builds
  obtain ⟨running, folds, closes⟩ := builds
  have classed : Classed running.1 :=
    foldlM_invariant (fun _ (running : RunningLegs) => Classed running.1)
      (fun _ _ _ _ holds step => returnsLine_classed names step holds) (by simp) folds
  exact taxLeg_classed (fun _ _ _ _ => ⟨rfl, rfl⟩) closes classed

theorem purchaseSideLegs_classed
    {onSide : AccountId → Money → Option ClassId → Option ContactRef → Leg}
    (onSide_fits : ∀ account amount «class» entity,
      (onSide account amount «class» entity).account = account ∧
        (onSide account amount «class» entity).class = «class»)
    {result : RunningLegs}
    (folds : doc.lines.foldlM (purchaseSideLine onSide doc ctx) ([], Money.zero) =
      .ok result) : Classed result.1 := by
  apply foldlM_invariant (fun _ (running : RunningLegs) => Classed running.1) ?_
    (by simp) folds
  intro consumed line running result classed step
  obtain ⟨legs, total⟩ := running
  unfold purchaseSideLine at step
  cases lineKind : line.kind <;> simp only [lineKind] at step
  case item =>
      simp only [bind_eq_ok_iff, pure_eq_ok_iff] at step
      obtain ⟨item, _, «class», resolves, sum, _, rfl⟩ := step
      simpa [onSide_fits, classFor_fits resolves] using classed
  case account =>
      simp only [bind_eq_ok_iff, pure_eq_ok_iff] at step
      obtain ⟨account, _, «class», resolves, sum, _, rfl⟩ := step
      simpa [onSide_fits, classFor_fits resolves] using classed
  all_goals
    rw [pure_eq_ok_iff] at step
    subst step
    exact classed

theorem depositLine_classed {running result : RunningLegs} {line : DocLine}
    (step : depositLine doc running line = .ok result) (classed : Classed running.1) :
    Classed result.1 := by
  obtain ⟨legs, net⟩ := running
  simp only [depositLine] at step
  split_ifs at step with otherKind negative
  · rw [pure_eq_ok_iff] at step
    subst step
    exact classed
  · simp only [bind_eq_ok_iff, pure_eq_ok_iff] at step
    obtain ⟨account, _, «class», resolves, fee, _, difference, _, rfl⟩ := step
    simpa [classFor_fits resolves] using classed
  · simp only [bind_eq_ok_iff, pure_eq_ok_iff] at step
    obtain ⟨account, _, «class», resolves, sum, _, rfl⟩ := step
    simpa [classFor_fits resolves] using classed

theorem journalLeg_classed {legs result : List Leg} {line : DocLine}
    (step : journalLeg doc legs line = .ok result) (classed : Classed legs) :
    Classed result := by
  unfold journalLeg at step
  split_ifs at step with skipped
  · rw [pure_eq_ok_iff] at step
    subst step
    exact classed
  · simp only [bind_eq_ok_iff, pure_eq_ok_iff] at step
    obtain ⟨account, _, side, _, «class», resolves, rfl⟩ := step
    simpa [classFor_fits resolves] using classed

theorem adjustmentLine_classed {legs result : List Leg} {line : DocLine}
    (step : adjustmentLine doc legs line = .ok result) (classed : Classed legs) :
    Classed result := by
  have sheet : ∀ account, line.account.filter (fun account =>
      decide (line.kind = .account ∧ Chart.isInventoryAsset account.number)) = some account →
        requiresClass account = false := by
    intro account found
    have inventory := (Option.filter_eq_some_iff.mp found).2
    exact requiresClass_of_isInventoryAsset (of_decide_eq_true inventory).2
  unfold adjustmentLine at step
  split_ifs at step with isDescription isZero negative
  · rw [pure_eq_ok_iff] at step
    subst step
    exact classed
  · simp only [bind_eq_ok_iff, pure_eq_ok_iff] at step
    obtain ⟨account, _, rfl⟩ := step
    exact classed
  · simp only [bind_eq_ok_iff, pure_eq_ok_iff, orRefuse_eq_ok_iff] at step
    obtain ⟨account, found, «class», _, shrink, _, rfl⟩ := step
    simpa [sheet account found] using classed
  · simp only [bind_eq_ok_iff, pure_eq_ok_iff, orRefuse_eq_ok_iff] at step
    obtain ⟨account, found, «class», _, rfl⟩ := step
    simpa [sheet account found] using classed

end Lines

section Rules

variable {doc : LedgerDocument} {ctx : PostingContext} {legs : List Leg}

theorem postPayment_classed (names : NamesBalanceSheet doc ctx)
    (builds : postPayment doc = .ok legs) : Classed legs := by
  simp only [postPayment, bind_eq_ok_iff, pure_eq_ok_iff] at builds
  obtain ⟨applied, _, total, _, _, _, rfl⟩ := builds
  have deposit := requiresClass_getD names.depositTo requiresClass_balanceSheet.1
  rw [classed_append, classed_append]
  refine ⟨⟨?_, ?_⟩, by simp [deposit]⟩
  · split_ifs <;> simp
  · split_ifs <;> simp

theorem postBankLine_classed (names : NamesBalanceSheet doc ctx)
    (builds : postBankLine doc ctx = .ok legs) : Classed legs := by
  simp only [postBankLine, bind_eq_ok_iff] at builds
  obtain ⟨line, _, account, _, «class», resolves, builds⟩ := builds
  have fits := classFor_fits resolves
  have bank := requiresClass_getD names.depositTo
    (requiresClass_getD names.payFrom names.defaultBank)
  split_ifs at builds
  · simp only [bind_eq_ok_iff, pure_eq_ok_iff] at builds
    obtain ⟨amount, _, rfl⟩ := builds
    simp [fits, bank]
  · rw [pure_eq_ok_iff] at builds
    subst builds
    simp [fits, bank]

theorem postSettlement_classed (names : NamesBalanceSheet doc ctx)
    (isSettlement : doc.kind = .settlement)
    (builds : postSettlement doc ctx = .ok legs) : Classed legs := by
  simp only [postSettlement, bind_eq_ok_iff, pure_eq_ok_iff] at builds
  obtain ⟨grossLine, _, net, _, rfl⟩ := builds
  have bank := requiresClass_getD names.depositTo names.defaultBank
  have carries := names.settlementFee isSettlement
  split_ifs with isZero
  · simp [bank]
  · cases feeLine : namedAccountLine doc Chart.merchantFees with
    | none =>
      rw [feeLine] at isZero
      exact absurd rfl isZero
    | some line =>
      have classPresent := Option.isSome_iff_ne_none.mpr (carries line feeLine)
      simp [bank, classPresent]

theorem varianceLegs_classed {variance : Money} {«class» : ClassId}
    (builds : varianceLegs variance «class» = .ok legs) : Classed legs := by
  unfold varianceLegs at builds
  split_ifs at builds with negative isZero
  · simp only [bind_eq_ok_iff, pure_eq_ok_iff] at builds
    obtain ⟨shortfall, _, rfl⟩ := builds
    simp
  · rw [pure_eq_ok_iff] at builds
    subst builds
    exact classed_nil
  · rw [pure_eq_ok_iff] at builds
    subst builds
    simp

theorem postBuild_classed (builds : postBuild doc = .ok legs) : Classed legs := by
  simp only [postBuild, bind_eq_ok_iff, pure_eq_ok_iff] at builds
  obtain ⟨«class», _, finished, _, rawUsed, _, applied, _, remainder, _, variance, _,
    plug, plugs, rfl⟩ := builds
  have plugClassed := varianceLegs_classed plugs
  simp [plugClassed]

theorem postingLegs_classed (names : NamesBalanceSheet doc ctx)
    (builds : postingLegs doc ctx = .ok legs) : Classed legs := by
  have deposit := requiresClass_getD names.depositTo names.defaultDeposit
  have bankDeposit := requiresClass_getD names.depositTo names.defaultBank
  have bankPayment := requiresClass_getD names.payFrom names.defaultBank
  unfold postingLegs at builds
  cases docKind : doc.kind <;> simp only [docKind] at builds
  case invoice =>
      simp only [postInvoice, bind_eq_ok_iff, pure_eq_ok_iff] at builds
      obtain ⟨running, revenue, rfl⟩ := builds
      simpa using revenueLegs_classed names revenue
  case salesReceipt =>
      simp only [postSalesReceipt, bind_eq_ok_iff, pure_eq_ok_iff] at builds
      obtain ⟨running, revenue, rfl⟩ := builds
      simpa [deposit] using revenueLegs_classed names revenue
  case creditMemo =>
      simp only [postCreditMemo, bind_eq_ok_iff, pure_eq_ok_iff] at builds
      obtain ⟨running, returns, rfl⟩ := builds
      simpa using returnsLegs_classed names returns
  case refundReceipt =>
      simp only [postRefundReceipt, bind_eq_ok_iff, pure_eq_ok_iff] at builds
      obtain ⟨running, returns, rfl⟩ := builds
      simpa [bankPayment] using returnsLegs_classed names returns
  case payment => exact postPayment_classed names builds
  case bill =>
      simp only [postBill, bind_eq_ok_iff, pure_eq_ok_iff] at builds
      obtain ⟨running, folds, rfl⟩ := builds
      simpa using purchaseSideLegs_classed (fun _ _ _ _ => ⟨rfl, rfl⟩) folds
  case billPayment =>
      simp only [postBillPayment, bind_eq_ok_iff, pure_eq_ok_iff] at builds
      obtain ⟨applied, _, total, _, rfl⟩ := builds
      simp [bankPayment]
  case vendorCredit =>
      simp only [postVendorCredit, bind_eq_ok_iff, pure_eq_ok_iff] at builds
      obtain ⟨running, folds, rfl⟩ := builds
      simpa using purchaseSideLegs_classed (fun _ _ _ _ => ⟨rfl, rfl⟩) folds
  case purchase =>
      simp only [postPurchase, bind_eq_ok_iff, pure_eq_ok_iff] at builds
      obtain ⟨running, folds, rfl⟩ := builds
      simpa [bankPayment] using purchaseSideLegs_classed (fun _ _ _ _ => ⟨rfl, rfl⟩) folds
  case deposit =>
      simp only [postDeposit, bind_eq_ok_iff, pure_eq_ok_iff] at builds
      obtain ⟨running, folds, rfl⟩ := builds
      have classed : Classed running.1 :=
        foldlM_invariant (fun _ (running : RunningLegs) => Classed running.1)
          (fun _ _ _ _ holds step => depositLine_classed step holds) (by simp) folds
      simpa [bankDeposit] using classed
  case journalEntry =>
      exact foldlM_invariant (fun _ legs => Classed legs)
        (fun _ _ _ _ holds step => journalLeg_classed step holds) (by simp) builds
  case bankLine => exact postBankLine_classed names builds
  case settlement => exact postSettlement_classed names docKind builds
  case rawMaterialReceipt =>
      simp only [postRawMaterialReceipt, bind_eq_ok_iff, pure_eq_ok_iff] at builds
      obtain ⟨landed, _, rfl⟩ := builds
      simp
  case build => exact postBuild_classed builds
  case inventoryAdjustment =>
      simp only [postInventoryAdjustment, bind_eq_ok_iff, pure_eq_ok_iff] at builds
      obtain ⟨adjusted, folds, _, _, rfl⟩ := builds
      exact foldlM_invariant (fun _ legs => Classed legs)
        (fun _ _ _ _ holds step => adjustmentLine_classed step holds) (by simp) folds
  all_goals
    rw [pure_eq_ok_iff] at builds
    subst builds
    exact classed_nil

end Rules

section Merging

theorem classed_mergeLegs {legs : List Leg} {lines : List JournalLine}
    (classed : Classed legs) (merges : mergeLegs legs = .ok lines) :
    ∀ line ∈ lines, requiresClass line.account = line.class.isSome := by
  intro line lineMem
  obtain ⟨leg, legMem, sameKey, -⟩ := mergeLegs_from_legs merges line lineMem
  have sameAccount : leg.account = line.account := congrArg PostingKey.account sameKey
  have sameClass : leg.class = line.class := congrArg PostingKey.class sameKey
  rw [← sameAccount, ← sameClass]
  exact classed leg legMem

theorem EntryDerivation.classed {doc : LedgerDocument} {version : Nat}
    {ctx : PostingContext} {legs : List Leg} {lines : List JournalLine}
    {entry : JournalEntry} (derivation : EntryDerivation doc version ctx legs lines entry)
    (names : NamesBalanceSheet doc ctx) :
    ∀ line ∈ entry.lines, requiresClass line.account = line.class.isSome := by
  have linesClassed := classed_mergeLegs (postingLegs_classed names derivation.builds)
    derivation.merges
  rw [derivation.entryEq]
  unfold applyVoid
  cases doc.isVoided
  · exact linesClassed
  · intro line lineMem
    obtain ⟨original, originalMem, rfl⟩ := List.mem_map.mp lineMem
    exact linesClassed original originalMem

end Merging

namespace Ledger

theorem WellFormed.checkClassRule_of_classed {ledger : Ledger}
    (wellFormed : ledger.WellFormed) {line : JournalLine}
    (fits : requiresClass line.account = line.class.isSome) :
    ledger.checkClassRule line = .ok () ↔
      (∃ row ∈ ledger.accounts, row.accountId = line.account) ∧
        ∀ «class», line.class = some «class» →
          ∃ row ∈ ledger.classes, row.classId = «class» := by
  rw [checkClassRule_eq_ok_iff wellFormed.accountNumbers]
  refine and_congr_right fun _ => ?_
  cases carried : line.class with
  | none => simp [fits, carried]
  | some «class» => simp [fits, carried]

end Ledger

/-- Every line of an entry that `post` returns has a class exactly when its
account takes one, so the store accepts it as soon as it knows the account and
the class. -/
theorem post_entry_passes_classRule {doc : LedgerDocument} {version : Nat}
    {ctx : PostingContext} {entry : JournalEntry} (names : NamesBalanceSheet doc ctx)
    (posts : post doc version ctx = .ok (.entry entry)) :
    ∀ line ∈ entry.lines, requiresClass line.account = line.class.isSome ∧
      ∀ ledger : Ledger, ledger.WellFormed →
        (ledger.checkClassRule line = .ok () ↔
          (∃ row ∈ ledger.accounts, row.accountId = line.account) ∧
            ∀ «class», line.class = some «class» →
              ∃ row ∈ ledger.classes, row.classId = «class») := by
  obtain ⟨legs, lines, derivation⟩ := post_eq_entry posts
  intro line lineMem
  have fits := derivation.classed names line lineMem
  exact ⟨fits, fun ledger wellFormed => wellFormed.checkClassRule_of_classed fits⟩

/-- A voided settlement of a batch with a fee. -/
def voidedSettlement : LedgerDocument where
  documentId := "settlement-1"
  kind := .settlement
  txnDate := ⟨2027, 3, 1, Eq.refl true⟩
  depositTo := some ⟨Chart.checking⟩
  lines :=
    [{ lineNo := 1, kind := .account, amount := .fromMinor 10000,
       account := some ⟨Chart.authnetClearing⟩ },
      { lineNo := 2, kind := .account, amount := .fromMinor 290,
        account := some ⟨Chart.merchantFees⟩, «class» := some ⟨"foam"⟩ }]
  isVoided := true

theorem post_entry_passes_classRule_voidedSettlement :
    ∃ entry, post voidedSettlement 1 {} = .ok (.entry entry) ∧
      ∀ line ∈ entry.lines, requiresClass line.account = line.class.isSome := by
  refine ⟨_, rfl, fun line lineMem => ?_⟩
  have names : NamesBalanceSheet voidedSettlement {} :=
    { depositTo := fun account named => by
        rw [← Option.some.inj named]
        decide
      payFrom := fun account named => by cases named
      itemAssets := fun itemId item found => by cases found
      defaultDeposit := by decide
      defaultBank := by decide
      settlementFee := fun _ line found => by
        rw [← Option.some.inj found]
        decide }
  exact (post_entry_passes_classRule names
    (rfl : post voidedSettlement 1 {} = _) line lineMem).1

end QuickBooks
