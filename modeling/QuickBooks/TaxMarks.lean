import QuickBooks.MergedLegs
import QuickBooks.PostingBalance

/-!
# Which legs are marked taxable

An invoice and a sales receipt mark the income legs of their taxable item and
shipping lines.  No other leg that a rule builds is marked: not the leg of a
discount, not the leg of a returned line, and none of any other kind of document.
-/

namespace QuickBooks

open ExceptPrograms KeyedTotals

section Marks

def Unmarked (legs : List Leg) : Prop :=
  ∀ leg ∈ legs, leg.isTaxable = false

@[simp]
theorem unmarked_nil : Unmarked [] := by
  simp [Unmarked]

@[simp]
theorem unmarked_cons {leg : Leg} {legs : List Leg} :
    Unmarked (leg :: legs) ↔ leg.isTaxable = false ∧ Unmarked legs := by
  simp [Unmarked]

@[simp]
theorem unmarked_append {first second : List Leg} :
    Unmarked (first ++ second) ↔ Unmarked first ∧ Unmarked second := by
  simp [Unmarked, or_imp, forall_and]

variable (account : AccountId) (amount : Money) («class» : Option ClassId)
  (entity : Option ContactRef)

@[simp]
theorem isTaxable_debit : (debit account amount «class» entity).isTaxable = false :=
  rfl

@[simp]
theorem isTaxable_credit : (credit account amount «class» entity).isTaxable = false :=
  rfl

@[simp]
theorem isTaxable_withTax (leg : Leg) (isTaxable : Bool) (taxAmount : Option Money)
    (taxRate : Option DecimalNumbers.Decimal) :
    (leg.withTax isTaxable taxAmount taxRate).isTaxable = isTaxable :=
  rfl

end Marks

section UnmarkedRules

variable {doc : LedgerDocument} {ctx : PostingContext} {legs : List Leg}

theorem postInventoryCogs_unmarked {line : DocLine} {item : Option ItemAccounts}
    {«class» : Option ClassId} (posts : postInventoryCogs line item «class» = .ok legs) :
    Unmarked legs := by
  unfold postInventoryCogs at posts
  rw [bind_eq_ok_iff] at posts
  obtain ⟨cost, -, rest⟩ := posts
  cases cost with
  | none =>
    rw [pure_eq_ok_iff] at rest
    subst rest
    exact unmarked_nil
  | some cost =>
    rw [pure_eq_ok_iff] at rest
    subst rest
    simp

theorem postInventoryReturn_unmarked {line : DocLine} {item : Option ItemAccounts}
    {«class» : Option ClassId} (posts : postInventoryReturn line item «class» = .ok legs) :
    Unmarked legs := by
  unfold postInventoryReturn at posts
  rw [bind_eq_ok_iff] at posts
  obtain ⟨cost, -, rest⟩ := posts
  cases cost with
  | none =>
    rw [pure_eq_ok_iff] at rest
    subst rest
    exact unmarked_nil
  | some cost =>
    rw [pure_eq_ok_iff] at rest
    subst rest
    simp

theorem returnsLine_unmarked {running result : RunningLegs} {line : DocLine}
    (step : returnsLine doc ctx running line = .ok result) (unmarked : Unmarked running.1) :
    Unmarked result.1 := by
  obtain ⟨legs, total⟩ := running
  unfold returnsLine at step
  cases lineKind : line.kind <;> simp only [lineKind] at step
  case item =>
      simp only [bind_eq_ok_iff, pure_eq_ok_iff, if_true] at step
      obtain ⟨item, _, «class», _, sum, _, cost, costs, rfl⟩ := step
      simpa [postInventoryReturn_unmarked costs] using unmarked
  case shipping =>
      simp only [bind_eq_ok_iff, pure_eq_ok_iff, reduceCtorEq, if_false] at step
      obtain ⟨item, _, «class», _, sum, _, cost, rfl, rfl⟩ := step
      simpa using unmarked
  case discount =>
      simp only [bind_eq_ok_iff, pure_eq_ok_iff] at step
      obtain ⟨item, _, «class», _, sum, _, rfl⟩ := step
      simpa using unmarked
  all_goals
    rw [pure_eq_ok_iff] at step
    subst step
    exact unmarked

theorem taxLeg_eq_ok {tax : Option TaxDetail}
    {onSide : AccountId → Money → Option ClassId → Option ContactRef → Leg}
    {running result : RunningLegs} (closes : taxLeg tax onSide running = .ok result) :
    result.1 = running.1 ∨
      ∃ amount, result.1 = running.1 ++ [onSide (acct Chart.salesTaxPayable) amount none none] := by
  unfold taxLeg at closes
  cases tax with
  | none =>
    rw [pure_eq_ok_iff] at closes
    exact .inl (congrArg Prod.fst closes).symm
  | some tax =>
    simp only [bind_eq_ok_iff, pure_eq_ok_iff] at closes
    obtain ⟨sum, _, rfl⟩ := closes
    exact .inr ⟨tax.totalTax, rfl⟩

theorem returnsLegs_unmarked {result : RunningLegs} (builds : returnsLegs doc ctx = .ok result) :
    Unmarked result.1 := by
  unfold returnsLegs at builds
  rw [bind_eq_ok_iff] at builds
  obtain ⟨running, folds, closes⟩ := builds
  have unmarked : Unmarked running.1 :=
    foldlM_invariant (fun _ (running : RunningLegs) => Unmarked running.1)
      (fun _ _ _ _ holds step => returnsLine_unmarked step holds) (by simp) folds
  rcases taxLeg_eq_ok closes with same | ⟨amount, added⟩
  · rw [same]
    exact unmarked
  · rw [added]
    simpa using unmarked

theorem purchaseSideLegs_unmarked
    {onSide : AccountId → Money → Option ClassId → Option ContactRef → Leg}
    (plain : ∀ account amount «class» entity,
      (onSide account amount «class» entity).isTaxable = false)
    {result : RunningLegs}
    (folds : doc.lines.foldlM (purchaseSideLine onSide doc ctx) ([], Money.zero) =
      .ok result) : Unmarked result.1 := by
  apply foldlM_invariant (fun _ (running : RunningLegs) => Unmarked running.1) ?_
    (by simp) folds
  intro consumed line running result unmarked step
  obtain ⟨legs, total⟩ := running
  unfold purchaseSideLine at step
  cases lineKind : line.kind <;> simp only [lineKind] at step
  case item =>
      simp only [bind_eq_ok_iff, pure_eq_ok_iff] at step
      obtain ⟨item, _, «class», _, sum, _, rfl⟩ := step
      simpa [plain] using unmarked
  case account =>
      simp only [bind_eq_ok_iff, pure_eq_ok_iff] at step
      obtain ⟨account, _, «class», _, sum, _, rfl⟩ := step
      simpa [plain] using unmarked
  all_goals
    rw [pure_eq_ok_iff] at step
    subst step
    exact unmarked

theorem depositLine_unmarked {running result : RunningLegs} {line : DocLine}
    (step : depositLine doc running line = .ok result) (unmarked : Unmarked running.1) :
    Unmarked result.1 := by
  obtain ⟨legs, net⟩ := running
  simp only [depositLine] at step
  split_ifs at step with otherKind negative
  · rw [pure_eq_ok_iff] at step
    subst step
    exact unmarked
  · simp only [bind_eq_ok_iff, pure_eq_ok_iff] at step
    obtain ⟨account, _, «class», _, fee, _, difference, _, rfl⟩ := step
    simpa using unmarked
  · simp only [bind_eq_ok_iff, pure_eq_ok_iff] at step
    obtain ⟨account, _, «class», _, sum, _, rfl⟩ := step
    simpa using unmarked

theorem journalLeg_unmarked {result : List Leg} {line : DocLine}
    (step : journalLeg doc legs line = .ok result) (unmarked : Unmarked legs) :
    Unmarked result := by
  unfold journalLeg at step
  split_ifs at step with skipped
  · rw [pure_eq_ok_iff] at step
    subst step
    exact unmarked
  · simp only [bind_eq_ok_iff, pure_eq_ok_iff] at step
    obtain ⟨account, _, side, _, «class», _, rfl⟩ := step
    simpa using unmarked

theorem adjustmentLine_unmarked {result : List Leg} {line : DocLine}
    (step : adjustmentLine doc legs line = .ok result) (unmarked : Unmarked legs) :
    Unmarked result := by
  unfold adjustmentLine at step
  split_ifs at step with isDescription isZero negative
  · rw [pure_eq_ok_iff] at step
    subst step
    exact unmarked
  · simp only [bind_eq_ok_iff, pure_eq_ok_iff] at step
    obtain ⟨account, _, rfl⟩ := step
    exact unmarked
  · simp only [bind_eq_ok_iff, pure_eq_ok_iff] at step
    obtain ⟨account, _, «class», _, shrink, _, rfl⟩ := step
    simpa using unmarked
  · simp only [bind_eq_ok_iff, pure_eq_ok_iff] at step
    obtain ⟨account, _, «class», _, rfl⟩ := step
    simpa using unmarked

theorem postPayment_unmarked (builds : postPayment doc = .ok legs) : Unmarked legs := by
  simp only [postPayment, bind_eq_ok_iff, pure_eq_ok_iff] at builds
  obtain ⟨applied, _, total, _, _, _, rfl⟩ := builds
  split_ifs <;> simp

theorem postBankLine_unmarked (builds : postBankLine doc ctx = .ok legs) : Unmarked legs := by
  simp only [postBankLine, bind_eq_ok_iff] at builds
  obtain ⟨line, _, account, _, «class», _, builds⟩ := builds
  split_ifs at builds
  · simp only [bind_eq_ok_iff, pure_eq_ok_iff] at builds
    obtain ⟨amount, _, rfl⟩ := builds
    simp
  · rw [pure_eq_ok_iff] at builds
    subst builds
    simp

theorem postSettlement_unmarked (builds : postSettlement doc ctx = .ok legs) :
    Unmarked legs := by
  simp only [postSettlement, bind_eq_ok_iff, pure_eq_ok_iff] at builds
  obtain ⟨grossLine, _, net, _, rfl⟩ := builds
  split_ifs <;> simp

theorem postBuild_unmarked (builds : postBuild doc = .ok legs) : Unmarked legs := by
  simp only [postBuild, bind_eq_ok_iff, pure_eq_ok_iff] at builds
  obtain ⟨«class», _, finished, _, rawUsed, _, applied, _, remainder, _, variance, _,
    plug, plugs, rfl⟩ := builds
  have plugUnmarked : Unmarked plug := by
    unfold varianceLegs at plugs
    split_ifs at plugs
    · simp only [bind_eq_ok_iff, pure_eq_ok_iff] at plugs
      obtain ⟨shortfall, _, rfl⟩ := plugs
      simp
    · rw [pure_eq_ok_iff] at plugs
      subst plugs
      exact unmarked_nil
    · rw [pure_eq_ok_iff] at plugs
      subst plugs
      simp
  simp [plugUnmarked]

def DocKind.isSale : DocKind → Bool
  | .invoice | .salesReceipt => true
  | _ => false

theorem postingLegs_unmarked (notSale : doc.kind.isSale = false)
    (builds : postingLegs doc ctx = .ok legs) : Unmarked legs := by
  unfold postingLegs at builds
  cases docKind : doc.kind <;> simp only [docKind] at builds
  case invoice => simp [docKind, DocKind.isSale] at notSale
  case salesReceipt => simp [docKind, DocKind.isSale] at notSale
  case creditMemo =>
      simp only [postCreditMemo, bind_eq_ok_iff, pure_eq_ok_iff] at builds
      obtain ⟨running, returns, rfl⟩ := builds
      simpa using returnsLegs_unmarked returns
  case refundReceipt =>
      simp only [postRefundReceipt, bind_eq_ok_iff, pure_eq_ok_iff] at builds
      obtain ⟨running, returns, rfl⟩ := builds
      simpa using returnsLegs_unmarked returns
  case payment => exact postPayment_unmarked builds
  case bill =>
      simp only [postBill, bind_eq_ok_iff, pure_eq_ok_iff] at builds
      obtain ⟨running, folds, rfl⟩ := builds
      simpa using purchaseSideLegs_unmarked (fun _ _ _ _ => rfl) folds
  case billPayment =>
      simp only [postBillPayment, bind_eq_ok_iff, pure_eq_ok_iff] at builds
      obtain ⟨applied, _, total, _, rfl⟩ := builds
      simp
  case vendorCredit =>
      simp only [postVendorCredit, bind_eq_ok_iff, pure_eq_ok_iff] at builds
      obtain ⟨running, folds, rfl⟩ := builds
      simpa using purchaseSideLegs_unmarked (fun _ _ _ _ => rfl) folds
  case purchase =>
      simp only [postPurchase, bind_eq_ok_iff, pure_eq_ok_iff] at builds
      obtain ⟨running, folds, rfl⟩ := builds
      simpa using purchaseSideLegs_unmarked (fun _ _ _ _ => rfl) folds
  case deposit =>
      simp only [postDeposit, bind_eq_ok_iff, pure_eq_ok_iff] at builds
      obtain ⟨running, folds, rfl⟩ := builds
      have unmarked : Unmarked running.1 :=
        foldlM_invariant (fun _ (running : RunningLegs) => Unmarked running.1)
          (fun _ _ _ _ holds step => depositLine_unmarked step holds) (by simp) folds
      simpa using unmarked
  case journalEntry =>
      exact foldlM_invariant (fun _ legs => Unmarked legs)
        (fun _ _ _ _ holds step => journalLeg_unmarked step holds) (by simp) builds
  case bankLine => exact postBankLine_unmarked builds
  case settlement => exact postSettlement_unmarked builds
  case rawMaterialReceipt =>
      simp only [postRawMaterialReceipt, bind_eq_ok_iff, pure_eq_ok_iff] at builds
      obtain ⟨landed, _, rfl⟩ := builds
      simp
  case build => exact postBuild_unmarked builds
  case inventoryAdjustment =>
      simp only [postInventoryAdjustment, bind_eq_ok_iff, pure_eq_ok_iff] at builds
      obtain ⟨adjusted, folds, _, _, rfl⟩ := builds
      exact foldlM_invariant (fun _ legs => Unmarked legs)
        (fun _ _ _ _ holds step => adjustmentLine_unmarked step holds) (by simp) folds
  all_goals
    rw [pure_eq_ok_iff] at builds
    subst builds
    exact unmarked_nil

end UnmarkedRules

end QuickBooks
