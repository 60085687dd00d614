import QuickBooks.PostingLegTotals

/-!
# Every posting balances

Each posting rule keeps a running total equal to the net of its legs and
closes with a leg for that total, so its legs net to zero whatever the signs
of the amounts.  Merging keeps the net, so an entry that `post` returns is
non-empty, has equal sides, and consists of one-sided lines numbered from one.
A journal document states its own sides, and `post` refuses it when they
differ.
-/

namespace QuickBooks

open ExceptPrograms KeyedTotals

def legBalance (legs : List Leg) : Int :=
  legTotal (fun _ => True) legs

@[simp]
theorem legBalance_nil : legBalance [] = 0 :=
  rfl

@[simp]
theorem legBalance_cons (leg : Leg) (legs : List Leg) :
    legBalance (leg :: legs) = leg.net + legBalance legs := by
  simp [legBalance]

@[simp]
theorem legBalance_append (first second : List Leg) :
    legBalance (first ++ second) = legBalance first + legBalance second :=
  legTotal_append _ _ _

theorem postInventoryCogs_balance {line : DocLine} {item : Option ItemAccounts}
    {«class» : Option ClassId} {legs : List Leg}
    (posts : postInventoryCogs line item «class» = .ok legs) :
    legBalance legs = 0 := by
  unfold postInventoryCogs at posts
  rw [bind_eq_ok_iff] at posts
  obtain ⟨cost, _, rest⟩ := posts
  cases cost with
  | none =>
    rw [pure_eq_ok_iff] at rest
    subst rest
    rfl
  | some cost =>
    rw [pure_eq_ok_iff] at rest
    subst rest
    simp

theorem postInventoryReturn_balance {line : DocLine} {item : Option ItemAccounts}
    {«class» : Option ClassId} {legs : List Leg}
    (posts : postInventoryReturn line item «class» = .ok legs) :
    legBalance legs = 0 := by
  unfold postInventoryReturn at posts
  rw [bind_eq_ok_iff] at posts
  obtain ⟨cost, _, rest⟩ := posts
  cases cost with
  | none =>
    rw [pure_eq_ok_iff] at rest
    subst rest
    rfl
  | some cost =>
    rw [pure_eq_ok_iff] at rest
    subst rest
    simp

theorem revenueLine_balance {doc : LedgerDocument} {ctx : PostingContext}
    {running result : RunningLegs} {line : DocLine}
    (step : revenueLine doc ctx running line = .ok result) :
    legBalance result.1 + result.2.minor =
      legBalance running.1 + running.2.minor := by
  obtain ⟨legs, total⟩ := running
  unfold revenueLine at step
  cases lineKind : line.kind <;> simp only [lineKind] at step
  case item =>
      simp only [bind_eq_ok_iff, liftM_money_eq_ok_iff,
        Money.checkedAdd_eq_ok_iff, pure_eq_ok_iff] at step
      obtain ⟨item, _, «class», _, tax, _, sum, adds, cost, costs, rfl⟩ := step
      have costBalance := postInventoryCogs_balance costs
      simp [costBalance, adds]
      omega
  case shipping =>
      simp only [bind_eq_ok_iff, liftM_money_eq_ok_iff,
        Money.checkedAdd_eq_ok_iff, pure_eq_ok_iff] at step
      obtain ⟨item, _, «class», _, tax, _, sum, adds, rfl⟩ := step
      simp [adds]
      omega
  case discount =>
      simp only [bind_eq_ok_iff, liftM_money_eq_ok_iff,
        Money.checkedSub_eq_ok_iff, pure_eq_ok_iff] at step
      obtain ⟨item, _, «class», _, sum, subtracts, rfl⟩ := step
      simp [subtracts]
  all_goals
    rw [pure_eq_ok_iff] at step
    subst step
    rfl

theorem revenueLegs_balance {doc : LedgerDocument} {ctx : PostingContext}
    {result : RunningLegs} (builds : revenueLegs doc ctx = .ok result) :
    legBalance result.1 + result.2.minor = 0 := by
  unfold revenueLegs at builds
  rw [bind_eq_ok_iff] at builds
  obtain ⟨running, folds, closes⟩ := builds
  have runningBalance : legBalance running.1 + running.2.minor = 0 :=
    foldlM_invariant
      (fun _ (running : RunningLegs) =>
        legBalance running.1 + running.2.minor = 0)
      (fun _ _ _ _ holds step => (revenueLine_balance step).trans holds)
      (by simp) folds
  unfold taxLeg at closes
  cases docTax : doc.tax with
  | none =>
    rw [docTax, pure_eq_ok_iff] at closes
    subst closes
    exact runningBalance
  | some tax =>
    simp only [docTax, bind_eq_ok_iff, liftM_money_eq_ok_iff,
      Money.checkedAdd_eq_ok_iff, pure_eq_ok_iff] at closes
    obtain ⟨sum, adds, rfl⟩ := closes
    simp [adds]
    omega

theorem returnsLine_balance {doc : LedgerDocument} {ctx : PostingContext}
    {running result : RunningLegs} {line : DocLine}
    (step : returnsLine doc ctx running line = .ok result) :
    legBalance result.1 - result.2.minor =
      legBalance running.1 - running.2.minor := by
  obtain ⟨legs, total⟩ := running
  unfold returnsLine at step
  cases lineKind : line.kind <;> simp only [lineKind] at step
  case item =>
      simp only [bind_eq_ok_iff, liftM_money_eq_ok_iff, if_true,
        Money.checkedAdd_eq_ok_iff, pure_eq_ok_iff] at step
      obtain ⟨item, _, «class», _, sum, adds, cost, costs, rfl⟩ := step
      have costBalance := postInventoryReturn_balance costs
      simp [costBalance, adds]
  case shipping =>
      simp only [bind_eq_ok_iff, liftM_money_eq_ok_iff, reduceCtorEq, if_false,
        Money.checkedAdd_eq_ok_iff, pure_eq_ok_iff] at step
      obtain ⟨item, _, «class», _, sum, adds, cost, rfl, rfl⟩ := step
      simp [adds]
  case discount =>
      simp only [bind_eq_ok_iff, liftM_money_eq_ok_iff,
        Money.checkedSub_eq_ok_iff, pure_eq_ok_iff] at step
      obtain ⟨item, _, «class», _, sum, subtracts, rfl⟩ := step
      simp [subtracts]
      omega
  all_goals
    rw [pure_eq_ok_iff] at step
    subst step
    rfl

theorem returnsLegs_balance {doc : LedgerDocument} {ctx : PostingContext}
    {result : RunningLegs} (builds : returnsLegs doc ctx = .ok result) :
    legBalance result.1 = result.2.minor := by
  unfold returnsLegs at builds
  rw [bind_eq_ok_iff] at builds
  obtain ⟨running, folds, closes⟩ := builds
  have runningBalance : legBalance running.1 - running.2.minor = 0 :=
    foldlM_invariant
      (fun _ (running : RunningLegs) =>
        legBalance running.1 - running.2.minor = 0)
      (fun _ _ _ _ holds step => (returnsLine_balance step).trans holds)
      (by simp) folds
  unfold taxLeg at closes
  cases docTax : doc.tax with
  | none =>
    rw [docTax, pure_eq_ok_iff] at closes
    subst closes
    omega
  | some tax =>
    simp only [docTax, bind_eq_ok_iff, liftM_money_eq_ok_iff,
      Money.checkedAdd_eq_ok_iff, pure_eq_ok_iff] at closes
    obtain ⟨sum, adds, rfl⟩ := closes
    simp [adds]
    omega

/-- The running total of a purchase-side document is what its legs put on the
side of its lines, `sign` being one for debits and minus one for credits. -/
theorem purchaseSideLine_balance
    {onSide : AccountId → Money → Option ClassId → Option ContactRef → Leg}
    (sign : Int)
    (onSide_net : ∀ account amount «class» entity,
      (onSide account amount «class» entity).net = sign * amount.minor)
    {doc : LedgerDocument} {ctx : PostingContext} {running result : RunningLegs}
    {line : DocLine}
    (step : purchaseSideLine onSide doc ctx running line = .ok result) :
    legBalance result.1 - sign * result.2.minor =
      legBalance running.1 - sign * running.2.minor := by
  obtain ⟨legs, total⟩ := running
  unfold purchaseSideLine at step
  cases lineKind : line.kind <;> simp only [lineKind] at step
  case item =>
      simp only [bind_eq_ok_iff, liftM_money_eq_ok_iff,
        Money.checkedAdd_eq_ok_iff, pure_eq_ok_iff] at step
      obtain ⟨item, _, «class», _, sum, adds, rfl⟩ := step
      simp [adds, onSide_net, mul_add]
  case account =>
      simp only [bind_eq_ok_iff, liftM_money_eq_ok_iff,
        Money.checkedAdd_eq_ok_iff, pure_eq_ok_iff] at step
      obtain ⟨account, _, «class», _, sum, adds, rfl⟩ := step
      simp [adds, onSide_net, mul_add]
  all_goals
    rw [pure_eq_ok_iff] at step
    subst step
    rfl

theorem purchaseSideLegs_balance
    {onSide : AccountId → Money → Option ClassId → Option ContactRef → Leg}
    (sign : Int)
    (onSide_net : ∀ account amount «class» entity,
      (onSide account amount «class» entity).net = sign * amount.minor)
    {doc : LedgerDocument} {ctx : PostingContext} {result : RunningLegs}
    (folds : doc.lines.foldlM (purchaseSideLine onSide doc ctx) ([], Money.zero) =
      .ok result) :
    legBalance result.1 = sign * result.2.minor := by
  have runningBalance : legBalance result.1 - sign * result.2.minor = 0 :=
    foldlM_invariant
      (fun _ (running : RunningLegs) =>
        legBalance running.1 - sign * running.2.minor = 0)
      (fun _ _ _ _ holds step =>
        (purchaseSideLine_balance sign onSide_net step).trans holds)
      (by simp) folds
  omega

theorem depositLine_balance {doc : LedgerDocument} {running result : RunningLegs}
    {line : DocLine} (step : depositLine doc running line = .ok result) :
    legBalance result.1 + result.2.minor =
      legBalance running.1 + running.2.minor := by
  obtain ⟨legs, net⟩ := running
  simp only [depositLine] at step
  split_ifs at step with otherKind negative
  · rw [pure_eq_ok_iff] at step
    subst step
    rfl
  · simp only [bind_eq_ok_iff, liftM_money_eq_ok_iff,
      Money.checkedNeg_eq_ok_iff, Money.checkedSub_eq_ok_iff,
      pure_eq_ok_iff] at step
    obtain ⟨account, _, «class», _, fee, negates, difference, subtracts, rfl⟩ := step
    simp [subtracts]
  · simp only [bind_eq_ok_iff, liftM_money_eq_ok_iff,
      Money.checkedAdd_eq_ok_iff, pure_eq_ok_iff] at step
    obtain ⟨account, _, «class», _, sum, adds, rfl⟩ := step
    simp [adds]
    omega

theorem adjustmentLine_balance {doc : LedgerDocument} {legs result : List Leg}
    {line : DocLine} (step : adjustmentLine doc legs line = .ok result) :
    legBalance result = legBalance legs := by
  unfold adjustmentLine at step
  split_ifs at step with isDescription isZero negative
  · rw [pure_eq_ok_iff] at step
    subst step
    rfl
  · simp only [bind_eq_ok_iff, pure_eq_ok_iff] at step
    obtain ⟨account, _, rfl⟩ := step
    rfl
  · simp only [bind_eq_ok_iff, pure_eq_ok_iff] at step
    obtain ⟨account, _, «class», _, shrink, _, rfl⟩ := step
    simp
  · simp only [bind_eq_ok_iff, pure_eq_ok_iff] at step
    obtain ⟨account, _, «class», _, rfl⟩ := step
    simp

theorem varianceLegs_balance {variance : Money} {«class» : ClassId} {legs : List Leg}
    (builds : varianceLegs variance «class» = .ok legs) :
    legBalance legs = -variance.minor := by
  unfold varianceLegs at builds
  split_ifs at builds with negative isZero
  · simp only [bind_eq_ok_iff, liftM_money_eq_ok_iff,
      Money.checkedNeg_eq_ok_iff, pure_eq_ok_iff] at builds
    obtain ⟨shortfall, negates, rfl⟩ := builds
    simp [negates]
  · rw [pure_eq_ok_iff] at builds
    subst builds
    rw [Money.isZero_iff] at isZero
    simp [isZero]
  · rw [pure_eq_ok_iff] at builds
    subst builds
    simp

section Rules

variable {doc : LedgerDocument} {ctx : PostingContext} {legs : List Leg}

theorem postInvoice_balance (builds : postInvoice doc ctx = .ok legs) :
    legBalance legs = 0 := by
  simp only [postInvoice, bind_eq_ok_iff, pure_eq_ok_iff] at builds
  obtain ⟨⟨lineLegs, total⟩, revenue, rfl⟩ := builds
  have revenueBalance := revenueLegs_balance revenue
  simpa using revenueBalance

theorem postSalesReceipt_balance (builds : postSalesReceipt doc ctx = .ok legs) :
    legBalance legs = 0 := by
  simp only [postSalesReceipt, bind_eq_ok_iff, pure_eq_ok_iff] at builds
  obtain ⟨⟨lineLegs, total⟩, revenue, rfl⟩ := builds
  have revenueBalance := revenueLegs_balance revenue
  simpa using revenueBalance

theorem postCreditMemo_balance (builds : postCreditMemo doc ctx = .ok legs) :
    legBalance legs = 0 := by
  simp only [postCreditMemo, bind_eq_ok_iff, pure_eq_ok_iff] at builds
  obtain ⟨⟨lineLegs, total⟩, returns, rfl⟩ := builds
  have returnsBalance := returnsLegs_balance returns
  simp [returnsBalance]

theorem postRefundReceipt_balance (builds : postRefundReceipt doc ctx = .ok legs) :
    legBalance legs = 0 := by
  simp only [postRefundReceipt, bind_eq_ok_iff, pure_eq_ok_iff] at builds
  obtain ⟨⟨lineLegs, total⟩, returns, rfl⟩ := builds
  have returnsBalance := returnsLegs_balance returns
  simp [returnsBalance]

theorem postBill_balance (builds : postBill doc ctx = .ok legs) :
    legBalance legs = 0 := by
  simp only [postBill, bind_eq_ok_iff, pure_eq_ok_iff] at builds
  obtain ⟨⟨lineLegs, total⟩, folds, rfl⟩ := builds
  have linesBalance :=
    purchaseSideLegs_balance 1 (fun _ _ _ _ => by simp) folds
  simp [linesBalance]

theorem postVendorCredit_balance (builds : postVendorCredit doc ctx = .ok legs) :
    legBalance legs = 0 := by
  simp only [postVendorCredit, bind_eq_ok_iff, pure_eq_ok_iff] at builds
  obtain ⟨⟨lineLegs, total⟩, folds, rfl⟩ := builds
  have linesBalance :=
    purchaseSideLegs_balance (-1) (fun _ _ _ _ => by simp) folds
  simp [linesBalance]

theorem postPurchase_balance (builds : postPurchase doc ctx = .ok legs) :
    legBalance legs = 0 := by
  simp only [postPurchase, bind_eq_ok_iff, pure_eq_ok_iff] at builds
  obtain ⟨⟨lineLegs, total⟩, folds, rfl⟩ := builds
  have linesBalance :=
    purchaseSideLegs_balance 1 (fun _ _ _ _ => by simp) folds
  simp [linesBalance]

theorem postPayment_balance (builds : postPayment doc = .ok legs) :
    legBalance legs = 0 := by
  simp only [postPayment, bind_eq_ok_iff, liftM_money_eq_ok_iff,
    Money.checkedAdd_eq_ok_iff, pure_eq_ok_iff] at builds
  obtain ⟨applied, _, total, adds, _, _, rfl⟩ := builds
  have receivable : legBalance
      (if applied.isZero then []
      else [credit (acct Chart.accountsReceivable) applied none doc.contact]) =
        -applied.minor := by
    split_ifs with isZero
    · rw [Money.isZero_iff] at isZero
      simp [isZero]
    · simp
  have deposits : legBalance
      (if doc.unapplied.isZero then []
      else [credit (acct Chart.customerDeposits) doc.unapplied none doc.contact]) =
        -doc.unapplied.minor := by
    split_ifs with isZero
    · rw [Money.isZero_iff] at isZero
      simp [isZero]
    · simp
  simp only [legBalance_append, receivable, deposits, legBalance_cons,
    legBalance_nil, net_debit]
  omega

theorem postBillPayment_balance (builds : postBillPayment doc ctx = .ok legs) :
    legBalance legs = 0 := by
  simp only [postBillPayment, bind_eq_ok_iff, pure_eq_ok_iff] at builds
  obtain ⟨applied, _, total, _, rfl⟩ := builds
  simp

theorem postDeposit_balance (builds : postDeposit doc ctx = .ok legs) :
    legBalance legs = 0 := by
  simp only [postDeposit, bind_eq_ok_iff, pure_eq_ok_iff] at builds
  obtain ⟨⟨lineLegs, net⟩, folds, rfl⟩ := builds
  have linesBalance : legBalance lineLegs + net.minor = 0 :=
    foldlM_invariant
      (fun _ (running : RunningLegs) =>
        legBalance running.1 + running.2.minor = 0)
      (fun _ _ _ _ holds step => (depositLine_balance step).trans holds)
      (by simp) folds
  simpa using linesBalance

theorem postBankLine_balance (builds : postBankLine doc ctx = .ok legs) :
    legBalance legs = 0 := by
  simp only [postBankLine, bind_eq_ok_iff] at builds
  obtain ⟨line, _, account, _, «class», _, builds⟩ := builds
  split_ifs at builds
  · simp only [bind_eq_ok_iff, pure_eq_ok_iff] at builds
    obtain ⟨amount, _, rfl⟩ := builds
    simp
  · rw [pure_eq_ok_iff] at builds
    subst builds
    simp

theorem postSettlement_balance (builds : postSettlement doc ctx = .ok legs) :
    legBalance legs = 0 := by
  simp only [postSettlement, bind_eq_ok_iff, liftM_money_eq_ok_iff,
    Money.checkedSub_eq_ok_iff, pure_eq_ok_iff] at builds
  obtain ⟨grossLine, _, net, subtracts, rfl⟩ := builds
  split_ifs with isZero
  · rw [Money.isZero_iff] at isZero
    simp [subtracts, isZero]
  · simp [subtracts]

theorem postRawMaterialReceipt_balance
    (builds : postRawMaterialReceipt doc = .ok legs) : legBalance legs = 0 := by
  simp only [postRawMaterialReceipt, bind_eq_ok_iff, pure_eq_ok_iff] at builds
  obtain ⟨landed, _, rfl⟩ := builds
  simp

theorem postBuild_balance (builds : postBuild doc = .ok legs) :
    legBalance legs = 0 := by
  simp only [postBuild, bind_eq_ok_iff, liftM_money_eq_ok_iff,
    Money.checkedSub_eq_ok_iff, pure_eq_ok_iff] at builds
  obtain ⟨«class», _, finished, _, rawUsed, _, applied, _, remainder, remains,
    variance, varies, plug, plugs, rfl⟩ := builds
  have plugBalance := varianceLegs_balance plugs
  simp [plugBalance]
  omega

theorem postInventoryAdjustment_balance
    (builds : postInventoryAdjustment doc = .ok legs) : legBalance legs = 0 := by
  simp only [postInventoryAdjustment, bind_eq_ok_iff, pure_eq_ok_iff] at builds
  obtain ⟨lineLegs, folds, _, _, rfl⟩ := builds
  exact foldlM_invariant (fun _ (legs : List Leg) => legBalance legs = 0)
    (fun _ _ _ _ holds step => (adjustmentLine_balance step).trans holds)
    (by simp) folds

theorem postingLegs_balance (notJournal : doc.kind ≠ .journalEntry)
    (builds : postingLegs doc ctx = .ok legs) : legBalance legs = 0 := by
  unfold postingLegs at builds
  cases docKind : doc.kind <;> simp only [docKind] at builds
  case invoice => exact postInvoice_balance builds
  case salesReceipt => exact postSalesReceipt_balance builds
  case creditMemo => exact postCreditMemo_balance builds
  case refundReceipt => exact postRefundReceipt_balance builds
  case payment => exact postPayment_balance builds
  case bill => exact postBill_balance builds
  case billPayment => exact postBillPayment_balance builds
  case vendorCredit => exact postVendorCredit_balance builds
  case purchase => exact postPurchase_balance builds
  case deposit => exact postDeposit_balance builds
  case journalEntry => exact absurd docKind notJournal
  case bankLine => exact postBankLine_balance builds
  case settlement => exact postSettlement_balance builds
  case rawMaterialReceipt => exact postRawMaterialReceipt_balance builds
  case build => exact postBuild_balance builds
  case inventoryAdjustment => exact postInventoryAdjustment_balance builds
  all_goals
    rw [pure_eq_ok_iff] at builds
    subst builds
    rfl

end Rules

/-- What a returned entry was built from. -/
structure EntryDerivation (doc : LedgerDocument) (version : Nat)
    (ctx : PostingContext) (legs : List Leg) (lines : List JournalLine)
    (entry : JournalEntry) : Prop where
  kindPosts : doc.kind.posts = true
  builds : postingLegs doc ctx = .ok legs
  merges : mergeLegs legs = .ok lines
  nonempty : lines ≠ []
  journalBalanced : doc.kind = .journalEntry →
    (lines.map fun line => line.debit.minor).sum =
      (lines.map fun line => line.credit.minor).sum
  entryEq : entry = applyVoid
    { entryDate := doc.txnDate
      memo := doc.memo
      sourceType := doc.kind
      sourceId := doc.documentId
      sourceVersion := version
      reversalOf := none
      isFlagged := decide (doc.kind = .journalEntry)
      lines } doc.isVoided

/-- The entry that merged lines make of a document version. -/
def mergedEntry (doc : LedgerDocument) (version : Nat) (lines : List JournalLine) :
    JournalEntry where
  entryDate := doc.txnDate
  memo := doc.memo
  sourceType := doc.kind
  sourceId := doc.documentId
  sourceVersion := version
  reversalOf := none
  isFlagged := decide (doc.kind = .journalEntry)
  lines := lines

theorem post_of_merged {doc : LedgerDocument} {ctx : PostingContext} {legs : List Leg}
    {lines : List JournalLine} (version : Nat) (kindPosts : doc.kind.posts = true)
    (builds : postingLegs doc ctx = .ok legs) (merges : mergeLegs legs = .ok lines) :
    post doc version ctx =
      if lines.isEmpty then .ok .nonPosting
      else if decide (doc.kind = .journalEntry) &&
          !(mergedEntry doc version lines).isBalanced then .error .unbalancedJournal
      else .ok (.entry (applyVoid (mergedEntry doc version lines) doc.isVoided)) := by
  have finalizes : finalize doc version legs (decide (doc.kind = .journalEntry)) =
      .ok (mergedEntry doc version lines) := by
    unfold finalize
    rw [merges]
    rfl
  unfold post
  rw [kindPosts, builds]
  change (finalize doc version legs (decide (doc.kind = .journalEntry)) >>= _) = _
  rw [finalizes]
  rfl

theorem exists_merged_of_post {doc : LedgerDocument} {version : Nat} {ctx : PostingContext}
    {posting : Posting} (kindPosts : doc.kind.posts = true)
    (posts : post doc version ctx = .ok posting) :
    ∃ legs lines, postingLegs doc ctx = .ok legs ∧ mergeLegs legs = .ok lines := by
  unfold post at posts
  rw [kindPosts, Bool.not_true, if_neg (by simp), bind_eq_ok_iff] at posts
  obtain ⟨legs, builds, posts⟩ := posts
  rw [bind_eq_ok_iff] at posts
  obtain ⟨entry, finalizes, -⟩ := posts
  simp only [finalize, bind_eq_ok_iff] at finalizes
  obtain ⟨lines, merges, -⟩ := finalizes
  exact ⟨legs, lines, builds, merges⟩

theorem post_eq_entry {doc : LedgerDocument} {version : Nat} {ctx : PostingContext}
    {entry : JournalEntry} (posts : post doc version ctx = .ok (.entry entry)) :
    ∃ legs lines, EntryDerivation doc version ctx legs lines entry := by
  unfold post at posts
  split_ifs at posts with contract
  · simp [pure_eq_ok_iff] at posts
  rw [bind_eq_ok_iff] at posts
  obtain ⟨legs, builds, posts⟩ := posts
  rw [bind_eq_ok_iff] at posts
  obtain ⟨raw, finalizes, posts⟩ := posts
  simp only [finalize, bind_eq_ok_iff, pure_eq_ok_iff] at finalizes
  obtain ⟨lines, merges, rfl⟩ := finalizes
  split_ifs at posts with isEmpty unbalanced
  · simp [pure_eq_ok_iff] at posts
  · rw [pure_eq_ok_iff] at posts
    simp only [Posting.entry.injEq] at posts
    refine ⟨legs, lines, by simpa using contract, builds, merges, ?_, ?_, posts.symm⟩
    · simpa using isEmpty
    · intro isJournal
      simp only [isJournal, decide_true, Bool.true_and, Bool.not_eq_true',
        Bool.not_eq_false] at unbalanced
      exact (JournalEntry.isBalanced_spec unbalanced).2.2

theorem post_entry_source {doc : LedgerDocument} {version : Nat} {ctx : PostingContext}
    {entry : JournalEntry} (posts : post doc version ctx = .ok (.entry entry)) :
    entry.sourceId = doc.documentId ∧ entry.sourceVersion = version ∧
      entry.reversalOf = none ∧ entry.entryDate = doc.txnDate := by
  obtain ⟨legs, lines, derivation⟩ := post_eq_entry posts
  rw [derivation.entryEq]
  unfold applyVoid
  split_ifs <;> exact ⟨rfl, rfl, rfl, rfl⟩

theorem EntryDerivation.lineTotal_eq {doc : LedgerDocument} {version : Nat}
    {ctx : PostingContext} {legs : List Leg} {lines : List JournalLine}
    {entry : JournalEntry}
    (derivation : EntryDerivation doc version ctx legs lines entry)
    (selects : PostingKey → Prop) [DecidablePred selects] :
    lineTotal selects entry.lines =
      if doc.isVoided then -legTotal selects legs
      else legTotal selects legs := by
  rw [derivation.entryEq, ← lineTotal_mergeLegs selects derivation.merges]
  unfold applyVoid
  cases doc.isVoided
  · rfl
  · exact lineTotal_swapped selects lines

theorem EntryDerivation.lines_wellFormed {doc : LedgerDocument} {version : Nat}
    {ctx : PostingContext} {legs : List Leg} {lines : List JournalLine}
    {entry : JournalEntry}
    (derivation : EntryDerivation doc version ctx legs lines entry) :
    (∀ line ∈ entry.lines, OneSided line) ∧
      entry.lines.map JournalLine.lineNo =
        (List.range entry.lines.length).map (fun index : Nat => (1 : Int) + index) := by
  obtain ⟨sides, numbers⟩ := mergeLegs_wellFormed derivation.merges
  rw [derivation.entryEq]
  unfold applyVoid
  cases doc.isVoided
  · exact ⟨sides, numbers⟩
  · constructor
    · intro line lineMem
      obtain ⟨original, originalMem, rfl⟩ := List.mem_map.mp lineMem
      exact (sides original originalMem).swapped
    · simpa [Function.comp_def, JournalLine.swapped] using numbers

theorem EntryDerivation.balanced {doc : LedgerDocument} {version : Nat}
    {ctx : PostingContext} {legs : List Leg} {lines : List JournalLine}
    {entry : JournalEntry}
    (derivation : EntryDerivation doc version ctx legs lines entry) :
    lineTotal (fun _ => True) entry.lines = 0 := by
  have legsNet : legTotal (fun _ => True) legs = 0 := by
    by_cases isJournal : doc.kind = .journalEntry
    · have sidesEqual := derivation.journalBalanced isJournal
      rw [← lineTotal_mergeLegs (fun _ => True) derivation.merges,
        ← sum_debit_sub_sum_credit]
      omega
    · exact postingLegs_balance isJournal derivation.builds
  rw [derivation.lineTotal_eq, legsNet]
  simp

/-- Whenever `post` returns an entry, it is non-empty, its sides have the same
exact total, every line has one strictly positive side and a zero other side,
and the lines number from one without gaps. -/
theorem post_entry_wellFormed {doc : LedgerDocument} {version : Nat}
    {ctx : PostingContext} {entry : JournalEntry}
    (posts : post doc version ctx = .ok (.entry entry)) :
    entry.lines ≠ [] ∧
      (entry.lines.map fun line => line.debit.minor).sum =
        (entry.lines.map fun line => line.credit.minor).sum ∧
      (∀ line ∈ entry.lines, OneSided line) ∧
      entry.lines.map JournalLine.lineNo =
        (List.range entry.lines.length).map (fun index : Nat => (1 : Int) + index) := by
  obtain ⟨legs, lines, derivation⟩ := post_eq_entry posts
  refine ⟨?_, ?_, derivation.lines_wellFormed⟩
  · have nonempty := derivation.nonempty
    rw [derivation.entryEq]
    unfold applyVoid
    cases doc.isVoided
    · exact nonempty
    · simpa using nonempty
  · have balanced := derivation.balanced
    rw [← sum_debit_sub_sum_credit] at balanced
    omega

/-- A voided invoice with a sale, a refunded line and a discount. -/
def mixedInvoice : LedgerDocument where
  documentId := "invoice-1"
  kind := .invoice
  txnDate := ⟨2027, 3, 1, Eq.refl true⟩
  contact := some ⟨.customer, "c1"⟩
  headerClass := some ⟨"foam"⟩
  lines :=
    [{ lineNo := 1, kind := .item, amount := .fromMinor 10000 },
      { lineNo := 2, kind := .item, amount := .fromMinor (-2500) },
      { lineNo := 3, kind := .discount, amount := .fromMinor 500 }]
  isVoided := true

theorem post_entry_wellFormed_mixedInvoice :
    ∃ entry, post mixedInvoice 1 {} = .ok (.entry entry) ∧
      (entry.lines.map fun line => line.debit.minor).sum =
        (entry.lines.map fun line => line.credit.minor).sum := by
  refine ⟨_, rfl, ?_⟩
  exact (post_entry_wellFormed (rfl : post mixedInvoice 1 {} = _)).2.1

end QuickBooks
