import QuickBooks.PostingBalance

/-!
# Document totals and control accounts

`documentTotal` is what the subledger takes a document to be worth.  The rules
compute the amount on the control account from a subset of the same lines:
sales ignore account lines, purchases ignore shipping, discounts and tax.  This
file states both amounts over the lines of the document, compares them, and
gives the exact condition under which they agree.
-/

namespace QuickBooks

open CheckedIntegers DecimalNumbers ExceptPrograms KeyedTotals

/-- Add what one line is worth. -/
def documentTotalLine (total : Money) (line : DocLine) : Except MoneyError Money :=
  match line.kind with
  | .item | .shipping | .account => total.checkedAdd line.amount
  | .discount => total.checkedSub line.amount
  | .description | .journal => return total

/-- What a document is worth to its counterparty: lines less discounts, plus
tax. -/
def documentTotal (doc : LedgerDocument) : Except MoneyError Money := do
  let total ← doc.lines.foldlM documentTotalLine Money.zero
  match doc.tax with
  | none => return total
  | some tax => total.checkedAdd tax.totalTax

def lineAmounts (kinds : List LineKind) (doc : LedgerDocument) : Int :=
  total (fun line => line.kind ∈ kinds) (fun line => line.amount.minor) doc.lines

def taxAmount (doc : LedgerDocument) : Int :=
  (doc.tax.map fun tax => tax.totalTax.minor).getD 0

/-- The signed amount that a line adds to the document's total. -/
def countedAmount (line : DocLine) : Int :=
  match line.kind with
  | .item | .shipping | .account => line.amount.minor
  | .discount => -line.amount.minor
  | .description | .journal => 0

def DocumentTotalFits (doc : LedgerDocument) : Prop :=
  RunningSumFits (-9223372036854775808) 9223372036854775807 0
    (doc.lines.map countedAmount ++ doc.tax.toList.map fun tax => tax.totalTax.minor)

theorem documentTotalLine_exact {total result : Money} {line : DocLine}
    (step : documentTotalLine total line = .ok result) :
    result.minor = total.minor + countedAmount line := by
  unfold documentTotalLine at step
  unfold countedAmount
  cases lineKind : line.kind <;> simp only [lineKind] at step ⊢
  case discount =>
      rw [Money.checkedSub_eq_ok_iff] at step
      omega
  case description | journal =>
      rw [pure_eq_ok_iff] at step
      rw [step, add_zero]
  all_goals exact Money.checkedAdd_eq_ok_iff.mp step

theorem documentTotalLine_succeeds_iff {total : Money} {line : DocLine} :
    (∃ result, documentTotalLine total line = .ok result) ↔
      Money.Fits (total.minor + countedAmount line) := by
  have totalFits : Money.Fits (total.minor + 0) := by
    rw [add_zero]
    exact ⟨total.cents.lower_le, total.cents.le_upper⟩
  unfold documentTotalLine countedAmount
  cases line.kind <;> simp only
  case discount =>
      rw [Money.exists_checkedSub_iff, Int.sub_eq_add_neg]
  case description | journal =>
      exact ⟨fun _ => totalFits, fun _ => ⟨total, rfl⟩⟩
  all_goals exact Money.exists_checkedAdd_iff

theorem sum_countedAmount (lines : List DocLine) :
    (lines.map countedAmount).sum =
      total (fun line => line.kind ∈ [LineKind.item, .shipping, .account])
          (fun line => line.amount.minor) lines -
        total (fun line => line.kind ∈ [LineKind.discount])
          (fun line => line.amount.minor) lines := by
  induction lines with
  | nil => rfl
  | cons line lines ih =>
    rw [List.map_cons, List.sum_cons, ih, total_cons, total_cons]
    unfold countedAmount
    cases line.kind <;> simp <;> omega

theorem foldlM_documentTotalLine {lines : List DocLine} {result : Money}
    (folds : lines.foldlM documentTotalLine Money.zero = .ok result) :
    result.minor = (lines.map countedAmount).sum := by
  apply foldlM_invariant
    (fun consumed (partialTotal : Money) =>
      partialTotal.minor = (consumed.map countedAmount).sum)
    ?_ (by simp) folds
  intro consumed line before after holds step
  rw [documentTotalLine_exact step, holds]
  simp

theorem minor_documentTotal {doc : LedgerDocument} {result : Money}
    (succeeds : documentTotal doc = .ok result) :
    result.minor = lineAmounts [.item, .shipping, .account] doc -
      lineAmounts [.discount] doc + taxAmount doc := by
  unfold documentTotal at succeeds
  rw [bind_eq_ok_iff] at succeeds
  obtain ⟨linesTotal, folds, closes⟩ := succeeds
  have linesExact := foldlM_documentTotalLine folds
  rw [sum_countedAmount] at linesExact
  unfold lineAmounts taxAmount
  cases docTax : doc.tax with
  | none =>
    rw [docTax, pure_eq_ok_iff] at closes
    subst closes
    simp [linesExact]
  | some tax =>
    simp only [docTax, Money.checkedAdd_eq_ok_iff] at closes
    simp [closes, linesExact]

theorem documentTotal_succeeds_iff {doc : LedgerDocument} :
    (∃ result, documentTotal doc = .ok result) ↔ DocumentTotalFits doc := by
  have linesSucceed :
      (∃ result, doc.lines.foldlM documentTotalLine Money.zero = .ok result) ↔
        RunningSumFits (-9223372036854775808) 9223372036854775807 Money.zero.minor
          (doc.lines.map countedAmount) :=
    exists_foldlM_ok_iff (fun _ _ _ step => documentTotalLine_exact step)
      (fun _ _ => documentTotalLine_succeeds_iff) doc.lines Money.zero
  unfold DocumentTotalFits documentTotal
  rw [runningSumFits_append, ← Money.minor_zero, ← linesSucceed]
  constructor
  · rintro ⟨result, succeeds⟩
    rw [bind_eq_ok_iff] at succeeds
    obtain ⟨linesTotal, folds, closes⟩ := succeeds
    refine ⟨⟨linesTotal, folds⟩, ?_⟩
    have linesExact := foldlM_documentTotalLine folds
    cases docTax : doc.tax with
    | none => trivial
    | some tax =>
      rw [docTax] at closes
      have taxFits := Money.exists_checkedAdd_iff.mp ⟨result, closes⟩
      rw [linesExact] at taxFits
      exact ⟨by simpa [Money.Fits] using taxFits, trivial⟩
  · rintro ⟨⟨linesTotal, folds⟩, taxFits⟩
    have linesExact := foldlM_documentTotalLine folds
    cases docTax : doc.tax with
    | none =>
      refine ⟨linesTotal, ?_⟩
      rw [bind_eq_ok_iff]
      exact ⟨linesTotal, folds, rfl⟩
    | some tax =>
      rw [docTax] at taxFits
      have sumFits : Money.Fits (linesTotal.minor + tax.totalTax.minor) := by
        rw [linesExact]
        simpa [Money.Fits] using taxFits.1
      obtain ⟨result, adds⟩ := Money.exists_checkedAdd_iff.mpr sumFits
      refine ⟨result, ?_⟩
      rw [bind_eq_ok_iff]
      exact ⟨linesTotal, folds, adds⟩

def onAccount (number : String) (key : PostingKey) : Prop :=
  key.account = acct number

instance (number : String) : DecidablePred (onAccount number) :=
  fun key => decEq key.account (acct number)

@[simp]
theorem onAccount_mk {number : String} {account : AccountId}
    {«class» : Option ClassId} {entity : Option ContactRef} :
    onAccount number ⟨account, «class», entity⟩ ↔ account = acct number :=
  Iff.rfl

/-- The cost that an item line moves out of or into an inventory asset account
of the given number. -/
def inventoryCostOn (number : String) (ctx : PostingContext) (line : DocLine) : Int :=
  match lookupItem ctx line.itemId with
  | .ok item =>
    match inventoryCost line item with
    | .ok (some (asset, extended)) =>
      if asset = acct number then extended.minor else 0
    | _ => 0
  | .error _ => 0

def inventoryOn (number : String) (doc : LedgerDocument) (ctx : PostingContext) : Int :=
  total (fun line => line.kind = .item) (inventoryCostOn number ctx) doc.lines

/-- The signed amount of a line of a sale or of a return. -/
def soldAmount (line : DocLine) : Int :=
  match line.kind with
  | .item | .shipping => line.amount.minor
  | .discount => -line.amount.minor
  | .account | .description | .journal => 0

section Sales

variable {doc : LedgerDocument} {ctx : PostingContext} {running result : RunningLegs}
  {line : DocLine}

theorem postInventoryCogs_onReceivable {item : Option ItemAccounts}
    {«class» : Option ClassId} {legs : List Leg}
    (found : lookupItem ctx line.itemId = .ok item)
    (posts : postInventoryCogs line item «class» = .ok legs) :
    legTotal (onAccount Chart.accountsReceivable) legs =
      -inventoryCostOn Chart.accountsReceivable ctx line := by
  unfold postInventoryCogs at posts
  rw [bind_eq_ok_iff] at posts
  obtain ⟨cost, costs, rest⟩ := posts
  simp only [inventoryCostOn, found, costs]
  cases cost with
  | none =>
    rw [pure_eq_ok_iff] at rest
    subst rest
    rfl
  | some cost =>
    rw [pure_eq_ok_iff] at rest
    subst rest
    have otherAccount : acct Chart.cogs ≠ acct Chart.accountsReceivable := by decide
    simp [otherAccount]
    split_ifs <;> rfl

theorem postInventoryReturn_onReceivable {item : Option ItemAccounts}
    {«class» : Option ClassId} {legs : List Leg}
    (found : lookupItem ctx line.itemId = .ok item)
    (posts : postInventoryReturn line item «class» = .ok legs) :
    legTotal (onAccount Chart.accountsReceivable) legs =
      inventoryCostOn Chart.accountsReceivable ctx line := by
  unfold postInventoryReturn at posts
  rw [bind_eq_ok_iff] at posts
  obtain ⟨cost, costs, rest⟩ := posts
  simp only [inventoryCostOn, found, costs]
  cases cost with
  | none =>
    rw [pure_eq_ok_iff] at rest
    subst rest
    rfl
  | some cost =>
    rw [pure_eq_ok_iff] at rest
    subst rest
    have otherAccount : acct Chart.cogs ≠ acct Chart.accountsReceivable := by decide
    simp [otherAccount]

theorem revenueLine_onReceivable
    (step : revenueLine doc ctx running line = .ok result) :
    result.2.minor = running.2.minor + soldAmount line ∧
      legTotal (onAccount Chart.accountsReceivable) result.1 =
        legTotal (onAccount Chart.accountsReceivable) running.1 -
          if line.kind = .item then
            inventoryCostOn Chart.accountsReceivable ctx line else 0 := by
  have income : acct Chart.salesIncome ≠ acct Chart.accountsReceivable := by decide
  have shipping : acct Chart.shippingIncome ≠ acct Chart.accountsReceivable := by decide
  have discounts : acct Chart.discountsGiven ≠ acct Chart.accountsReceivable := by decide
  obtain ⟨legs, sum⟩ := running
  unfold revenueLine at step
  unfold soldAmount
  cases lineKind : line.kind <;> simp only [lineKind] at step ⊢
  case item =>
      simp only [bind_eq_ok_iff, liftM_money_eq_ok_iff,
        Money.checkedAdd_eq_ok_iff, pure_eq_ok_iff] at step
      obtain ⟨item, found, «class», _, tax, _, sum, adds, cost, costs, rfl⟩ := step
      have costOn := postInventoryCogs_onReceivable found costs
      simp [adds, costOn, income]
      omega
  case shipping =>
      simp only [bind_eq_ok_iff, liftM_money_eq_ok_iff,
        Money.checkedAdd_eq_ok_iff, pure_eq_ok_iff] at step
      obtain ⟨item, _, «class», _, tax, _, sum, adds, rfl⟩ := step
      simp [adds, shipping]
  case discount =>
      simp only [bind_eq_ok_iff, liftM_money_eq_ok_iff,
        Money.checkedSub_eq_ok_iff, pure_eq_ok_iff] at step
      obtain ⟨item, _, «class», _, sum, subtracts, rfl⟩ := step
      simp [subtracts, discounts]
      omega
  all_goals
    rw [pure_eq_ok_iff] at step
    subst step
    simp

theorem returnsLine_onReceivable
    (step : returnsLine doc ctx running line = .ok result) :
    result.2.minor = running.2.minor + soldAmount line ∧
      legTotal (onAccount Chart.accountsReceivable) result.1 =
        legTotal (onAccount Chart.accountsReceivable) running.1 +
          if line.kind = .item then
            inventoryCostOn Chart.accountsReceivable ctx line else 0 := by
  have returns : acct Chart.returnsAllowances ≠ acct Chart.accountsReceivable := by decide
  have discounts : acct Chart.discountsGiven ≠ acct Chart.accountsReceivable := by decide
  obtain ⟨legs, sum⟩ := running
  unfold returnsLine at step
  unfold soldAmount
  cases lineKind : line.kind <;> simp only [lineKind] at step ⊢
  case item =>
      simp only [bind_eq_ok_iff, liftM_money_eq_ok_iff, if_true,
        Money.checkedAdd_eq_ok_iff, pure_eq_ok_iff] at step
      obtain ⟨item, found, «class», _, sum, adds, cost, costs, rfl⟩ := step
      have costOn := postInventoryReturn_onReceivable found costs
      simp [adds, costOn, returns]
  case shipping =>
      simp only [bind_eq_ok_iff, liftM_money_eq_ok_iff, reduceCtorEq, if_false,
        Money.checkedAdd_eq_ok_iff, pure_eq_ok_iff] at step
      obtain ⟨item, _, «class», _, sum, adds, cost, rfl, rfl⟩ := step
      simp [adds, returns]
  case discount =>
      simp only [bind_eq_ok_iff, liftM_money_eq_ok_iff,
        Money.checkedSub_eq_ok_iff, pure_eq_ok_iff] at step
      obtain ⟨item, _, «class», _, sum, subtracts, rfl⟩ := step
      simp [subtracts, discounts]
      omega
  all_goals
    rw [pure_eq_ok_iff] at step
    subst step
    simp

end Sales

theorem sum_soldAmount (lines : List DocLine) :
    (lines.map soldAmount).sum =
      total (fun line => line.kind ∈ [LineKind.item, .shipping])
          (fun line => line.amount.minor) lines -
        total (fun line => line.kind ∈ [LineKind.discount])
          (fun line => line.amount.minor) lines := by
  induction lines with
  | nil => rfl
  | cons line lines ih =>
    rw [List.map_cons, List.sum_cons, ih, total_cons, total_cons]
    unfold soldAmount
    cases line.kind <;> simp <;> omega

def soldTotal (doc : LedgerDocument) : Int :=
  lineAmounts [.item, .shipping] doc - lineAmounts [.discount] doc + taxAmount doc

theorem taxLeg_onReceivable
    {onSide : AccountId → Money → Option ClassId → Option ContactRef → Leg}
    (onSide_key : ∀ account amount «class» entity,
      (onSide account amount «class» entity).key = ⟨account, «class», entity⟩)
    {doc : LedgerDocument} {running result : RunningLegs}
    (closes : taxLeg doc.tax onSide running = .ok result) :
    result.2.minor = running.2.minor + taxAmount doc ∧
      legTotal (onAccount Chart.accountsReceivable) result.1 =
        legTotal (onAccount Chart.accountsReceivable) running.1 := by
  have taxAccount : acct Chart.salesTaxPayable ≠ acct Chart.accountsReceivable := by decide
  unfold taxLeg at closes
  unfold taxAmount
  cases docTax : doc.tax with
  | none =>
    rw [docTax, pure_eq_ok_iff] at closes
    subst closes
    simp
  | some tax =>
    simp only [docTax, bind_eq_ok_iff, liftM_money_eq_ok_iff,
      Money.checkedAdd_eq_ok_iff, pure_eq_ok_iff] at closes
    obtain ⟨sum, adds, rfl⟩ := closes
    simp [adds, onSide_key, taxAccount]

theorem revenueLegs_onReceivable {doc : LedgerDocument} {ctx : PostingContext}
    {result : RunningLegs} (builds : revenueLegs doc ctx = .ok result) :
    result.2.minor = soldTotal doc ∧
      legTotal (onAccount Chart.accountsReceivable) result.1 =
        -inventoryOn Chart.accountsReceivable doc ctx := by
  unfold revenueLegs at builds
  rw [bind_eq_ok_iff] at builds
  obtain ⟨running, folds, closes⟩ := builds
  have linesExact : running.2.minor = (doc.lines.map soldAmount).sum ∧
      legTotal (onAccount Chart.accountsReceivable) running.1 =
        -inventoryOn Chart.accountsReceivable doc ctx := by
    apply foldlM_invariant
      (fun consumed (running : RunningLegs) =>
        running.2.minor = (consumed.map soldAmount).sum ∧
          legTotal (onAccount Chart.accountsReceivable) running.1 =
            -total (fun line => line.kind = .item)
              (inventoryCostOn Chart.accountsReceivable ctx) consumed)
      ?_ (by simp) folds
    intro consumed line before after holds step
    obtain ⟨totalEq, receivableEq⟩ := revenueLine_onReceivable step
    rw [totalEq, receivableEq, holds.1, holds.2, total_append]
    constructor
    · simp
    · simp only [total_cons, total_nil]
      omega
  obtain ⟨totalEq, receivableEq⟩ := taxLeg_onReceivable (fun _ _ _ _ => rfl) closes
  rw [totalEq, receivableEq, linesExact.1, linesExact.2, sum_soldAmount]
  exact ⟨rfl, rfl⟩

theorem returnsLegs_onReceivable {doc : LedgerDocument} {ctx : PostingContext}
    {result : RunningLegs} (builds : returnsLegs doc ctx = .ok result) :
    result.2.minor = soldTotal doc ∧
      legTotal (onAccount Chart.accountsReceivable) result.1 =
        inventoryOn Chart.accountsReceivable doc ctx := by
  unfold returnsLegs at builds
  rw [bind_eq_ok_iff] at builds
  obtain ⟨running, folds, closes⟩ := builds
  have linesExact : running.2.minor = (doc.lines.map soldAmount).sum ∧
      legTotal (onAccount Chart.accountsReceivable) running.1 =
        inventoryOn Chart.accountsReceivable doc ctx := by
    apply foldlM_invariant
      (fun consumed (running : RunningLegs) =>
        running.2.minor = (consumed.map soldAmount).sum ∧
          legTotal (onAccount Chart.accountsReceivable) running.1 =
            total (fun line => line.kind = .item)
              (inventoryCostOn Chart.accountsReceivable ctx) consumed)
      ?_ (by simp) folds
    intro consumed line before after holds step
    obtain ⟨totalEq, receivableEq⟩ := returnsLine_onReceivable step
    rw [totalEq, receivableEq, holds.1, holds.2, total_append]
    constructor
    · simp
    · simp only [total_cons, total_nil]
      omega
  obtain ⟨totalEq, receivableEq⟩ := taxLeg_onReceivable (fun _ _ _ _ => rfl) closes
  rw [totalEq, receivableEq, linesExact.1, linesExact.2, sum_soldAmount]
  exact ⟨rfl, rfl⟩

/-- The amount that a purchase-side line posts to the account of the given
number itself. -/
def purchasedAmountOn (number : String) (ctx : PostingContext) (line : DocLine) : Int :=
  match line.kind with
  | .item =>
    match lookupItem ctx line.itemId with
    | .ok (some item) =>
      if purchaseSideAccount item = acct number then line.amount.minor else 0
    | _ => 0
  | .account => if line.account = some (acct number) then line.amount.minor else 0
  | _ => 0

def purchasedOn (number : String) (doc : LedgerDocument) (ctx : PostingContext) : Int :=
  (doc.lines.map (purchasedAmountOn number ctx)).sum

def purchasedTotal (doc : LedgerDocument) : Int :=
  lineAmounts [.item, .account] doc

theorem purchaseSideLine_onAccount
    {onSide : AccountId → Money → Option ClassId → Option ContactRef → Leg}
    (sign : Int)
    (onSide_net : ∀ account amount «class» entity,
      (onSide account amount «class» entity).net = sign * amount.minor)
    (onSide_key : ∀ account amount «class» entity,
      (onSide account amount «class» entity).key = ⟨account, «class», entity⟩)
    (number : String) {doc : LedgerDocument} {ctx : PostingContext}
    {running result : RunningLegs} {line : DocLine}
    (step : purchaseSideLine onSide doc ctx running line = .ok result) :
    (result.2.minor = running.2.minor +
        if line.kind ∈ [LineKind.item, .account] then line.amount.minor else 0) ∧
      legTotal (onAccount number) result.1 =
        legTotal (onAccount number) running.1 +
          sign * purchasedAmountOn number ctx line := by
  obtain ⟨legs, sum⟩ := running
  unfold purchaseSideLine at step
  unfold purchasedAmountOn
  cases lineKind : line.kind <;> simp only [lineKind] at step ⊢
  case item =>
      simp only [requiredItem, bind_eq_ok_iff, orRefuse_eq_ok_iff,
        liftM_money_eq_ok_iff, Money.checkedAdd_eq_ok_iff, pure_eq_ok_iff] at step
      obtain ⟨item, ⟨found, lookup, rfl⟩, «class», _, sum, adds, rfl⟩ := step
      simp only [lookup]
      by_cases same : purchaseSideAccount item = acct number <;>
        simp [adds, onSide_net, onSide_key, same]
  case account =>
      simp only [bind_eq_ok_iff, orRefuse_eq_ok_iff,
        liftM_money_eq_ok_iff, Money.checkedAdd_eq_ok_iff, pure_eq_ok_iff] at step
      obtain ⟨account, named, «class», _, sum, adds, rfl⟩ := step
      by_cases same : account = acct number <;>
        simp [adds, onSide_net, onSide_key, named, same]
  all_goals
    rw [pure_eq_ok_iff] at step
    subst step
    simp

theorem purchaseSideLegs_onAccount
    {onSide : AccountId → Money → Option ClassId → Option ContactRef → Leg}
    (sign : Int)
    (onSide_net : ∀ account amount «class» entity,
      (onSide account amount «class» entity).net = sign * amount.minor)
    (onSide_key : ∀ account amount «class» entity,
      (onSide account amount «class» entity).key = ⟨account, «class», entity⟩)
    (number : String) {doc : LedgerDocument} {ctx : PostingContext}
    {result : RunningLegs}
    (folds : doc.lines.foldlM (purchaseSideLine onSide doc ctx) ([], Money.zero) =
      .ok result) :
    result.2.minor = purchasedTotal doc ∧
      legTotal (onAccount number) result.1 = sign * purchasedOn number doc ctx := by
  apply foldlM_invariant
    (fun consumed (running : RunningLegs) =>
      running.2.minor = total (fun line => line.kind ∈ [LineKind.item, .account])
          (fun line => line.amount.minor) consumed ∧
        legTotal (onAccount number) running.1 =
          sign * (consumed.map (purchasedAmountOn number ctx)).sum)
    ?_ (by simp) folds
  intro consumed line before after holds step
  obtain ⟨totalEq, accountEq⟩ :=
    purchaseSideLine_onAccount sign onSide_net onSide_key number step
  rw [totalEq, accountEq, holds.1, holds.2, total_append]
  constructor
  · simp
  · simp [mul_add]

/-- The control account of a kind of document, and the side on which its
total counts there. -/
def controlAccount (kind : DocKind) : String :=
  match kind with
  | .bill | .vendorCredit => Chart.accountsPayable
  | _ => Chart.accountsReceivable

def controlSign (kind : DocKind) : Int :=
  match kind with
  | .creditMemo | .bill => -1
  | _ => 1

def controlKinds : List DocKind :=
  [.invoice, .creditMemo, .bill, .vendorCredit]

/-- What the rules put on the control account for a document that is not
voided, before its side is taken into account. -/
def postedAmount (doc : LedgerDocument) (ctx : PostingContext) : Int :=
  match doc.kind with
  | .bill | .vendorCredit =>
    purchasedTotal doc - purchasedOn Chart.accountsPayable doc ctx
  | _ => soldTotal doc - inventoryOn Chart.accountsReceivable doc ctx

/-- What the document's total counts and the rules leave out: account lines of
a sale; shipping, discounts and tax of a purchase; and the lines that the
rules put on the control account itself. -/
def uncountedAmount (doc : LedgerDocument) (ctx : PostingContext) : Int :=
  match doc.kind with
  | .bill | .vendorCredit =>
    lineAmounts [.shipping] doc - lineAmounts [.discount] doc + taxAmount doc +
      purchasedOn Chart.accountsPayable doc ctx
  | _ => lineAmounts [.account] doc + inventoryOn Chart.accountsReceivable doc ctx

def accountNet (number : String) (entry : JournalEntry) : Int :=
  lineTotal (onAccount number) entry.lines

theorem controlLegs_net {doc : LedgerDocument} {ctx : PostingContext} {legs : List Leg}
    (isControl : doc.kind ∈ controlKinds) (builds : postingLegs doc ctx = .ok legs) :
    legTotal (onAccount (controlAccount doc.kind)) legs =
      controlSign doc.kind * postedAmount doc ctx := by
  unfold postingLegs at builds
  unfold controlAccount controlSign postedAmount
  cases docKind : doc.kind <;> simp only [docKind] at builds ⊢
  case invoice =>
      simp only [postInvoice, bind_eq_ok_iff, pure_eq_ok_iff] at builds
      obtain ⟨⟨lineLegs, sum⟩, revenue, rfl⟩ := builds
      obtain ⟨totalEq, receivableEq⟩ := revenueLegs_onReceivable revenue
      simp only at totalEq receivableEq
      simp [totalEq, receivableEq]
      omega
  case creditMemo =>
      simp only [postCreditMemo, bind_eq_ok_iff, pure_eq_ok_iff] at builds
      obtain ⟨⟨lineLegs, sum⟩, returns, rfl⟩ := builds
      obtain ⟨totalEq, receivableEq⟩ := returnsLegs_onReceivable returns
      simp only at totalEq receivableEq
      simp [totalEq, receivableEq]
      omega
  case bill =>
      simp only [postBill, bind_eq_ok_iff, pure_eq_ok_iff] at builds
      obtain ⟨⟨lineLegs, sum⟩, folds, rfl⟩ := builds
      obtain ⟨totalEq, payableEq⟩ := purchaseSideLegs_onAccount 1
        (fun _ _ _ _ => by simp) (fun _ _ _ _ => rfl) Chart.accountsPayable folds
      simp only at totalEq payableEq
      simp [totalEq, payableEq]
      omega
  case vendorCredit =>
      simp only [postVendorCredit, bind_eq_ok_iff, pure_eq_ok_iff] at builds
      obtain ⟨⟨lineLegs, sum⟩, folds, rfl⟩ := builds
      obtain ⟨totalEq, payableEq⟩ := purchaseSideLegs_onAccount (-1)
        (fun _ _ _ _ => by simp) (fun _ _ _ _ => rfl) Chart.accountsPayable folds
      simp only at totalEq payableEq
      simp [totalEq, payableEq]
      omega
  all_goals simp [docKind, controlKinds] at isControl

theorem documentTotal_split {doc : LedgerDocument} {result : Money}
    (ctx : PostingContext) (succeeds : documentTotal doc = .ok result) :
    result.minor = postedAmount doc ctx + uncountedAmount doc ctx := by
  have allKinds : ∀ first second : List LineKind, (first ++ second).Nodup →
      lineAmounts (first ++ second) doc =
        lineAmounts first doc + lineAmounts second doc := by
    intro first second distinct
    unfold lineAmounts
    induction doc.lines with
    | nil => rfl
    | cons line lines ih =>
      have disjoint := (List.nodup_append.mp distinct).2.2
      rw [total_cons, total_cons, total_cons, ih]
      by_cases inFirst : line.kind ∈ first
      · have notSecond : line.kind ∉ second := fun inSecond =>
          disjoint _ inFirst _ inSecond rfl
        simp [inFirst, notSecond]
        omega
      · simp [inFirst]
        omega
  have sold := allKinds [.item, .shipping] [.account] (by decide)
  have purchased := allKinds [.item, .account] [.shipping] (by decide)
  have counted : lineAmounts [.item, .shipping, .account] doc =
      lineAmounts [.item, .shipping] doc + lineAmounts [.account] doc := by
    rw [← sold]
    rfl
  have counted' : lineAmounts [.item, .shipping, .account] doc =
      lineAmounts [.item, .account] doc + lineAmounts [.shipping] doc := by
    rw [← purchased]
    unfold lineAmounts
    apply total_congr
    intro line _
    simp only [List.mem_cons, List.cons_append, List.nil_append]
    tauto
  rw [minor_documentTotal succeeds]
  unfold postedAmount uncountedAmount soldTotal purchasedTotal
  split <;> omega

/-- The control account of the entry moves by the signed total of the
document. -/
def TiesToTotal (doc : LedgerDocument) (entry : JournalEntry) : Prop :=
  ∃ total, documentTotal doc = .ok total ∧
    accountNet (controlAccount doc.kind) entry = controlSign doc.kind * total.minor

/-- The condition under which posting and total agree. -/
def TotalCountsPosting (doc : LedgerDocument) (ctx : PostingContext) : Prop :=
  DocumentTotalFits doc ∧
    if doc.isVoided then 2 * postedAmount doc ctx + uncountedAmount doc ctx = 0
    else uncountedAmount doc ctx = 0

theorem accountNet_control {doc : LedgerDocument} {version : Nat}
    {ctx : PostingContext} {entry : JournalEntry}
    (isControl : doc.kind ∈ controlKinds)
    (posts : post doc version ctx = .ok (.entry entry)) :
    accountNet (controlAccount doc.kind) entry =
      if doc.isVoided then -(controlSign doc.kind * postedAmount doc ctx)
      else controlSign doc.kind * postedAmount doc ctx := by
  obtain ⟨legs, lines, derivation⟩ := post_eq_entry posts
  unfold accountNet
  rw [derivation.lineTotal_eq, controlLegs_net isControl derivation.builds]

/-- An entry of an invoice, a credit memo, a bill or a vendor credit ties to
the document's total exactly when the total fits, the document is not voided
and nothing is left out; a voided one only when the swapped amount happens to
come to the total. -/
theorem tiesToTotal_iff {doc : LedgerDocument} {version : Nat}
    {ctx : PostingContext} {entry : JournalEntry}
    (isControl : doc.kind ∈ controlKinds)
    (posts : post doc version ctx = .ok (.entry entry)) :
    TiesToTotal doc entry ↔ TotalCountsPosting doc ctx := by
  have net := accountNet_control isControl posts
  have signUnit : controlSign doc.kind = 1 ∨ controlSign doc.kind = -1 := by
    unfold controlSign
    split <;> simp
  unfold TiesToTotal TotalCountsPosting
  rw [← documentTotal_succeeds_iff, net]
  constructor
  · rintro ⟨total, succeeds, ties⟩
    refine ⟨⟨total, succeeds⟩, ?_⟩
    have split := documentTotal_split ctx succeeds
    rw [split] at ties
    rcases signUnit with sign | sign <;> rw [sign] at ties <;>
      split_ifs at ties ⊢ <;> omega
  · rintro ⟨⟨total, succeeds⟩, counts⟩
    refine ⟨total, succeeds, ?_⟩
    have split := documentTotal_split ctx succeeds
    rw [split]
    rcases signUnit with sign | sign <;> rw [sign] <;>
      split_ifs at counts ⊢ <;> omega

/-- An invoice whose second line names an income account directly. -/
def invoiceWithAccountLine : LedgerDocument where
  documentId := "invoice-2"
  kind := .invoice
  txnDate := ⟨2027, 3, 1, Eq.refl true⟩
  contact := some ⟨.customer, "c1"⟩
  headerClass := some ⟨"foam"⟩
  lines :=
    [{ lineNo := 1, kind := .item, amount := .fromMinor 10000 },
      { lineNo := 2, kind := .account, amount := .fromMinor 1500,
        account := some ⟨Chart.otherIncome⟩ }]

/-- Posting puts 100.00 on the receivable and the subledger takes the document
to be worth 115.00. -/
theorem invoiceWithAccountLine_does_not_tie :
    ∃ entry, post invoiceWithAccountLine 1 {} = .ok (.entry entry) ∧
      accountNet Chart.accountsReceivable entry = 10000 ∧
      documentTotal invoiceWithAccountLine = .ok (.fromMinor 11500) ∧
      ¬ TiesToTotal invoiceWithAccountLine entry := by
  refine ⟨_, rfl, by decide, by decide, ?_⟩
  rintro ⟨total, succeeds, ties⟩
  have totalEq : total = .fromMinor 11500 := by
    simpa [show documentTotal invoiceWithAccountLine = .ok (.fromMinor 11500) by decide]
      using succeeds.symm
  subst totalEq
  revert ties
  decide

/-- The invoice without the account line ties. -/
theorem tiesToTotal_iff_invoiceOfItems :
    ∃ entry, post { invoiceWithAccountLine with
        lines := invoiceWithAccountLine.lines.take 1 } 1 {} = .ok (.entry entry) ∧
      (TiesToTotal { invoiceWithAccountLine with
          lines := invoiceWithAccountLine.lines.take 1 } entry ↔
        TotalCountsPosting { invoiceWithAccountLine with
          lines := invoiceWithAccountLine.lines.take 1 } {}) :=
  ⟨_, rfl, tiesToTotal_iff (by decide) rfl⟩

end QuickBooks
