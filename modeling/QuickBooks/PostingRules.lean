import QuickBooks.LedgerTypes

/-!
# The posting rules

`post` turns a document into a balanced journal entry or into nothing.  It is
pure: everything it needs beyond the document is in the posting context.  Each
rule builds a list of legs, and `finalize` merges the legs that share an
account, a class, an entity, a side and a taxability into one line and numbers
the lines from one.  A voided document posts as it otherwise would, and only at
the very end the sides of every line are swapped.
-/

namespace QuickBooks

open DecimalNumbers ExceptPrograms

inductive Posting where
  | nonPosting
  | entry (entry : JournalEntry)
deriving DecidableEq

/-- The refusals of posting.  A decimal product that overflows is a panic of
the decimal library rather than a refusal, which the last case stands for. -/
inductive PostError where
  | missingClass (lineNo : Int)
  | unknownItem (itemId : String)
  | missingAccount (lineNo : Int)
  | unbalancedJournal
  | money (failure : MoneyError)
  | paymentDoesNotAddUp (documentId : String)
      (applications unapplied stated : Money)
  | multiplicationOverflowed
deriving DecidableEq

namespace PostError

def message : PostError → String
  | missingClass lineNo =>
    "line " ++ toString lineNo ++
      ": no class on the line, its item, or the document header"
  | unknownItem itemId => "unknown item " ++ itemId
  | missingAccount lineNo =>
    "line " ++ toString lineNo ++ ": no account to post this line to"
  | unbalancedJournal => "journal entry does not balance: debits and credits differ"
  | money failure => failure.message
  | paymentDoesNotAddUp documentId applications unapplied stated =>
    "payment " ++ documentId ++ ": applications " ++ applications.debug ++
      " plus unapplied " ++ unapplied.debug ++
      " does not equal the stated total " ++ stated.debug
  | multiplicationOverflowed => "Multiplication overflowed"

end PostError

instance : MonadLift (Except MoneyError) (Except PostError) where
  monadLift := Except.mapError .money

@[simp]
theorem liftM_money_eq_ok_iff {α : Type} {program : Except MoneyError α}
    {result : α} :
    (liftM program : Except PostError α) = .ok result ↔ program = .ok result :=
  mapError_eq_ok_iff

/-- One side of one entry, before merging. -/
structure Leg where
  account : AccountId
  «class» : Option ClassId
  entity : Option ContactRef
  side : Side
  amount : Money
  isTaxable : Bool := false
  taxAmount : Option Money := none
  taxRate : Option Decimal := none
deriving DecidableEq

namespace Leg

def withTax (leg : Leg) (isTaxable : Bool) (taxAmount : Option Money)
    (taxRate : Option Decimal) : Leg :=
  { leg with isTaxable, taxAmount, taxRate }

end Leg

def debit (account : AccountId) (amount : Money) («class» : Option ClassId)
    (entity : Option ContactRef) : Leg :=
  ⟨account, «class», entity, .debit, amount, false, none, none⟩

def credit (account : AccountId) (amount : Money) («class» : Option ClassId)
    (entity : Option ContactRef) : Leg :=
  ⟨account, «class», entity, .credit, amount, false, none, none⟩

def acct (number : String) : AccountId :=
  ⟨number⟩

def resolveClass (line : DocLine) (item : Option ItemAccounts)
    (header : Option ClassId) : Option ClassId :=
  line.class <|> (item.bind ItemAccounts.defaultClass) <|> header

/-- Income, cost of goods and expense accounts carry a class. -/
def requiresClass (account : AccountId) : Bool :=
  match account.number.toList.head? with
  | some '4' | some '5' | some '6' | some '7' => true
  | _ => false

def decimalProduct (first second : Decimal) : Except PostError Decimal :=
  orRefuse .multiplicationOverflowed (first.mul? second)

/-- The line's own share of the document's tax, with the rate that produced
it. -/
def lineTax (line : DocLine) (tax : Option TaxDetail) :
    Except PostError (Option (Money × Decimal)) :=
  if !line.isTaxable then return none
  else
    match tax with
    | none => return none
    | some tax => do
      let product ← decimalProduct line.amount.toDecimal tax.rate
      let extended ← roundMoney product .taxCalculation
      return some (extended, tax.rate)

/-- `resolveClass`, refused when the account needs a class and none resolved;
a balance-sheet account gets none whatever the chain would have said. -/
def classFor (line : DocLine) (item : Option ItemAccounts)
    (header : Option ClassId) (account : AccountId) :
    Except PostError (Option ClassId) :=
  if !requiresClass account then return none
  else
    match resolveClass line item header with
    | none => throw (.missingClass line.lineNo)
    | some resolved => return some resolved

def lookupItem (ctx : PostingContext) (itemId : Option String) :
    Except PostError (Option ItemAccounts) :=
  match itemId with
  | none => return none
  | some id =>
    match ctx.items.lookup id with
    | some item => return some item
    | none => throw (.unknownItem id)

def requiredItem (ctx : PostingContext) (line : DocLine) :
    Except PostError ItemAccounts := do
  orRefuse (.missingAccount line.lineNo) (← lookupItem ctx line.itemId)

def extendUnitCost (qty : Decimal) (unitCost : Money) : Except PostError Money := do
  let product ← decimalProduct qty unitCost.toDecimal
  roundMoney product .lineExtension

/-- The tracked item's asset account and the extended cost of the line, when
the line has both and the cost is not zero. -/
def inventoryCost (line : DocLine) (item : Option ItemAccounts) :
    Except PostError (Option (AccountId × Money)) :=
  match item with
  | none => return none
  | some item =>
    match item.asset, line.qty, line.unitCost <|> item.unitCost with
    | some asset, some qty, some unitCost => do
      let extended ← extendUnitCost qty unitCost
      return if extended.isZero then none else some (asset, extended)
    | _, _, _ => return none

/-- The cost pair of a sale: debit 5000, credit the item's asset account. -/
def postInventoryCogs (line : DocLine) (item : Option ItemAccounts)
    («class» : Option ClassId) : Except PostError (List Leg) := do
  match ← inventoryCost line item with
  | none => return []
  | some (asset, extended) =>
    return [debit (acct Chart.cogs) extended «class» none,
      credit asset extended none none]

/-- The mirror of `postInventoryCogs` for a return. -/
def postInventoryReturn (line : DocLine) (item : Option ItemAccounts)
    («class» : Option ClassId) : Except PostError (List Leg) := do
  match ← inventoryCost line item with
  | none => return []
  | some (asset, extended) =>
    return [debit asset extended none none,
      credit (acct Chart.cogs) extended «class» none]

abbrev RunningLegs :=
  List Leg × Money

/-- What one line of an invoice or a sales receipt adds. -/
def revenueLine (doc : LedgerDocument) (ctx : PostingContext)
    (running : RunningLegs) (line : DocLine) : Except PostError RunningLegs :=
  let (legs, total) := running
  match line.kind with
  | .item => do
    let item ← lookupItem ctx line.itemId
    let account := acct Chart.salesIncome
    let «class» ← classFor line item doc.headerClass account
    let tax ← lineTax line doc.tax
    let income := (credit account line.amount «class» none).withTax
      line.isTaxable (tax.map Prod.fst) (tax.map Prod.snd)
    let total ← total.checkedAdd line.amount
    let cost ← postInventoryCogs line item «class»
    return (legs ++ [income] ++ cost, total)
  | .shipping => do
    let item ← lookupItem ctx line.itemId
    let account := acct Chart.shippingIncome
    let «class» ← classFor line item doc.headerClass account
    let tax ← lineTax line doc.tax
    let income := (credit account line.amount «class» none).withTax
      line.isTaxable (tax.map Prod.fst) (tax.map Prod.snd)
    let total ← total.checkedAdd line.amount
    return (legs ++ [income], total)
  | .discount => do
    let item ← lookupItem ctx line.itemId
    let account := acct Chart.discountsGiven
    let «class» ← classFor line item doc.headerClass account
    let total ← total.checkedSub line.amount
    return (legs ++ [debit account line.amount «class» none], total)
  | .description | .account | .journal => return (legs, total)

/-- The tax leg that closes the lines of a sale or of a return. -/
def taxLeg (tax : Option TaxDetail)
    (onSide : AccountId → Money → Option ClassId → Option ContactRef → Leg)
    (running : RunningLegs) : Except PostError RunningLegs :=
  match tax with
  | none => return running
  | some tax => do
    let total ← running.2.checkedAdd tax.totalTax
    return (running.1 ++ [onSide (acct Chart.salesTaxPayable) tax.totalTax none none],
      total)

/-- The legs that an invoice and a sales receipt share, and their total. -/
def revenueLegs (doc : LedgerDocument) (ctx : PostingContext) :
    Except PostError RunningLegs := do
  let running ← doc.lines.foldlM (revenueLine doc ctx) ([], Money.zero)
  taxLeg doc.tax credit running

def postInvoice (doc : LedgerDocument) (ctx : PostingContext) :
    Except PostError (List Leg) := do
  let (legs, total) ← revenueLegs doc ctx
  return legs ++ [debit (acct Chart.accountsReceivable) total none doc.contact]

def postSalesReceipt (doc : LedgerDocument) (ctx : PostingContext) :
    Except PostError (List Leg) := do
  let (legs, total) ← revenueLegs doc ctx
  let deposit := doc.depositTo.getD ctx.config.defaultDepositAccount
  return legs ++ [debit deposit total none none]

/-- What one line of a credit memo or a refund receipt adds. -/
def returnsLine (doc : LedgerDocument) (ctx : PostingContext)
    (running : RunningLegs) (line : DocLine) : Except PostError RunningLegs :=
  let (legs, total) := running
  match line.kind with
  | .item | .shipping => do
    let item ← lookupItem ctx line.itemId
    let account := acct Chart.returnsAllowances
    let «class» ← classFor line item doc.headerClass account
    let total ← total.checkedAdd line.amount
    let cost ← if line.kind = .item then postInventoryReturn line item «class»
      else pure []
    return (legs ++ [debit account line.amount «class» none] ++ cost, total)
  | .discount => do
    let item ← lookupItem ctx line.itemId
    let account := acct Chart.discountsGiven
    let «class» ← classFor line item doc.headerClass account
    let total ← total.checkedSub line.amount
    return (legs ++ [credit account line.amount «class» none], total)
  | .description | .account | .journal => return (legs, total)

def returnsLegs (doc : LedgerDocument) (ctx : PostingContext) :
    Except PostError RunningLegs := do
  let running ← doc.lines.foldlM (returnsLine doc ctx) ([], Money.zero)
  taxLeg doc.tax debit running

def postCreditMemo (doc : LedgerDocument) (ctx : PostingContext) :
    Except PostError (List Leg) := do
  let (legs, total) ← returnsLegs doc ctx
  return legs ++ [credit (acct Chart.accountsReceivable) total none doc.contact]

def postRefundReceipt (doc : LedgerDocument) (ctx : PostingContext) :
    Except PostError (List Leg) := do
  let (legs, total) ← returnsLegs doc ctx
  let payFrom := doc.payFrom.getD ctx.config.defaultBankAccount
  return legs ++ [credit payFrom total none none]

def applicationsTotal (doc : LedgerDocument) : Except MoneyError Money :=
  Money.checkedSum (doc.applications.map Application.amount)

/-- When a payment states lines, their sum is its total. -/
def checkStatedTotal (doc : LedgerDocument) (applied total : Money) :
    Except PostError Unit :=
  if doc.lines.isEmpty then return ()
  else do
    let stated ← doc.subtotal
    ensure (stated = total)
      (PostError.paymentDoesNotAddUp doc.documentId applied doc.unapplied stated)

def postPayment (doc : LedgerDocument) : Except PostError (List Leg) := do
  let applied ← applicationsTotal doc
  let total ← applied.checkedAdd doc.unapplied
  checkStatedTotal doc applied total
  let receivable :=
    if applied.isZero then []
    else [credit (acct Chart.accountsReceivable) applied none doc.contact]
  let deposits :=
    if doc.unapplied.isZero then []
    else [credit (acct Chart.customerDeposits) doc.unapplied none doc.contact]
  let deposit := doc.depositTo.getD (acct Chart.undepositedFunds)
  return receivable ++ deposits ++ [debit deposit total none none]

def purchaseSideAccount (item : ItemAccounts) : AccountId :=
  item.asset.getD item.expense

/-- What one line of a purchase-side document adds, on the given side. -/
def purchaseSideLine
    (onSide : AccountId → Money → Option ClassId → Option ContactRef → Leg)
    (doc : LedgerDocument) (ctx : PostingContext)
    (running : RunningLegs) (line : DocLine) : Except PostError RunningLegs :=
  let (legs, total) := running
  match line.kind with
  | .item => do
    let item ← requiredItem ctx line
    let account := purchaseSideAccount item
    let «class» ← classFor line (some item) doc.headerClass account
    let total ← total.checkedAdd line.amount
    return (legs ++ [onSide account line.amount «class» none], total)
  | .account => do
    let account ← orRefuse (PostError.missingAccount line.lineNo) line.account
    let «class» ← classFor line none doc.headerClass account
    let total ← total.checkedAdd line.amount
    return (legs ++ [onSide account line.amount «class» none], total)
  | .description | .discount | .shipping | .journal => return (legs, total)

def postBill (doc : LedgerDocument) (ctx : PostingContext) :
    Except PostError (List Leg) := do
  let (legs, total) ←
    doc.lines.foldlM (purchaseSideLine debit doc ctx) ([], Money.zero)
  return legs ++ [credit (acct Chart.accountsPayable) total none doc.contact]

def postBillPayment (doc : LedgerDocument) (ctx : PostingContext) :
    Except PostError (List Leg) := do
  let applied ← applicationsTotal doc
  let apTotal ← applied.checkedAdd doc.unapplied
  let payFrom := doc.payFrom.getD ctx.config.defaultBankAccount
  return [debit (acct Chart.accountsPayable) apTotal none doc.contact,
    credit payFrom apTotal none none]

def postVendorCredit (doc : LedgerDocument) (ctx : PostingContext) :
    Except PostError (List Leg) := do
  let (legs, total) ←
    doc.lines.foldlM (purchaseSideLine credit doc ctx) ([], Money.zero)
  return legs ++ [debit (acct Chart.accountsPayable) total none doc.contact]

def postPurchase (doc : LedgerDocument) (ctx : PostingContext) :
    Except PostError (List Leg) := do
  let (legs, total) ←
    doc.lines.foldlM (purchaseSideLine debit doc ctx) ([], Money.zero)
  let payFrom := doc.payFrom.getD ctx.config.defaultBankAccount
  return legs ++ [credit payFrom total none none]

/-- What one line of a deposit adds: a negative line is a fee netted inside
the deposit. -/
def depositLine (doc : LedgerDocument) (running : RunningLegs) (line : DocLine) :
    Except PostError RunningLegs :=
  let (legs, net) := running
  if line.kind ≠ .account then return (legs, net)
  else do
    let account ← orRefuse (PostError.missingAccount line.lineNo) line.account
    let «class» ← classFor line none doc.headerClass account
    if line.amount.isNegative then
      let fee ← line.amount.checkedNeg
      let net ← net.checkedSub fee
      return (legs ++ [debit account fee «class» none], net)
    else
      let net ← net.checkedAdd line.amount
      return (legs ++ [credit account line.amount «class» none], net)

def postDeposit (doc : LedgerDocument) (ctx : PostingContext) :
    Except PostError (List Leg) := do
  let (legs, net) ← doc.lines.foldlM (depositLine doc) ([], Money.zero)
  let depositTo := doc.depositTo.getD ctx.config.defaultBankAccount
  return legs ++ [debit depositTo net none none]

/-- A journal line that moves money posts to its own account on its own
side. -/
def journalLeg (doc : LedgerDocument) (legs : List Leg) (line : DocLine) :
    Except PostError (List Leg) :=
  if line.kind ≠ .journal ∨ line.amount.isZero then return legs
  else do
    let account ← orRefuse (PostError.missingAccount line.lineNo) line.account
    let side ← orRefuse (PostError.missingAccount line.lineNo) line.posting
    let «class» ← classFor line none doc.headerClass account
    return legs ++ [⟨account, «class», line.entity, side, line.amount, false, none, none⟩]

def postJournalEntry (doc : LedgerDocument) : Except PostError (List Leg) :=
  doc.lines.foldlM (journalLeg doc) []

def postBankLine (doc : LedgerDocument) (ctx : PostingContext) :
    Except PostError (List Leg) := do
  let line ← orRefuse (PostError.missingAccount 0)
    (doc.lines.find? fun line => line.kind = .account)
  let account ← orRefuse (PostError.missingAccount line.lineNo) line.account
  let «class» ← classFor line none doc.headerClass account
  let bank := (doc.depositTo <|> doc.payFrom).getD ctx.config.defaultBankAccount
  if line.amount.isNegative then
    let amount ← line.amount.checkedNeg
    return [debit account amount «class» none, credit bank amount none none]
  else
    return [debit bank line.amount none none,
      credit account line.amount «class» none]

def namedAccountLine (doc : LedgerDocument) (number : String) : Option DocLine :=
  doc.lines.find? fun line =>
    line.kind = .account ∧ line.account = some (acct number)

def namedAccountAmount (doc : LedgerDocument) (number : String) : Option Money :=
  (namedAccountLine doc number).map DocLine.amount

def postSettlement (doc : LedgerDocument) (ctx : PostingContext) :
    Except PostError (List Leg) := do
  let grossLine ← orRefuse (PostError.missingAccount 0)
    (namedAccountLine doc Chart.authnetClearing)
  let gross := grossLine.amount
  let feeLine := namedAccountLine doc Chart.merchantFees
  let fee := (feeLine.map DocLine.amount).getD Money.zero
  let net ← gross.checkedSub fee
  let bank := doc.depositTo.getD ctx.config.defaultBankAccount
  let feeLegs :=
    if fee.isZero then []
    else [debit (acct Chart.merchantFees) fee (feeLine.bind DocLine.class) none]
  return [debit bank net none none,
    credit (acct Chart.authnetClearing) gross none none] ++ feeLegs

def postRawMaterialReceipt (doc : LedgerDocument) : Except PostError (List Leg) := do
  let landed ← orRefuse (PostError.missingAccount 0)
    (namedAccountAmount doc Chart.inventoryRaw)
  return [debit (acct Chart.inventoryRaw) landed none none,
    credit (acct Chart.inventoryReceivedNotBilled) landed none none]

/-- The difference between standard and actual, on its own side. -/
def varianceLegs (variance : Money) («class» : ClassId) : Except PostError (List Leg) :=
  if variance.isNegative then do
    let shortfall ← variance.checkedNeg
    return [debit (acct Chart.manufacturingVariance) shortfall (some «class») none]
  else if variance.isZero then return []
  else return [credit (acct Chart.manufacturingVariance) variance (some «class») none]

def postBuild (doc : LedgerDocument) : Except PostError (List Leg) := do
  let «class» ← orRefuse (PostError.missingClass 0) doc.headerClass
  let finished ← orRefuse (PostError.missingAccount 0)
    (namedAccountAmount doc Chart.inventoryFinished)
  let rawUsed ← orRefuse (PostError.missingAccount 0)
    (namedAccountAmount doc Chart.inventoryRaw)
  let applied ← orRefuse (PostError.missingAccount 0)
    (namedAccountAmount doc Chart.partsLabourApplied)
  let remainder ← finished.checkedSub rawUsed
  let variance ← remainder.checkedSub applied
  let plug ← varianceLegs variance «class»
  return [debit (acct Chart.inventoryFinished) finished none none,
    credit (acct Chart.inventoryRaw) rawUsed none none,
    credit (acct Chart.partsLabourApplied) applied (some «class») none] ++ plug

/-- What one line of an inventory adjustment adds: positive for a count up. -/
def adjustmentLine (doc : LedgerDocument) (legs : List Leg) (line : DocLine) :
    Except PostError (List Leg) :=
  if line.kind = .description then return legs
  else do
    let account ← orRefuse (PostError.missingAccount line.lineNo)
      (line.account.filter fun account =>
        line.kind = .account ∧ Chart.isInventoryAsset account.number)
    if line.amount.isZero then return legs
    else
      let «class» ← orRefuse (PostError.missingClass line.lineNo)
        (line.class <|> doc.headerClass)
      if line.amount.isNegative then
        let shrink ← line.amount.checkedNeg
        return legs ++ [debit (acct Chart.inventoryAdjustment) shrink (some «class») none,
          credit account shrink none none]
      else
        return legs ++ [debit account line.amount none none,
          credit (acct Chart.inventoryAdjustment) line.amount (some «class») none]

def postInventoryAdjustment (doc : LedgerDocument) : Except PostError (List Leg) := do
  let legs ← doc.lines.foldlM (adjustmentLine doc) []
  ensure (doc.lines.any fun line => line.kind ≠ .description)
    (PostError.missingAccount 0)
  return legs

/-- A negative amount is the other side. -/
def normalizeLeg (leg : Leg) : Except PostError Leg :=
  if leg.amount.isNegative then do
    let amount ← leg.amount.checkedNeg
    return { leg with amount, side := leg.side.flip }
  else return leg

/-- The legs that merge into one line. -/
def mergesWith (existing leg : Leg) : Bool :=
  existing.account = leg.account ∧ existing.class = leg.class ∧
    existing.entity = leg.entity ∧ existing.side = leg.side ∧
    existing.isTaxable = leg.isTaxable

def combineTax (existing added : Option Money) : Except PostError (Option Money) :=
  match existing, added with
  | some first, some second => do
    let sum ← first.checkedAdd second
    return some sum
  | some first, none => return some first
  | none, added => return added

/-- Add a leg to the first one it merges with, or at the end. -/
def mergeInto (leg : Leg) : List Leg → Except PostError (List Leg)
  | [] => return [leg]
  | existing :: rest =>
    if mergesWith existing leg then do
      let amount ← existing.amount.checkedAdd leg.amount
      let taxAmount ← combineTax existing.taxAmount leg.taxAmount
      let taxRate := existing.taxRate <|> leg.taxRate
      return { existing with amount, taxAmount, taxRate } :: rest
    else do
      let merged ← mergeInto leg rest
      return existing :: merged

def mergeLeg (merged : List Leg) (leg : Leg) : Except PostError (List Leg) :=
  if leg.amount.isZero then return merged
  else do
    let leg ← normalizeLeg leg
    mergeInto leg merged

/-- The journal line of a leg. -/
def journalLineOf (lineNo : Int) (leg : Leg) : JournalLine where
  lineNo := lineNo
  account := leg.account
  «class» := leg.class
  debit := if leg.side = .debit then leg.amount else Money.zero
  credit := if leg.side = .debit then Money.zero else leg.amount
  memo := none
  entity := leg.entity
  isTaxable := leg.isTaxable
  taxAmount := leg.taxAmount
  taxRate := leg.taxRate

/-- Number the legs that are not zero. -/
def numberLegs : Int → List Leg → List JournalLine
  | _, [] => []
  | lineNo, leg :: legs =>
    if leg.amount.isZero then numberLegs lineNo legs
    else journalLineOf lineNo leg :: numberLegs (lineNo + 1) legs

def mergeLegs (legs : List Leg) : Except PostError (List JournalLine) := do
  let merged ← legs.foldlM mergeLeg []
  return numberLegs 1 merged

def finalize (doc : LedgerDocument) (version : Nat) (legs : List Leg)
    (isFlagged : Bool) : Except PostError JournalEntry := do
  let lines ← mergeLegs legs
  return {
    entryDate := doc.txnDate
    memo := doc.memo
    sourceType := doc.kind
    sourceId := doc.documentId
    sourceVersion := version
    reversalOf := none
    isFlagged
    lines }

/-- Swap every line of a voided document's entry and mark the memo. -/
def applyVoid (entry : JournalEntry) (isVoided : Bool) : JournalEntry :=
  if !isVoided then entry
  else
    { entry with
      lines := entry.lines.map JournalLine.swapped
      memo := some ("VOID: " ++ entry.memo.getD "") }

/-- The legs of a document, by its kind.  A contract has none. -/
def postingLegs (doc : LedgerDocument) (ctx : PostingContext) :
    Except PostError (List Leg) :=
  match doc.kind with
  | .invoice => postInvoice doc ctx
  | .salesReceipt => postSalesReceipt doc ctx
  | .creditMemo => postCreditMemo doc ctx
  | .refundReceipt => postRefundReceipt doc ctx
  | .payment => postPayment doc
  | .bill => postBill doc ctx
  | .billPayment => postBillPayment doc ctx
  | .vendorCredit => postVendorCredit doc ctx
  | .purchase => postPurchase doc ctx
  | .deposit => postDeposit doc ctx
  | .journalEntry => postJournalEntry doc
  | .bankLine => postBankLine doc ctx
  | .settlement => postSettlement doc ctx
  | .rawMaterialReceipt => postRawMaterialReceipt doc
  | .build => postBuild doc
  | .inventoryAdjustment => postInventoryAdjustment doc
  | .estimate | .salesOrder | .purchaseOrder => return []

/-- The posting rules as one function. -/
def post (doc : LedgerDocument) (version : Nat) (ctx : PostingContext) :
    Except PostError Posting :=
  if !doc.kind.posts then return .nonPosting
  else do
    let isJournal := decide (doc.kind = .journalEntry)
    let legs ← postingLegs doc ctx
    let entry ← finalize doc version legs isJournal
    if entry.lines.isEmpty then return .nonPosting
    else if isJournal && !entry.isBalanced then throw .unbalancedJournal
    else return .entry (applyVoid entry doc.isVoided)

end QuickBooks
