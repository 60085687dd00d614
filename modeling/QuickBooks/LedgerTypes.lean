import QuickBooks.LedgerDates
import QuickBooks.LedgerMoney

/-!
# Documents and journal entries

A document is what is saved; a journal entry is what the posting rules derive
from one and what the store keeps.  An entry is balanced when each line has
exactly one positive side and the two sides have the same total; its reversal
swaps the sides of every line.
-/

/-!
## The chart of accounts

Accounts carry four-digit numbers in classification bands.  The constants are
the numbers that the posting rules name; the seed is what a new company starts
with.
-/

namespace QuickBooks

/-- A ledger account, keyed by its number. -/
structure AccountId where
  number : String
deriving DecidableEq

/-- A class of the taxonomy. -/
structure ClassId where
  code : String
deriving DecidableEq

inductive Side where
  | debit
  | credit
deriving DecidableEq

inductive Classification where
  | asset
  | liability
  | equity
  | income
  | cogs
  | expense
deriving DecidableEq

namespace Classification

def normalBalance : Classification → Side
  | asset | cogs | expense => .debit
  | liability | equity | income => .credit

end Classification

namespace Side

def flip : Side → Side
  | debit => credit
  | credit => debit

end Side

structure AccountSeed where
  number : String
  name : String
  classification : Classification
  isContra : Bool
deriving DecidableEq

namespace Chart

def checking := "1100"
def undepositedFunds := "1150"
def authnetClearing := "1160"
def accountsReceivable := "1200"
def allowanceDoubtful := "1250"
def inventoryRaw := "1300"
def inventoryFinished := "1310"
def workInProgress := "1320"
def prepaid := "1400"
def machinery := "1500"
def accumDepreciation := "1590"
def accountsPayable := "2000"
def inventoryReceivedNotBilled := "2050"
def creditCard := "2100"
def salesTaxPayable := "2200"
def customerDeposits := "2300"
def payrollLiabilities := "2400"
def notesPayable := "2900"
def ownerCapital := "3000"
def ownerDraws := "3100"
def retainedEarnings := "3900"
def openingBalanceEquity := "3950"
def salesIncome := "4100"
def shippingIncome := "4300"
def discountsGiven := "4900"
def returnsAllowances := "4950"
def otherIncome := "4990"
def cogs := "5000"
def freightIn := "5050"
def manufacturingVariance := "5100"
def inventoryAdjustment := "5150"
def partsLabourApplied := "5300"
def directLabour := "5400"
def shopSupplies := "6100"
def vehicleFuel := "6200"
def rentUtilities := "6300"
def insurance := "6400"
def professionalFees := "6500"
def advertisingChannelFees := "6600"
def merchantFees := "6700"
def badDebt := "6800"
def otherOperating := "6900"
def interestExpense := "7100"

/-- An inventory asset account: any four-character number of the 13 band but
work in progress. -/
def isInventoryAsset (number : String) : Bool :=
  number.utf8ByteSize = 4 ∧ number.toList.take 2 = ['1', '3'] ∧
    number ≠ workInProgress

def seedChart : List AccountSeed :=
  [⟨checking, "Checking", .asset, false⟩,
    ⟨undepositedFunds, "Undeposited funds", .asset, false⟩,
    ⟨authnetClearing, "Authorize.net clearing", .asset, false⟩,
    ⟨accountsReceivable, "Accounts receivable", .asset, false⟩,
    ⟨allowanceDoubtful, "Allowance for doubtful accounts", .asset, true⟩,
    ⟨inventoryRaw, "Inventory, raw materials", .asset, false⟩,
    ⟨inventoryFinished, "Inventory, finished goods", .asset, false⟩,
    ⟨workInProgress, "Work in progress", .asset, false⟩,
    ⟨prepaid, "Prepaid expenses", .asset, false⟩,
    ⟨machinery, "Machinery and equipment", .asset, false⟩,
    ⟨accumDepreciation, "Accumulated depreciation", .asset, true⟩,
    ⟨accountsPayable, "Accounts payable", .liability, false⟩,
    ⟨inventoryReceivedNotBilled, "Inventory received not billed", .liability, false⟩,
    ⟨creditCard, "Credit card", .liability, false⟩,
    ⟨salesTaxPayable, "Sales tax payable", .liability, false⟩,
    ⟨customerDeposits, "Customer deposits and unapplied payments", .liability, false⟩,
    ⟨payrollLiabilities, "Payroll liabilities", .liability, false⟩,
    ⟨notesPayable, "Notes and loans payable", .liability, false⟩,
    ⟨ownerCapital, "Owner capital", .equity, false⟩,
    ⟨ownerDraws, "Owner draws", .equity, true⟩,
    ⟨retainedEarnings, "Retained earnings", .equity, false⟩,
    ⟨openingBalanceEquity, "Opening balance equity", .equity, false⟩,
    ⟨salesIncome, "Sales income", .income, false⟩,
    ⟨shippingIncome, "Shipping income", .income, false⟩,
    ⟨discountsGiven, "Discounts given", .income, true⟩,
    ⟨returnsAllowances, "Returns and allowances", .income, true⟩,
    ⟨otherIncome, "Other income", .income, false⟩,
    ⟨cogs, "Cost of goods sold", .cogs, false⟩,
    ⟨freightIn, "Freight in", .cogs, false⟩,
    ⟨manufacturingVariance, "Manufacturing variance", .cogs, false⟩,
    ⟨inventoryAdjustment, "Inventory adjustment and shrinkage", .cogs, false⟩,
    ⟨partsLabourApplied, "Parts and labour applied", .cogs, true⟩,
    ⟨directLabour, "Direct labour", .cogs, false⟩,
    ⟨shopSupplies, "Shop supplies and packaging", .expense, false⟩,
    ⟨vehicleFuel, "Vehicle and fuel", .expense, false⟩,
    ⟨rentUtilities, "Rent and utilities", .expense, false⟩,
    ⟨insurance, "Insurance", .expense, false⟩,
    ⟨professionalFees, "Professional fees", .expense, false⟩,
    ⟨advertisingChannelFees, "Advertising and channel fees", .expense, false⟩,
    ⟨merchantFees, "Merchant and bank fees", .expense, false⟩,
    ⟨badDebt, "Bad debt", .expense, false⟩,
    ⟨otherOperating, "Other operating expense", .expense, false⟩,
    ⟨interestExpense, "Interest expense", .expense, false⟩]

def aquamentorClasses : List (String × String) :=
  [("foam", "Foam products"), ("sign", "Signs"), ("chair", "Lifeguard chairs"),
    ("drop", "Dropship and resale"), ("cnc", "CNC cutting"), ("uv", "UV printing")]

def waterlineClasses : List (String × String) :=
  [("cnc", "CNC cutting"), ("uv", "UV printing")]

def importFallbackClass : String × String :=
  ("unclassified", "Unclassified (pre-2027 import)")

theorem seedChart_banded :
    (seedChart.map AccountSeed.number).Nodup ∧
      ∀ seed ∈ seedChart, seed.number.toList.head? =
        match seed.classification with
        | .asset => some '1'
        | .liability => some '2'
        | .equity => some '3'
        | .income => some '4'
        | .cogs => some '5'
        | .expense => if seed.number = interestExpense then some '7' else some '6' := by
  decide +kernel

end Chart

end QuickBooks

namespace QuickBooks

open DecimalNumbers ExceptPrograms

inductive ContactKind where
  | customer
  | vendor
deriving DecidableEq

structure ContactRef where
  kind : ContactKind
  id : String
deriving DecidableEq

inductive DocKind where
  | estimate
  | salesOrder
  | invoice
  | salesReceipt
  | creditMemo
  | refundReceipt
  | payment
  | purchaseOrder
  | bill
  | billPayment
  | vendorCredit
  | purchase
  | deposit
  | journalEntry
  | rawMaterialReceipt
  | build
  | inventoryAdjustment
  | bankLine
  | settlement
deriving DecidableEq

namespace DocKind

/-- A contract never posts, and an application that targets one is a link,
never money. -/
def isContract : DocKind → Bool
  | estimate | salesOrder | purchaseOrder => true
  | _ => false

def posts (kind : DocKind) : Bool :=
  !kind.isContract

def asStr : DocKind → String
  | estimate => "estimate"
  | salesOrder => "sales_order"
  | invoice => "invoice"
  | salesReceipt => "sales_receipt"
  | creditMemo => "credit_memo"
  | refundReceipt => "refund_receipt"
  | payment => "payment"
  | purchaseOrder => "purchase_order"
  | bill => "bill"
  | billPayment => "bill_payment"
  | vendorCredit => "vendor_credit"
  | purchase => "purchase"
  | deposit => "deposit"
  | journalEntry => "journal_entry"
  | rawMaterialReceipt => "raw_material_receipt"
  | build => "build"
  | inventoryAdjustment => "inventory_adjustment"
  | bankLine => "bank_line"
  | settlement => "settlement"

end DocKind

/-- What a document line is, which decides the legs it produces. -/
inductive LineKind where
  | item
  | account
  | discount
  | shipping
  | description
  | journal
deriving DecidableEq

structure DocLine where
  lineNo : Int
  kind : LineKind
  amount : Money
  «class» : Option ClassId := none
  itemId : Option String := none
  account : Option AccountId := none
  isTaxable : Bool := false
  qty : Option Decimal := none
  unitCost : Option Money := none
  description : Option String := none
  posting : Option Side := none
  entity : Option ContactRef := none
deriving DecidableEq

structure TaxDetail where
  totalTax : Money
  taxableBase : Money
  rate : Decimal
deriving DecidableEq

/-- How much of a payment or a credit applies to which document. -/
structure Application where
  targetDocumentId : String
  targetKind : DocKind
  amount : Money
deriving DecidableEq

/-- The document as saved. -/
structure LedgerDocument where
  documentId : String
  kind : DocKind
  number : Option String := none
  txnDate : Date
  dueDate : Option Date := none
  contact : Option ContactRef := none
  headerClass : Option ClassId := none
  lines : List DocLine
  tax : Option TaxDetail := none
  depositTo : Option AccountId := none
  payFrom : Option AccountId := none
  applications : List Application := []
  unapplied : Money := Money.zero
  isVoided : Bool := false
  sourceRef : Option String := none
  memo : Option String := none
deriving DecidableEq

namespace LedgerDocument

def subtotal (doc : LedgerDocument) : Except MoneyError Money :=
  Money.checkedSum (doc.lines.map DocLine.amount)

end LedgerDocument

structure JournalLine where
  lineNo : Int
  account : AccountId
  «class» : Option ClassId
  debit : Money
  credit : Money
  memo : Option String
  entity : Option ContactRef
  isTaxable : Bool
  taxAmount : Option Money
  taxRate : Option Decimal
deriving DecidableEq

namespace JournalLine

def net (line : JournalLine) : Int :=
  line.debit.minor - line.credit.minor

def swapped (line : JournalLine) : JournalLine :=
  { line with debit := line.credit, credit := line.debit }

@[simp]
theorem net_swapped (line : JournalLine) : line.swapped.net = -line.net := by
  simp only [net, swapped]
  omega

end JournalLine

/-- One entry, derived from one document version. -/
structure JournalEntry where
  entryDate : Date
  memo : Option String
  sourceType : DocKind
  sourceId : String
  sourceVersion : Nat
  reversalOf : Option Nat
  isFlagged : Bool
  lines : List JournalLine
deriving DecidableEq

namespace JournalEntry

def totalDebits (entry : JournalEntry) : Except MoneyError Money :=
  Money.checkedSum (entry.lines.map JournalLine.debit)

def totalCredits (entry : JournalEntry) : Except MoneyError Money :=
  Money.checkedSum (entry.lines.map JournalLine.credit)

def sideOk (line : JournalLine) : Bool :=
  (decide (line.debit = Money.zero) != decide (line.credit = Money.zero)) &&
    decide (0 ≤ line.debit.minor) && decide (0 ≤ line.credit.minor)

def isBalanced (entry : JournalEntry) : Bool :=
  match entry.totalDebits, entry.totalCredits with
  | .ok debits, .ok credits =>
    entry.lines.all sideOk && decide (debits = credits) && !entry.lines.isEmpty
  | _, _ => false

/-- The correction path: same lines, sides swapped, on another date. -/
def reversed (entry : JournalEntry) (on : Date) (reversesEntryId : Nat) :
    JournalEntry :=
  { entry with
    entryDate := on
    reversalOf := some reversesEntryId
    lines := entry.lines.map JournalLine.swapped }

theorem sideOk_iff {line : JournalLine} :
    sideOk line = true ↔
      (0 < line.debit.minor ∧ line.credit.minor = 0) ∨
        (line.debit.minor = 0 ∧ 0 < line.credit.minor) := by
  simp only [sideOk, Bool.and_eq_true, decide_eq_true_eq, bne_iff_ne, ne_eq,
    decide_eq_decide, Money.ext_iff_minor, Money.minor_zero]
  omega

theorem nonneg_of_sideOk {line : JournalLine} (side : sideOk line = true) :
    0 ≤ line.debit.minor ∧ 0 ≤ line.credit.minor := by
  rw [sideOk_iff] at side
  omega

theorem isBalanced_iff {entry : JournalEntry} :
    entry.isBalanced = true ↔
      entry.lines ≠ [] ∧ (∀ line ∈ entry.lines, sideOk line = true) ∧
        (entry.lines.map fun line => line.debit.minor).sum =
          (entry.lines.map fun line => line.credit.minor).sum ∧
        (entry.lines.map fun line => line.debit.minor).sum ≤ 9223372036854775807 := by
  have debitTotal : ∀ total, entry.totalDebits = .ok total →
      total.minor = (entry.lines.map fun line => line.debit.minor).sum := by
    intro total sums
    rw [Money.minor_checkedSum sums, List.map_map]
    rfl
  have creditTotal : ∀ total, entry.totalCredits = .ok total →
      total.minor = (entry.lines.map fun line => line.credit.minor).sum := by
    intro total sums
    rw [Money.minor_checkedSum sums, List.map_map]
    rfl
  constructor
  · intro balanced
    unfold isBalanced at balanced
    split at balanced
    · rename_i debits credits debitsOk creditsOk
      simp only [Bool.and_eq_true, List.all_eq_true, decide_eq_true_eq,
        Bool.not_eq_true', List.isEmpty_eq_false_iff] at balanced
      obtain ⟨⟨sides, sameTotal⟩, nonempty⟩ := balanced
      have debitsFit := debits.cents.le_upper
      have debitsEq := debitTotal debits debitsOk
      have creditsEq := creditTotal credits creditsOk
      rw [sameTotal] at debitsEq
      refine ⟨nonempty, sides, debitsEq.symm.trans creditsEq, ?_⟩
      rw [← debitsEq, ← sameTotal]
      exact debitsFit
    · simp at balanced
  · rintro ⟨nonempty, sides, sameTotal, fits⟩
    have debitsExist : ∃ total, entry.totalDebits = .ok total := by
      apply (Money.exists_checkedSum_iff_of_nonneg _).mpr
      · simpa [Function.comp_def] using fits
      · intro amount amountMem
        obtain ⟨line, lineMem, rfl⟩ := List.mem_map.mp amountMem
        exact (nonneg_of_sideOk (sides line lineMem)).1
    have creditsExist : ∃ total, entry.totalCredits = .ok total := by
      apply (Money.exists_checkedSum_iff_of_nonneg _).mpr
      · rw [sameTotal] at fits
        simpa [Function.comp_def] using fits
      · intro amount amountMem
        obtain ⟨line, lineMem, rfl⟩ := List.mem_map.mp amountMem
        exact (nonneg_of_sideOk (sides line lineMem)).2
    obtain ⟨debits, debitsOk⟩ := debitsExist
    obtain ⟨credits, creditsOk⟩ := creditsExist
    have sameMoney : debits = credits := by
      apply Money.ext
      rw [debitTotal debits debitsOk, creditTotal credits creditsOk, sameTotal]
    unfold isBalanced
    rw [debitsOk, creditsOk]
    simpa [sameMoney, nonempty] using sides

theorem isBalanced_spec {entry : JournalEntry} (balanced : entry.isBalanced = true) :
    entry.lines ≠ [] ∧ (∀ line ∈ entry.lines, sideOk line = true) ∧
      (entry.lines.map fun line => line.debit.minor).sum =
        (entry.lines.map fun line => line.credit.minor).sum := by
  obtain ⟨nonempty, sides, sameTotal, -⟩ := isBalanced_iff.mp balanced
  exact ⟨nonempty, sides, sameTotal⟩

theorem isBalanced_of_perm {first second : JournalEntry}
    (rearranged : first.lines.Perm second.lines)
    (balanced : first.isBalanced = true) : second.isBalanced = true := by
  rw [isBalanced_iff] at balanced ⊢
  obtain ⟨nonempty, sides, sameTotal, fits⟩ := balanced
  rw [(rearranged.map _).sum_eq, (rearranged.map _).sum_eq] at sameTotal
  rw [(rearranged.map _).sum_eq] at fits
  refine ⟨?_, fun line lineMem => sides line (rearranged.mem_iff.mpr lineMem),
    sameTotal, fits⟩
  intro isEmpty
  rw [isEmpty] at rearranged
  exact nonempty rearranged.eq_nil

theorem isBalanced_of_swapped {original reversal : JournalEntry}
    (swaps : reversal.lines = original.lines.map JournalLine.swapped)
    (balanced : original.isBalanced = true) : reversal.isBalanced = true := by
  rw [isBalanced_iff] at balanced ⊢
  obtain ⟨nonempty, sides, sameTotal, fits⟩ := balanced
  rw [swaps, List.map_map, List.map_map]
  refine ⟨by simpa using nonempty, ?_, sameTotal.symm, sameTotal ▸ fits⟩
  intro line lineMem
  obtain ⟨before, beforeMem, rfl⟩ := List.mem_map.mp lineMem
  have side := sides before beforeMem
  rw [sideOk_iff] at side ⊢
  rcases side with ⟨debited, notCredited⟩ | ⟨notDebited, credited⟩
  · exact .inr ⟨notCredited, debited⟩
  · exact .inl ⟨credited, notDebited⟩

end JournalEntry

structure ItemAccounts where
  income : AccountId
  expense : AccountId
  asset : Option AccountId := none
  defaultClass : Option ClassId := none
  unitCost : Option Money := none
deriving DecidableEq

structure CustomerPosting where
  isTaxExempt : Bool := false
deriving DecidableEq

structure PostingConfig where
  salesTaxRate : Decimal := .ofParts 6625 5
  defaultDepositAccount : AccountId := ⟨Chart.undepositedFunds⟩
  defaultBankAccount : AccountId := ⟨Chart.checking⟩
  merchantFeeAccount : AccountId := ⟨Chart.merchantFees⟩
deriving DecidableEq

/-- What posting needs to know that is not on the document. -/
structure PostingContext where
  items : List (String × ItemAccounts) := []
  customers : List (String × CustomerPosting) := []
  config : PostingConfig := {}
deriving DecidableEq

end QuickBooks
