import QuickBooks.ImportPipeline

/-!
# The opening balance

One document dated at the boundary stands for every year before it: one line
for each account of the other book's trial balance that is not zero, with
opening balance equity as the plug.  Its lines carry amounts and accounts but
no posting side; the sides are on the entry built beside it.
-/

namespace QuickBooks

open ExceptPrograms TransactionPrograms

/-- One row of the other book's trial balance, debit-positive. -/
structure QboTbRow where
  qboAccountId : String
  name : String
  balance : Money
deriving DecidableEq

inductive ImportError where
  | unmappedAccount (qboAccountId : String)
  | money (failure : MoneyError)
deriving DecidableEq

instance : MonadLift (Except MoneyError) (Except ImportError) where
  monadLift := Except.mapError .money

def bySourceRef (mapping : List MappedAccount) (qboAccountId : String) :
    Option MappedAccount :=
  mapping.find? fun account => account.sourceRef = qboAccountId

/-- A document line that names an account and an amount, and no side. -/
def openingDocLine (lineNo : Int) (account : AccountId) (amount : Money)
    («class» : Option ClassId) (description : String) : DocLine where
  lineNo := lineNo
  kind := .account
  amount := amount
  «class» := «class»
  account := some account
  description := some description

def openingJournalLine (lineNo : Int) (account : AccountId) (side : Side)
    (amount : Money) («class» : Option ClassId) : JournalLine where
  lineNo := lineNo
  account := account
  «class» := «class»
  debit := if side = .debit then amount else Money.zero
  credit := if side = .debit then Money.zero else amount
  memo := none
  entity := none
  isTaxable := false
  taxAmount := none
  taxRate := none

/-- The lines built so far and the totals of their two sides. -/
structure OpeningLines where
  journalLines : List JournalLine
  docLines : List DocLine
  debitTotal : Money
  creditTotal : Money
  lineNo : Int

/-- Add the lines of one row. -/
def OpeningLines.addRow (mapping : List MappedAccount) (built : OpeningLines)
    (row : QboTbRow) : Except ImportError OpeningLines := do
  let mapped ← orRefuse (.unmappedAccount row.qboAccountId)
    (bySourceRef mapping row.qboAccountId)
  let side : Side := if row.balance.isNegative then .credit else .debit
  let amount ← if row.balance.isNegative then
      (row.balance.checkedNeg : Except MoneyError Money)
    else pure row.balance
  let «class» : Option ClassId :=
    if requiresClass mapped.ledgerNumber then some ⟨Chart.importFallbackClass.1⟩ else none
  let debitTotal ← if side = .debit then
      (built.debitTotal.checkedAdd amount : Except MoneyError Money)
    else pure built.debitTotal
  let creditTotal ← if side = .debit then pure built.creditTotal
    else (built.creditTotal.checkedAdd amount : Except MoneyError Money)
  return {
    journalLines := built.journalLines ++
      [openingJournalLine built.lineNo mapped.ledgerNumber side amount «class»]
    docLines := built.docLines ++
      [openingDocLine built.lineNo mapped.ledgerNumber amount «class»
        ("Opening balance: " ++ mapped.name)]
    debitTotal
    creditTotal
    lineNo := built.lineNo + 1 }

/-- Balance the two sides with opening balance equity. -/
def OpeningLines.addPlug (built : OpeningLines) : Except ImportError OpeningLines := do
  let difference ← built.debitTotal.checkedSub built.creditTotal
  if difference.isZero then return built
  else
    let plug : AccountId := ⟨Chart.openingBalanceEquity⟩
    let side : Side := if difference.isNegative then .debit else .credit
    let amount ← if difference.isNegative then
        (difference.checkedNeg : Except MoneyError Money)
      else pure difference
    return { built with
      journalLines := built.journalLines ++
        [openingJournalLine built.lineNo plug side amount none]
      docLines := built.docLines ++
        [openingDocLine built.lineNo plug amount none "Opening balance equity, plug"] }

def openingDocumentId (company : String) (asOf : Date) : String :=
  "opening-balance:" ++ company ++ ":" ++ asOf.render

/-- The opening document and the flagged entry that stands beside it. -/
def openingBalanceEntry (company : String) (asOf : Date) (qboTb : List QboTbRow)
    (mapping : List MappedAccount) : Except ImportError (LedgerDocument × JournalEntry) := do
  let rows := (qboTb.filter fun row => !row.balance.isZero).insertionSort
    fun first second => first.qboAccountId ≤ second.qboAccountId
  let built ← rows.foldlM (OpeningLines.addRow mapping) ⟨[], [], Money.zero, Money.zero, 1⟩
  let built ← built.addPlug
  let documentId := openingDocumentId company asOf
  let memo := "Opening balance as of " ++ asOf.render ++ " (LEDGER-DESIGN.md §6)"
  let doc : LedgerDocument :=
    { documentId, kind := .journalEntry, txnDate := asOf, lines := built.docLines
      memo := some memo }
  let entry : JournalEntry :=
    { entryDate := asOf, memo := some memo, sourceType := .journalEntry
      sourceId := documentId, sourceVersion := 1, reversalOf := none
      isFlagged := true, lines := built.journalLines }
  return (doc, entry)

/-- The opening of the slim import: customer payments unapplied at the date
move from receivables to customer deposits. -/
def withUnappliedReclass (asOf : Date) (unapplied : Money)
    (opening : LedgerDocument × JournalEntry) : LedgerDocument × JournalEntry :=
  if unapplied.isZero then opening
  else
    let (doc, entry) := opening
    let next := (entry.lines.map JournalLine.lineNo).max?.getD 0 + 1
    let receivable : AccountId := ⟨Chart.accountsReceivable⟩
    let deposits : AccountId := ⟨Chart.customerDeposits⟩
    let description := "Customer payments unapplied at " ++ asOf.render ++ ", held in 2300 (W8)"
    ({ doc with
        lines := doc.lines ++
          [openingDocLine next receivable unapplied none description,
            openingDocLine (next + 1) deposits unapplied none description] },
     { entry with
        lines := entry.lines ++
          [openingJournalLine next receivable .debit unapplied none,
            openingJournalLine (next + 1) deposits .credit unapplied none] })

/-- The accounts of the book that came from the replica. -/
def accountMappingFromLedger (ledger : Ledger) : List MappedAccount :=
  ledger.listAccounts.filterMap fun account =>
    account.sourceRef.map fun sourceRef =>
      ⟨sourceRef, account.accountId, account.name, account.classification,
        account.needsMapping⟩

/-- Apply, skip or replace the opening balance. -/
def applyOpeningBalance (company : String) (asOf : Date) (qboTb : List QboTbRow) :
    Program Ledger (ImportError ⊕ LedgerError) (Bool × Bool) := do
  let ledger ← get
  match openingBalanceEntry company asOf qboTb (accountMappingFromLedger ledger) with
  | .error failure => throw (.inl failure)
  | .ok (doc, entry) =>
    refusingWith .inr (applyFlaggedEntry doc entry "opening_balance")

/-- The opening entry of the slim import; none for a trial balance of zeros. -/
def applySlimOpening (company : String) (asOf : Date) (qboTb : List QboTbRow)
    (mapping : List MappedAccount) (unapplied : Money) :
    Program Ledger (ImportError ⊕ LedgerError) (Option (Bool × Bool)) :=
  match openingBalanceEntry company asOf qboTb mapping with
  | .error failure => throw (.inl failure)
  | .ok opening =>
    let (doc, entry) := withUnappliedReclass asOf unapplied opening
    if entry.lines.isEmpty then return none
    else do
      let outcome ← refusingWith .inr (applyFlaggedEntry doc entry "import_slim_opening")
      return some outcome

end QuickBooks
