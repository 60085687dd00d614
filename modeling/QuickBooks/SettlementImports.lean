import QuickBooks.DocumentProducers

/-!
# Settlement imports

The rows of a settlement export are grouped into batches.  A batch becomes a
settlement document of its net before fees and one payment or refund for each
of its transactions.  Transactions that are saved already are dropped before
the documents are built, and every document that has a saved version by its
turn is skipped.
-/

namespace QuickBooks

open ExceptPrograms TransactionPrograms

namespace Authnet

inductive TransactionStatus where
  | settledSuccessfully
  | refundSettledSuccessfully
  | voided
  | declined
deriving DecidableEq

/-- Whether a transaction moved money in or out. -/
inductive TxnKind where
  | sale
  | refund
deriving DecidableEq

/-- One row of the export, the amount without a sign. -/
structure TransactionRow where
  transactionId : String
  status : TransactionStatus
  settlementDate : Date
  batchId : String
  amount : Money
  invoiceNumber : Option String := none
  customerId : Option String := none
deriving DecidableEq

structure AuthnetTxn where
  txnId : String
  invoiceNumber : Option String
  customerId : Option String
  amount : Money
  kind : TxnKind
deriving DecidableEq

structure SettlementBatch where
  batchId : String
  settledOn : Date
  gross : Money := Money.zero
  refunds : Money := Money.zero
  netBeforeFees : Money := Money.zero
  transactions : List AuthnetTxn := []
  fee : Option Money := none
deriving DecidableEq

structure AuthnetConfig where
  clearing : AccountId
  fees : AccountId
  undeposited : AccountId
  refundClass : ClassId
  feeClass : ClassId
deriving DecidableEq

section Batches

/-- The kind of a settled row; voided and declined rows carry no money. -/
def TransactionStatus.txnKind : TransactionStatus → Option TxnKind
  | settledSuccessfully => some .sale
  | refundSettledSuccessfully => some .refund
  | voided | declined => none

def TransactionRow.txn (row : TransactionRow) (kind : TxnKind) : AuthnetTxn where
  txnId := row.transactionId
  invoiceNumber := row.invoiceNumber
  customerId := row.customerId
  amount := row.amount
  kind

def SettlementBatch.addRow (batch : SettlementBatch) (row : TransactionRow) (kind : TxnKind) :
    Except MoneyError SettlementBatch := do
  let transactions := batch.transactions ++ [row.txn kind]
  match kind with
  | .sale => do
    let gross ← batch.gross.checkedAdd row.amount
    return { batch with gross, transactions }
  | .refund => do
    let refunds ← batch.refunds.checkedAdd row.amount
    return { batch with refunds, transactions }

/-- Add a settled row to its batch, a new one at the end. -/
def addToBatches (row : TransactionRow) (kind : TxnKind) :
    List SettlementBatch → Except MoneyError (List SettlementBatch)
  | [] => do
    let batch ← SettlementBatch.addRow
      { batchId := row.batchId, settledOn := row.settlementDate } row kind
    return [batch]
  | batch :: rest =>
    if batch.batchId = row.batchId then do
      let batch ← batch.addRow row kind
      return batch :: rest
    else do
      let rest ← addToBatches row kind rest
      return batch :: rest

def collectRow (batches : List SettlementBatch) (row : TransactionRow) :
    Except MoneyError (List SettlementBatch) :=
  match row.status.txnKind with
  | some kind => addToBatches row kind batches
  | none => return batches

/-- One batch for each batch id, in the order in which they first appear. -/
def groupBatches (rows : List TransactionRow) : Except MoneyError (List SettlementBatch) := do
  let batches ← rows.foldlM collectRow []
  batches.mapM fun batch => do
    let netBeforeFees ← batch.gross.checkedSub batch.refunds
    return { batch with netBeforeFees }

end Batches

section Documents

variable (config : AuthnetConfig)

def settlementId (batchId : String) : String :=
  "authnet:" ++ batchId

def transactionDocumentId (txnId : String) : String :=
  "authnet:txn:" ++ txnId

def accountLine (number : AccountId) (amount : Money) («class» : Option ClassId) : DocLine where
  lineNo := 1
  kind := .account
  amount
  «class»
  account := some number

def customerRef (customerId : Option String) : Option ContactRef :=
  customerId.map fun id => ⟨.customer, id⟩

def feeLines (batch : SettlementBatch) : List DocLine :=
  match batch.fee with
  | some fee => if fee.isZero then [] else [accountLine config.fees fee (some config.feeClass)]
  | none => []

def settlementDocument (batch : SettlementBatch) : LedgerDocument where
  documentId := settlementId batch.batchId
  kind := .settlement
  txnDate := batch.settledOn
  lines := accountLine config.clearing batch.netBeforeFees none :: feeLines config batch
  sourceRef := some batch.batchId
  memo := some ("Authorize.net batch " ++ batch.batchId)

/-- What the invoice number of a sale resolved to. -/
structure ResolvedInvoice where
  documentId : String
  kind : DocKind
  «open» : Money
deriving DecidableEq

/-- How a sale divides between its invoice and what is parked. -/
structure SaleSplit where
  applications : List Application
  unapplied : Money
  memo : String

def saleMemo (batch : SettlementBatch) (txn : AuthnetTxn) (number : String)
    (applied excess : Money) : String :=
  let sale := "Authorize.net sale " ++ txn.txnId ++ " for invoice " ++ number
  let ofBatch := " (batch " ++ batch.batchId ++ ")"
  if excess.isZero then sale ++ ofBatch
  else if applied.isZero then
    sale ++ ": nothing left open on it, " ++ excess.display ++ " parked unapplied" ++ ofBatch
  else
    sale ++ ": " ++ applied.display ++ " applied, " ++ excess.display ++
      " over its open balance parked unapplied" ++ ofBatch

/-- Apply a sale to its invoice up to what is still open on it, and draw that
down for the sales after it. -/
def splitSale (batch : SettlementBatch) (txn : AuthnetTxn)
    (resolveInvoice : String → Option ResolvedInvoice) (remaining : List (String × Money)) :
    Except MoneyError (SaleSplit × List (String × Money)) :=
  let ofBatch := " (batch " ++ batch.batchId ++ ")"
  match txn.invoiceNumber with
  | none =>
    return (⟨[], txn.amount, "Authorize.net sale " ++ txn.txnId ++
      ": no invoice number on the transaction, parked unapplied" ++ ofBatch⟩, remaining)
  | some number =>
    match resolveInvoice number with
    | none =>
      return (⟨[], txn.amount, "Authorize.net sale " ++ txn.txnId ++ " for invoice " ++
        number ++ ": no matching invoice found, parked unapplied" ++ ofBatch⟩, remaining)
    | some invoice => do
      let atFirst := if invoice.open.isNegative then Money.zero else invoice.open
      let «open» := (remaining.lookup invoice.documentId).getD atFirst
      let applied := if txn.amount.minor ≤ «open».minor then txn.amount else «open»
      let left ← «open».checkedSub applied
      let excess ← txn.amount.checkedSub applied
      let applications :=
        if applied.isZero then [] else [⟨invoice.documentId, invoice.kind, applied⟩]
      return (⟨applications, excess, saleMemo batch txn number applied excess⟩,
        (invoice.documentId, left) :: remaining)

def paymentDocument (batch : SettlementBatch) (txn : AuthnetTxn)
    (resolveInvoice : String → Option ResolvedInvoice) (remaining : List (String × Money)) :
    Except MoneyError (LedgerDocument × List (String × Money)) := do
  let (split, remaining) ← splitSale batch txn resolveInvoice remaining
  return ({
    documentId := transactionDocumentId txn.txnId
    kind := .payment
    txnDate := batch.settledOn
    contact := customerRef txn.customerId
    lines := []
    depositTo := some config.clearing
    applications := split.applications
    unapplied := split.unapplied
    sourceRef := some txn.txnId
    memo := some split.memo }, remaining)

def refundDocument (batch : SettlementBatch) (txn : AuthnetTxn) : LedgerDocument where
  documentId := transactionDocumentId txn.txnId
  kind := .refundReceipt
  txnDate := batch.settledOn
  contact := customerRef txn.customerId
  lines := [{
    lineNo := 1
    kind := .item
    amount := txn.amount
    «class» := some config.refundClass
    description := some ("Authorize.net refund " ++ txn.txnId) }]
  payFrom := some config.clearing
  sourceRef := some txn.txnId
  memo := some ("Authorize.net refund " ++ txn.txnId ++ " (batch " ++ batch.batchId ++ ")")

def transactionDocument (batch : SettlementBatch) (txn : AuthnetTxn)
    (resolveInvoice : String → Option ResolvedInvoice) (remaining : List (String × Money)) :
    Except MoneyError (LedgerDocument × List (String × Money)) :=
  match txn.kind with
  | .sale => paymentDocument config batch txn resolveInvoice remaining
  | .refund => return (refundDocument config batch txn, remaining)

def transactionDocuments (batch : SettlementBatch)
    (resolveInvoice : String → Option ResolvedInvoice) :
    List AuthnetTxn → List (String × Money) →
      Except MoneyError (List LedgerDocument × List (String × Money))
  | [], remaining => return ([], remaining)
  | txn :: txns, remaining => do
    let (doc, remaining) ← transactionDocument config batch txn resolveInvoice remaining
    let (docs, remaining) ← transactionDocuments batch resolveInvoice txns remaining
    return (doc :: docs, remaining)

/-- The documents of the batches, each settlement before its transactions. -/
def settlementDocuments (resolveInvoice : String → Option ResolvedInvoice) :
    List SettlementBatch → List (String × Money) → Except MoneyError (List LedgerDocument)
  | [], _ => return []
  | batch :: batches, remaining => do
    let (docs, remaining) ← transactionDocuments config batch resolveInvoice
      batch.transactions remaining
    let rest ← settlementDocuments resolveInvoice batches remaining
    return settlementDocument config batch :: (docs ++ rest)

end Documents

section Operations

inductive ImportError where
  | money (failure : MoneyError)
  | ledger (failure : LedgerError)
  | books (failure : BooksError)
  | panicked
deriving DecidableEq

/-- What an import did with one file. -/
structure ImportReport where
  settled : ℕ := 0
  applied : ℕ := 0
  unapplied : ℕ := 0
  refunded : ℕ := 0
  skipped : ℕ := 0
  rejected : List String := []
  warnings : List String := []
deriving DecidableEq

def ImportReport.counting (report : ImportReport) (doc : LedgerDocument) : ImportReport :=
  match doc.kind with
  | .settlement => { report with settled := report.settled + 1 }
  | .payment =>
    if doc.unapplied.isZero then { report with applied := report.applied + 1 }
    else
      { report with
        unapplied := report.unapplied + 1
        warnings := report.warnings ++ [doc.memo.getD doc.documentId] }
  | .refundReceipt => { report with refunded := report.refunded + 1 }
  | _ => report

def ImportReport.rejecting (report : ImportReport) (doc : LedgerDocument)
    (failure : LedgerError) : ImportReport :=
  { report with rejected := report.rejected ++ [doc.documentId ++ ": " ++ failure.message] }

/-- Why a document was not imported: a refusal that is reported, or the panic of
an import whose document posts nothing. -/
inductive TurnFailure where
  | rejected (failure : LedgerError)
  | panicked
deriving DecidableEq

variable (config : AuthnetConfig) (actor : String)

/-- The document whose newest version bears a number. -/
def documentByNumber (ledger : Ledger) (number : String) : Option (String × DocKind) :=
  ((ledger.documentVersions.filter fun row =>
    row.document.number = some number).insertionSort fun first second =>
      second.version ≤ first.version).head?.map fun row => (row.documentId, row.document.kind)

def resolveInvoice (ledger : Ledger) (openDocs : List OpenDocument) (number : String) :
    Option ResolvedInvoice :=
  (documentByNumber ledger number).map fun found =>
    let «open» := openDocs.reverse.find? fun doc => doc.documentId = found.1
    ⟨found.1, found.2, («open».map OpenDocument.open).getD Money.zero⟩

def isSaved (ledger : Ledger) (txn : AuthnetTxn) : Bool :=
  ledger.documentVersionCount (transactionDocumentId txn.txnId) ≠ 0

def SettlementBatch.dropSaved (batch : SettlementBatch) (ledger : Ledger) : SettlementBatch :=
  { batch with transactions := batch.transactions.filter fun txn => !isSaved ledger txn }

/-- Post a document before saving it, and post the entry after. -/
def postSettlementDocument (doc : LedgerDocument) : Program Ledger TurnFailure Unit := do
  let ctx : PostingContext := { config := { defaultDepositAccount := config.undeposited } }
  let (_, entryId) ← refusingWith .rejected (postThenSave doc ctx ⟨actor, "authnet_import"⟩)
  match entryId with
  | none => throw .panicked
  | some _ => return ()

def postSettlementDocuments :
    List LedgerDocument → ImportReport → Program Ledger ImportError ImportReport
  | [], report => return report
  | doc :: docs, report => do
    let ledger ← get
    if ledger.documentVersionCount doc.documentId = 0 then do
      let outcome ← attempt (postSettlementDocument config actor doc)
      match outcome with
      | .ok _ => postSettlementDocuments docs (report.counting doc)
      | .error (.rejected failure) => postSettlementDocuments docs (report.rejecting doc failure)
      | .error .panicked => throw .panicked
    else postSettlementDocuments docs { report with skipped := report.skipped + 1 }

/-- The documents that an export comes to on a ledger. -/
def exportDocuments (ledger : Ledger) (batches : List SettlementBatch) :
    Except ImportError (List LedgerDocument) := do
  let openDocs ← (openDocuments ledger .receivable Date.last).mapError ImportError.books
  let kept := batches.map fun batch => batch.dropSaved ledger
  (settlementDocuments config (resolveInvoice ledger openDocs) kept []).mapError
    ImportError.money

/-- Import the rows of one export. -/
def importExport (rows : List TransactionRow) : Program Ledger ImportError ImportReport := do
  let batches ← MonadExcept.ofExcept ((groupBatches rows).mapError ImportError.money)
  let ledger ← get
  let dropped := (batches.flatMap SettlementBatch.transactions).countP (isSaved ledger)
  let documents ← MonadExcept.ofExcept (exportDocuments config ledger batches)
  postSettlementDocuments config actor documents { skipped := dropped }

end Operations

end Authnet

end QuickBooks
