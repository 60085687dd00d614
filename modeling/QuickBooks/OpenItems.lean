import QuickBooks.BooksPreparation

/-!
# Open items

Which documents are still open on a book at a date, and by how much, derived
from the saved documents and their applications.  An invoice or a bill is open
for its total less the applications to it; a credit is a negative item used up
by its own applications and by a payment's applications to it; what a bill
payment has not applied by the date is a negative payable.
-/

namespace QuickBooks

open ExceptPrograms TransactionPrograms

/-- Which side of the book: what customers owe, or what is owed to vendors. -/
inductive Book where
  | receivable
  | payable
deriving DecidableEq

namespace Book

/-- The documents that put an amount on the book, and whether it counts
against it. -/
def opens : Book → DocKind → Option Bool
  | receivable, .invoice => some false
  | receivable, .creditMemo => some true
  | payable, .bill => some false
  | payable, .vendorCredit => some true
  | _, _ => none

/-- Documents whose applications settle open items on this book. -/
def settles : Book → DocKind → Bool
  | receivable, .payment => true
  | receivable, .creditMemo => true
  | payable, .billPayment => true
  | payable, .vendorCredit => true
  | _, _ => false

def docTypes : Book → List DocKind
  | receivable => [.invoice, .creditMemo, .payment]
  | payable => [.bill, .vendorCredit, .billPayment]

end Book

structure OpenDocument where
  documentId : String
  kind : DocKind
  number : Option String
  contactId : String
  contactName : String
  txnDate : Date
  dueDate : Date
  total : Money
  applied : Money
  «open» : Money
deriving DecidableEq

/-- The newest version of every non-voided document of the given types dated
up to a day, in the order of date and id. -/
def latestDocuments (ledger : Ledger) (kinds : List DocKind) (asOf : Date) :
    List LedgerDocument :=
  (((ledger.documentVersions.filter fun row =>
      row.document.kind ∈ kinds ∧ row.document.txnDate ≤ asOf ∧
        ledger.isNewest row).insertionSort fun first second =>
      first.document.txnDate < second.document.txnDate ∨
        (first.document.txnDate = second.document.txnDate ∧
          first.documentId ≤ second.documentId)).map
    DocumentVersion.document).filter fun doc => !doc.isVoided

def contactNames (ledger : Ledger) : List (String × String) :=
  ledger.contacts.map fun contact => (contact.contactId, contact.displayName)

def inWindow (asOf : Date) (doc : LedgerDocument) : Bool :=
  doc.txnDate ≤ asOf ∧ doc.isVoided = false

def movesMoney (application : Application) : Bool :=
  !application.targetKind.isContract

def settling (docs : List LedgerDocument) (book : Book) (asOf : Date) :
    List LedgerDocument :=
  docs.filter fun doc => inWindow asOf doc && book.settles doc.kind

def moneyApplications (doc : LedgerDocument) : List Application :=
  doc.applications.filter movesMoney

/-- What the settling documents apply to one target. -/
def paidTo (docs : List LedgerDocument) (book : Book) (asOf : Date) (target : String) :
    Except MoneyError Money :=
  Money.checkedSum ((((settling docs book asOf).flatMap moneyApplications).filter
    fun application => application.targetDocumentId = target).map Application.amount)

/-- What the credits of the window that bear an id apply themselves. -/
def consumedBy (docs : List LedgerDocument) (book : Book) (asOf : Date) (id : String) :
    Except MoneyError Money := do
  let used ← ((settling docs book asOf).filter fun doc =>
    doc.documentId = id ∧ book.opens doc.kind = some true).mapM fun doc =>
      Money.checkedSum ((moneyApplications doc).map Application.amount)
  Money.checkedSum used

def dateOf (docs : List LedgerDocument) (id : String) : Option Date :=
  (docs.reverse.find? fun doc => doc.documentId = id).map LedgerDocument.txnDate

/-- What a bill payment has not applied to anything by the date. -/
def notYetApplied (docs : List LedgerDocument) (asOf : Date) (doc : LedgerDocument) :
    Except MoneyError Money :=
  (moneyApplications doc).foldlM (fun sum application =>
    if (dateOf docs application.targetDocumentId).any fun date => asOf < date then
      sum.checkedAdd application.amount
    else return sum) doc.unapplied

/-- The open item of one document, when it has one. -/
def openItem (docs : List LedgerDocument) (book : Book) (asOf : Date)
    (names : List (String × String)) (doc : LedgerDocument) :
    Except MoneyError (Option OpenDocument) :=
  let contactId := (doc.contact.map ContactRef.id).getD ""
  let contactName := (names.lookup contactId).getD contactId
  if book = .payable ∧ doc.kind = .billPayment then do
    let remainder ← notYetApplied docs asOf doc
    if remainder.isZero then return none
    else
      let prepaid ← remainder.checkedNeg
      return some
        { documentId := doc.documentId, kind := doc.kind, number := doc.number
          contactId, contactName, txnDate := doc.txnDate, dueDate := doc.txnDate
          total := prepaid, applied := Money.zero, «open» := prepaid }
  else
    match book.opens doc.kind with
    | none => return none
    | some isCredit => do
      let gross ← documentTotal doc
      let fromPayments ← paidTo docs book asOf doc.documentId
      let used ← if isCredit then do
          let own ← consumedBy docs book asOf doc.documentId
          own.checkedSub fromPayments
        else pure fromPayments
      let remaining ← gross.checkedSub used
      if remaining.isZero then return none
      else
        let total ← if isCredit then gross.checkedNeg else pure gross
        let «open» ← if isCredit then remaining.checkedNeg else pure remaining
        return some
          { documentId := doc.documentId, kind := doc.kind, number := doc.number
            contactId, contactName, txnDate := doc.txnDate
            dueDate := doc.dueDate.getD doc.txnDate
            total, applied := used, «open» }

/-- The sums over the whole window that are made before any item: an overflow
in one of them refuses the report. -/
def checkWindow (docs : List LedgerDocument) (book : Book) (asOf : Date) :
    Except MoneyError Unit :=
  (settling docs book asOf).forM fun doc => do
    let _ ← (moneyApplications doc).mapM fun application =>
      paidTo docs book asOf application.targetDocumentId
    let _ ← consumedBy docs book asOf doc.documentId
    return ()

/-- The open items on a book among documents as of a date. -/
def openItems (docs : List LedgerDocument) (book : Book) (asOf : Date)
    (names : List (String × String)) : Except MoneyError (List OpenDocument) := do
  checkWindow docs book asOf
  let items ← (docs.filter fun doc => inWindow asOf doc).mapM
    (openItem docs book asOf names)
  return items.filterMap id

/-- Every document with something still open on a book as of a date. -/
def openDocuments (ledger : Ledger) (book : Book) (asOf : Date) :
    Except BooksError (List OpenDocument) :=
  openItems (latestDocuments ledger book.docTypes Date.last) book asOf
    (contactNames ledger)

end QuickBooks
