import QuickBooks.DocumentTotals
import QuickBooks.LedgerStore

/-!
# Preparing a document from master data

A caller sends what a person would type; preparation checks every reference
against the contacts and the items and fills the number, the due date, the
header class and the sales tax that were left blank.  It returns the completed
document with the posting context built from the stored items.
-/

namespace QuickBooks

open DecimalNumbers ExceptPrograms TransactionPrograms

/-- The refusals of the books.  The last two stand for panics of the source:
an addition that overflows, and a date outside the calendar. -/
inductive BooksError where
  | ledger (failure : LedgerError)
  | money (failure : MoneyError)
  | post (failure : PostError)
  | unknownContact (kind id : String)
  | inactiveContact (name : String)
  | wrongContactKind (doc expected actual id : String)
  | missingContact (doc : String)
  | unknownItem (id : String)
  | inactiveItem (name : String)
  | duplicateNumber (kind number other : String)
  | unknownDocument (id : String)
  | voided (id : String)
  | kindChanged (id was now : String)
  | contactTypeChanged (id was now : String)
  | numberChanged (kind id kept requested : String)
  | voidThroughEdit
  | overapplied (id applied total : String)
  | hasApplications (id applied : String)
  | badApplication (text : String)
  | additionOverflowed
  | dateOutOfRange
deriving DecidableEq

abbrev BooksProgram :=
  Program Ledger BooksError

instance : MonadLift (Except PostError) (Except BooksError) where
  monadLift := Except.mapError .post

instance : MonadLift (Except LedgerError) (Except BooksError) where
  monadLift := Except.mapError .ledger

-- Direct, so that an amount's error is wrapped once and not as a posting's.
instance : MonadLiftT (Except MoneyError) (Except BooksError) where
  monadLift := Except.mapError .money

def viaLedger {α : Type} (program : LedgerProgram α) : BooksProgram α :=
  refusingWith .ledger program

def reading {α : Type} (compute : Ledger → Except BooksError α) : BooksProgram α := do
  MonadExcept.ofExcept (compute (← get))

namespace ContactKind

def asStr : ContactKind → String
  | customer => "customer"
  | vendor => "vendor"

end ContactKind

/-- The document types that the book numbers itself. -/
def isNumbered : DocKind → Bool
  | .estimate | .salesOrder | .invoice | .salesReceipt | .creditMemo
  | .refundReceipt | .purchaseOrder => true
  | _ => false

/-- Which contact kind a document type names, if it names one at all. -/
def contactKindFor : DocKind → Option ContactKind
  | .estimate | .salesOrder | .invoice | .salesReceipt | .creditMemo
  | .refundReceipt | .payment => some .customer
  | .purchaseOrder | .bill | .billPayment | .vendorCredit => some .vendor
  | _ => none

/-- Sales documents whose tax is computed when the caller sends none. -/
def isTaxedSale : DocKind → Bool
  | .estimate | .salesOrder | .invoice | .salesReceipt | .creditMemo
  | .refundReceipt => true
  | _ => false

def firstNumber : Int :=
  1001

namespace Ledger

variable (ledger : Ledger)

def isNewest (row : DocumentVersion) : Bool :=
  row.version = ledger.previousVersion row.documentId

/-- The document of a type that holds a number in its newest version. -/
def numberOwner (kind : DocKind) (number : String) : Option String :=
  (ledger.documentVersions.find? fun row =>
    row.document.kind = kind ∧ row.document.number = some number ∧
      ledger.isNewest row).map DocumentVersion.documentId

/-- A document number as the database reads it: digits only, and no more than
the largest integer. -/
def numericNumber (number : String) : Option Int :=
  let digits := number.toList
  if digits ≠ [] ∧ digits.all Char.isDigit then
    some (min 9223372036854775807
      (digits.foldl (fun value digit => value * 10 + (digit.toNat - 48 : Nat)) 0 : Nat))
  else none

def highestNumber (kind : DocKind) : Option Int :=
  ((ledger.documentVersions.filter fun row => row.document.kind = kind).filterMap
    fun row => row.document.number.bind numericNumber).max?

/-- The number after every numeric one saved, the first when there is none. -/
def savedNext (kind : DocKind) : Int :=
  match ledger.highestNumber kind with
  | some highest => highest + 1
  | none => firstNumber

def sequenceStart (kind : DocKind) : Int :=
  (ledger.docSequences.lookup kind).getD (ledger.savedNext kind)

def withNextNumber (kind : DocKind) (next : Int) : Ledger :=
  { ledger with docSequences :=
      (kind, next) :: ledger.docSequences.filter fun row => row.1 ≠ kind }

/-- The first number from a candidate on that no document of the type holds.
One more attempt than there are saved versions always suffices. -/
def freeNumber (kind : DocKind) : Nat → Int → Int
  | 0, candidate => candidate
  | attempts + 1, candidate =>
    if (ledger.numberOwner kind (toString candidate)).isSome then
      freeNumber kind attempts (candidate + 1)
    else candidate

/-- Whether the slim import brought a document across, its balance carried by
the opening entry. -/
def carriedByOpening (documentId : String) : Bool :=
  ledger.documentVersions.any fun row =>
    row.documentId = documentId ∧ ledger.oplog.any fun op =>
      op.commandId = row.commandId ∧ op.command.kind = "import_slim_open_item"

end Ledger

/-- Allocate the next number of a type. -/
def nextNumber (kind : DocKind) : BooksProgram String := do
  let ledger ← get
  let candidate := ledger.freeNumber kind (ledger.documentVersions.length + 1)
    (ledger.sequenceStart kind)
  if 9223372036854775807 ≤ candidate then throw .additionOverflowed
  else
    modify fun ledger => ledger.withNextNumber kind (candidate + 1)
    return toString candidate

/-- Make sure that the next number of a type is at least a given one; it is
never lowered. -/
def ensureNextNumber (kind : DocKind) (atLeast : Int) : BooksProgram Int := do
  let ledger ← get
  let savedNext := ledger.savedNext kind
  if 9223372036854775807 < savedNext then throw .additionOverflowed
  else
    let next := max (max (ledger.sequenceStart kind) savedNext) atLeast
    modify fun ledger => ledger.withNextNumber kind next
    return next

/-- Add a taxable line to the base, remembering whether any line counted. -/
def addTaxable (base : Money × Bool) (line : DocLine) : Except BooksError (Money × Bool) :=
  if !line.isTaxable then return base
  else
    match line.kind with
    | .item | .shipping | .account => do
      let sum ← base.1.checkedAdd line.amount
      return (sum, true)
    | .discount => do
      let difference ← base.1.checkedSub line.amount
      return (difference, base.2)
    | .description | .journal => return base

/-- The tax on a sale, nothing when no line is taxable. -/
def salesTax (doc : LedgerDocument) (rate : Decimal) (exempt : Bool) :
    Except BooksError (Option TaxDetail) := do
  let (base, any) ← doc.lines.foldlM addTaxable (Money.zero, false)
  if !any then return none
  else if exempt then return some ⟨Money.zero, base, rate⟩
  else do
    let product ← (decimalProduct base.toDecimal rate : Except PostError Decimal)
    let totalTax ← roundMoney product .taxCalculation
    return some ⟨totalTax, base, rate⟩

/-- The contact that a document names, checked, when its kind names one. -/
def preparedContact (ledger : Ledger) (doc : LedgerDocument) :
    Except BooksError (Option Contact) :=
  match contactKindFor doc.kind with
  | none => return none
  | some expected => do
    let named ← orRefuse (BooksError.missingContact doc.kind.asStr) doc.contact
    let found ← orRefuse (BooksError.unknownContact expected.asStr named.id)
      (ledger.contacts.find? fun contact => contact.contactId = named.id)
    ensure (found.kind = expected ∧ named.kind = expected)
      (BooksError.wrongContactKind doc.kind.asStr expected.asStr found.kind.asStr
        found.contactId)
    ensure found.isActive (BooksError.inactiveContact found.displayName)
    return some found

/-- The accounts of the items that a document's lines name. -/
def preparedItems (ledger : Ledger) (items : List (String × ItemAccounts))
    (line : DocLine) : Except BooksError (List (String × ItemAccounts)) :=
  match line.itemId with
  | none => return items
  | some itemId =>
    if (items.lookup itemId).isSome then return items
    else do
      let found ← orRefuse (BooksError.unknownItem itemId)
        (ledger.items.find? fun item => item.itemId = itemId)
      ensure found.isActive (BooksError.inactiveItem found.name)
      return items ++ [(itemId, found.accounts)]

/-- The number of a document the book numbers: allocated when missing, refused
when another document of the type holds it. -/
def preparedNumber (doc : LedgerDocument) : BooksProgram (Option String) :=
  if !isNumbered doc.kind then return doc.number
  else
    match doc.number with
    | none => do
      let number ← nextNumber doc.kind
      return some number
    | some number => do
      let ledger ← get
      match ledger.numberOwner doc.kind number with
      | none => return some number
      | some other =>
        if other = doc.documentId then return some number
        else throw (.duplicateNumber doc.kind.asStr number other)

/-- The due date, filled from the contact's terms on an invoice or a bill. -/
def preparedDueDate (doc : LedgerDocument) (contact : Option Contact) :
    Except BooksError (Option Date) :=
  match contact with
  | none => return doc.dueDate
  | some found =>
    if doc.dueDate = none ∧ (doc.kind = .invoice ∨ doc.kind = .bill) then do
      let due ← orRefuse BooksError.dateOutOfRange (found.terms.dueDate doc.txnDate)
      return some due
    else return doc.dueDate

def preparedTax (doc : LedgerDocument) (contact : Option Contact)
    (config : PostingConfig) : Except BooksError (Option TaxDetail) :=
  if doc.tax = none ∧ isTaxedSale doc.kind then
    salesTax doc config.salesTaxRate (contact.any Contact.isTaxExempt)
  else return doc.tax

/-- Get a document ready to save and post. -/
def prepareDocument (doc : LedgerDocument) (config : PostingConfig) :
    BooksProgram (LedgerDocument × PostingContext) := do
  let contact ← reading fun ledger => preparedContact ledger doc
  let items ← reading fun ledger => doc.lines.foldlM (preparedItems ledger) []
  let number ← preparedNumber doc
  let dueDate ← reading fun _ => preparedDueDate doc contact
  let headerClass := doc.headerClass <|> contact.bind Contact.defaultClass
  let doc := { doc with number, dueDate, headerClass }
  let tax ← reading fun _ => preparedTax doc contact config
  let customers := (contact.filter fun found => found.kind = .customer).toList.map
    fun found => (found.contactId, (⟨found.isTaxExempt⟩ : CustomerPosting))
  return ({ doc with tax }, { items, customers, config })

end QuickBooks
