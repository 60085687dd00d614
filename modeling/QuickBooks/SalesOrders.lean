import QuickBooks.BooksCorrections

/-!
# Sales orders

A sales order never posts and carries no status of its own.  An invoice made
from it carries an application to the order for the subtotal before tax that it
took, and what the invoices that are not voided have not taken is still open.
Only that one amount is kept: which lines an invoice took, and how much of
them, is not.
-/

namespace QuickBooks

open DecimalNumbers ExceptPrograms TransactionPrograms

/-- The refusals of the sales orders.  The last stands for a panic of the
source: a decimal product or quotient that overflows. -/
inductive SalesOrderError where
  | books (failure : BooksError)
  | money (failure : MoneyError)
  | notASalesOrder (id kind : String)
  | voided (id : String)
  | nothingOpen (id : String)
  | partlyInvoiced (id : String)
  | noSuchLine (id : String) (lineNo : Int)
  | badQuantity (id : String) (lineNo : Int) (reason : String)
  | overinvoiced (id «open» asked : String)
  | noLines
  | decimalOverflowed
deriving DecidableEq

instance : MonadLift (Except BooksError) (Except SalesOrderError) where
  monadLift := Except.mapError .books

instance : MonadLiftT (Except MoneyError) (Except SalesOrderError) where
  monadLift := Except.mapError .money

/-- One sales order with what is still to be invoiced on it. -/
structure OpenSalesOrder where
  documentId : String
  number : Option String
  contactId : String
  contactName : String
  txnDate : Date
  subtotal : Money
  invoiced : Money
  «open» : Money
  invoiceIds : List String
  memo : Option String
  sourceRef : Option String
deriving DecidableEq

/-- Lines less discounts, before tax: what a sales order is worth and what an
invoice made from one takes from it. -/
def subtotal (doc : LedgerDocument) : Except MoneyError Money :=
  doc.lines.foldlM documentTotalLine Money.zero

abbrev InvoicedByOrder :=
  List (String × Money × List String)

/-- Count one more link of an invoice to an order. -/
def addOrderLink (invoiceId : String) (link : Application) :
    InvoicedByOrder → Except MoneyError InvoicedByOrder
  | [] => do
    let amount ← Money.zero.checkedAdd link.amount
    return [(link.targetDocumentId, amount, [invoiceId])]
  | (id, amount, invoiceIds) :: rest =>
    if id = link.targetDocumentId then do
      let amount ← amount.checkedAdd link.amount
      let invoiceIds := if invoiceId ∈ invoiceIds then invoiceIds else invoiceIds ++ [invoiceId]
      return (id, amount, invoiceIds) :: rest
    else do
      let rest ← addOrderLink invoiceId link rest
      return (id, amount, invoiceIds) :: rest

def orderLinks (invoice : LedgerDocument) : List (String × Application) :=
  (invoice.applications.filter fun link => link.targetKind = .salesOrder).map
    fun link => (invoice.documentId, link)

/-- What every non-voided invoice dated up to a day took from each sales
order. -/
def invoicedByOrder (ledger : Ledger) (asOf : Date) : Except MoneyError InvoicedByOrder :=
  ((latestDocuments ledger [.invoice] asOf).flatMap orderLinks).foldlM
    (fun invoiced link => addOrderLink link.1 link.2 invoiced) []

/-- One order of the listing, unless only open ones are listed and it is not. -/
def listSalesOrder (invoiced : InvoicedByOrder) (names : List (String × String))
    (openOnly : Bool) (doc : LedgerDocument) : Except MoneyError (Option OpenSalesOrder) := do
  let total ← subtotal doc
  let (taken, invoiceIds) := (invoiced.lookup doc.documentId).getD (Money.zero, [])
  let remaining ← total.checkedSub taken
  if openOnly && decide (remaining.minor ≤ 0) then return none
  else
    let contactId := (doc.contact.map ContactRef.id).getD ""
    return some
      { documentId := doc.documentId, number := doc.number
        contactId, contactName := (names.lookup contactId).getD contactId
        txnDate := doc.txnDate, subtotal := total, invoiced := taken
        «open» := if remaining.isNegative then Money.zero else remaining
        invoiceIds, memo := doc.memo, sourceRef := doc.sourceRef }

/-- Every sales order dated up to a day with what is left to invoice, voided
ones never listed. -/
def salesOrders (ledger : Ledger) (asOf : Option Date) (openOnly : Bool) :
    Except MoneyError (List OpenSalesOrder) := do
  let asOf := asOf.getD Date.last
  let invoiced ← invoicedByOrder ledger asOf
  let listed ← (latestDocuments ledger [.salesOrder] asOf).mapM
    (listSalesOrder invoiced (contactNames ledger) openOnly)
  return listed.filterMap id

/-- Which line of the order to invoice, and how much of it. -/
structure ConvertLine where
  lineNo : Int
  qty : Option Decimal
deriving DecidableEq

structure ConvertRequest where
  documentId : String
  txnDate : Date
  lines : Option (List ConvertLine)
  number : Option String
  memo : Option String
deriving DecidableEq

section Conversion

variable (divide : Decimal → Decimal → Option Decimal)

def takenFrom (ledger : Ledger) (orderId : String) : Except MoneyError Money := do
  let invoiced ← invoicedByOrder ledger Date.last
  return ((invoiced.lookup orderId).map Prod.fst).getD Money.zero

/-- The order's lines to invoice: all of them, only while nothing is invoiced,
or the named ones. -/
def pickLines (order : LedgerDocument) (orderId : String) (taken : Money)
    (wanted : Option (List ConvertLine)) :
    Except SalesOrderError (List (DocLine × Option Decimal)) :=
  match wanted with
  | none => do
    ensure taken.isZero (SalesOrderError.partlyInvoiced orderId)
    return order.lines.map fun line => (line, none)
  | some wanted => wanted.mapM fun want => do
    let line ← orRefuse (SalesOrderError.noSuchLine orderId want.lineNo)
      (order.lines.find? fun line => line.lineNo = want.lineNo)
    return (line, want.qty)

/-- The amount of a part of a line. -/
def partAmount (amount : Money) (qty ordered : Decimal) : Except SalesOrderError Money := do
  let product ← orRefuse .decimalOverflowed (amount.toDecimal.mul? qty)
  let quotient ← orRefuse .decimalOverflowed (divide product ordered)
  (roundMoney quotient .lineExtension : Except MoneyError Money)

/-- A line as it is invoiced: whole, or in a part of its quantity. -/
def takeLine (orderId : String) (line : DocLine) :
    Option Decimal → Except SalesOrderError DocLine
  | none => return line
  | some qty => do
    let ordered ← orRefuse
      (SalesOrderError.badQuantity orderId line.lineNo
        "the line has no quantity to take part of")
      (line.qty.filter fun ordered => ordered.mantissa ≠ 0)
    ensure (!qty.atMost .zero && qty.atMost ordered)
      (SalesOrderError.badQuantity orderId line.lineNo
        ("quantity must be above 0 and at most " ++ ordered.render))
    let amount ← partAmount divide line.amount qty ordered
    return { line with amount, qty := some qty }

def renumber (lines : List DocLine) : List DocLine :=
  lines.zipIdx.map fun (line, index) => { line with lineNo := (index : Int) + 1 }

/-- The lines of the invoice, numbered from one. -/
def takeLines (orderId : String) (picked : List (DocLine × Option Decimal)) :
    Except SalesOrderError (List DocLine) := do
  let lines ← picked.mapM fun (line, qty) => takeLine divide orderId line qty
  ensure (!lines.isEmpty) SalesOrderError.noLines
  return renumber lines

/-- The invoice before it is linked to its order. -/
def invoiceOf (order : LedgerDocument) (request : ConvertRequest) (lines : List DocLine) :
    LedgerDocument where
  documentId := request.documentId
  kind := .invoice
  number := request.number
  txnDate := request.txnDate
  contact := order.contact
  headerClass := order.headerClass
  lines
  memo := request.memo <|> order.memo

/-- A sales order that can be invoiced. -/
def checkOrder (order : LedgerDocument) (orderId : String) : Except SalesOrderError Unit := do
  ensure (order.kind = .salesOrder)
    (SalesOrderError.notASalesOrder orderId order.kind.asStr)
  ensure (!order.isVoided) (SalesOrderError.voided orderId)

/-- The invoice for a sales order, linked back to it, not yet prepared, posted
or saved. -/
def invoiceFromSalesOrder (ledger : Ledger) (orderId : String) (request : ConvertRequest) :
    Except SalesOrderError LedgerDocument := do
  let order ← latestDocument ledger orderId
  checkOrder order orderId
  let taken ← takenFrom ledger orderId
  let worth ← subtotal order
  let «open» ← worth.checkedSub taken
  ensure (0 < «open».minor) (SalesOrderError.nothingOpen orderId)
  let picked ← pickLines order orderId taken request.lines
  let lines ← takeLines divide orderId picked
  let invoice := invoiceOf order request lines
  let asked ← subtotal invoice
  ensure (asked.minor ≤ «open».minor)
    (SalesOrderError.overinvoiced orderId «open».display asked.display)
  return { invoice with applications := [⟨order.documentId, .salesOrder, asked⟩] }

end Conversion

end QuickBooks
