import QuickBooks.LedgerDates
import QuickBooks.TextFields
import QuickBooks.WholeCents

/-!
# Sales orders

Sales orders reach the replica as a feed, one document that holds the orders of a realm.
An order's projection says how much of each line is still to be invoiced and whether the
order is open, and which lines were open on a date.
-/

namespace QuickBooks

open DecimalNumbers ExceptPrograms

namespace OrderFeeds

/-- How the libraries read texts: a decimal without or with an exponent and a date; and
how they print a text in quotes and a value of a payload. -/
structure FeedReaders where
  decimalFromStr : String → Option Decimal
  decimalFromScientific : String → Option Decimal
  dateFromYmd : String → Option Date
  quoted : String → String
  jsonText : Json → String

/-- Products, quotients and differences of decimals, nothing where they panic. -/
structure OrderArithmetic where
  mul : Decimal → Decimal → Option Decimal
  div : Decimal → Decimal → Option Decimal
  sub : Decimal → Decimal → Option Decimal

inductive SalesOrderError where
  | feed (text : String)
  | order (id message : String)
  | money (failure : MoneyError)
  | panicked (text : String)
deriving DecidableEq

abbrev Projecting :=
  Except SalesOrderError

structure FeedLine where
  id : Option String
  itemId : Option String
  description : Option String
  quantity : Option Json
  rate : Option Json
  amount : Option Json
  taxable : Option Bool
  quantityConsumedInInvoices : Option Json
  invoiceIds : List String

/-- One sales order, in the field names of the feed. -/
structure FeedSalesOrder where
  id : String
  orderNumber : Option String
  issuedAt : String
  customerId : Option String
  customerName : Option String
  customerPoNumber : Option String
  dueDate : Option String
  shipDate : Option String
  orderStatus : Option String
  paymentStatus : Option String
  fulfillmentStatus : Option String
  totalAmount : Option Json
  totalDiscount : Option Json
  totalShipping : Option Json
  memo : Option String
  version : Option Json
  lines : List FeedLine
  invoiceIds : List String

structure SalesOrderLine where
  lineNo : ℤ
  lineId : Option String
  itemId : Option String
  description : Option String
  qty : Option Decimal
  unitPrice : Option Decimal
  amount : Money
  isTaxable : Bool
  qtyInvoiced : Decimal
  qtyOpen : Option Decimal
  openAmount : Money
  invoiceIds : List String
deriving DecidableEq

/-- A projected sales order, as the replica stores it. -/
structure SalesOrder where
  qboId : String
  docNumber : Option String
  txnDate : Date
  customerId : Option String
  customerName : Option String
  poNumber : Option String
  dueDate : Option Date
  shipDate : Option Date
  orderStatus : Option String
  invoiceStatus : Option String
  fulfillmentStatus : Option String
  total : Money
  openAmount : Money
  isOpen : Bool
  version : Option String
  memo : Option String
  invoiceIds : List String
  lines : List SalesOrderLine
  isDeleted : Bool
deriving DecidableEq

/-! ### Reading the fields -/

def closedStatus (status : Option String) : Bool :=
  (status.map String.toUpper).any fun upper =>
    upper ∈ ["CLOSED", "CANCELLED", "CANCELED", "VOIDED", "DELETED"]

def fullyInvoicedStatus (status : Option String) : Bool :=
  (status.map String.toUpper).any fun upper => upper ∈ ["INVOICED", "PAID"]

def nonEmpty (raw : Option String) : Option String :=
  (raw.map trimmed).filter fun text => text ≠ ""

/-- The first characters of a text that make up a number of bytes, if any do. -/
def takeBytes : List Char → ℕ → Option (List Char)
  | _, 0 => some []
  | [], _ + 1 => none
  | char :: chars, bytes + 1 =>
    if char.utf8Size ≤ bytes + 1 then
      (takeBytes chars (bytes + 1 - char.utf8Size)).map (char :: ·)
    else none

def orPanic {α : Type} : Option α → Projecting α :=
  orRefuse (.panicked "decimal arithmetic overflowed")

def toMoney (amount : Decimal) : Projecting Money :=
  (roundMoney amount .mirroredAmount).mapError SalesOrderError.money

section Read

variable (readers : FeedReaders)

def decimal (value : Option Json) : Option Decimal :=
  value.bind fun
    | .number found =>
      readers.decimalFromStr found.text <|> readers.decimalFromScientific found.text
    | .string text =>
      let cleaned := trimmed (String.ofList (text.toList.filter fun char =>
        !(char = '$' || char = ',')))
      if cleaned = "" then none else readers.decimalFromStr cleaned
    | _ => none

def money (value : Option Json) : Projecting (Option Money) :=
  match decimal readers value with
  | none => return none
  | some found => some <$> toMoney found

def date (raw : Option String) : Option Date :=
  raw.bind fun text =>
    (takeBytes (trimmed text).toList 10).bind fun chars =>
      readers.dateFromYmd (String.ofList chars)

def valueText (value : Option Json) : Option String :=
  value.bind fun
    | .null => none
    | .string text => some text
    | other => some (readers.jsonText other)

end Read

/-! ### The projection -/

section Project

variable (arith : OrderArithmetic)

/-- What an amount is still to be invoiced when `remaining` of a quantity remains. -/
def openPart (amount : Money) (qty remaining : Decimal) (rate : Option Decimal) :
    Projecting Money :=
  if qty.atMost remaining then return amount
  else if remaining.mantissa ≤ 0 then return Money.zero
  else
    match rate with
    | some rate => do
      let product ← orPanic (arith.mul rate remaining)
      toMoney product
    | none => do
      let product ← orPanic (arith.mul amount.toDecimal remaining)
      let quotient ← orPanic (arith.div product qty)
      toMoney quotient

def orZero (number : Decimal) : Decimal :=
  if number.mantissa < 0 then Decimal.zero else number

variable (readers : FeedReaders)

/-- A line's own amount, or its quantity at its rate. -/
def lineAmount (line : FeedLine) (qty unitPrice : Option Decimal) : Projecting Money := do
  match ← money readers line.amount with
  | some amount => return amount
  | none =>
    match qty, unitPrice with
    | some qty, some rate => do
      let product ← orPanic (arith.mul qty rate)
      toMoney product
    | _, _ => return Money.zero

/-- How much of a line is on invoices.  An order that is invoiced by its status but by none
of its lines is taken at its status. -/
def lineInvoiced (line : FeedLine) (settled : Bool) (qty : Option Decimal) : Decimal :=
  match decimal readers line.quantityConsumedInInvoices with
  | some consumed => consumed
  | none => if settled then qty.getD Decimal.zero else Decimal.zero

/-- What is open of a line, in its quantity when it has one and in its amount. -/
def lineOpen (settled : Bool) (qty unitPrice : Option Decimal) (amount : Money)
    (qtyInvoiced : Decimal) : Projecting (Option Decimal × Money) :=
  match qty with
  | some qty => do
    let difference ← orPanic (arith.sub qty qtyInvoiced)
    let openAmount ← openPart arith amount qty (orZero difference) unitPrice
    return (some (orZero difference), openAmount)
  | none => return (none, if settled then Money.zero else amount)

def projectLine (settled : Bool) (indexed : FeedLine × ℕ) : Projecting SalesOrderLine := do
  let line := indexed.1
  let qty := decimal readers line.quantity
  let unitPrice := decimal readers line.rate
  let amount ← lineAmount arith readers line qty unitPrice
  let qtyInvoiced := lineInvoiced readers line settled qty
  let still ← lineOpen arith settled qty unitPrice amount qtyInvoiced
  return {
    lineNo := indexed.2 + 1
    lineId := nonEmpty line.id
    itemId := nonEmpty line.itemId
    description := line.description.filter fun text => text ≠ ""
    qty := qty
    unitPrice := unitPrice
    amount := amount
    isTaxable := line.taxable.getD false
    qtyInvoiced := qtyInvoiced
    qtyOpen := still.1
    openAmount := still.2
    invoiceIds := line.invoiceIds }

def mergedIds (own : List String) (lines : List SalesOrderLine) : List String :=
  (lines.flatMap SalesOrderLine.invoiceIds).foldl
    (fun ids id => if id ∈ ids then ids else ids ++ [id]) own

def settled (order : FeedSalesOrder) : Bool :=
  fullyInvoicedStatus order.paymentStatus &&
    !order.lines.any fun line => (decimal readers line.quantityConsumedInInvoices).isSome

/-- Project one order of a feed. -/
def fromFeed (order : FeedSalesOrder) : Projecting SalesOrder := do
  ensure (trimmed order.id ≠ "") (.feed "a sales order has an empty id")
  let txnDate ← orRefuse
    (.order order.id ("issuedAt " ++ readers.quoted order.issuedAt ++ " is not a date"))
    (date readers (some order.issuedAt))
  let lines ← order.lines.zipIdx.mapM (projectLine arith readers (settled readers order))
  let lineTotal ← (Money.checkedSum (lines.map SalesOrderLine.amount)).mapError .money
  let stated ← money readers order.totalAmount
  let openAmount ← (Money.checkedSum (lines.map SalesOrderLine.openAmount)).mapError .money
  return {
    qboId := trimmed order.id
    docNumber := nonEmpty order.orderNumber
    txnDate := txnDate
    customerId := nonEmpty order.customerId
    customerName := nonEmpty order.customerName
    poNumber := nonEmpty order.customerPoNumber
    dueDate := date readers order.dueDate
    shipDate := date readers order.shipDate
    orderStatus := nonEmpty order.orderStatus
    invoiceStatus := nonEmpty order.paymentStatus
    fulfillmentStatus := nonEmpty order.fulfillmentStatus
    total := stated.getD lineTotal
    openAmount := openAmount
    isOpen := !closedStatus order.orderStatus && decide (0 < openAmount.minor)
    version := valueText readers order.version
    memo := nonEmpty order.memo
    invoiceIds := mergedIds order.invoiceIds lines
    lines := lines
    isDeleted := false }

end Project

/-! ### What was open on a date -/

/-- Whether every invoice that took from a line is dated after a date. -/
def invoicedLater (asOf : Date) (invoiceDates : String → Option Date) (line : SalesOrderLine) :
    Bool :=
  !line.invoiceIds.isEmpty &&
    line.invoiceIds.all fun id => (invoiceDates id).any fun dated => asOf < dated

/-- A line as it was open on a date, when something of it was. -/
def openLineAsOf (asOf : Date) (invoiceDates : String → Option Date) (line : SalesOrderLine) :
    Option (SalesOrderLine × Option Decimal × Money) :=
  let still :=
    if invoicedLater asOf invoiceDates line then (line.qty, line.amount)
    else (line.qtyOpen, line.openAmount)
  let isOpen :=
    match still.1 with
    | some qty => 0 < qty.mantissa && still.2.minor ≠ 0
    | none => still.2.minor ≠ 0
  if isOpen then some (line, still) else none

namespace SalesOrder

def openLinesAsOf (order : SalesOrder) (asOf : Date) (invoiceDates : String → Option Date) :
    List (SalesOrderLine × Option Decimal × Money) :=
  if order.isDeleted || asOf < order.txnDate || closedStatus order.orderStatus then []
  else order.lines.filterMap (openLineAsOf asOf invoiceDates)

end SalesOrder

end OrderFeeds

end QuickBooks
