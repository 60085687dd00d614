import QuickBooks.AccountMapping
import QuickBooks.TextFields
import QuickBooks.WholeCents

/-!
# The projection of mirrored payloads

A mirrored entity is a raw payload of the book of record.  Its projection
reads the header and the lines of a document.  An amount is two decimal places
there, so one that carries more, or that is no plain number, is refused rather
than rounded; a price keeps its places.
-/

namespace QuickBooks

open DecimalNumbers ExceptPrograms

/-- Every entity type that is mirrored. -/
inductive EntityType where
  | account
  | «class»
  | customer
  | vendor
  | item
  | taxCode
  | taxRate
  | term
  | department
  | companyInfo
  | preferences
  | attachable
  | estimate
  | invoice
  | salesReceipt
  | creditMemo
  | refundReceipt
  | payment
  | purchaseOrder
  | bill
  | billPayment
  | vendorCredit
  | purchase
  | deposit
  | journalEntry
  | transfer
  | creditCardPayment
  | inventoryAdjustment
deriving DecidableEq

/-- The entity types that are financial documents. -/
inductive DocumentType where
  | estimate
  | invoice
  | salesReceipt
  | creditMemo
  | refundReceipt
  | payment
  | purchaseOrder
  | bill
  | billPayment
  | vendorCredit
  | purchase
  | deposit
  | journalEntry
  | transfer
  | creditCardPayment
  | inventoryAdjustment
deriving DecidableEq

namespace EntityType

def asStr : EntityType → String
  | account => "Account"
  | «class» => "Class"
  | customer => "Customer"
  | vendor => "Vendor"
  | item => "Item"
  | taxCode => "TaxCode"
  | taxRate => "TaxRate"
  | term => "Term"
  | department => "Department"
  | companyInfo => "CompanyInfo"
  | preferences => "Preferences"
  | attachable => "Attachable"
  | estimate => "Estimate"
  | invoice => "Invoice"
  | salesReceipt => "SalesReceipt"
  | creditMemo => "CreditMemo"
  | refundReceipt => "RefundReceipt"
  | payment => "Payment"
  | purchaseOrder => "PurchaseOrder"
  | bill => "Bill"
  | billPayment => "BillPayment"
  | vendorCredit => "VendorCredit"
  | purchase => "Purchase"
  | deposit => "Deposit"
  | journalEntry => "JournalEntry"
  | transfer => "Transfer"
  | creditCardPayment => "CreditCardPayment"
  | inventoryAdjustment => "InventoryAdjustment"

def asDocument : EntityType → Option DocumentType
  | estimate => some .estimate
  | invoice => some .invoice
  | salesReceipt => some .salesReceipt
  | creditMemo => some .creditMemo
  | refundReceipt => some .refundReceipt
  | payment => some .payment
  | purchaseOrder => some .purchaseOrder
  | bill => some .bill
  | billPayment => some .billPayment
  | vendorCredit => some .vendorCredit
  | purchase => some .purchase
  | deposit => some .deposit
  | journalEntry => some .journalEntry
  | transfer => some .transfer
  | creditCardPayment => some .creditCardPayment
  | inventoryAdjustment => some .inventoryAdjustment
  | _ => none

end EntityType

/-- One row of the replica. -/
structure MirroredEntity where
  entityType : EntityType
  qboId : String
  isDeleted : Bool := false
  rawJson : Json

def decimalOfInt? (value : Int) : Option Decimal :=
  if fits : value.natAbs < 2 ^ 96 then some ⟨value, 0, fits, by norm_num⟩ else none

/-- How the libraries read texts: a decimal without or with an exponent, and a
date.  The text of an integer of sixty-four bits reads as that integer. -/
structure TextReaders where
  decimalFromStr : String → Option Decimal
  decimalFromScientific : String → Option Decimal
  dateFromStr : String → Option Date
  decimalFromStr_toString : ∀ value : Int, Money.Fits value →
    decimalFromStr (toString value) = decimalOfInt? value

inductive ProjectError where
  | missingField (entity id field : String)
  | notAnAmount (field : String) (found : Json)
  | amountPrecision (field found : String)
  | money (failure : MoneyError)

namespace Project

/-- An empty text counts as absent. -/
def text (value : Json) (key : String) : Option String :=
  let string := match value.get? key with
    | some (.string found) => some (trimmed found)
    | some (.number found) => some found.text
    | _ => none
  string.filter fun found => found ≠ ""

def nestedText (value : Json) (outer inner : String) : Option String :=
  (value.get? outer).bind fun nested => text nested inner

def reference (value : Json) (key : String) : Option String :=
  nestedText value key "value"

def requiredString (value : Json) (key : String) (entity : MirroredEntity) :
    Except ProjectError String :=
  orRefuse (.missingField entity.entityType.asStr entity.qboId key) (text value key)

/-- A number as an exact decimal; past the last bound below which consecutive
integers are distinct floating numbers, nothing. -/
def jsonDecimalValue (readers : TextReaders) : Json → Option Decimal
  | .number (.integer value) =>
    if -9223372036854775808 ≤ value ∧ value ≤ 9223372036854775807 then decimalOfInt? value
    else none
  | .number (.float shortest belowExactBound) =>
    if belowExactBound then readers.decimalFromStr shortest else none
  | .string string => readers.decimalFromStr (trimmed string)
  | _ => none

def optionalDecimal (readers : TextReaders) (value : Json) (key : String) :
    Except ProjectError (Option Decimal) :=
  match value.get? key with
  | none => return none
  | some found =>
    if found.isNull then return none
    else some <$> orRefuse (.notAnAmount key found) (jsonDecimalValue readers found)

/-- An amount of more than two places is refused rather than rounded. -/
def optionalMoney (readers : TextReaders) (value : Json) (key : String) :
    Except ProjectError (Option Money) := do
  match ← optionalDecimal readers value key with
  | none => return none
  | some decimal =>
    if 2 < decimal.scale then throw (.amountPrecision key decimal.render)
    else
      let money ← (roundMoney decimal .mirroredAmount).mapError ProjectError.money
      return some money

def requiredMoney (readers : TextReaders) (value : Json) (key : String)
    (entity : MirroredEntity) : Except ProjectError Money := do
  let money ← optionalMoney readers value key
  orRefuse (.missingField entity.entityType.asStr entity.qboId key) money

end Project

structure ParsedLine where
  lineNo : Int
  itemId : Option String
  description : Option String
  qty : Option Decimal
  unitPrice : Option Decimal
  amount : Money
  classId : Option String
  isTaxable : Bool
deriving DecidableEq

/-- One edge of the graph of linked transactions; without a line number it is
on the header. -/
structure ParsedLink where
  toQboId : String
  toType : String
  lineNo : Option Int
deriving DecidableEq

structure ParsedDocument where
  qboId : String
  docType : DocumentType
  docNumber : Option String
  txnDate : String
  dueDate : Option String
  contactId : Option String
  contactType : Option ContactKind
  classId : Option String
  total : Money
  balance : Option Money
  docStatus : Option String
  poNumber : Option String
  privateNote : Option String
  customerMemo : Option String
  currency : Option String
  isDeleted : Bool
  lines : List ParsedLine
  links : List ParsedLink
deriving DecidableEq

structure ParsedItem where
  qboId : String
  name : String
  sku : Option String
  description : Option String
  itemType : Option String
  unitPrice : Option Decimal
  purchaseCost : Option Decimal
  qtyOnHand : Option Decimal
  incomeAccountId : Option String
  expenseAccountId : Option String
  assetAccountId : Option String
  isActive : Bool
  isDeleted : Bool
deriving DecidableEq

namespace Project

def flag (value : Json) (key : String) : Option Bool :=
  (value.get? key).bind Json.asBool

/-- An item; its prices keep their places. -/
def parseItem (readers : TextReaders) (raw : Json) (entity : MirroredEntity) :
    Except ProjectError ParsedItem := do
  let name ← requiredString raw "Name" entity
  let unitPrice ← optionalDecimal readers raw "UnitPrice"
  let purchaseCost ← optionalDecimal readers raw "PurchaseCost"
  let qtyOnHand ← optionalDecimal readers raw "QtyOnHand"
  return {
    qboId := entity.qboId
    name
    sku := text raw "Sku"
    description := text raw "Description"
    itemType := text raw "Type"
    unitPrice, purchaseCost, qtyOnHand
    incomeAccountId := reference raw "IncomeAccountRef"
    expenseAccountId := reference raw "ExpenseAccountRef"
    assetAccountId := reference raw "AssetAccountRef"
    isActive := (flag raw "Active").getD true
    isDeleted := entity.isDeleted }

def parseContactType : String → Option ContactKind
  | "Customer" => some .customer
  | "Vendor" => some .vendor
  | _ => none

/-- Whom a document faces. -/
def contactOf (raw : Json) : DocumentType → Option ContactKind × Option String
  | .estimate | .invoice | .salesReceipt | .creditMemo | .refundReceipt | .payment =>
    (some .customer, reference raw "CustomerRef")
  | .purchaseOrder | .bill | .billPayment | .vendorCredit | .creditCardPayment =>
    (some .vendor, reference raw "VendorRef")
  | .purchase =>
    match reference raw "EntityRef" with
    | some id => ((nestedText raw "EntityRef" "type").bind parseContactType, some id)
    | none => (none, none)
  | .deposit | .journalEntry | .transfer | .inventoryAdjustment => (none, none)

/-- The specifics of a line: under the key its detail type names, else under
the first key that ends as detail keys do. -/
def detailObject (line : Json) (detailType : Option String) : Option Json :=
  (detailType.bind line.get?) <|>
    (line.asObject.bind fun fields =>
      (fields.find? fun field => "LineDetail".toList <:+ field.1.toList).map Prod.snd)

def lineNumber (readers : TextReaders) (line : Json) (index : Nat) : Int :=
  let stated := ((line.get? "LineNum").bind (jsonDecimalValue readers)).bind fun decimal =>
    if -9223372036854775808 ≤ decimal.trunc ∧ decimal.trunc ≤ 9223372036854775807 then
      some decimal.trunc
    else none
  stated.getD (index + 1)

def eqIgnoreAsciiCase (first second : String) : Bool :=
  first.toList.map Char.toLower = second.toList.map Char.toLower

def isTaxable (detail : Json) : Bool :=
  match reference detail "TaxCodeRef" with
  | some code => !eqIgnoreAsciiCase code "NON"
  | none => false

def isSubtotal (line : Json) : Bool :=
  text line "DetailType" = some "SubTotalLineDetail"

def rawLines (raw : Json) : List Json :=
  ((raw.get? "Line").bind Json.asArray).getD []

/-- The quantity of a line; an adjustment's is its signed difference. -/
def lineQty (readers : TextReaders) : Option Json → Except ProjectError (Option Decimal)
  | none => return none
  | some detail => do
    let qty ← optionalDecimal readers detail "Qty"
    let qtyDiff ← optionalDecimal readers detail "QtyDiff"
    return qty <|> qtyDiff

def lineUnitPrice (readers : TextReaders) : Option Json → Except ProjectError (Option Decimal)
  | none => return none
  | some detail => optionalDecimal readers detail "UnitPrice"

def parseLine (readers : TextReaders) (line : Json) (index : Nat) :
    Except ProjectError ParsedLine := do
  let detail := detailObject line (text line "DetailType")
  let qty ← lineQty readers detail
  let unitPrice ← lineUnitPrice readers detail
  let amount ← optionalMoney readers line "Amount"
  return {
    lineNo := lineNumber readers line index
    itemId := detail.bind fun detail => reference detail "ItemRef"
    description := text line "Description"
    qty, unitPrice
    amount := amount.getD Money.zero
    classId := detail.bind fun detail => reference detail "ClassRef"
    isTaxable := detail.any isTaxable }

def parseLines (readers : TextReaders) (raw : Json) : Except ProjectError (List ParsedLine) :=
  ((rawLines raw).zipIdx.filter fun row => !isSubtotal row.1).mapM fun row =>
    parseLine readers row.1 row.2

def linkedTxn (link : Json) (lineNo : Option Int) : Option ParsedLink := do
  let toQboId ← text link "TxnId"
  let toType ← text link "TxnType"
  return ⟨toQboId, toType, lineNo⟩

def linkedTxns (value : Json) : List Json :=
  ((value.get? "LinkedTxn").bind Json.asArray).getD []

/-- The links of the header, then those of the lines. -/
def parseLinks (readers : TextReaders) (raw : Json) : List ParsedLink :=
  ((linkedTxns raw).filterMap fun link => linkedTxn link none) ++
    (rawLines raw).zipIdx.flatMap fun row =>
      (linkedTxns row.1).filterMap fun link =>
        linkedTxn link (some (lineNumber readers row.1 row.2))

/-- The customer's order number, in the custom field that is named for it. -/
def poNumber (raw : Json) : Option String :=
  (((raw.get? "CustomField").bind Json.asArray).getD []).findSome? fun field =>
    (text field "Name").bind fun name =>
      if AccountMapping.normalize name ∈ ["ponumber", "po", "purchaseordernumber"] then
        text field "StringValue"
      else none

/-- What a document states as its one amount.  A total that could not be read
is not zero. -/
def parseTotal (readers : TextReaders) (raw : Json) (entity : MirroredEntity) :
    DocumentType → Except ProjectError Money
  | .transfer | .creditCardPayment => requiredMoney readers raw "Amount" entity
  | .inventoryAdjustment => return Money.zero
  | _ => requiredMoney readers raw "TotalAmt" entity

def parseDocument (readers : TextReaders) (raw : Json) (entity : MirroredEntity)
    (docType : DocumentType) : Except ProjectError ParsedDocument := do
  let (contactType, contactId) := contactOf raw docType
  let total ← parseTotal readers raw entity docType
  let lines ← parseLines readers raw
  let txnDate ← requiredString raw "TxnDate" entity
  let balance ← optionalMoney readers raw "Balance"
  return {
    qboId := entity.qboId
    docType
    docNumber := text raw "DocNumber"
    txnDate
    dueDate := text raw "DueDate"
    contactId, contactType
    classId := reference raw "ClassRef"
    total, balance
    docStatus := (text raw "TxnStatus") <|> (text raw "POStatus")
    poNumber := poNumber raw
    privateNote := text raw "PrivateNote"
    customerMemo := nestedText raw "CustomerMemo" "value"
    currency := reference raw "CurrencyRef"
    isDeleted := entity.isDeleted
    lines
    links := parseLinks readers raw }

end Project

end QuickBooks
