import QuickBooks.KeyedTables
import QuickBooks.OrderFeeds
import QuickBooks.StableSorts
import Mathlib.Data.String.Basic
import Mathlib.Data.Prod.Lex

/-!
# The mirrored sales orders

A feed is applied in one transaction.  An order whose stored text is that of the feed stays
as it is, any other is written with its lines, and what a complete feed lacks is marked
deleted.
-/

namespace QuickBooks

open DecimalNumbers ExceptPrograms KeyedTables StableSorts

namespace OrderFeeds

/-- One feed: the sales orders of one realm at a time. -/
structure SalesOrderFeed where
  feed : String
  realmId : Option String
  capturedAt : String
  complete : Bool
  salesOrders : List FeedSalesOrder

/-- How feeds, orders and lists of ids are read and printed. -/
structure OrderTexts where
  readers : FeedReaders
  feedFromStr : String → Except String SalesOrderFeed
  orderText : FeedSalesOrder → String
  idsText : List String → String
  idsFromStr : String → Option (List String)

/-! ### Parsing a feed -/

def feedFormat : String :=
  "qbo-sales-orders/1"

def seeOrder (seen : List String) (order : FeedSalesOrder) : Projecting (List String) := do
  ensure (trimmed order.id ∉ seen) (.feed ("sales order " ++ order.id ++ " appears twice"))
  return trimmed order.id :: seen

/-- Parse a feed and check it is one this crate reads, for a realm. -/
def parseFeed (texts : OrderTexts) (raw realm : String) : Projecting SalesOrderFeed := do
  let feed ← (texts.feedFromStr raw).mapError fun failure =>
    SalesOrderError.feed ("not a sales-order feed: " ++ failure)
  ensure (feed.feed = feedFormat) (.feed ("format " ++ texts.readers.quoted feed.feed ++
    " is not " ++ texts.readers.quoted feedFormat))
  ensure (feed.realmId.all fun feedRealm => feedRealm = realm)
    (.feed ("feed is for realm " ++ feed.realmId.getD "" ++ ", not " ++ realm))
  let _ ← feed.salesOrders.foldlM seeOrder []
  return feed

/-! ### The tables -/

structure OrderRow where
  realmId : String
  qboId : String
  docNumber : Option String
  txnDate : String
  customerId : Option String
  customerName : Option String
  poNumber : Option String
  dueDate : Option String
  shipDate : Option String
  orderStatus : Option String
  invoiceStatus : Option String
  fulfillmentStatus : Option String
  total : Money
  openAmount : Money
  isOpen : Bool
  version : Option String
  memo : Option String
  invoiceIds : String
  isDeleted : Bool
  rawJson : String
  mirroredAt : String

def OrderRow.key (row : OrderRow) : String × String :=
  (row.realmId, row.qboId)

structure OrderLineRow where
  realmId : String
  soQboId : String
  lineNo : ℤ
  lineId : Option String
  itemId : Option String
  description : Option String
  qty : Option String
  unitPrice : Option String
  amount : Money
  isTaxable : Bool
  qtyInvoiced : String
  qtyOpen : Option String
  openAmount : Money
  invoiceIds : String

def OrderLineRow.orderKey (row : OrderLineRow) : String × String :=
  (row.realmId, row.soQboId)

structure SnapshotRow where
  realmId : String
  capturedAt : String
  syncedAt : String
  source : String
  orderCount : ℕ
  complete : Bool

/-- The realms of a replica and its sales-order tables. -/
structure OrderReplica where
  realms : List String
  salesOrders : List OrderRow
  salesOrderLines : List OrderLineRow
  snapshots : List SnapshotRow

/-- What applying one feed did. -/
structure SalesOrderSyncSummary where
  seen : ℕ
  inserted : ℕ
  updated : ℕ
  unchanged : ℕ
  deleted : ℕ
  isOpen : ℕ

inductive OrderStoreError where
  | sqlite (text : String)
  | conversion (column : ℕ) (text : String)
  | salesOrder (error : SalesOrderError)

abbrev Storing :=
  Except OrderStoreError

namespace OrderReplica

def row? (replica : OrderReplica) (key : String × String) : Option OrderRow :=
  replica.salesOrders.find? fun row => row.key = key

def linesOf (replica : OrderReplica) (key : String × String) : List OrderLineRow :=
  replica.salesOrderLines.filter fun line => line.orderKey = key

end OrderReplica

/-! ### Writing -/

section Write

variable (texts : OrderTexts)

def orderRow (realm : String) (so : SalesOrder) (raw nowText : String) : OrderRow where
  realmId := realm
  qboId := so.qboId
  docNumber := so.docNumber
  txnDate := so.txnDate.render
  customerId := so.customerId
  customerName := so.customerName
  poNumber := so.poNumber
  dueDate := so.dueDate.map Date.render
  shipDate := so.shipDate.map Date.render
  orderStatus := so.orderStatus
  invoiceStatus := so.invoiceStatus
  fulfillmentStatus := so.fulfillmentStatus
  total := so.total
  openAmount := so.openAmount
  isOpen := so.isOpen
  version := so.version
  memo := so.memo
  invoiceIds := texts.idsText so.invoiceIds
  isDeleted := false
  rawJson := raw
  mirroredAt := nowText

def orderLineRow (realm soQboId : String) (line : SalesOrderLine) : OrderLineRow where
  realmId := realm
  soQboId := soQboId
  lineNo := line.lineNo
  lineId := line.lineId
  itemId := line.itemId
  description := line.description
  qty := line.qty.map Decimal.render
  unitPrice := line.unitPrice.map Decimal.render
  amount := line.amount
  isTaxable := line.isTaxable
  qtyInvoiced := line.qtyInvoiced.render
  qtyOpen := line.qtyOpen.map Decimal.render
  openAmount := line.openAmount
  invoiceIds := texts.idsText line.invoiceIds

/-- Insert a line.  Its order has just been written, and must have no line of its number. -/
def insertLine (lines : List OrderLineRow) (line : OrderLineRow) : Storing (List OrderLineRow) := do
  ensure (lines.all fun other => !(other.orderKey = line.orderKey ∧ other.lineNo = line.lineNo))
    (.sqlite ("UNIQUE constraint failed: sales_order_lines.realm_id, " ++
      "sales_order_lines.so_qbo_id, sales_order_lines.line_no"))
  return lines ++ [line]

/-- Write an order over the one that is there, and its lines in the place of its old ones. -/
def writeOrder (realm nowText : String) (replica : OrderReplica) (so : SalesOrder) (raw : String) :
    Storing OrderReplica := do
  let others := replica.salesOrderLines.filter fun line => line.orderKey ≠ (realm, so.qboId)
  ensure (realm ∈ replica.realms) (.sqlite "FOREIGN KEY constraint failed")
  let lines ← (so.lines.map (orderLineRow texts realm so.qboId)).foldlM insertLine others
  return { replica with
    salesOrders := upsert OrderRow.key (orderRow texts realm so raw nowText) replica.salesOrders
    salesOrderLines := lines }

/-- Write one order of a feed, unless it is there and its text is the same. -/
def applyOrder (realm nowText : String) (state : SalesOrderSyncSummary × OrderReplica)
    (projected : SalesOrder × String) : Storing (SalesOrderSyncSummary × OrderReplica) :=
  match state.2.row? (realm, projected.1.qboId) with
  | some existing =>
    if existing.isDeleted = false ∧ existing.rawJson = projected.2 then
      return ({ state.1 with unchanged := state.1.unchanged + 1 }, state.2)
    else do
      let written ← writeOrder texts realm nowText state.2 projected.1 projected.2
      return ({ state.1 with updated := state.1.updated + 1 }, written)
  | none => do
    let written ← writeOrder texts realm nowText state.2 projected.1 projected.2
    return ({ state.1 with inserted := state.1.inserted + 1 }, written)

/-- Mark an order of a realm deleted. -/
def markDeleted (realm nowText : String) (orders : List OrderRow) (qboId : String) :
    List OrderRow :=
  orders.map fun row =>
    if row.key = (realm, qboId) then
      { row with isDeleted := true, isOpen := false, mirroredAt := nowText }
    else row

def missingIds (realm : String) (present : List String) (orders : List OrderRow) : List String :=
  ((orders.filter fun row => row.realmId = realm && !row.isDeleted).map OrderRow.qboId).filter
    fun id => id ∉ present

/-- Mark every order deleted that a complete feed lacks. -/
def sweepOrders (realm nowText : String) (present : List String)
    (state : SalesOrderSyncSummary × OrderReplica) : SalesOrderSyncSummary × OrderReplica :=
  let missing := missingIds realm present state.2.salesOrders
  ({ state.1 with deleted := state.1.deleted + missing.length },
    { state.2 with
      salesOrders := missing.foldl (markDeleted realm nowText) state.2.salesOrders })

variable (arith : OrderArithmetic)

def projectOrder (order : FeedSalesOrder) : Storing (SalesOrder × String) := do
  let so ← (fromFeed arith texts.readers order).mapError .salesOrder
  return (so, texts.orderText order)

/-- What the transaction of a feed writes.  Every order is projected before anything is. -/
def feedTransaction (replica : OrderReplica) (realm : String) (feed : SalesOrderFeed)
    (source nowText : String) : Storing (SalesOrderSyncSummary × OrderReplica) := do
  let projected ← feed.salesOrders.mapM (projectOrder texts arith)
  let applied ← projected.foldlM (applyOrder texts realm nowText)
    (⟨projected.length, 0, 0, 0, 0, 0⟩, replica)
  let swept :=
    if feed.complete then
      sweepOrders realm nowText (projected.map fun entry => entry.1.qboId) applied
    else applied
  ensure (realm ∈ replica.realms) (.sqlite "FOREIGN KEY constraint failed")
  let openCount := swept.2.salesOrders.countP fun row =>
    row.realmId = realm && row.isOpen && !row.isDeleted
  return ({ swept.1 with isOpen := openCount },
    { swept.2 with
      snapshots := upsert SnapshotRow.realmId
        ⟨realm, feed.capturedAt, nowText, source, projected.length, feed.complete⟩
        swept.2.snapshots })

/-- Apply one feed.  A transaction that fails is rolled back. -/
def applySalesOrderFeed (replica : OrderReplica) (realm : String) (feed : SalesOrderFeed)
    (source nowText : String) : Storing SalesOrderSyncSummary × OrderReplica :=
  match feedTransaction texts arith replica realm feed source nowText with
  | .ok (summary, written) => (.ok summary, written)
  | .error failure => (.error failure, replica)

end Write

/-! ### Reading -/

section Read

variable (texts : OrderTexts)

def parseDate (raw : Option String) : Option Date :=
  raw.bind texts.readers.dateFromYmd

def parseDecimal (raw : Option String) : Option Decimal :=
  raw.bind texts.readers.decimalFromStr

def ids (raw : String) : List String :=
  (texts.idsFromStr raw).getD []

def lineFromRow (row : OrderLineRow) : SalesOrderLine where
  lineNo := row.lineNo
  lineId := row.lineId
  itemId := row.itemId
  description := row.description
  qty := parseDecimal texts row.qty
  unitPrice := parseDecimal texts row.unitPrice
  amount := row.amount
  isTaxable := row.isTaxable
  qtyInvoiced := (parseDecimal texts (some row.qtyInvoiced)).getD Decimal.zero
  qtyOpen := parseDecimal texts row.qtyOpen
  openAmount := row.openAmount
  invoiceIds := ids texts row.invoiceIds

/-- An order without its lines. -/
def orderFromRow (row : OrderRow) : Storing SalesOrder := do
  let txnDate ← orRefuse (.conversion 2 row.txnDate) (texts.readers.dateFromYmd row.txnDate)
  return {
    qboId := row.qboId
    docNumber := row.docNumber
    txnDate := txnDate
    customerId := row.customerId
    customerName := row.customerName
    poNumber := row.poNumber
    dueDate := parseDate texts row.dueDate
    shipDate := parseDate texts row.shipDate
    orderStatus := row.orderStatus
    invoiceStatus := row.invoiceStatus
    fulfillmentStatus := row.fulfillmentStatus
    total := row.total
    openAmount := row.openAmount
    isOpen := row.isOpen
    version := row.version
    memo := row.memo
    invoiceIds := ids texts row.invoiceIds
    lines := []
    isDeleted := row.isDeleted }

def listingKey (row : OrderRow) : String ×ₗ WithBot String ×ₗ String :=
  toLex (row.txnDate, toLex (row.docNumber, row.qboId))

def readLines (replica : OrderReplica) (key : String × String) : List SalesOrderLine :=
  (sortedBy OrderLineRow.lineNo (replica.linesOf key)).map (lineFromRow texts)

/-- The orders of a realm that are not deleted, with their lines; only the open ones on
demand. -/
def listSalesOrders (replica : OrderReplica) (realm : String) (openOnly : Bool) :
    Storing (List SalesOrder) := do
  let rows := sortedBy listingKey (replica.salesOrders.filter fun row =>
    row.realmId = realm && !row.isDeleted && (!openOnly || row.isOpen))
  let orders ← rows.mapM (orderFromRow texts)
  return orders.map fun order => { order with lines := readLines texts replica (realm, order.qboId) }

end Read

/-! ### Histories -/

/-- A realm is registered or a feed is applied. -/
inductive OrderEvent where
  | register (realm : String)
  | apply (realm : String) (feed : SalesOrderFeed) (source nowText : String)

def OrderEvent.orders : OrderEvent → List FeedSalesOrder
  | register _ => []
  | apply _ feed _ _ => feed.salesOrders

def orderStep (texts : OrderTexts) (arith : OrderArithmetic) (replica : OrderReplica) :
    OrderEvent → OrderReplica
  | .register realm => { replica with realms := realm :: replica.realms }
  | .apply realm feed source nowText =>
    (applySalesOrderFeed texts arith replica realm feed source nowText).2

def mirroredAfter (texts : OrderTexts) (arith : OrderArithmetic) (history : List OrderEvent) :
    OrderReplica :=
  history.foldl (orderStep texts arith) ⟨[], [], [], []⟩

end OrderFeeds

end QuickBooks
