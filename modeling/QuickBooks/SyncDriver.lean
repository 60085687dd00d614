import QuickBooks.TransitionRuns
import QuickBooks.ReplicaStore

/-!
# The sync driver

The driver asks the book of record for one read at a time and writes what it gets
before it asks again.  A sweep and a backfill page through the records in the
order of their ids by position; a poll asks for what changed.  Between two reads
the book of record may change, and the driver may be stopped.
-/

/-!
## Responses on the wire

A record of a response carries its id, its token and the time of its last update;
a deletion of the change feed says so in its status, and may come without a
token.  A response of the change feed can carry records of several types, each
under the key of its type.
-/

namespace QuickBooks

namespace EntityType

/-- Every entity type, masters before documents. -/
def all : List EntityType :=
  [.companyInfo, .account, .class, .customer, .vendor, .item, .taxCode, .taxRate, .term,
    .estimate, .invoice, .salesReceipt, .creditMemo, .refundReceipt, .payment, .purchaseOrder,
    .bill, .billPayment, .vendorCredit, .purchase, .deposit, .journalEntry, .transfer,
    .creditCardPayment, .inventoryAdjustment, .department, .preferences, .attachable]

def responseKey : EntityType → String
  | creditCardPayment => "CreditCardPaymentTxn"
  | other => other.asStr

def parse (raw : String) : Option EntityType :=
  all.find? fun entityType => entityType.asStr = raw

def parseResponseKey (raw : String) : Option EntityType :=
  (parse raw).or (all.find? fun entityType => entityType.responseKey = raw)

end EntityType

namespace Mirror

open ExceptPrograms
open Outbox (EntityPayload)

/-- Why a response cannot be read. -/
inductive ResponseError where
  | missingId (entityType : EntityType) (object : Json)
  | missingLastUpdatedTime (entityType : EntityType) (qboId : String)
  | badLastUpdatedTime (entityType : EntityType) (qboId : String) (raw : String)

def textField (object : Json) (key : String) : Option String :=
  match object.get? key with
  | some (.string text) => some text
  | _ => none

abbrev TimeReader := String → Option Int

variable (parseTime : TimeReader)

/-- Read a record of a response; the whole object is kept as its payload. -/
def toEntityPayload (entityType : EntityType) (object : Json) :
    Except ResponseError EntityPayload := do
  let qboId ← orRefuse (.missingId entityType object) (textField object "Id")
  let syncToken := (textField object "SyncToken").getD "0"
  let lastUpdatedRaw ← orRefuse (.missingLastUpdatedTime entityType qboId)
    ((object.get? "MetaData").bind (textField · "LastUpdatedTime"))
  let lastUpdatedUtc ← orRefuse (.badLastUpdatedTime entityType qboId lastUpdatedRaw)
    (parseTime lastUpdatedRaw)
  let isDeleted := decide (textField object "status" = some "Deleted")
  return { entityType, qboId, syncToken, lastUpdatedUtc, isDeleted, rawJson := object }

def metadataKeys : List String :=
  ["startPosition", "maxResults", "totalCount"]

/-- The records under one key of a query response. -/
def keyedEntities (field : String × Json) : Except ResponseError (List EntityPayload) :=
  if field.1 ∈ metadataKeys then .ok []
  else
    match EntityType.parseResponseKey field.1, field.2 with
    | some entityType, .array items => items.mapM (toEntityPayload parseTime entityType)
    | _, _ => .ok []

def itemsUnder (value : Json) (key : String) : List Json :=
  ((value.get? key).bind Json.asArray).getD []

/-- The records of a response of the change feed, of every type in it. -/
def parseCdcResponse (value : Json) : Except ResponseError (List EntityPayload) := do
  let queryResponses := (itemsUnder value "CDCResponse").flatMap (itemsUnder · "QueryResponse")
  let fields := queryResponses.flatMap fun queryResponse => queryResponse.asObject.getD []
  let read ← fields.mapM (keyedEntities parseTime)
  return read.flatten

def responseTime (value : Json) : Option Int :=
  (textField value "time").bind parseTime

/-- One read's records, and the clock of the book of record when it answered. -/
structure ReadPage where
  entities : List EntityPayload
  serverTime : Option Int

section Payloads

variable {parseTime} {entityType : EntityType} {object value : Json} {entity : EntityPayload}
  {entities : List EntityPayload}

theorem toEntityPayload_eq (reads : toEntityPayload parseTime entityType object = .ok entity) :
    entity.entityType = entityType ∧ entity.rawJson = object ∧
      entity.syncToken = (textField object "SyncToken").getD "0" ∧
      entity.isDeleted = isTombstone object := by
  simp only [toEntityPayload, bind_eq_ok_iff, pure_eq_ok_iff] at reads
  obtain ⟨qboId, -, raw, -, at', -, rfl⟩ := reads
  refine ⟨rfl, rfl, rfl, ?_⟩
  unfold isTombstone textField
  cases object.get? "status" with
  | none => rfl
  | some status => cases status <;> simp

theorem isDeleted_of_parseCdcResponse (reads : parseCdcResponse parseTime value = .ok entities)
    (entityMem : entity ∈ entities) : entity.isDeleted = isTombstone entity.rawJson := by
  obtain ⟨read, maps, flat⟩ := bind_eq_ok_iff.mp reads
  rw [pure_eq_ok_iff] at flat
  rw [← flat, List.mem_flatten] at entityMem
  obtain ⟨part, partMem, inPart⟩ := entityMem
  obtain ⟨field, -, fieldReads⟩ := exists_of_mem_mapM maps partMem
  unfold keyedEntities at fieldReads
  split_ifs at fieldReads
  · cases fieldReads
    cases inPart
  · split at fieldReads
    · obtain ⟨item, -, itemReads⟩ := exists_of_mem_mapM fieldReads inPart
      obtain ⟨-, isRaw, -, marked⟩ := toEntityPayload_eq itemReads
      rw [marked, isRaw]
    · cases fieldReads
      cases inPart

end Payloads

end Mirror

end QuickBooks

/-!
## How a type is synced

A type that the change feed covers is polled from its cursor; one without a
cursor, with one that is too old, or that the feed does not cover is swept.  A
response at the cap may be truncated and advances no cursor.  A cursor is made of
the clock of the book of record where a response carries it.
-/

namespace QuickBooks

inductive SyncTier where
  | masters
  | documents
  | peripheral
deriving DecidableEq

def EntityType.tier : EntityType → SyncTier
  | companyInfo | account | «class» | customer | vendor | item | taxCode | taxRate | term =>
    .masters
  | department | preferences | attachable => .peripheral
  | _ => .documents

namespace Mirror

abbrev Instant := Int

inductive SweepReason where
  | noCursor
  | cursorTooOld (ageDays : Int)
  | coverageUnconfirmed
  | cursorAheadOfServer
deriving DecidableEq

inductive SyncStrategy where
  | cdc (changedSince : Instant)
  | fullSweep (reason : SweepReason)
deriving DecidableEq

def cdcExcluded : List EntityType :=
  [.taxCode, .taxRate]

def cdcCoverageConfirmed (entityType : EntityType) : Bool :=
  entityType ∉ cdcExcluded && entityType.tier ≠ .peripheral

/-- Choose between a poll from the cursor and a sweep. -/
def planSync (cursor : SyncCursor) (now : Instant) (maxAge : Int) (coverageConfirmed : Bool) :
    SyncStrategy :=
  if !coverageConfirmed then .fullSweep .coverageUnconfirmed
  else
    match cursor.lastCdcCursor with
    | none => .fullSweep .noCursor
    | some changedSince =>
      let age := now - changedSince
      if age ≥ maxAge then .fullSweep (.cursorTooOld (age.tdiv 86400))
      else .cdc changedSince

inductive CdcOutcome where
  | complete
  | possiblyTruncated
deriving DecidableEq

def classifyResponseWithCap (returned cap : Nat) : CdcOutcome :=
  if returned ≥ cap then .possiblyTruncated else .complete

/-- Where the cursor goes after a complete read: to the clock of the book of
record, or without one to the newest record read, and never backwards. -/
def cursorAfterRead (previous : Instant) (serverTime : Option Instant) (seen : List Instant) :
    Instant :=
  match serverTime.or seen.max? with
  | some anchor => max anchor previous
  | none => previous

def SyncCursor.advance (cursor : SyncCursor) (outcome : CdcOutcome) (upTo : Instant) :
    SyncCursor :=
  if outcome = .complete then { cursor with lastCdcCursor := some upTo } else cursor

end Mirror

end QuickBooks

namespace QuickBooks

namespace Mirror

open ExceptPrograms TransitionRuns
open Outbox (EntityPayload)

structure SyncOptions where
  pageSize : Nat
  cdcMaxAge : Int
  cdcResponseCap : Nat
  uncoveredSweepInterval : Int
  cdcOverlap : Int

structure UpdatedRange where
  «from» : Instant
  «to» : Instant

def UpdatedRange.contains (range : UpdatedRange) (at' : Instant) : Bool :=
  range.from ≤ at' && at' < range.to

/-- What a backfill reads again after a truncated poll. -/
structure BackfillWindow where
  cursor : Instant
  «from» : Instant
  serverTime : Option Instant

/-- What the driver asks the book of record. -/
inductive ReadRequest where
  | queryPage (updated : Option UpdatedRange) (startPosition maxResults : Nat)
  | cdcPage (changedSince : Instant)

/-- What the driver is doing: nothing, or waiting for the answer to a read of a
sweep, a poll or a backfill. -/
inductive Activity where
  | idle
  | sweeping (now : Instant) (startedAt : Option Instant) (start : Nat)
  | polling (now : Instant) (cursor : SyncCursor) (changedSince : Instant)
  | backfilling (now : Instant) (window : BackfillWindow) (lastFullSweep : Option Instant)
      (start : Nat) (newestRead : Option Instant)

section Driver

variable (options : SyncOptions) (readers : TextReaders) (entityType : EntityType)
  (store : Store)

/-- Begin a sweep, or resume an interrupted one a page before where it stopped. -/
def fullSweep (now : Instant) : Activity :=
  let resumed := (store.checkpoints entityType).filter fun checkpoint =>
    now - checkpoint.startedAt < options.cdcMaxAge
  .sweeping now (resumed.map SweepCheckpoint.startedAt)
    (resumed.elim 0 fun checkpoint => checkpoint.nextStart - options.pageSize)

/-- Whether a type that the change feed does not cover was swept recently. -/
def sweepNotDue (now : Instant) : Bool :=
  !cdcCoverageConfirmed entityType &&
    match (store.cursors entityType).lastFullSweep with
    | some lastFullSweep => now - lastFullSweep < options.uncoveredSweepInterval &&
        (store.checkpoints entityType).isNone
    | none => false

/-- Begin to sync a type. -/
def syncEntityType (now : Instant) : Activity :=
  let cursor := store.cursors entityType
  if sweepNotDue options entityType store now then .idle
  else
    match planSync cursor now options.cdcMaxAge (cdcCoverageConfirmed entityType) with
    | .fullSweep _ => fullSweep options entityType store now
    | .cdc changedSince => .polling now cursor changedSince

/-- Write a page of a sweep: the last one writes the cursor, the others write
where the sweep has got to. -/
def sweepPage (now : Instant) (startedAt : Option Instant) (start : Nat) (page : ReadPage) :
    Except StoreError (Store × Activity) := do
  let startedAt := startedAt.getD (page.serverTime.getD now)
  let returned := page.entities.length
  let finalPage := decide (returned < options.pageSize)
  let cursor := if finalPage then some (entityType, ⟨some startedAt, some now⟩) else none
  let checkpoint := if finalPage then none else some ⟨start + returned, startedAt⟩
  let (after, _) ← store.applySweepPage readers entityType page.entities checkpoint cursor
  return (after, if finalPage then .idle else .sweeping now (some startedAt) (start + returned))

/-- Go on with the answer to a poll. -/
def pollAnswered (now : Instant) (cursor : SyncCursor) (changedSince : Instant)
    (changed : ReadPage) : Except StoreError (Store × Activity) :=
  if changed.serverTime.any fun serverTime => serverTime < changedSince then
    .ok (store, fullSweep options entityType store now)
  else
    match classifyResponseWithCap changed.entities.length options.cdcResponseCap with
    | .complete => do
      let upTo := cursorAfterRead changedSince changed.serverTime
        (changed.entities.map EntityPayload.lastUpdatedUtc)
      let (after, _) ← store.applyChanges readers changed.entities
        (some (entityType, cursor.advance .complete upTo))
      return (after, .idle)
    | .possiblyTruncated =>
      .ok (store, .backfilling now
        ⟨changedSince, changedSince - options.cdcOverlap, changed.serverTime⟩
        (store.cursors entityType).lastFullSweep 0 none)

/-- Write a page of a backfill; the last one advances the cursor. -/
def backfillPage (now : Instant) (window : BackfillWindow) (lastFullSweep : Option Instant)
    (start : Nat) (newestRead : Option Instant) (page : ReadPage) :
    Except StoreError (Store × Activity) := do
  let returned := page.entities.length
  let finalPage := decide (returned < options.pageSize)
  let newestRead := (page.entities.map EntityPayload.lastUpdatedUtc ++ newestRead.toList).max?
  let cursor := if finalPage then
      some (entityType, ⟨some (cursorAfterRead window.cursor window.serverTime
        newestRead.toList), lastFullSweep⟩)
    else none
  let (after, _) ← store.applyChanges readers page.entities cursor
  return (after, if finalPage then .idle
    else .backfilling now window lastFullSweep (start + returned) newestRead)

def BackfillWindow.range (window : BackfillWindow) (now : Instant) : UpdatedRange where
  «from» := window.from
  «to» := window.serverTime.getD now

/-- The read that the driver waits for. -/
def Activity.request? : Activity → Option ReadRequest
  | idle => none
  | sweeping _ _ start => some (.queryPage none start options.pageSize)
  | polling _ _ changedSince => some (.cdcPage (changedSince - options.cdcOverlap))
  | backfilling now window _ start _ =>
    some (.queryPage (some (window.range now)) start options.pageSize)

/-- Go on with the answer to the read under way. -/
def answered : Activity → ReadPage → Except StoreError (Store × Activity)
  | .idle, _ => .ok (store, .idle)
  | .sweeping now startedAt start, page =>
    sweepPage options readers entityType store now startedAt start page
  | .polling now cursor changedSince, page =>
    pollAnswered options readers entityType store now cursor changedSince page
  | .backfilling now window lastFullSweep start newestRead, page =>
    backfillPage options readers entityType store now window lastFullSweep start newestRead page

end Driver

/-! ### The book of record -/

/-- The records of one type in the order of their ids, and of which of them the
change feed states the token when they are deleted; a deleted record keeps its
place for the feed. -/
structure BookOfRecord where
  records : List EntityPayload
  clock : Instant
  statesToken : String → Bool

/-- What may happen in the book of record: a record is created at its place,
changed or deleted, or time passes. -/
inductive Edit where
  | put (position : Nat) (record : EntityPayload)
  | tick (elapsed : Nat)

def cdcLookback : Int :=
  30 * 86400

def cdcCap : Nat :=
  1000

namespace BookOfRecord

variable (book : BookOfRecord)

def put (position : Nat) (record : EntityPayload) : List EntityPayload :=
  if book.records.any fun existing => existing.qboId = record.qboId then
    book.records.map fun existing => if existing.qboId = record.qboId then record else existing
  else book.records.insertIdx (min position book.records.length) record

def edit : Edit → BookOfRecord
  | .put position record => { book with records := book.put position record }
  | .tick elapsed => { book with clock := book.clock + elapsed }

def matching (updated : Option UpdatedRange) : List EntityPayload :=
  book.records.filter fun record =>
    !record.isDeleted && updated.all fun range => range.contains record.lastUpdatedUtc

def queryPage (updated : Option UpdatedRange) (startPosition maxResults : Nat) : ReadPage where
  entities := ((book.matching updated).drop startPosition).take maxResults
  serverTime := some book.clock

def feedEntry (record : EntityPayload) : EntityPayload :=
  if record.isDeleted && !book.statesToken record.qboId then { record with syncToken := "0" }
  else record

/-- The records that changed since a moment, as far back as the feed looks. -/
def changed (changedSince : Instant) : List EntityPayload :=
  (book.records.filter fun record =>
    decide (max changedSince (book.clock - cdcLookback) ≤ record.lastUpdatedUtc)).map
      book.feedEntry

def cdcPage (changedSince : Instant) : ReadPage where
  entities := (book.changed changedSince).take cdcCap
  serverTime := some book.clock

def answer : ReadRequest → ReadPage
  | .queryPage updated startPosition maxResults =>
    book.queryPage updated startPosition maxResults
  | .cdcPage changedSince => book.cdcPage changedSince

end BookOfRecord

/-! ### Syncs of one type -/

/-- The book of record, the replica and what the driver is doing. -/
structure Syncing where
  book : BookOfRecord
  store : Store
  activity : Activity

/-- What may happen next: the book of record changes, a sync is asked for at a
local time, the read under way is answered, or the driver is stopped: by a
refused budget, a failed request or the end of the process. -/
inductive SyncEvent where
  | edit (edit : Edit)
  | sync (now : Instant)
  | answer
  | interrupt

variable (options : SyncOptions) (readers : TextReaders) (entityType : EntityType)

def Syncing.outcome (state : Syncing) : Option (Except StoreError (Store × Activity)) :=
  (state.activity.request? options).map fun request =>
    answered options readers entityType state.store state.activity (state.book.answer request)

def step (event : SyncEvent) (state : Syncing) : Syncing :=
  match event, state.activity with
  | .edit change, _ => { state with book := state.book.edit change }
  | .sync now, .idle =>
    { state with activity := syncEntityType options entityType state.store now }
  | .sync _, _ => state
  | .answer, _ =>
    match state.outcome options readers entityType with
    | some (.ok (after, activity)) => { state with store := after, activity }
    | some (.error _) => { state with activity := .idle }
    | none => state
  | .interrupt, _ => { state with activity := .idle }

end Mirror

end QuickBooks
