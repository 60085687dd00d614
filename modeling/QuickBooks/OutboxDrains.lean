import QuickBooks.InterruptiblePrograms
import QuickBooks.MockQuickBooks

/-!
# Queueing writes and draining them

Queueing a change adds one row to the outbox.  A pass over the outbox returns
what it finds in flight to the queue, sends every record that may go in the
order of the identifiers, saves each outcome, and records the ids assigned to
what it created.
-/

/-!
## The outbox in its replica file and the book of record behind it

Every load, save and client call is one request.  A request is served, or fails
without effect, or takes effect with its answer lost.  The state of a record is
saved under its id whatever the row holds by then, and an assigned id is kept by
the first writer.

What the calls did to the book of record is noted beside the world; no program
reads the notes.
-/

namespace QuickBooks.Outbox

inductive StoreError where
  | sqlite (message : String)
  | corrupt (message : String)

def StoreError.text : StoreError → String
  | sqlite message => "sqlite error: " ++ message
  | corrupt message => "stored value is unreadable: " ++ message

/-- What the replica holds of a mirrored record. -/
structure MirroredVersion where
  syncToken : String
  isDeleted : Bool
deriving DecidableEq

/-- The tables of the replica that the outbox reads and writes. -/
structure Store where
  writeEnabled : List String
  outbox : List OutboxRecord
  localIdMap : IdMap
  entities : List (EntityKey × MirroredVersion)

def openStates : List OutboxState :=
  [.pending, .inFlight, .conflicted, .rejected]

namespace Store

variable (store : Store) (realm : String)

def outboxRecords (states : List OutboxState) : List OutboxRecord :=
  OutboxRecord.oldestFirst (store.outbox.filter fun record =>
    record.realmId = realm && states.contains record.state)

def outboxRecord (id : Nat) : Option OutboxRecord :=
  store.outbox.find? fun record => record.id = id

/-- The row of a record after a transition of it was saved. -/
def savedRow (record row : OutboxRecord) : OutboxRecord :=
  if row.id = record.id then
    { row with
      state := record.state
      attempts := record.attempts
      lastError := record.lastError
      updatedAt := record.updatedAt
      baseSyncToken := record.baseSyncToken }
  else row

def saveOutboxState (record : OutboxRecord) : Except StoreError Store :=
  if store.outbox.any fun row => row.id = record.id then
    .ok { store with outbox := store.outbox.map (savedRow record) }
  else
    .error (.corrupt ("outbox record " ++ toString record.id ++ " not found"))

/-- An id is written once. -/
def enqueue (record : OutboxRecord) : Except StoreError Store :=
  if store.outbox.any fun row => row.id = record.id then
    .error (.sqlite "UNIQUE constraint failed: outbox.id")
  else
    .ok { store with outbox := store.outbox ++ [record] }

def recordIdMapping (localEntityId qboId : String) : Store :=
  if (store.localIdMap.lookup (realm, localEntityId)).isSome then store
  else { store with
    localIdMap := store.localIdMap ++ [((realm, localEntityId), qboId)] }

def idMap : IdMap :=
  store.localIdMap.filter fun entry => entry.1.1 = realm

def resolveLocalId (localEntityId : String) : Option String :=
  store.localIdMap.lookup (realm, localEntityId)

def getEntity (entityType : EntityType) (qboId : String) : Option MirroredVersion :=
  store.entities.lookup (realm, entityType, qboId)

end Store

/-- What the programs of the write path ask for. -/
inductive Call where
  | newUuid
  | isWriteEnabled (realm : String)
  | outboxRecords (realm : String) (states : List OutboxState)
  | outboxRecord (id : Nat)
  | saveOutboxState (record : OutboxRecord)
  | enqueue (record : OutboxRecord)
  | idMap (realm : String)
  | recordIdMapping (realm localEntityId : String) (entityType : EntityType) (qboId : String)
      (now : Int)
  | resolveLocalId (realm localEntityId : String)
  | getEntity (realm : String) (entityType : EntityType) (qboId : String)
  | findByName (realm : String) (entityType : EntityType) (name : String)
  | create (realm : String) (entityType : EntityType) (payload : Json) (requestId : Nat)
  | update (realm : String) (entityType : EntityType) (qboId : String) (payload : Json)
      (baseSyncToken : String) (requestId : Nat)

/-- What is answered to a call. -/
def Answer : Call → Type
  | .newUuid => Nat
  | .isWriteEnabled _ => Except StoreError Bool
  | .outboxRecords _ _ => Except StoreError (List OutboxRecord)
  | .outboxRecord _ => Except StoreError (Option OutboxRecord)
  | .saveOutboxState _ => Except StoreError Unit
  | .enqueue _ => Except StoreError Unit
  | .idMap _ => Except StoreError IdMap
  | .recordIdMapping _ _ _ _ _ => Except StoreError Unit
  | .resolveLocalId _ _ => Except StoreError (Option String)
  | .getEntity _ _ _ => Except StoreError (Option MirroredVersion)
  | .findByName _ _ _ => Except QboError (Option EntityPayload)
  | .create _ _ _ _ => Except QboError EntityPayload
  | .update _ _ _ _ _ _ => Except QboError EntityPayload

/-- What the book of record answered to a request. -/
inductive Note where
  | created (requestId : Nat) (key : EntityKey)
  | updated (requestId : Nat) (key : EntityKey)
  | replayed (requestId : Nat) (key : EntityKey)
  | stale (requestId : Nat) (key : EntityKey)
  | found (key : EntityKey) (name : String)
  | failed (requestId : Nat) (error : QboError)

/-- The file and the book of record, with the notes of what was answered and of
the records whose state could not be saved. -/
structure World where
  store : Store
  quickBooks : MockQbo
  nextUuid : Nat
  notes : List Note
  unsaved : List Nat

/-- What becomes of a request. -/
inductive Fate where
  | served
  | unserved (error : QboError)
  | unanswered (error : QboError)

namespace World

variable (world : World)

/-- The world and the answer once the file has done its part. -/
def stored {α : Type} (outcome : Except StoreError (Store × α)) : World × Except StoreError α :=
  match outcome with
  | .ok (store, value) => ({ world with store }, .ok value)
  | .error error => (world, .error error)

def createInQuickBooks (realm : String) (entityType : EntityType) (payload : Json)
    (requestId : Nat) : World × Except QboError EntityPayload :=
  match world.quickBooks.create realm entityType payload requestId with
  | (quickBooks, .ok created) =>
    let key := (realm, entityType, created.qboId)
    ({ world with
        quickBooks
        notes :=
          (if quickBooks.nextId = world.quickBooks.nextId then .replayed requestId key
          else .created requestId key) :: world.notes },
      .ok created)
  | (quickBooks, .error error) => ({ world with quickBooks }, .error error)

def updateInQuickBooks (realm : String) (entityType : EntityType) (qboId : String)
    (payload : Json) (baseSyncToken : String) (requestId : Nat) :
    World × Except QboError EntityPayload :=
  match world.quickBooks.update realm entityType qboId payload baseSyncToken requestId with
  | (quickBooks, .ok updated) =>
    let key := (realm, entityType, updated.qboId)
    ({ world with
        quickBooks
        notes :=
          (if quickBooks.requestLog.length = world.quickBooks.requestLog.length then
            .replayed requestId key
          else .updated requestId key) :: world.notes },
      .ok updated)
  | (quickBooks, .error .staleSyncToken) =>
    ({ world with
        quickBooks, notes := .stale requestId (realm, entityType, qboId) :: world.notes },
      .error .staleSyncToken)
  | (quickBooks, .error error) => ({ world with quickBooks }, .error error)

def findInQuickBooks (realm : String) (entityType : EntityType) (name : String) :
    World × Except QboError (Option EntityPayload) :=
  match world.quickBooks.findByName realm entityType name with
  | some existing =>
    ({ world with notes := .found (realm, entityType, existing.qboId) name :: world.notes },
      .ok (some existing))
  | none => (world, .ok none)

/-- Serve a call that goes well. -/
def attend : (call : Call) → World × Answer call
  | .newUuid => ({ world with nextUuid := world.nextUuid + 1 }, world.nextUuid)
  | .isWriteEnabled realm => (world, .ok (world.store.writeEnabled.contains realm))
  | .outboxRecords realm states => (world, .ok (world.store.outboxRecords realm states))
  | .outboxRecord id => (world, .ok (world.store.outboxRecord id))
  | .saveOutboxState record =>
    world.stored ((world.store.saveOutboxState record).map fun store => (store, ()))
  | .enqueue record => world.stored ((world.store.enqueue record).map fun store => (store, ()))
  | .idMap realm => (world, .ok (world.store.idMap realm))
  | .recordIdMapping realm localEntityId _ qboId _ =>
    ({ world with store := world.store.recordIdMapping realm localEntityId qboId }, .ok ())
  | .resolveLocalId realm localEntityId =>
    (world, .ok (world.store.resolveLocalId realm localEntityId))
  | .getEntity realm entityType qboId =>
    (world, .ok (world.store.getEntity realm entityType qboId))
  | .findByName realm entityType name => world.findInQuickBooks realm entityType name
  | .create realm entityType payload requestId =>
    world.createInQuickBooks realm entityType payload requestId
  | .update realm entityType qboId payload baseSyncToken requestId =>
    world.updateInQuickBooks realm entityType qboId payload baseSyncToken requestId

/-- What is noted of a call that failed. -/
def missed (error : QboError) : Call → World
  | .saveOutboxState record => { world with unsaved := record.id :: world.unsaved }
  | .create _ _ _ requestId => { world with notes := .failed requestId error :: world.notes }
  | .update _ _ _ _ _ requestId =>
    { world with notes := .failed requestId error :: world.notes }
  | _ => world

end World

/-- The answer to a call that fails. -/
def failedAnswer (error : QboError) : (call : Call) → World → Answer call
  | .newUuid, world => world.nextUuid
  | .isWriteEnabled _, _ => .error (.sqlite error.text)
  | .outboxRecords _ _, _ => .error (.sqlite error.text)
  | .outboxRecord _, _ => .error (.sqlite error.text)
  | .saveOutboxState _, _ => .error (.sqlite error.text)
  | .enqueue _, _ => .error (.sqlite error.text)
  | .idMap _, _ => .error (.sqlite error.text)
  | .recordIdMapping _ _ _ _ _, _ => .error (.sqlite error.text)
  | .resolveLocalId _ _, _ => .error (.sqlite error.text)
  | .getEntity _ _ _, _ => .error (.sqlite error.text)
  | .findByName _ _ _, _ => .error error
  | .create _ _ _ _, _ => .error error
  | .update _ _ _ _ _ _, _ => .error error

def Call.isRemote : Call → Bool
  | .findByName _ _ _ | .create _ _ _ _ | .update _ _ _ _ _ _ => true
  | _ => false

/-- Serve a call by its fate: only a call to the book of record can take effect
with its answer lost, and an identifier is always minted. -/
def serve (fate : Fate) (call : Call) (world : World) : World × Answer call :=
  match fate, call with
  | .served, call => world.attend call
  | _, .newUuid => world.attend .newUuid
  | .unserved error, call => (world.missed error call, failedAnswer error call world)
  | .unanswered error, call =>
    ((if call.isRemote then (world.attend call).1 else world).missed error call,
      failedAnswer error call world)

end QuickBooks.Outbox

namespace QuickBooks.Outbox

open InterruptiblePrograms

inductive WriteError where
  | writesOff
  | store (error : StoreError)
  | outbox (error : OutboxError)
  | noSuchRecord (id : Nat)
  | invalid (message : String)

abbrev Writing := Process Call Answer WriteError

/-! ## The calls as programs -/

namespace Requests

def newUuid : Writing Nat :=
  Process.call Call.newUuid

def isWriteEnabled (realm : String) : Writing (Except StoreError Bool) :=
  Process.call (Call.isWriteEnabled realm)

def outboxRecords (realm : String) (states : List OutboxState) :
    Writing (Except StoreError (List OutboxRecord)) :=
  Process.call (Call.outboxRecords realm states)

def outboxRecord (id : Nat) : Writing (Except StoreError (Option OutboxRecord)) :=
  Process.call (Call.outboxRecord id)

def saveOutboxState (record : OutboxRecord) : Writing (Except StoreError Unit) :=
  Process.call (Call.saveOutboxState record)

def enqueue (record : OutboxRecord) : Writing (Except StoreError Unit) :=
  Process.call (Call.enqueue record)

def idMap (realm : String) : Writing (Except StoreError IdMap) :=
  Process.call (Call.idMap realm)

def recordIdMapping (realm localEntityId : String) (entityType : EntityType) (qboId : String)
    (now : Int) : Writing (Except StoreError Unit) :=
  Process.call (Call.recordIdMapping realm localEntityId entityType qboId now)

def resolveLocalId (realm localEntityId : String) :
    Writing (Except StoreError (Option String)) :=
  Process.call (Call.resolveLocalId realm localEntityId)

def getEntity (realm : String) (entityType : EntityType) (qboId : String) :
    Writing (Except StoreError (Option MirroredVersion)) :=
  Process.call (Call.getEntity realm entityType qboId)

def findByName (realm : String) (entityType : EntityType) (name : String) :
    Writing (Except QboError (Option EntityPayload)) :=
  Process.call (Call.findByName realm entityType name)

def create (realm : String) (entityType : EntityType) (payload : Json) (requestId : Nat) :
    Writing (Except QboError EntityPayload) :=
  Process.call (Call.create realm entityType payload requestId)

def update (realm : String) (entityType : EntityType) (qboId : String) (payload : Json)
    (baseSyncToken : String) (requestId : Nat) : Writing (Except QboError EntityPayload) :=
  Process.call (Call.update realm entityType qboId payload baseSyncToken requestId)

end Requests

def stored {α : Type} (outcome : Except StoreError α) : Writing α :=
  Process.expect .store outcome

def requireWrites (realm : String) : Writing Unit := do
  let enabled ← stored (← Requests.isWriteEnabled realm)
  Process.ensure enabled .writesOff

/-! ## One pass over the records -/

structure DrainReport where
  applied : Nat
  adopted : Nat
  conflicted : Nat
  rejected : Nat
  retried : Nat
  blocked : Nat
deriving DecidableEq

namespace OutboxRecord

def entityKey (record : OutboxRecord) : EntityKey :=
  (record.realmId, record.entityType, record.localEntityId)

end OutboxRecord

/-- What a pass knows when it comes to a record. -/
structure Sweep where
  states : List (Nat × OutboxState)
  blockedEntities : List EntityKey
  idMap : IdMap
  report : DrainReport
  drained : List OutboxRecord

namespace Sweep

variable (sweep : Sweep) (record : OutboxRecord)

/-- A record that is not to be sent: one that is still open holds back the
later ones of its entity. -/
def passedOver : Sweep :=
  { sweep with
    blockedEntities :=
      if record.state.isTerminal then sweep.blockedEntities
      else record.entityKey :: sweep.blockedEntities
    drained := sweep.drained ++ [record] }

def heldBack : Sweep :=
  { sweep with
    report := { sweep.report with blocked := sweep.report.blocked + 1 }
    blockedEntities := record.entityKey :: sweep.blockedEntities
    drained := sweep.drained ++ [record] }

def landed (qboId : String) (adopted : Bool) : Sweep :=
  { sweep with
    idMap := ((record.realmId, record.localEntityId), qboId) :: sweep.idMap
    states := (record.id, .applied) :: sweep.states
    report := { sweep.report with
      applied := sweep.report.applied + 1
      adopted := if adopted then sweep.report.adopted + 1 else sweep.report.adopted }
    drained := sweep.drained ++ [record] }

def failed : Sweep :=
  { sweep with
    states := (record.id, record.state) :: sweep.states
    report :=
      match record.state with
      | .conflicted => { sweep.report with conflicted := sweep.report.conflicted + 1 }
      | .rejected => { sweep.report with rejected := sweep.report.rejected + 1 }
      | _ => { sweep.report with retried := sweep.report.retried + 1 }
    blockedEntities := record.entityKey :: sweep.blockedEntities
    drained := sweep.drained ++ [record] }

/-- Whether what the record depends on was applied. -/
def dependencyApplied : Bool :=
  match record.dependsOn with
  | none => true
  | some parent => sweep.states.lookup parent = some .applied

end Sweep

/-- An attempt that the book of record answered. -/
structure Applied where
  qboId : String
  adopted : Bool

def createNow (record : OutboxRecord) (payload : Json) :
    Writing (Except QboError Applied) := do
  let created ← Requests.create record.realmId record.entityType payload record.requestId
  pure (created.map fun entity => { qboId := entity.qboId, adopted := false })

/-- Send one record.  A customer or an item of the same name is adopted. -/
def issue (idMap : IdMap) (record : OutboxRecord) (payload : Json) :
    Writing (Except QboError Applied) :=
  match record.operation with
  | .create =>
    match if record.needsQueryBeforeCreate then uniqueNameOf record.entityType payload
      else none with
    | some name => do
      match ← Requests.findByName record.realmId record.entityType name with
      | .error error => pure (.error error)
      | .ok (some existing) => pure (.ok { qboId := existing.qboId, adopted := true })
      | .ok none => createNow record payload
    | none => createNow record payload
  | .update => do
    let qboId := (idMap.lookup (record.realmId, record.localEntityId)).getD record.localEntityId
    let updated ← Requests.update record.realmId record.entityType qboId payload
      (record.baseSyncToken.getD "") record.requestId
    pure (updated.map fun entity => { qboId := entity.qboId, adopted := false })

def failureOf (error : QboError) : DrainFailure :=
  match error with
  | .staleSyncToken => .staleSyncToken
  | error => if error.isTransient then .transient error.text else .rejected error.text

/-- Send a record that was saved as in flight and save the outcome. -/
def attempt (now : Int) (sweep : Sweep) (begun : OutboxRecord) (payload : Json) :
    Writing Sweep := do
  match ← issue sweep.idMap begun payload with
  | .ok outcome =>
    let after := begun.changed (begun.markApplied now)
    let _ ← Requests.saveOutboxState after
    pure (sweep.landed after outcome.qboId outcome.adopted)
  | .error error =>
    let after := begun.changed (begun.markFailed now (failureOf error))
    let _ ← Requests.saveOutboxState after
    pure (sweep.failed after)

/-- One round of a pass.  A record is saved as in flight before it is sent, and
it is not sent where that fails. -/
def drainRecord (now : Int) (sweep : Sweep) (record : OutboxRecord) : Writing Sweep :=
  if !record.state.isDrainable then pure (sweep.passedOver record)
  else if !sweep.dependencyApplied record ||
      sweep.blockedEntities.contains record.entityKey then
    pure (sweep.heldBack record)
  else
    let (payload, resolved) := rewriteLocalIds record.realmId sweep.idMap record.payloadJson
    if !resolved then pure (sweep.heldBack record)
    else match record.beginAttempt now true with
      | .error _ => pure (sweep.heldBack record)
      | .ok begun => do
        match ← Requests.saveOutboxState begun with
        | .error error =>
          pure (sweep.heldBack (begun.changed
            (begun.markFailed now (.transient ("not sent: " ++ error.text)))))
        | .ok () => attempt now sweep begun payload

/-- One pass over the loaded records, oldest first. -/
def drainWith (now : Int) (idMap : IdMap) (records : List OutboxRecord) : Writing Sweep :=
  (OutboxRecord.oldestFirst records).foldlM (drainRecord now)
    { states := records.map fun record => (record.id, record.state)
      blockedEntities := []
      idMap
      report :=
        { applied := 0, adopted := 0, conflicted := 0, rejected := 0, retried := 0, blocked := 0 }
      drained := [] }

/-! ## A pass over the file -/

structure WriteReport where
  recovered : Nat
  drain : DrainReport
  landed : List (EntityType × String)

/-- Return a record that was left in flight to the queue. -/
def recover (now : Int) (recovered : List OutboxRecord × Nat) (record : OutboxRecord) :
    Writing (List OutboxRecord × Nat) :=
  match record.state with
  | .inFlight => do
    let pending ← Process.expect .outbox (record.recoverInFlight now)
    stored (← Requests.saveOutboxState pending)
    pure (recovered.1 ++ [pending], recovered.2 + 1)
  | _ => pure (recovered.1 ++ [record], recovered.2)

def landedParents (records : List OutboxRecord) : List Nat :=
  ((records.filterMap OutboxRecord.dependsOn).filter fun parent =>
    !(records.map OutboxRecord.id).contains parent).dedup

def loadParent (records : List OutboxRecord) (parent : Nat) : Writing (List OutboxRecord) := do
  match ← stored (← Requests.outboxRecord parent) with
  | some record => pure (records ++ [record])
  | none => pure records

/-- Record the id assigned to what landed in this pass. -/
def recordLanded (realm : String) (now : Int) (idMap : IdMap)
    (landed : List (EntityType × String)) (record : OutboxRecord) :
    Writing (List (EntityType × String)) := do
  let qboId := idMap.lookup (realm, record.localEntityId)
  match record.operation, qboId with
  | .create, some qboId =>
    stored (← Requests.recordIdMapping realm record.localEntityId record.entityType qboId now)
  | _, _ => pure ()
  pure (landed ++ [(record.entityType, qboId.getD record.localEntityId)])

/-- Load the open records and the parents they wait for. -/
def loadOpen (realm : String) (now : Int) : Writing (List OutboxRecord × Nat) := do
  requireWrites realm
  let «open» ← stored (← Requests.outboxRecords realm openStates)
  let recovered ← «open».foldlM (recover now) ([], 0)
  let records ← (landedParents recovered.1).foldlM loadParent recovered.1
  pure (records, recovered.2)

def landedNow (now : Int) (sweep : Sweep) : List OutboxRecord :=
  sweep.drained.filter fun record => record.state = .applied && record.updatedAt = now

/-- One pass: recover, drain, save every change of state and assigned id. -/
def drainOnce (realm : String) (now : Int) : Writing WriteReport := do
  let loaded ← loadOpen realm now
  let idMap ← stored (← Requests.idMap realm)
  let sweep ← drainWith now idMap loaded.1
  let landed ← (landedNow now sweep).foldlM (recordLanded realm now sweep.idMap) []
  pure { recovered := loaded.2, drain := sweep.report, landed }

/-! ## Queueing -/

/-- The create behind a local id that has no assigned id yet. -/
def parentOf (realm localId : String) : Writing (Option Nat) := do
  let assigned ← stored (← Requests.resolveLocalId realm localId)
  if assigned.isSome then pure none
  else
    let records ← stored (← Requests.outboxRecords realm openStates)
    match records.find? fun record =>
        record.operation == .create && record.localEntityId == localId with
    | some record => pure (some record.id)
    | none => .refused (.invalid (localId ++ " refers to nothing queued or synced"))

/-- The last parent in the order of the references is the one to depend on. -/
def lastParent (realm : String) (dependsOn : Option Nat) (reference : String) :
    Writing (Option Nat) := do
  let parent ← parentOf realm reference
  pure (parent.or dependsOn)

def sortedReferences (payload : Json) (localEntityId : String) : List String :=
  ((localReferences payload).dedup.filter (· ≠ localEntityId)).insertionSort (· ≤ ·)

def queue (realm : String) (entityType : EntityType) (operation : Operation)
    (localEntityId : String) (payload : Json) (baseSyncToken : Option String) (now : Int) :
    Writing OutboxRecord := do
  requireWrites realm
  let dependsOn ← (sortedReferences payload localEntityId).foldlM (lastParent realm) none
  let id ← Requests.newUuid
  let requestId ← Requests.newUuid
  let record : OutboxRecord :=
    { OutboxRecord.new
        { id, requestId, realmId := realm, entityType, operation, payloadJson := payload,
          localEntityId, baseSyncToken } now with
      dependsOn }
  stored (← Requests.enqueue record)
  pure record

def localIdOf (uuid : Nat) : String :=
  localIdPrefix ++ toString uuid

def queueCreate (realm : String) (entityType : EntityType) (payload : Json) (now : Int) :
    Writing OutboxRecord := do
  let uuid ← Requests.newUuid
  queue realm entityType .create (localIdOf uuid) payload none now

/-- Queue an update on the version that the replica holds now. -/
def queueUpdate (realm : String) (entityType : EntityType) (qboId : String) (payload : Json)
    (now : Int) : Writing OutboxRecord := do
  match ← stored (← Requests.getEntity realm entityType qboId) with
  | none => .refused (.invalid (entityType.asStr ++ " " ++ qboId ++ " is not in the replica"))
  | some entity =>
    if entity.isDeleted then
      .refused (.invalid (entityType.asStr ++ " " ++ qboId ++ " was deleted in QuickBooks"))
    else queue realm entityType .update qboId payload (some entity.syncToken) now

/-! ## The failure inbox -/

inductive Resolution where
  | retry
  | discard
deriving DecidableEq

/-- The version that a retried record is based on: a conflict moves an update
to the one the replica holds now. -/
def rebased (realm : String) (record : OutboxRecord) : Writing OutboxRecord :=
  if record.state = .conflicted ∧ record.operation = .update then do
    match ← stored (← Requests.getEntity realm record.entityType record.localEntityId) with
    | none => .refused (.invalid "the record is no longer in the replica")
    | some current =>
      if some current.syncToken = record.baseSyncToken then
        .refused (.invalid
          "the replica has not picked up the other edit yet; sync, look at it, then retry")
      else pure { record with baseSyncToken := some current.syncToken }
  else pure record

def resolveRecord (realm : String) (now : Int) (record : OutboxRecord) :
    Resolution → Writing OutboxRecord
  | .discard => Process.expect .outbox (record.discard now)
  | .retry => do
    requireWrites realm
    let record ← rebased realm record
    Process.expect .outbox (record.resolve now)

def resolve (realm : String) (id : Nat) (resolution : Resolution) (now : Int) :
    Writing OutboxRecord := do
  match ← stored (← Requests.outboxRecord id) with
  | none => .refused (.noSuchRecord id)
  | some record =>
    if record.realmId ≠ realm then .refused (.noSuchRecord id)
    else
      let resolved ← resolveRecord realm now record resolution
      stored (← Requests.saveOutboxState resolved)
      pure resolved

/-- The commands of the write path. -/
inductive Command where
  | queueCreate (realm : String) (entityType : EntityType) (payload : Json) (now : Int)
  | queueUpdate (realm : String) (entityType : EntityType) (qboId : String) (payload : Json)
      (now : Int)
  | resolve (realm : String) (id : Nat) (resolution : Resolution) (now : Int)
  | drainOnce (realm : String) (now : Int)

def Command.realm : Command → String
  | .queueCreate realm _ _ _ | .queueUpdate realm _ _ _ _ | .resolve realm _ _ _
  | .drainOnce realm _ => realm

def Command.drains : Command → Bool
  | .drainOnce _ _ => true
  | _ => false

def program : Command → Writing Unit
  | .queueCreate realm entityType payload now => do
    let _ ← queueCreate realm entityType payload now
  | .queueUpdate realm entityType qboId payload now => do
    let _ ← queueUpdate realm entityType qboId payload now
  | .resolve realm id resolution now => do
    let _ ← resolve realm id resolution now
  | .drainOnce realm now => do
    let _ ← drainOnce realm now

end QuickBooks.Outbox
