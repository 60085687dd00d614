import QuickBooks.OutboxDrains

/-!
# When the write path asks for a call

`Fit` states once, for each call, what holds whenever a program of the write
path asks for it: which row is saved in which state and why, which row is sent
with which payload, which id is mapped.  Everything proved about runs of the
outbox is derived from it and not from the programs.
-/

/-!
## Rows of the outbox under the calls of the write path

Saving the state of a record replaces the row of its id and leaves every other
row.  A call to the book of record leaves the file as it is and only adds to the
notes; these facts are all that the proofs about passes use of the calls.
-/

namespace QuickBooks.Outbox

open InterruptiblePrograms

/-! ## Saved rows -/

/-- Two copies of one queued change, perhaps in different states. -/
def SameRequest (first second : OutboxRecord) : Prop :=
  first.id = second.id ∧ first.realmId = second.realmId ∧
    first.entityType = second.entityType ∧ first.operation = second.operation ∧
    first.payloadJson = second.payloadJson ∧ first.localEntityId = second.localEntityId ∧
    first.requestId = second.requestId ∧ first.dependsOn = second.dependsOn ∧
    first.createdAt = second.createdAt

namespace SameRequest

variable {first second third : OutboxRecord}

@[simp]
theorem refl (record : OutboxRecord) : SameRequest record record := by
  simp [SameRequest]

theorem symm (same : SameRequest first second) : SameRequest second first := by
  simpa [SameRequest, eq_comm] using same

theorem trans (same : SameRequest first second) (other : SameRequest second third) :
    SameRequest first third := by
  unfold SameRequest at *
  simp only [same, other, and_self]

theorem id_eq (same : SameRequest first second) : first.id = second.id :=
  same.1

theorem realmId_eq (same : SameRequest first second) : first.realmId = second.realmId :=
  same.2.1

theorem entityType_eq (same : SameRequest first second) :
    first.entityType = second.entityType :=
  same.2.2.1

theorem operation_eq (same : SameRequest first second) : first.operation = second.operation :=
  same.2.2.2.1

theorem payloadJson_eq (same : SameRequest first second) :
    first.payloadJson = second.payloadJson :=
  same.2.2.2.2.1

theorem localEntityId_eq (same : SameRequest first second) :
    first.localEntityId = second.localEntityId :=
  same.2.2.2.2.2.1

theorem requestId_eq (same : SameRequest first second) : first.requestId = second.requestId :=
  same.2.2.2.2.2.2.1

theorem dependsOn_eq (same : SameRequest first second) : first.dependsOn = second.dependsOn :=
  same.2.2.2.2.2.2.2.1

theorem entityKey_eq (same : SameRequest first second) : first.entityKey = second.entityKey := by
  simp only [OutboxRecord.entityKey, same.realmId_eq, same.entityType_eq, same.localEntityId_eq]

end SameRequest

theorem savedRow_eq {record row : OutboxRecord} (same : SameRequest row record) :
    Store.savedRow record row = record := by
  obtain ⟨id, realm, type, operation, payload, localId, request, parent, made⟩ := same
  cases record
  cases row
  simp_all [Store.savedRow]

theorem savedRow_of_ne {record row : OutboxRecord} (different : row.id ≠ record.id) :
    Store.savedRow record row = row :=
  if_neg different

theorem sameRequest_savedRow (record row : OutboxRecord) :
    SameRequest (Store.savedRow record row) row := by
  unfold Store.savedRow
  split_ifs <;> simp [SameRequest]

namespace OutboxRecord

variable {record after : OutboxRecord} {now : Int}

theorem transition_spec {next : OutboxState} (moved : record.transition now next = .ok after) :
    record.state.canTransitionTo next = true ∧
      after = { record with state := next, updatedAt := now } := by
  unfold transition at moved
  split_ifs at moved with permitted
  exact ⟨permitted, (Except.ok.inj moved).symm⟩

/-- What a transition leaves of a record. -/
structure Moved (record : OutboxRecord) (next : OutboxState) (now : Int)
    (after : OutboxRecord) : Prop where
  same : SameRequest record after
  state_eq : after.state = next
  updatedAt_eq : after.updatedAt = now
  sameBase : after.baseSyncToken = record.baseSyncToken

variable (now)

theorem exists_beginAttempt (pending : record.state = .pending) :
    ∃ begun, record.beginAttempt now true = .ok begun ∧ record.Moved .inFlight now begun := by
  refine ⟨{ record with
    state := .inFlight, updatedAt := now, attempts := record.attempts + 1 }, ?_, ?_⟩
  · simp [beginAttempt, transition, pending, OutboxState.canTransitionTo, bind, Except.bind,
      pure, Except.pure]
  · exact ⟨by simp [SameRequest], rfl, rfl, rfl⟩

theorem moved_markApplied (inFlight : record.state = .inFlight) :
    record.Moved .applied now (record.changed (record.markApplied now)) := by
  have marked : record.changed (record.markApplied now) =
      { record with lastError := none, state := .applied, updatedAt := now } := by
    simp [markApplied, transition, inFlight, OutboxState.canTransitionTo, changed]
  rw [marked]
  exact ⟨by simp [SameRequest], rfl, rfl, rfl⟩

theorem moved_markFailed (inFlight : record.state = .inFlight) (failure : DrainFailure) :
    record.Moved (record.stateAfter failure) now
      (record.changed (record.markFailed now failure)) := by
  have permitted : OutboxState.inFlight.canTransitionTo (record.stateAfter failure) = true := by
    cases failure with
    | transient message => unfold stateAfter; split_ifs <;> rfl
    | staleSyncToken => rfl
    | rejected message => rfl
  have marked : record.changed (record.markFailed now failure) =
      { record with
        lastError := some (errorText failure), state := record.stateAfter failure,
        updatedAt := now } := by
    simp only [markFailed, transition, inFlight, permitted, if_true, changed]
  rw [marked]
  exact ⟨by simp [SameRequest], rfl, rfl, rfl⟩

theorem isTerminal_stateAfter (failure : DrainFailure) :
    (record.stateAfter failure).isTerminal = false := by
  cases failure with
  | transient message => unfold stateAfter; split_ifs <;> rfl
  | staleSyncToken => rfl
  | rejected message => rfl

end OutboxRecord

/-! ## Tables with distinct identifiers -/

section Tables

variable {outbox : List OutboxRecord} {record row other : OutboxRecord}

def Revises (outbox : List OutboxRecord) (record : OutboxRecord) : Prop :=
  ∃ row ∈ outbox, SameRequest row record

theorem eq_of_id_eq (distinct : (outbox.map OutboxRecord.id).Nodup) (rowMem : row ∈ outbox)
    (otherMem : other ∈ outbox) (same : row.id = other.id) : row = other :=
  List.inj_on_of_nodup_map distinct rowMem otherMem same

theorem Revises.sameRequest (distinct : (outbox.map OutboxRecord.id).Nodup)
    (revises : Revises outbox record) (rowMem : row ∈ outbox) (same : row.id = record.id) :
    SameRequest row record := by
  obtain ⟨held, heldMem, heldSame⟩ := revises
  rw [eq_of_id_eq distinct rowMem heldMem (same.trans heldSame.id_eq.symm)]
  exact heldSame

theorem mem_map_savedRow (distinct : (outbox.map OutboxRecord.id).Nodup)
    (revises : Revises outbox record) :
    row ∈ outbox.map (Store.savedRow record) ↔
      row = record ∨ row ∈ outbox ∧ row.id ≠ record.id := by
  rw [List.mem_map]
  constructor
  · rintro ⟨held, heldMem, rfl⟩
    by_cases same : held.id = record.id
    · exact .inl (savedRow_eq (revises.sameRequest distinct heldMem same))
    · rw [savedRow_of_ne same]
      exact .inr ⟨heldMem, same⟩
  · rintro (rfl | ⟨rowMem, different⟩)
    · obtain ⟨held, heldMem, same⟩ := revises
      exact ⟨held, heldMem, savedRow_eq same⟩
    · exact ⟨row, rowMem, savedRow_of_ne different⟩

theorem map_id_savedRow :
    (outbox.map (Store.savedRow record)).map OutboxRecord.id =
      outbox.map OutboxRecord.id := by
  rw [List.map_map]
  exact List.map_congr_left fun held _ => (sameRequest_savedRow record held).id_eq

theorem map_requestId_savedRow :
    (outbox.map (Store.savedRow record)).map OutboxRecord.requestId =
      outbox.map OutboxRecord.requestId := by
  rw [List.map_map]
  exact List.map_congr_left fun held _ => (sameRequest_savedRow record held).requestId_eq

end Tables

namespace Store

variable {store : Store}

theorem saveOutboxState_of_revises {record : OutboxRecord}
    (revises : Revises store.outbox record) :
    store.saveOutboxState record =
      .ok { store with outbox := store.outbox.map (savedRow record) } := by
  obtain ⟨row, rowMem, same⟩ := revises
  have found : (store.outbox.any fun row => row.id = record.id) = true :=
    List.any_eq_true.mpr ⟨row, rowMem, by simpa using same.id_eq⟩
  rw [saveOutboxState, if_pos found]

theorem mem_outboxRecords {realm : String} {states : List OutboxState} {record : OutboxRecord} :
    record ∈ store.outboxRecords realm states ↔
      record ∈ store.outbox ∧ record.realmId = realm ∧ record.state ∈ states := by
  simp [outboxRecords]

theorem mem_openStates {state : OutboxState} :
    state ∈ openStates ↔ state.isTerminal = false := by
  cases state <;> simp [openStates, OutboxState.isTerminal]

theorem outboxRecord_eq_some {id : Nat} {record : OutboxRecord}
    (found : store.outboxRecord id = some record) :
    record ∈ store.outbox ∧ record.id = id := by
  unfold outboxRecord at found
  exact ⟨List.mem_of_find?_eq_some found, by simpa using List.find?_some found⟩

end Store

/-! ## What a call leaves as it was -/

def OnlyNotes (before after : World) : Prop :=
  after.store = before.store ∧ after.unsaved = before.unsaved ∧
    after.nextUuid = before.nextUuid ∧ ∀ note ∈ before.notes, note ∈ after.notes

theorem onlyNotes_refl (world : World) : OnlyNotes world world :=
  ⟨rfl, rfl, rfl, fun _ noteMem => noteMem⟩

theorem OnlyNotes.trans {first second third : World} (earlier : OnlyNotes first second)
    (later : OnlyNotes second third) : OnlyNotes first third :=
  ⟨later.1.trans earlier.1, later.2.1.trans earlier.2.1, later.2.2.1.trans earlier.2.2.1,
    fun note noteMem => later.2.2.2 note (earlier.2.2.2 note noteMem)⟩

section Remote

variable (world : World)

theorem onlyNotes_createInQuickBooks (realm : String) (entityType : EntityType)
    (payload : Json) (requestId : Nat) :
    OnlyNotes world (world.createInQuickBooks realm entityType payload requestId).1 := by
  unfold World.createInQuickBooks
  rcases world.quickBooks.create realm entityType payload requestId with ⟨quickBooks, _ | created⟩
  · exact onlyNotes_refl _
  · exact ⟨rfl, rfl, rfl, fun note noteMem => List.mem_cons_of_mem _ noteMem⟩

theorem onlyNotes_updateInQuickBooks (realm : String) (entityType : EntityType)
    (qboId : String) (payload : Json) (baseSyncToken : String) (requestId : Nat) :
    OnlyNotes world
      (world.updateInQuickBooks realm entityType qboId payload baseSyncToken requestId).1 := by
  unfold World.updateInQuickBooks
  rcases world.quickBooks.update realm entityType qboId payload baseSyncToken requestId with
    ⟨quickBooks, error | updated⟩
  · cases error with
    | staleSyncToken =>
      exact ⟨rfl, rfl, rfl, fun note noteMem => List.mem_cons_of_mem _ noteMem⟩
    | _ => exact onlyNotes_refl _
  · exact ⟨rfl, rfl, rfl, fun note noteMem => List.mem_cons_of_mem _ noteMem⟩

theorem onlyNotes_findInQuickBooks (realm : String) (entityType : EntityType)
    (name : String) :
    OnlyNotes world (world.findInQuickBooks realm entityType name).1 := by
  unfold World.findInQuickBooks
  cases world.quickBooks.findByName realm entityType name with
  | none => exact onlyNotes_refl _
  | some existing => exact ⟨rfl, rfl, rfl, fun note noteMem => List.mem_cons_of_mem _ noteMem⟩

theorem onlyNotes_serve (fate : Fate) {call : Call} (remote : call.isRemote = true) :
    OnlyNotes world (serve fate call world).1 := by
  have attended : OnlyNotes world (world.attend call).1 := by
    cases call with
    | findByName realm entityType name => exact onlyNotes_findInQuickBooks world _ _ _
    | create realm entityType payload requestId =>
      exact onlyNotes_createInQuickBooks world _ _ _ _
    | update realm entityType qboId payload baseSyncToken requestId =>
      exact onlyNotes_updateInQuickBooks world _ _ _ _ _ _
    | _ => simp [Call.isRemote] at remote
  have missedOnlyNotes : ∀ (error : QboError) (middle : World),
      OnlyNotes middle (middle.missed error call) := by
    intro error middle
    cases call with
    | findByName realm entityType name => exact onlyNotes_refl _
    | create realm entityType payload requestId =>
      exact ⟨rfl, rfl, rfl, fun note noteMem => List.mem_cons_of_mem _ noteMem⟩
    | update realm entityType qboId payload baseSyncToken requestId =>
      exact ⟨rfl, rfl, rfl, fun note noteMem => List.mem_cons_of_mem _ noteMem⟩
    | _ => simp [Call.isRemote] at remote
  cases fate with
  | served => exact attended
  | unserved error =>
    cases call with
    | newUuid => simp [Call.isRemote] at remote
    | _ => exact missedOnlyNotes error world
  | unanswered error =>
    cases call with
    | newUuid => simp [Call.isRemote] at remote
    | findByName realm entityType name =>
      exact attended.trans (missedOnlyNotes error _)
    | create realm entityType payload requestId =>
      exact attended.trans (missedOnlyNotes error _)
    | update realm entityType qboId payload baseSyncToken requestId =>
      exact attended.trans (missedOnlyNotes error _)
    | _ => simp [Call.isRemote] at remote

end Remote

end QuickBooks.Outbox

namespace QuickBooks.Outbox

open InterruptiblePrograms

/-- Identifiers are distinct and were all minted before. -/
structure Sound (world : World) : Prop where
  distinctIds : (world.store.outbox.map OutboxRecord.id).Nodup
  distinctRequests : (world.store.outbox.map OutboxRecord.requestId).Nodup
  mintedIds : ∀ row ∈ world.store.outbox, row.id < world.nextUuid
  mintedRequests : ∀ row ∈ world.store.outbox, row.requestId < world.nextUuid
  mintedLog : ∀ entry ∈ world.quickBooks.requestLog, entry.1.2 < world.nextUuid

/-- The note tells the id that a record has in the book of record. -/
def Note.Names (record : OutboxRecord) (qboId : String) : Note → Prop
  | .created requestId key | .updated requestId key | .replayed requestId key =>
    requestId = record.requestId ∧ key = (record.realmId, record.entityType, qboId)
  | .found key name =>
    record.operation = .create ∧ requiresQueryBeforeCreate record.entityType = true ∧
      key = (record.realmId, record.entityType, qboId) ∧
      ∃ idMap, uniqueNameOf record.entityType
        (rewriteLocalIds record.realmId idMap record.payloadJson).1 = some name
  | _ => False

def Acknowledged (world : World) (record : OutboxRecord) (qboId : String) : Prop :=
  ∃ note ∈ world.notes, note.Names record qboId

def FoundStale (world : World) (record : OutboxRecord) : Prop :=
  (∃ qboId, .stale record.requestId (record.realmId, record.entityType, qboId) ∈ world.notes) ∨
    .failed record.requestId .staleSyncToken ∈ world.notes

/-- Where an entry of an id map comes from. -/
def Assigned (world : World) (key : String × String) (qboId : String) : Prop :=
  (key, qboId) ∈ world.store.localIdMap ∨
    ∃ row ∈ world.store.outbox, (row.realmId, row.localEntityId) = key ∧
      Acknowledged world row qboId

/-- Every record depends on records of its own company only. -/
def SameRealmParents (outbox : List OutboxRecord) : Prop :=
  ∀ row ∈ outbox, ∀ parent ∈ outbox, row.dependsOn = some parent.id →
    row.state.isTerminal = false → parent.state.isTerminal = false →
    parent.realmId = row.realmId

/-- Why a row is saved in another state. -/
inductive SavesAs (command : Command) (before now : World) (row record : OutboxRecord) : Prop
  | recovered (drains : command.drains = true) (inFlight : row.state = .inFlight)
      (pending : record.state = .pending)
      (sameBase : record.baseSyncToken = row.baseSyncToken)
  | begun (drains : command.drains = true) (pending : row.state = .pending)
      (inFlight : record.state = .inFlight)
      (sameBase : record.baseSyncToken = row.baseSyncToken)
  | applied (drains : command.drains = true) (inFlight : row.state = .inFlight)
      (applied : record.state = .applied)
      (sameBase : record.baseSyncToken = row.baseSyncToken)
      (acknowledged : ∃ qboId, Acknowledged now row qboId)
      (inRealm : SameRealmParents before.store.outbox → row.realmId = command.realm)
  | failed (drains : command.drains = true) (inFlight : row.state = .inFlight)
      (failure : record.state = .pending ∨ record.state = .conflicted ∨
        record.state = .rejected)
      (sameBase : record.baseSyncToken = row.baseSyncToken)
      (stale : record.state = .conflicted → row.operation = .update → FoundStale now row)
  | retried (realm : String) (time : Int) (isRetry : command = .resolve realm row.id .retry time)
      (rowMem : row ∈ before.store.outbox)
      (stopped : row.state = .inFlight ∨ row.state.needsAttention = true)
      (pending : record.state = .pending)
      (base : record.baseSyncToken = row.baseSyncToken ∨
        ∃ current, before.store.getEntity row.realmId row.entityType row.localEntityId =
          some current ∧ record.baseSyncToken = some current.syncToken)
  | discarded (realm : String) (time : Int)
      (isDiscard : command = .resolve realm row.id .discard time)
      (rowMem : row ∈ before.store.outbox) (attention : row.state.needsAttention = true)
      (discarded : record.state = .discarded)
      (sameBase : record.baseSyncToken = row.baseSyncToken)

/-- What a queued record is made of. -/
structure Queued (before : World) (record : OutboxRecord) : Prop where
  pending : record.state = .pending
  references : ∀ reference ∈ localReferences record.payloadJson,
    reference ≠ record.localEntityId →
      (before.store.localIdMap.lookup (record.realmId, reference)).isSome ∨
        ∃ parent ∈ before.store.outbox, parent.realmId = record.realmId ∧
          parent.state.isTerminal = false ∧ parent.operation = .create ∧
          parent.localEntityId = reference
  parent : ∀ id, record.dependsOn = some id →
    ∃ parent ∈ before.store.outbox, parent.id = id ∧ parent.realmId = record.realmId ∧
      parent.state.isTerminal = false ∧ parent.operation = .create
  target : match record.operation with
    | .create => record.baseSyncToken = none ∧ ∃ uuid, before.nextUuid ≤ uuid ∧
        uuid < record.id ∧ record.localEntityId = localIdOf uuid
    | .update => ∃ version,
        before.store.getEntity record.realmId record.entityType record.localEntityId =
          some version ∧ version.isDeleted = false ∧
          record.baseSyncToken = some version.syncToken

/-- The command queues the record. -/
def Command.Queues (record : OutboxRecord) : Command → Prop
  | .queueCreate realm entityType payload _ =>
    record.operation = .create ∧ record.realmId = realm ∧ record.entityType = entityType ∧
      record.payloadJson = payload
  | .queueUpdate realm entityType qboId payload _ =>
    record.operation = .update ∧ record.realmId = realm ∧ record.entityType = entityType ∧
      record.localEntityId = qboId ∧ record.payloadJson = payload
  | _ => False

def EarlierOver (world : World) (row : OutboxRecord) : Prop :=
  ∀ other ∈ world.store.outbox, other.entityKey = row.entityKey → other.id < row.id →
    other.state.isTerminal = true ∨ other.id ∈ world.unsaved

/-- What a row depends on was applied. -/
def ParentApplied (world : World) (row : OutboxRecord) : Prop :=
  ∀ id, row.dependsOn = some id →
    ∃ parent ∈ world.store.outbox, parent.id = id ∧
      (parent.state = .applied ∨ id ∈ world.unsaved)

def OutboxState.mayBeSent : OutboxState → Bool
  | .pending | .inFlight => true
  | _ => false

theorem OutboxState.isTerminal_of_mayBeSent {state : OutboxState}
    (waits : state.mayBeSent = true) : state.isTerminal = false := by
  cases state <;> first | rfl | exact nomatch waits

def WaitedBefore (before now : World) : Prop :=
  ∀ row ∈ now.store.outbox, row.state.mayBeSent = true →
    ∃ held ∈ before.store.outbox, SameRequest held row ∧ held.state.mayBeSent = true

/-- A row that is sent, and the ids known at that moment. -/
structure Sending (before now : World) (row : OutboxRecord) (idMap : IdMap)
    (payload : Json) : Prop where
  rowMem : row ∈ now.store.outbox
  inFlight : row.state = .inFlight
  waited : ∃ held ∈ before.store.outbox, SameRequest held row ∧ held.state.mayBeSent = true
  rewritten : rewriteLocalIds row.realmId idMap row.payloadJson = (payload, true)
  assigned : ∀ entry ∈ idMap, Assigned now entry.1 entry.2
  earlierOver : SameRealmParents before.store.outbox → EarlierOver now row
  parentApplied : ParentApplied now row
  target : SameRealmParents before.store.outbox →
    (idMap.lookup (row.realmId, row.localEntityId)).isSome ∨
      before.store.localIdMap.lookup (row.realmId, row.localEntityId) = none ∧
        ∀ other ∈ before.store.outbox, other.entityKey = row.entityKey → other.id < row.id →
          other.state.isTerminal = true

/-- What holds when a program that was started in one world asks for a call in
another. -/
def Fit (command : Command) (before : World) : Call → World → Prop
  | .saveOutboxState record, now =>
    ∃ row ∈ now.store.outbox, SameRequest row record ∧ SavesAs command before now row record
  | .enqueue record, now =>
    command.Queues record ∧ now.store = before.store ∧ now.quickBooks = before.quickBooks ∧
      now.notes = before.notes ∧
      before.nextUuid ≤ record.id ∧ record.id < record.requestId ∧
      record.requestId < now.nextUuid ∧ Queued before record
  | .recordIdMapping realm localEntityId _ qboId _, now =>
    Assigned now (realm, localEntityId) qboId
  | .findByName realm entityType name, now =>
    command.drains = true ∧ ∃ row idMap payload, Sending before now row idMap payload ∧
      row.realmId = realm ∧ row.entityType = entityType ∧ row.operation = .create ∧
      uniqueNameOf entityType payload = some name ∧
      (SameRealmParents before.store.outbox → realm = command.realm)
  | .create realm entityType payload requestId, now =>
    command.drains = true ∧ ∃ row idMap, Sending before now row idMap payload ∧
      row.realmId = realm ∧ row.entityType = entityType ∧ row.operation = .create ∧
      row.requestId = requestId ∧
      (SameRealmParents before.store.outbox → realm = command.realm)
  | .update realm entityType qboId payload baseSyncToken requestId, now =>
    command.drains = true ∧ ∃ row idMap, Sending before now row idMap payload ∧
      row.realmId = realm ∧ row.entityType = entityType ∧ row.operation = .update ∧
      row.requestId = requestId ∧
      qboId = (idMap.lookup (row.realmId, row.localEntityId)).getD row.localEntityId ∧
      baseSyncToken = row.baseSyncToken.getD "" ∧
      (SameRealmParents before.store.outbox → realm = command.realm)
  | _, _ => True

def CommandFit (command : Command) (before : World) (call : Call) (now : World) : Prop :=
  Sound now ∧ Fit command before call now

/-! ## Notes only grow -/

section Notes

variable {before after : World} {record other : OutboxRecord} {qboId : String}

theorem Note.Names.of_sameRequest (same : SameRequest record other) {note : Note}
    (names : note.Names record qboId) : note.Names other qboId := by
  cases note with
  | created requestId key | updated requestId key | replayed requestId key =>
    simpa only [Note.Names, same.requestId_eq, same.realmId_eq, same.entityType_eq]
      using names
  | found key name =>
    simpa only [Note.Names, same.operation_eq, same.realmId_eq, same.entityType_eq,
      same.payloadJson_eq] using names
  | stale requestId key => exact names
  | failed requestId error => exact names

theorem Acknowledged.of_sameRequest (same : SameRequest record other)
    (acknowledged : Acknowledged before record qboId) : Acknowledged before other qboId := by
  obtain ⟨note, noteMem, names⟩ := acknowledged
  exact ⟨note, noteMem, names.of_sameRequest same⟩

theorem Acknowledged.mono (grows : ∀ note ∈ before.notes, note ∈ after.notes)
    (acknowledged : Acknowledged before record qboId) : Acknowledged after record qboId := by
  obtain ⟨note, noteMem, names⟩ := acknowledged
  exact ⟨note, grows note noteMem, names⟩

end Notes

/-! ## Saving a copy of a row -/

/-- What a save of a copy of a row comes to: the row is replaced, or the save
failed and is noted. -/
inductive Saved (before : World) (record : OutboxRecord) (after : World) : Prop
  | done (same : after = { before with
      store := { before.store with
        outbox := before.store.outbox.map (Store.savedRow record) } })
  | failed (same : after = { before with unsaved := record.id :: before.unsaved })

theorem serve_saveOutboxState_served {world : World} {record : OutboxRecord}
    (revises : Revises world.store.outbox record) :
    serve .served (.saveOutboxState record) world =
      ({ world with
        store := { world.store with
          outbox := world.store.outbox.map (Store.savedRow record) } }, Except.ok ()) := by
  simp only [serve, World.attend, Store.saveOutboxState_of_revises revises, Except.map,
    World.stored]
  rfl

theorem serve_saveOutboxState {world : World} {record : OutboxRecord}
    (revises : Revises world.store.outbox record) (fate : Fate) :
    serve fate (.saveOutboxState record) world =
        ({ world with
          store := { world.store with
            outbox := world.store.outbox.map (Store.savedRow record) } }, Except.ok ()) ∨
      ∃ error : StoreError, serve fate (.saveOutboxState record) world =
        ({ world with unsaved := record.id :: world.unsaved }, Except.error error) := by
  cases fate with
  | served => exact .inl (serve_saveOutboxState_served revises)
  | unserved error => exact .inr ⟨_, rfl⟩
  | unanswered error => exact .inr ⟨_, rfl⟩

theorem saved_serve {world : World} {record : OutboxRecord}
    (revises : Revises world.store.outbox record) (fate : Fate) :
    Saved world record (serve fate (.saveOutboxState record) world).1 := by
  rcases serve_saveOutboxState revises fate with done | ⟨error, failed⟩
  · rw [done]
    exact .done rfl
  · rw [failed]
    exact .failed rfl

namespace Saved

variable {before after : World} {record row : OutboxRecord}

theorem notes_eq (saved : Saved before record after) : after.notes = before.notes := by
  cases saved with
  | done same => rw [same]
  | failed same => rw [same]

theorem localIdMap_eq (saved : Saved before record after) :
    after.store.localIdMap = before.store.localIdMap := by
  cases saved with
  | done same => rw [same]
  | failed same => rw [same]

theorem unsaved_mono (saved : Saved before record after) {id : Nat}
    (unsaved : id ∈ before.unsaved) : id ∈ after.unsaved := by
  cases saved with
  | done same => rw [same]; exact unsaved
  | failed same => rw [same]; exact List.mem_cons_of_mem _ unsaved

theorem mem_or_unsaved (saved : Saved before record after)
    (revises : Revises before.store.outbox record) :
    record ∈ after.store.outbox ∨ record.id ∈ after.unsaved := by
  cases saved with
  | done same =>
    rw [same]
    obtain ⟨held, heldMem, heldSame⟩ := revises
    exact .inl (List.mem_map.mpr ⟨held, heldMem, savedRow_eq heldSame⟩)
  | failed same => rw [same]; exact .inr List.mem_cons_self

theorem mem_of_ne (saved : Saved before record after) (rowMem : row ∈ before.store.outbox)
    (different : row.id ≠ record.id) : row ∈ after.store.outbox := by
  cases saved with
  | done same =>
    rw [same]
    exact List.mem_map.mpr ⟨row, rowMem, savedRow_of_ne different⟩
  | failed same => rw [same]; exact rowMem

/-- Where a row comes from: it is the saved copy, or it was there and is of
another id, or it was there and the save failed. -/
theorem mem_cases (saved : Saved before record after)
    (distinct : (before.store.outbox.map OutboxRecord.id).Nodup)
    (revises : Revises before.store.outbox record) (rowMem : row ∈ after.store.outbox) :
    row = record ∨ row ∈ before.store.outbox ∧
      (row.id ≠ record.id ∨ record.id ∈ after.unsaved) := by
  cases saved with
  | done same =>
    rw [same] at rowMem
    rcases (mem_map_savedRow distinct revises).mp rowMem with isRecord | ⟨old, different⟩
    · exact .inl isRecord
    · exact .inr ⟨old, .inl different⟩
  | failed same =>
    rw [same] at rowMem ⊢
    exact .inr ⟨rowMem, .inr List.mem_cons_self⟩

theorem exists_sameRequest (saved : Saved before record after)
    (rowMem : row ∈ before.store.outbox) :
    ∃ kept ∈ after.store.outbox, SameRequest row kept := by
  cases saved with
  | done same =>
    rw [same]
    exact ⟨_, List.mem_map_of_mem rowMem, (sameRequest_savedRow record row).symm⟩
  | failed same => rw [same]; exact ⟨row, rowMem, .refl row⟩

theorem exists_sameRequest_before (saved : Saved before record after)
    (rowMem : row ∈ after.store.outbox) :
    ∃ held ∈ before.store.outbox, SameRequest held row := by
  cases saved with
  | done same =>
    rw [same] at rowMem
    obtain ⟨held, heldMem, rfl⟩ := List.mem_map.mp rowMem
    exact ⟨held, heldMem, (sameRequest_savedRow record held).symm⟩
  | failed same => rw [same] at rowMem; exact ⟨row, rowMem, .refl row⟩

theorem sound (saved : Saved before record after) (sound : Sound before) : Sound after := by
  have mintedRows : ∀ row ∈ after.store.outbox,
      row.id < before.nextUuid ∧ row.requestId < before.nextUuid := by
    intro row rowMem
    obtain ⟨held, heldMem, same⟩ := saved.exists_sameRequest_before rowMem
    rw [← same.id_eq, ← same.requestId_eq]
    exact ⟨sound.mintedIds held heldMem, sound.mintedRequests held heldMem⟩
  cases saved with
  | done same =>
    subst same
    refine ⟨?_, ?_, fun row rowMem => (mintedRows row rowMem).1,
      fun row rowMem => (mintedRows row rowMem).2, sound.mintedLog⟩
    · rw [map_id_savedRow]
      exact sound.distinctIds
    · rw [map_requestId_savedRow]
      exact sound.distinctRequests
  | failed same =>
    subst same
    exact ⟨sound.distinctIds, sound.distinctRequests, sound.mintedIds,
      sound.mintedRequests, sound.mintedLog⟩

theorem assigned (saved : Saved before record after) {key : String × String}
    {qboId : String} (assigned : Assigned before key qboId) : Assigned after key qboId := by
  rcases assigned with stored | ⟨row, rowMem, sameKey, acknowledged⟩
  · exact .inl (saved.localIdMap_eq ▸ stored)
  · obtain ⟨kept, keptMem, same⟩ := saved.exists_sameRequest rowMem
    refine .inr ⟨kept, keptMem, ?_, ?_⟩
    · rw [← same.realmId_eq, ← same.localEntityId_eq]
      exact sameKey
    · exact (acknowledged.of_sameRequest same).mono (saved.notes_eq ▸ fun _ noteMem => noteMem)

theorem waitedBefore {start : World} (saved : Saved before record after)
    (distinct : (before.store.outbox.map OutboxRecord.id).Nodup)
    (rowMem : row ∈ before.store.outbox) (same : SameRequest row record)
    (waits : record.state.mayBeSent = true → row.state.mayBeSent = true)
    (waited : WaitedBefore start before) : WaitedBefore start after := by
  intro other otherMem otherWaits
  rcases saved.mem_cases distinct ⟨row, rowMem, same⟩ otherMem with rfl | ⟨old, -⟩
  · obtain ⟨held, heldMem, heldSame, heldWaits⟩ := waited row rowMem (waits otherWaits)
    exact ⟨held, heldMem, heldSame.trans same, heldWaits⟩
  · exact waited other old otherWaits

end Saved

end QuickBooks.Outbox
