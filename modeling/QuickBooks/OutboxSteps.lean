import QuickBooks.OutboxRuns

/-!
# What one call can change

`Change` lists everything that a fit call can do to the file, to the book of
record and to the notes.  The invariants of runs are proved by cases on it.
-/

/-!
## What a request does to the book of record

A create is answered from the log of requests, refused for its name, or adds one
record; an update is answered from the log, refused, or changes one record.
-/

namespace QuickBooks.Outbox

namespace MockQbo

variable {mock : MockQbo} {realm : String} {entityType : EntityType} {payload : Json}
variable {requestId : Nat} {qboId baseSyncToken : String}

/-- The record that a create adds. -/
def newRecord (mock : MockQbo) (entityType : EntityType) (payload : Json) : EntityPayload where
  entityType := entityType
  qboId := toString mock.nextId
  syncToken := "0"
  lastUpdatedUtc := mock.clock
  isDeleted := false
  rawJson := payload

/-- The record that an update leaves. -/
def revised (mock : MockQbo) (entity : EntityPayload) (payload : Json) : EntityPayload :=
  { entity with
    syncToken := nextSyncToken entity.syncToken
    rawJson := updatedJson entity.rawJson payload
    lastUpdatedUtc := mock.clock }

def Clashes (mock : MockQbo) (realm : String) (entityType : EntityType) (payload : Json) : Prop :=
  ∃ name, uniqueNameOf entityType payload = some name ∧
    ∃ entry ∈ mock.entities, named realm entityType name entry = true

/-- The outcomes of a create. -/
inductive Created (mock : MockQbo) (realm : String) (entityType : EntityType) (payload : Json)
    (requestId : Nat) (after : MockQbo) (outcome : Except QboError EntityPayload) : Prop
  | replayed (existing : EntityPayload) (logged : requiresQueryBeforeCreate entityType = false)
      (found : mock.requestLog.lookup (realm, requestId) = some existing)
      (same : after = mock) (answer : outcome = .ok existing)
  | refused (clashes : mock.Clashes realm entityType payload) (same : after = mock)
      (message : String) (answer : outcome = .error (.validation message))
  | added (free : ¬ mock.Clashes realm entityType payload)
      (absent : requiresQueryBeforeCreate entityType = false →
        mock.requestLog.lookup (realm, requestId) = none)
      (entities_eq : after.entities = KeyedTables.upsert keyOf
        (realm, mock.newRecord entityType payload) mock.entities)
      (nextId_eq : after.nextId = mock.nextId + 1)
      (requestLog_eq : after.requestLog =
        if requiresQueryBeforeCreate entityType then mock.requestLog
        else ((realm, requestId), mock.newRecord entityType payload) :: mock.requestLog)
      (answer : outcome = .ok (mock.newRecord entityType payload))

theorem created_create : Created mock realm entityType payload requestId
    (mock.create realm entityType payload requestId).1
    (mock.create realm entityType payload requestId).2 := by
  unfold create
  dsimp only
  split
  · rename_i existing found
    split_ifs at found with deduplicates
    exact .replayed existing (by simpa using deduplicates) found rfl rfl
  · rename_i missing
    have absent : requiresQueryBeforeCreate entityType = false →
        mock.requestLog.lookup (realm, requestId) = none := by
      intro deduplicates
      simpa [deduplicates] using missing
    have clash_iff : ((uniqueNameOf entityType payload).any fun name =>
        mock.entities.any (named realm entityType name)) = true ↔
          mock.Clashes realm entityType payload := by
      rw [Option.any_eq_true]
      simp [Clashes]
    split_ifs with clash deduplicates
    · exact .refused (clash_iff.mp clash) rfl _ rfl
    · refine .added (fun clashes => clash (clash_iff.mpr clashes)) absent rfl rfl ?_ rfl
      have logged : requiresQueryBeforeCreate entityType = false := by
        simpa using deduplicates
      simp [logged, newRecord, seed]
    · refine .added (fun clashes => clash (clash_iff.mpr clashes)) absent rfl rfl ?_ rfl
      have queried : requiresQueryBeforeCreate entityType = true := by
        simpa using deduplicates
      simp [queried, seed]

/-- The outcomes of an update. -/
inductive Updated (mock : MockQbo) (realm : String) (entityType : EntityType) (qboId : String)
    (payload : Json) (baseSyncToken : String) (requestId : Nat) (after : MockQbo)
    (outcome : Except QboError EntityPayload) : Prop
  | replayed (existing : EntityPayload)
      (found : mock.requestLog.lookup (realm, requestId) = some existing)
      (same : after = mock) (answer : outcome = .ok existing)
  | missing (absent : mock.get? realm entityType qboId = none) (same : after = mock)
      (answer : outcome = .error .notFound)
  | stale (fresh : mock.requestLog.lookup (realm, requestId) = none) (entity : EntityPayload)
      (held : mock.get? realm entityType qboId = some entity)
      (moved : entity.syncToken ≠ baseSyncToken) (same : after = mock)
      (answer : outcome = .error .staleSyncToken)
  | changed (fresh : mock.requestLog.lookup (realm, requestId) = none) (entity : EntityPayload)
      (held : mock.get? realm entityType qboId = some entity)
      (current : entity.syncToken = baseSyncToken)
      (entities_eq : after.entities =
        KeyedTables.upsert keyOf (realm, mock.revised entity payload) mock.entities)
      (nextId_eq : after.nextId = mock.nextId)
      (requestLog_eq : after.requestLog =
        ((realm, requestId), mock.revised entity payload) :: mock.requestLog)
      (answer : outcome = .ok (mock.revised entity payload))

theorem updated_update : Updated mock realm entityType qboId payload baseSyncToken requestId
    (mock.update realm entityType qboId payload baseSyncToken requestId).1
    (mock.update realm entityType qboId payload baseSyncToken requestId).2 := by
  unfold update
  split
  · rename_i existing found
    exact .replayed existing found rfl rfl
  · rename_i fresh
    split
    · rename_i absent
      exact .missing absent rfl rfl
    · rename_i entity held
      split_ifs with moved
      · exact .stale fresh entity held moved rfl rfl
      · rw [not_not] at moved
        exact .changed fresh entity held moved rfl rfl rfl rfl

theorem key_of_get? {entity : EntityPayload}
    (held : mock.get? realm entityType qboId = some entity) :
    (realm, entity) ∈ mock.entities ∧ entity.entityType = entityType ∧
      entity.qboId = qboId := by
  unfold get? at held
  obtain ⟨entry, found, rfl⟩ := Option.map_eq_some_iff.mp held
  have key : keyOf entry = (realm, entityType, qboId) := by
    simpa using List.find?_some found
  have parts := Prod.mk.inj key
  refine ⟨?_, (Prod.mk.inj parts.2).1, (Prod.mk.inj parts.2).2⟩
  rw [← parts.1]
  exact List.mem_of_find?_eq_some found

theorem get?_of_upsert {after : MockQbo} {owner : String} {entity : EntityPayload}
    (entities_eq : after.entities = KeyedTables.upsert keyOf (owner, entity) mock.entities) :
    after.get? realm entityType qboId =
      if (owner, entity.entityType, entity.qboId) = (realm, entityType, qboId) then some entity
      else mock.get? realm entityType qboId := by
  unfold get?
  rw [entities_eq, KeyedTables.find?_upsert]
  change Option.map Prod.snd (if (owner, entity.entityType, entity.qboId) = _ then _ else _) = _
  split_ifs <;> rfl

theorem isSome_lookup_cons {log : List ((String × Nat) × EntityPayload)}
    {key other : String × Nat} {entity : EntityPayload} :
    (List.lookup other ((key, entity) :: log)).isSome ↔
      other = key ∨ (log.lookup other).isSome := by
  by_cases same : other = key
  · simp [same]
  · have different : (other == key) = false := by simpa using same
    simp [List.lookup_cons, different, same]

end MockQbo

end QuickBooks.Outbox

namespace QuickBooks.Outbox

open InterruptiblePrograms

def Fate.error? : Fate → Option QboError
  | .served => none
  | .unserved error | .unanswered error => some error

def LostAnswer (fate : Fate) (requestId : Nat) (lost : List Note) : Prop :=
  lost = [] ∨ ∃ error, fate.error? = some error ∧ lost = [.failed requestId error]

def World.noting (world : World) (quickBooks : MockQbo) (news : List Note) : World :=
  { world with quickBooks, notes := news ++ world.notes }

section News

variable {fate : Fate} {requestId : Nat} {lost : List Note} {world : World} {book : MockQbo}
variable {note new : Note}

theorem LostAnswer.mem_noting (isLost : LostAnswer fate requestId lost)
    (noteMem : note ∈ (world.noting book (lost ++ [new])).notes) :
    (∃ id error, note = .failed id error) ∨ note = new ∨ note ∈ world.notes := by
  rcases List.mem_append.mp noteMem with isNews | old
  · rcases List.mem_append.mp isNews with wasLost | isNew
    · rcases isLost with rfl | ⟨error, -, rfl⟩
      · exact nomatch wasLost
      · exact .inl ⟨requestId, error, List.mem_singleton.mp wasLost⟩
    · exact .inr (.inl (List.mem_singleton.mp isNew))
  · exact .inr (.inr old)

theorem new_mem_noting : new ∈ (world.noting book (lost ++ [new])).notes :=
  List.mem_append_left _ (List.mem_append_right _ List.mem_cons_self)

theorem LostAnswer.countP_noting (isLost : LostAnswer fate requestId lost)
    (test : Note → Bool) (failed : ∀ id error, test (.failed id error) = false) :
    (world.noting book (lost ++ [new])).notes.countP test =
      world.notes.countP test + if test new then 1 else 0 := by
  change ((lost ++ [new]) ++ world.notes).countP test = _
  have none : lost.countP test = 0 := by
    rcases isLost with rfl | ⟨error, -, rfl⟩
    · rfl
    · simp [failed]
  rw [List.countP_append, List.countP_append, none, Nat.zero_add, Nat.add_comm,
    List.countP_singleton]

end News

def World.saving (world : World) (record : OutboxRecord) : World :=
  { world with
    store := { world.store with outbox := world.store.outbox.map (Store.savedRow record) } }

inductive Change (command : Command) (before now : World) (fate : Fate) (call : Call) :
    World → Prop
  | still : Change command before now fate call now
  | minted : Change command before now fate call { now with nextUuid := now.nextUuid + 1 }
  | saved (row record : OutboxRecord) (rowMem : row ∈ now.store.outbox)
      (same : SameRequest row record) (why : SavesAs command before now row record)
      (isCall : call = .saveOutboxState record) :
      Change command before now fate call (now.saving record)
  | unsaved (record : OutboxRecord) (notServed : fate ≠ .served)
      (isCall : call = .saveOutboxState record) :
      Change command before now fate call { now with unsaved := record.id :: now.unsaved }
  | queued (record : OutboxRecord) (sameStore : now.store = before.store)
      (freshId : ∀ row ∈ now.store.outbox, row.id < record.id)
      (freshRequest : ∀ row ∈ now.store.outbox, row.requestId < record.requestId)
      (freshLog : ∀ entry ∈ now.quickBooks.requestLog, entry.1.2 < record.requestId)
      (queued : Queued before record) (queues : command.Queues record)
      (ordered : record.id < record.requestId) (minted : record.requestId < now.nextUuid)
      (isCall : call = .enqueue record) :
      Change command before now fate call
        { now with store := { now.store with outbox := now.store.outbox ++ [record] } }
  | mapped (realm localEntityId qboId : String)
      (assigned : Assigned now (realm, localEntityId) qboId)
      (isCall : ∃ entityType time,
        call = .recordIdMapping realm localEntityId entityType qboId time) :
      Change command before now fate call
        { now with store := now.store.recordIdMapping realm localEntityId qboId }
  | unheard (row : OutboxRecord) (idMap : IdMap) (payload : Json)
      (sending : Sending before now row idMap payload) (error : QboError)
      (isError : fate.error? = some error) (remote : call.isRemote = true) :
      Change command before now fate call
        (now.noting now.quickBooks [.failed row.requestId error])
  | replayed (row : OutboxRecord) (idMap : IdMap) (payload : Json)
      (sending : Sending before now row idMap payload) (existing : EntityPayload)
      (deduplicates : row.operation = .create →
        requiresQueryBeforeCreate row.entityType = false)
      (logged : now.quickBooks.requestLog.lookup (row.realmId, row.requestId) = some existing)
      (remote : call.isRemote = true)
      (lost : List Note) (isLost : LostAnswer fate row.requestId lost) :
      Change command before now fate call (now.noting now.quickBooks
        (lost ++ [.replayed row.requestId (row.realmId, row.entityType, existing.qboId)]))
  | refused (row : OutboxRecord) (idMap : IdMap) (payload : Json)
      (sending : Sending before now row idMap payload) (remote : call.isRemote = true)
      (lost : List Note) (isLost : LostAnswer fate row.requestId lost) :
      Change command before now fate call (now.noting now.quickBooks lost)
  | added (row : OutboxRecord) (idMap : IdMap) (payload : Json)
      (sending : Sending before now row idMap payload) (isCreate : row.operation = .create)
      (isCall : call = .create row.realmId row.entityType payload row.requestId)
      (free : ¬ now.quickBooks.Clashes row.realmId row.entityType payload)
      (absent : requiresQueryBeforeCreate row.entityType = false →
        now.quickBooks.requestLog.lookup (row.realmId, row.requestId) = none)
      (book : MockQbo)
      (entities_eq : book.entities = KeyedTables.upsert MockQbo.keyOf
        (row.realmId, now.quickBooks.newRecord row.entityType payload) now.quickBooks.entities)
      (nextId_eq : book.nextId = now.quickBooks.nextId + 1)
      (requestLog_eq : book.requestLog =
        if requiresQueryBeforeCreate row.entityType then now.quickBooks.requestLog
        else ((row.realmId, row.requestId), now.quickBooks.newRecord row.entityType payload) ::
          now.quickBooks.requestLog)
      (lost : List Note) (isLost : LostAnswer fate row.requestId lost) :
      Change command before now fate call (now.noting book
        (lost ++ [.created row.requestId
          (row.realmId, row.entityType, toString now.quickBooks.nextId)]))
  | stale (row : OutboxRecord) (idMap : IdMap) (payload : Json)
      (sending : Sending before now row idMap payload) (isUpdate : row.operation = .update)
      (fresh : now.quickBooks.requestLog.lookup (row.realmId, row.requestId) = none)
      (qboId : String)
      (isTarget : qboId =
        (idMap.lookup (row.realmId, row.localEntityId)).getD row.localEntityId)
      (isCall : call = .update row.realmId row.entityType qboId payload
        (row.baseSyncToken.getD "") row.requestId)
      (entity : EntityPayload)
      (held : now.quickBooks.get? row.realmId row.entityType qboId = some entity)
      (moved : entity.syncToken ≠ row.baseSyncToken.getD "")
      (lost : List Note) (isLost : LostAnswer fate row.requestId lost) :
      Change command before now fate call (now.noting now.quickBooks
        (lost ++ [.stale row.requestId (row.realmId, row.entityType, qboId)]))
  | changed (row : OutboxRecord) (idMap : IdMap) (payload : Json)
      (sending : Sending before now row idMap payload) (isUpdate : row.operation = .update)
      (fresh : now.quickBooks.requestLog.lookup (row.realmId, row.requestId) = none)
      (qboId : String)
      (isTarget : qboId =
        (idMap.lookup (row.realmId, row.localEntityId)).getD row.localEntityId)
      (isCall : call = .update row.realmId row.entityType qboId payload
        (row.baseSyncToken.getD "") row.requestId)
      (entity : EntityPayload)
      (held : now.quickBooks.get? row.realmId row.entityType qboId = some entity)
      (current : entity.syncToken = row.baseSyncToken.getD "")
      (book : MockQbo)
      (entities_eq : book.entities = KeyedTables.upsert MockQbo.keyOf
        (row.realmId, now.quickBooks.revised entity payload) now.quickBooks.entities)
      (nextId_eq : book.nextId = now.quickBooks.nextId)
      (requestLog_eq : book.requestLog =
        ((row.realmId, row.requestId), now.quickBooks.revised entity payload) ::
          now.quickBooks.requestLog)
      (lost : List Note) (isLost : LostAnswer fate row.requestId lost) :
      Change command before now fate call (now.noting book
        (lost ++ [.updated row.requestId (row.realmId, row.entityType, qboId)]))
  | found (row : OutboxRecord) (idMap : IdMap) (payload : Json)
      (sending : Sending before now row idMap payload) (isCreate : row.operation = .create)
      (name : String) (named : uniqueNameOf row.entityType payload = some name)
      (existing : EntityPayload)
      (isFound : now.quickBooks.findByName row.realmId row.entityType name = some existing)
      (isCall : call = .findByName row.realmId row.entityType name) :
      Change command before now fate call (now.noting now.quickBooks
        [.found (row.realmId, row.entityType, existing.qboId) name])

section Calls

variable {command : Command} {before now : World} {fate : Fate} {call : Call}

def lostNotes (requestId : Nat) : Fate → List Note
  | .unanswered error => [.failed requestId error]
  | _ => []

theorem lostAnswer_lostNotes (requestId : Nat) :
    LostAnswer fate requestId (lostNotes requestId fate) := by
  cases fate with
  | served => exact .inl rfl
  | unserved error => exact .inl rfl
  | unanswered error => exact .inr ⟨error, rfl, rfl⟩

/-- What is noted of a create that comes to its outcome. -/
def createNews (mock : MockQbo) (realm : String) (entityType : EntityType) (payload : Json)
    (requestId : Nat) : List Note :=
  match mock.create realm entityType payload requestId with
  | (after, .ok created) =>
    [if after.nextId = mock.nextId then .replayed requestId (realm, entityType, created.qboId)
      else .created requestId (realm, entityType, created.qboId)]
  | (_, .error _) => []

def updateNews (mock : MockQbo) (realm : String) (entityType : EntityType) (qboId : String)
    (payload : Json) (baseSyncToken : String) (requestId : Nat) : List Note :=
  match mock.update realm entityType qboId payload baseSyncToken requestId with
  | (after, .ok updated) =>
    [if after.requestLog.length = mock.requestLog.length then
        .replayed requestId (realm, entityType, updated.qboId)
      else .updated requestId (realm, entityType, updated.qboId)]
  | (_, .error .staleSyncToken) => [.stale requestId (realm, entityType, qboId)]
  | (_, .error _) => []

theorem serve_create_eq (realm : String) (entityType : EntityType) (payload : Json)
    (requestId : Nat) :
    (serve fate (.create realm entityType payload requestId) now).1 =
      match fate with
      | .unserved error => now.noting now.quickBooks [.failed requestId error]
      | fate => now.noting (now.quickBooks.create realm entityType payload requestId).1
          (lostNotes requestId fate ++
            createNews now.quickBooks realm entityType payload requestId) := by
  have attended : (now.createInQuickBooks realm entityType payload requestId).1 =
      now.noting (now.quickBooks.create realm entityType payload requestId).1
        (createNews now.quickBooks realm entityType payload requestId) := by
    unfold World.createInQuickBooks createNews
    rcases now.quickBooks.create realm entityType payload requestId with
      ⟨after, error | created⟩ <;> rfl
  cases fate with
  | served => exact attended
  | unserved error => rfl
  | unanswered error =>
    change (now.createInQuickBooks realm entityType payload requestId).1.missed error
      (.create realm entityType payload requestId) = _
    rw [attended]
    rfl

theorem serve_update_eq (realm : String) (entityType : EntityType) (qboId : String)
    (payload : Json) (baseSyncToken : String) (requestId : Nat) :
    (serve fate (.update realm entityType qboId payload baseSyncToken requestId) now).1 =
      match fate with
      | .unserved error => now.noting now.quickBooks [.failed requestId error]
      | fate => now.noting
          (now.quickBooks.update realm entityType qboId payload baseSyncToken requestId).1
          (lostNotes requestId fate ++
            updateNews now.quickBooks realm entityType qboId payload baseSyncToken
              requestId) := by
  have attended : (now.updateInQuickBooks realm entityType qboId payload baseSyncToken
      requestId).1 = now.noting
        (now.quickBooks.update realm entityType qboId payload baseSyncToken requestId).1
        (updateNews now.quickBooks realm entityType qboId payload baseSyncToken requestId) := by
    unfold World.updateInQuickBooks updateNews
    rcases now.quickBooks.update realm entityType qboId payload baseSyncToken requestId with
      ⟨after, error | updated⟩
    · cases error <;> rfl
    · rfl
  cases fate with
  | served => exact attended
  | unserved error => rfl
  | unanswered error =>
    change (now.updateInQuickBooks realm entityType qboId payload baseSyncToken
      requestId).1.missed error
        (.update realm entityType qboId payload baseSyncToken requestId) = _
    rw [attended]
    rfl

theorem change_create {row : OutboxRecord} {idMap : IdMap} {payload : Json}
    (sending : Sending before now row idMap payload) (isCreate : row.operation = .create) :
    Change command before now fate
      (.create row.realmId row.entityType payload row.requestId)
      (serve fate (.create row.realmId row.entityType payload row.requestId) now).1 := by
  have outcome := @MockQbo.created_create now.quickBooks row.realmId row.entityType payload
    row.requestId
  have heard : Change command before now fate
      (.create row.realmId row.entityType payload row.requestId)
      (now.noting (now.quickBooks.create row.realmId row.entityType payload row.requestId).1
        (lostNotes row.requestId fate ++ createNews now.quickBooks row.realmId row.entityType
          payload row.requestId)) := by
    have lost : LostAnswer fate row.requestId (lostNotes row.requestId fate) :=
      lostAnswer_lostNotes row.requestId
    unfold createNews
    generalize now.quickBooks.create row.realmId row.entityType payload row.requestId = answer
      at outcome ⊢
    obtain ⟨book, answer⟩ := answer
    cases outcome with
    | replayed existing deduplicates logged same isAnswer =>
      dsimp only at same isAnswer
      subst same isAnswer
      simp only [if_true]
      exact .replayed row idMap payload sending existing (fun _ => deduplicates) logged rfl _ lost
    | refused clashes same message isAnswer =>
      dsimp only at same isAnswer
      subst same isAnswer
      simp only [List.append_nil]
      exact .refused row idMap payload sending rfl _ lost
    | added free absent entities_eq nextId_eq requestLog_eq isAnswer =>
      dsimp only at entities_eq nextId_eq requestLog_eq isAnswer
      subst isAnswer
      have advanced : ¬ book.nextId = now.quickBooks.nextId := by omega
      simp only [advanced, if_false]
      exact .added row idMap payload sending isCreate rfl free absent book entities_eq nextId_eq
        requestLog_eq _ lost
  rw [serve_create_eq]
  cases fate with
  | unserved error => exact .unheard row idMap payload sending error rfl rfl
  | served => exact heard
  | unanswered error => exact heard

theorem change_update {row : OutboxRecord} {idMap : IdMap} {payload : Json} {qboId : String}
    (sending : Sending before now row idMap payload) (isUpdate : row.operation = .update)
    (isTarget : qboId =
      (idMap.lookup (row.realmId, row.localEntityId)).getD row.localEntityId) :
    Change command before now fate
      (.update row.realmId row.entityType qboId payload (row.baseSyncToken.getD "")
        row.requestId)
      (serve fate (.update row.realmId row.entityType qboId payload
        (row.baseSyncToken.getD "") row.requestId) now).1 := by
  have outcome := @MockQbo.updated_update now.quickBooks row.realmId row.entityType payload
    row.requestId qboId (row.baseSyncToken.getD "")
  have heard : Change command before now fate
      (.update row.realmId row.entityType qboId payload (row.baseSyncToken.getD "")
        row.requestId)
      (now.noting (now.quickBooks.update row.realmId row.entityType qboId payload
          (row.baseSyncToken.getD "") row.requestId).1
        (lostNotes row.requestId fate ++ updateNews now.quickBooks row.realmId row.entityType
          qboId payload (row.baseSyncToken.getD "") row.requestId)) := by
    have lost : LostAnswer fate row.requestId (lostNotes row.requestId fate) :=
      lostAnswer_lostNotes row.requestId
    unfold updateNews
    generalize now.quickBooks.update row.realmId row.entityType qboId payload
      (row.baseSyncToken.getD "") row.requestId = answer at outcome ⊢
    obtain ⟨book, answer⟩ := answer
    cases outcome with
    | replayed existing logged same isAnswer =>
      dsimp only at same isAnswer
      subst same isAnswer
      simp only [if_true]
      exact .replayed row idMap payload sending existing
        (fun isCreate => absurd (isUpdate.symm.trans isCreate) (by simp)) logged rfl _ lost
    | missing absent same isAnswer =>
      dsimp only at same isAnswer
      subst same isAnswer
      simp only [List.append_nil]
      exact .refused row idMap payload sending rfl _ lost
    | stale fresh entity held moved same isAnswer =>
      dsimp only at same isAnswer
      subst same isAnswer
      exact .stale row idMap payload sending isUpdate fresh qboId isTarget rfl entity held
        moved _ lost
    | changed fresh entity held current entities_eq nextId_eq requestLog_eq isAnswer =>
      dsimp only at entities_eq nextId_eq requestLog_eq isAnswer
      subst isAnswer
      have longer : ¬ book.requestLog.length = now.quickBooks.requestLog.length := by
        rw [requestLog_eq]
        simp
      simp only [longer, if_false]
      have sameId : (now.quickBooks.revised entity payload).qboId = qboId :=
        (MockQbo.key_of_get? held).2.2
      rw [sameId]
      exact .changed row idMap payload sending isUpdate fresh qboId isTarget rfl entity held
        current book entities_eq nextId_eq requestLog_eq _ lost
  rw [serve_update_eq]
  cases fate with
  | unserved error => exact .unheard row idMap payload sending error rfl rfl
  | served => exact heard
  | unanswered error => exact heard

theorem change_findByName {row : OutboxRecord} {idMap : IdMap} {payload : Json} {name : String}
    (sending : Sending before now row idMap payload) (isCreate : row.operation = .create)
    (named : uniqueNameOf row.entityType payload = some name) :
    Change command before now fate (.findByName row.realmId row.entityType name)
      (serve fate (.findByName row.realmId row.entityType name) now).1 := by
  have attended : Change command before now fate
      (.findByName row.realmId row.entityType name)
      (now.findInQuickBooks row.realmId row.entityType name).1 := by
    unfold World.findInQuickBooks
    cases isFound : now.quickBooks.findByName row.realmId row.entityType name with
    | none => exact .still
    | some existing =>
      exact .found row idMap payload sending isCreate name named existing isFound rfl
  cases fate with
  | served => exact attended
  | unserved error => exact .still
  | unanswered error => exact attended

theorem change_serve (beforeSound : Sound before)
    (fits : CommandFit command before call now) :
    Change command before now fate call (serve fate call now).1 := by
  obtain ⟨sound, fit⟩ := fits
  cases call with
  | newUuid => cases fate <;> exact .minted
  | isWriteEnabled realm => cases fate <;> exact .still
  | outboxRecords realm states => cases fate <;> exact .still
  | outboxRecord id => cases fate <;> exact .still
  | idMap realm => cases fate <;> exact .still
  | resolveLocalId realm localEntityId => cases fate <;> exact .still
  | getEntity realm entityType qboId => cases fate <;> exact .still
  | saveOutboxState record =>
    obtain ⟨row, rowMem, same, why⟩ := fit
    have revises : Revises now.store.outbox record := ⟨row, rowMem, same⟩
    cases fate with
    | served =>
      rw [serve_saveOutboxState_served revises]
      exact .saved row record rowMem same why rfl
    | unserved error => exact .unsaved record (by simp) rfl
    | unanswered error => exact .unsaved record (by simp) rfl
  | enqueue record =>
    obtain ⟨queues, sameStore, sameBook, -, mintedSince, ordered, minted, queued⟩ := fit
    have freshId : ∀ row ∈ now.store.outbox, row.id < record.id := by
      intro row rowMem
      rw [sameStore] at rowMem
      exact lt_of_lt_of_le (beforeSound.mintedIds row rowMem) mintedSince
    have freshRequest : ∀ row ∈ now.store.outbox, row.requestId < record.requestId := by
      intro row rowMem
      rw [sameStore] at rowMem
      have := beforeSound.mintedRequests row rowMem
      omega
    have freshLog : ∀ entry ∈ now.quickBooks.requestLog, entry.1.2 < record.requestId := by
      intro entry entryMem
      rw [sameBook] at entryMem
      have := beforeSound.mintedLog entry entryMem
      omega
    have absent : ¬ (now.store.outbox.any fun row => row.id = record.id) = true := by
      rw [List.any_eq_true]
      rintro ⟨row, rowMem, sameId⟩
      exact (freshId row rowMem).ne (of_decide_eq_true sameId)
    cases fate with
    | served =>
      have enqueued : (serve .served (.enqueue record) now).1 =
          { now with store := { now.store with outbox := now.store.outbox ++ [record] } } := by
        change (now.stored ((now.store.enqueue record).map _)).1 = _
        rw [Store.enqueue, if_neg absent]
        rfl
      rw [enqueued]
      exact .queued record sameStore freshId freshRequest freshLog queued queues ordered minted rfl
    | unserved error => exact .still
    | unanswered error => exact .still
  | recordIdMapping realm localEntityId entityType qboId time =>
    cases fate with
    | served => exact .mapped realm localEntityId qboId fit ⟨entityType, time, rfl⟩
    | unserved error => exact .still
    | unanswered error => exact .still
  | findByName realm entityType name =>
    obtain ⟨-, row, idMap, payload, sending, rfl, rfl, isCreate, named, -⟩ := fit
    exact change_findByName sending isCreate named
  | create realm entityType payload requestId =>
    obtain ⟨-, row, idMap, sending, rfl, rfl, isCreate, rfl, -⟩ := fit
    exact change_create sending isCreate
  | update realm entityType qboId payload baseSyncToken requestId =>
    obtain ⟨-, row, idMap, sending, rfl, rfl, isUpdate, rfl, isTarget, rfl, -⟩ := fit
    exact change_update sending isUpdate isTarget

end Calls

end QuickBooks.Outbox
