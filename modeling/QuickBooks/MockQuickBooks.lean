import QuickBooks.MirroredPayloads

/-!
# An in-memory book of record

The double behaves as the real book does where the outbox depends on it: it
answers a repeated `RequestId` with the response it gave before, except for the
creation of a customer or an item, refuses a second master of one name, and
refuses an update based on a stale `SyncToken`.
-/

/-!
## Records of the outbox

Every local change becomes a record of the outbox before it is sent.  A record
keeps the `RequestId` it was made with through every attempt, and its state
follows the transition table below; only `applied` and `discarded` are final.
-/

namespace QuickBooks.Outbox

inductive OutboxState where
  | pending
  | inFlight
  | applied
  | conflicted
  | rejected
  | discarded
deriving DecidableEq

namespace OutboxState

def isTerminal : OutboxState → Bool
  | applied | discarded => true
  | _ => false

def needsAttention : OutboxState → Bool
  | conflicted | rejected => true
  | _ => false

def isDrainable : OutboxState → Bool
  | pending => true
  | _ => false

def canTransitionTo : OutboxState → OutboxState → Bool
  | pending, inFlight
  | inFlight, pending
  | inFlight, applied
  | inFlight, conflicted
  | inFlight, rejected
  | conflicted, pending
  | rejected, pending
  | conflicted, discarded
  | rejected, discarded => true
  | _, _ => false

end OutboxState

/-- There is no deletion and no voiding. -/
inductive Operation where
  | create
  | update
deriving DecidableEq

/-- Whether a create must look for a record of the same name first, because a
`RequestId` does not deduplicate it. -/
def requiresQueryBeforeCreate : EntityType → Bool
  | .customer | .item => true
  | _ => false

/-- Why an attempt did not reach `applied`. -/
inductive DrainFailure where
  | transient (message : String)
  | staleSyncToken
  | rejected (message : String)

inductive OutboxError where
  | illegalTransition (source target : OutboxState)
  | dependencyNotSatisfied (id : Nat)
deriving DecidableEq

/-- A queued change.  Identifiers grow with the time they are minted at. -/
structure OutboxRecord where
  id : Nat
  realmId : String
  entityType : EntityType
  operation : Operation
  payloadJson : Json
  localEntityId : String
  baseSyncToken : Option String
  requestId : Nat
  state : OutboxState
  attempts : Nat
  dependsOn : Option Nat
  lastError : Option String
  createdAt : Int
  updatedAt : Int

def maxAttempts : Nat := 8

namespace OutboxRecord

variable (record : OutboxRecord) (now : Int)

def transition (next : OutboxState) : Except OutboxError OutboxRecord :=
  if record.state.canTransitionTo next then
    .ok { record with state := next, updatedAt := now }
  else
    .error (.illegalTransition record.state next)

/-- Saved before the request is issued, so that a process killed in between
finds the record in flight. -/
def beginAttempt (dependencyApplied : Bool) : Except OutboxError OutboxRecord :=
  if record.dependsOn.isSome && !dependencyApplied then
    .error (.dependencyNotSatisfied record.id)
  else do
    let begun ← record.transition now .inFlight
    pure { begun with attempts := begun.attempts + 1 }

def markApplied : Except OutboxError OutboxRecord :=
  { record with lastError := none }.transition now .applied

/-- The state that a failed attempt leads to. -/
def stateAfter : DrainFailure → OutboxState
  | .transient _ => if record.attempts < maxAttempts then .pending else .rejected
  | .staleSyncToken => .conflicted
  | .rejected _ => .rejected

def errorText : DrainFailure → String
  | .transient message => message
  | .staleSyncToken => "stale SyncToken: record changed in QBO"
  | .rejected message => message

def markFailed (failure : DrainFailure) : Except OutboxError OutboxRecord :=
  { record with lastError := some (errorText failure) }.transition now
    (record.stateAfter failure)

def recoverInFlight : Except OutboxError OutboxRecord :=
  record.transition now .pending

def resolve : Except OutboxError OutboxRecord :=
  { record with attempts := 0, lastError := none }.transition now .pending

def discard : Except OutboxError OutboxRecord :=
  record.transition now .discarded

def needsQueryBeforeCreate : Bool :=
  record.operation == .create && requiresQueryBeforeCreate record.entityType

/-- A fallible change of a record in place; where it is refused the record
stays as it is. -/
def changed (outcome : Except OutboxError OutboxRecord) : OutboxRecord :=
  match outcome with
  | .ok after => after
  | .error _ => record

def oldestFirst (records : List OutboxRecord) : List OutboxRecord :=
  records.insertionSort fun first second => first.id ≤ second.id

@[simp] theorem mem_oldestFirst {records : List OutboxRecord} :
    record ∈ oldestFirst records ↔ record ∈ records :=
  List.mem_insertionSort _

theorem oldestFirst_perm (records : List OutboxRecord) :
    (oldestFirst records).Perm records :=
  List.perm_insertionSort _ records

theorem pairwise_oldestFirst {records : List OutboxRecord}
    (distinct : (records.map OutboxRecord.id).Nodup) :
    (oldestFirst records).Pairwise fun first second => first.id < second.id := by
  let atMost (first second : OutboxRecord) : Prop := first.id ≤ second.id
  have total : Std.Total atMost := ⟨fun first second => le_total first.id second.id⟩
  have transitive : IsTrans OutboxRecord atMost := ⟨fun _ _ _ => le_trans⟩
  have ordered : (oldestFirst records).Pairwise atMost := List.pairwise_insertionSort atMost _
  have separated : ((oldestFirst records).map OutboxRecord.id).Nodup := by
    rw [((oldestFirst_perm records).map OutboxRecord.id).nodup_iff]
    exact distinct
  refine (ordered.and (List.pairwise_map.mp separated)).imp ?_
  rintro first second ⟨atMost, different⟩
  exact lt_of_le_of_ne atMost different

end OutboxRecord

/-- What an enqueued record is made of. -/
structure NewOutboxRecord where
  id : Nat
  requestId : Nat
  realmId : String
  entityType : EntityType
  operation : Operation
  payloadJson : Json
  localEntityId : String
  baseSyncToken : Option String

def OutboxRecord.new (fields : NewOutboxRecord) (now : Int) : OutboxRecord where
  id := fields.id
  realmId := fields.realmId
  entityType := fields.entityType
  operation := fields.operation
  payloadJson := fields.payloadJson
  localEntityId := fields.localEntityId
  baseSyncToken := fields.baseSyncToken
  requestId := fields.requestId
  state := .pending
  attempts := 0
  dependsOn := none
  lastError := none
  createdAt := now
  updatedAt := now

/-! ## References to records that only exist locally -/

def localIdPrefix : String := "local:"

def isLocalId (text : String) : Bool :=
  localIdPrefix.toList.isPrefixOf text.toList

mutual

/-- Every local id that a payload references. -/
def localReferences : Json → List String
  | .string text => if isLocalId text then [text] else []
  | .array items => localReferencesOfItems items
  | .object fields => localReferencesOfFields fields
  | _ => []

def localReferencesOfItems : List Json → List String
  | [] => []
  | item :: items => localReferences item ++ localReferencesOfItems items

def localReferencesOfFields : List (String × Json) → List String
  | [] => []
  | (_, value) :: fields => localReferences value ++ localReferencesOfFields fields

end

abbrev IdMap := List ((String × String) × String)

mutual

/-- The payload with every local id replaced by the assigned one, and whether
every reference resolved. -/
def rewriteLocalIds (realm : String) (idMap : IdMap) : Json → Json × Bool
  | .string text =>
    if isLocalId text then
      match idMap.lookup (realm, text) with
      | some qboId => (.string qboId, true)
      | none => (.string text, false)
    else
      (.string text, true)
  | .array items =>
    let (rewritten, resolved) := rewriteItems realm idMap items
    (.array rewritten, resolved)
  | .object fields =>
    let (rewritten, resolved) := rewriteFields realm idMap fields
    (.object rewritten, resolved)
  | value => (value, true)

def rewriteItems (realm : String) (idMap : IdMap) : List Json → List Json × Bool
  | [] => ([], true)
  | item :: items =>
    let (value, ok) := rewriteLocalIds realm idMap item
    let (rest, resolved) := rewriteItems realm idMap items
    (value :: rest, ok && resolved)

def rewriteFields (realm : String) (idMap : IdMap) :
    List (String × Json) → List (String × Json) × Bool
  | [] => ([], true)
  | (key, item) :: fields =>
    let (value, ok) := rewriteLocalIds realm idMap item
    let (rest, resolved) := rewriteFields realm idMap fields
    ((key, value) :: rest, ok && resolved)

end

section References

variable {realm : String} {idMap : IdMap}

def AssignsForeign (idMap : IdMap) : Prop :=
  ∀ entry ∈ idMap, isLocalId entry.2 = false

mutual

theorem localReferences_rewritten (foreign : AssignsForeign idMap) : ∀ payload : Json,
    (rewriteLocalIds realm idMap payload).2 = true →
      localReferences (rewriteLocalIds realm idMap payload).1 = []
  | .string text => by
      unfold rewriteLocalIds
      by_cases isLocal : isLocalId text = true
      · cases found : idMap.lookup (realm, text) with
        | none => simp [isLocal]
        | some qboId =>
          obtain ⟨before, after, split, -⟩ := List.lookup_eq_some_iff.mp found
          have assigned : isLocalId qboId = false :=
            foreign ((realm, text), qboId) (by simp [split])
          simp [isLocal, localReferences, assigned]
      · simp [isLocal, localReferences]
  | .array items => by
      simpa [rewriteLocalIds, localReferences] using localReferences_rewrittenItems foreign items
  | .object fields => by
      simpa [rewriteLocalIds, localReferences] using
        localReferences_rewrittenFields foreign fields
  | .null => by simp [rewriteLocalIds, localReferences]
  | .bool _ => by simp [rewriteLocalIds, localReferences]
  | .number _ => by simp [rewriteLocalIds, localReferences]

theorem localReferences_rewrittenItems (foreign : AssignsForeign idMap) :
    ∀ items : List Json, (rewriteItems realm idMap items).2 = true →
      localReferencesOfItems (rewriteItems realm idMap items).1 = []
  | [] => by simp [rewriteItems, localReferencesOfItems]
  | item :: items => by
      simp only [rewriteItems, localReferencesOfItems, Bool.and_eq_true, List.append_eq_nil_iff]
      rintro ⟨itemOk, restOk⟩
      exact ⟨localReferences_rewritten foreign item itemOk,
        localReferences_rewrittenItems foreign items restOk⟩

theorem localReferences_rewrittenFields (foreign : AssignsForeign idMap) :
    ∀ fields : List (String × Json), (rewriteFields realm idMap fields).2 = true →
      localReferencesOfFields (rewriteFields realm idMap fields).1 = []
  | [] => by simp [rewriteFields, localReferencesOfFields]
  | (key, item) :: fields => by
      simp only [rewriteFields, localReferencesOfFields, Bool.and_eq_true,
        List.append_eq_nil_iff]
      rintro ⟨itemOk, restOk⟩
      exact ⟨localReferences_rewritten foreign item itemOk,
        localReferences_rewrittenFields foreign fields restOk⟩

end

end References

end QuickBooks.Outbox

namespace QuickBooks

namespace Json

/-- Set a field, in place when there is one of that name. -/
def insertField (key : String) (value : Json) : List (String × Json) → List (String × Json)
  | [] => [(key, value)]
  | (name, old) :: rest =>
    if name = key then (key, value) :: rest else (name, old) :: insertField key value rest

theorem lookup_field (key other : String) (value : Json) (rest : List (String × Json)) :
    List.lookup other ((key, value) :: rest) =
      if other = key then some value else rest.lookup other := by
  by_cases same : other = key
  · simp [same]
  · have different : (other == key) = false := by simpa using same
    simp [List.lookup_cons, different, same]

theorem lookup_insertField (key other : String) (value : Json)
    (fields : List (String × Json)) :
    (insertField key value fields).lookup other =
      if other = key then some value else fields.lookup other := by
  induction fields with
  | nil => exact lookup_field key other value []
  | cons field rest ih =>
    obtain ⟨name, old⟩ := field
    by_cases here : name = key
    · rw [insertField, if_pos here, lookup_field, lookup_field, here]
      split_ifs <;> rfl
    · rw [insertField, if_neg here, lookup_field, lookup_field, ih]
      split_ifs with found same
      · exact absurd (found.symm.trans same) here
      · rfl
      · rfl
      · rfl

end Json

namespace Outbox

inductive QboError where
  | staleSyncToken
  | validation (message : String)
  | rateLimited
  | network (message : String)
  | notFound
  | dailyBudgetExhausted (message : String)

namespace QboError

def isTransient : QboError → Bool
  | rateLimited | network _ => true
  | _ => false

def text : QboError → String
  | staleSyncToken => "stale SyncToken"
  | validation message => "validation failure: " ++ message
  | rateLimited => "rate limited"
  | network message => "network failure: " ++ message
  | notFound => "not found"
  | dailyBudgetExhausted message => message

end QboError

/-- A record as the book of record returns it. -/
structure EntityPayload where
  entityType : EntityType
  qboId : String
  syncToken : String
  lastUpdatedUtc : Int
  isDeleted : Bool
  rawJson : Json

/-- The field that carries the unique name of a master. -/
def uniqueNameField : EntityType → Option String
  | .customer => some "DisplayName"
  | .item => some "Name"
  | _ => none

def uniqueNameOf (entityType : EntityType) (payload : Json) : Option String := do
  let field ← uniqueNameField entityType
  match ← payload.get? field with
  | .string name => some name
  | _ => none

abbrev EntityKey := String × EntityType × String

structure MockQbo where
  entities : List (String × EntityPayload)
  requestLog : List ((String × Nat) × EntityPayload)
  nextId : Nat
  clock : Int

/-- The number a text spells, of digits only. -/
def digitsValue (text : String) : Option Nat :=
  if text.toList.isEmpty then none
  else text.toList.foldlM
    (fun total digit => if digit.isDigit then some (10 * total + (digit.toNat - 48)) else none) 0

def nextSyncToken (token : String) : String :=
  toString ((digitsValue token).getD 0 + 1)

/-- What an update leaves of a record: a sparse one changes only the fields it
sends, a full one replaces the record. -/
def updatedJson (existing payload : Json) : Json :=
  if (payload.get? "sparse").bind Json.asBool = some true then
    match existing, payload with
    | .object fields, .object changes =>
      .object (changes.foldl (fun fields change =>
        if change.1 = "sparse" then fields
        else Json.insertField change.1 change.2 fields) fields)
    | _, _ => existing
  else payload

theorem get?_updatedJson {existing payload : Json} {key : String}
    (sparse : (payload.get? "sparse").bind Json.asBool = some true)
    (absent : payload.get? key = none) :
    (updatedJson existing payload).get? key = existing.get? key := by
  unfold updatedJson
  rw [if_pos sparse]
  cases existing with
  | object fields =>
    cases payload with
    | object changes =>
      clear sparse
      change List.lookup key changes = none at absent
      change List.lookup key (changes.foldl _ fields) = List.lookup key fields
      induction changes generalizing fields with
      | nil => rfl
      | cons change rest ih =>
        rw [Json.lookup_field] at absent
        split_ifs at absent with here
        rw [List.foldl_cons, ih _ absent]
        split_ifs
        · rfl
        · rw [Json.lookup_insertField, if_neg here]
    | _ => rfl
  | _ => rfl

namespace MockQbo

def keyOf (entry : String × EntityPayload) : EntityKey :=
  (entry.1, entry.2.entityType, entry.2.qboId)

variable (mock : MockQbo) (realm : String) (entityType : EntityType)

def get? (qboId : String) : Option EntityPayload :=
  (mock.entities.find? fun entry => keyOf entry = (realm, entityType, qboId)).map Prod.snd

def seed (payload : EntityPayload) : MockQbo :=
  { mock with entities := KeyedTables.upsert keyOf (realm, payload) mock.entities }

def named (name : String) (entry : String × EntityPayload) : Bool :=
  entry.1 = realm && entry.2.entityType = entityType &&
    uniqueNameOf entityType entry.2.rawJson = some name

def create (payload : Json) (requestId : Nat) : MockQbo × Except QboError EntityPayload :=
  let deduplicates := !requiresQueryBeforeCreate entityType
  match if deduplicates then mock.requestLog.lookup (realm, requestId) else none with
  | some existing => (mock, .ok existing)
  | none =>
    let clash := (uniqueNameOf entityType payload).any fun name =>
      mock.entities.any (named realm entityType name)
    if clash then
      (mock, .error (.validation
        ("duplicate name \"" ++ (uniqueNameOf entityType payload).getD "" ++ "\"")))
    else
      let created : EntityPayload :=
        { entityType, qboId := toString mock.nextId, syncToken := "0",
          lastUpdatedUtc := mock.clock, isDeleted := false, rawJson := payload }
      let seeded := { mock with nextId := mock.nextId + 1 }.seed realm created
      (if deduplicates then
        { seeded with requestLog := ((realm, requestId), created) :: seeded.requestLog }
      else seeded, .ok created)

def update (qboId : String) (payload : Json) (baseSyncToken : String) (requestId : Nat) :
    MockQbo × Except QboError EntityPayload :=
  match mock.requestLog.lookup (realm, requestId) with
  | some existing => (mock, .ok existing)
  | none =>
    match mock.get? realm entityType qboId with
    | none => (mock, .error .notFound)
    | some entity =>
      if entity.syncToken ≠ baseSyncToken then (mock, .error .staleSyncToken)
      else
        let updated : EntityPayload :=
          { entity with
            syncToken := nextSyncToken entity.syncToken
            rawJson := updatedJson entity.rawJson payload
            lastUpdatedUtc := mock.clock }
        let changed := mock.seed realm updated
        ({ changed with requestLog := ((realm, requestId), updated) :: changed.requestLog },
          .ok updated)

def findByName (name : String) : Option EntityPayload :=
  (mock.entities.find? (named realm entityType name)).map Prod.snd

end MockQbo

end Outbox

end QuickBooks
