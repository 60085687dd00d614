import QuickBooks.OutboxSteps

/-!
# The order in which records are sent

A request is sent for a record only when the earlier writes to its entity are
over, the record it depends on was applied, and every local id in it has its
assigned id.  An update of a record known by a local id alone needs the create
that the id stands for: once that create was discarded the update is sent under
the local id.
-/

namespace QuickBooks.Outbox

open InterruptiblePrograms TransitionRuns

/-! ## Ids of the book of record -/

theorem isLocalId_toString (number : Nat) : isLocalId (toString number) = false := by
  have digits : ∀ char ∈ (toString number).toList, char.isDigit = true := by
    intro char charMem
    rw [Nat.toString_eq_repr, Nat.toList_repr] at charMem
    exact Nat.isDigit_of_mem_toDigits (by omega) (by omega) charMem
  unfold isLocalId
  cases text : (toString number).toList with
  | nil => rfl
  | cons first rest =>
    have isDigit := digits first (text ▸ List.mem_cons_self)
    change (('l' == first) && _) = false
    have different : ('l' == first) = false := by
      rw [beq_eq_false_iff_ne]
      rintro rfl
      exact absurd isDigit (by decide)
    rw [different, Bool.false_and]

def Note.key? : Note → Option EntityKey
  | .created _ key | .updated _ key | .replayed _ key | .found key _ => some key
  | .stale _ _ | .failed _ _ => none

/-- The book of record gives no local ids. -/
structure Foreign (world : World) : Prop where
  entities : ∀ entry ∈ world.quickBooks.entities, isLocalId entry.2.qboId = false
  requestLog : ∀ entry ∈ world.quickBooks.requestLog, isLocalId entry.2.qboId = false
  localIdMap : AssignsForeign world.store.localIdMap
  notes : ∀ note ∈ world.notes, ∀ key, note.key? = some key → isLocalId key.2.2 = false

namespace Foreign

variable {command : Command} {before now after : World} {fate : Fate} {call : Call}

theorem acknowledged (foreign : Foreign now) {row : OutboxRecord} {qboId : String}
    (acknowledged : Acknowledged now row qboId) : isLocalId qboId = false := by
  obtain ⟨note, noteMem, names⟩ := acknowledged
  have known := foreign.notes note noteMem
  cases note with
  | created requestId key | updated requestId key | replayed requestId key =>
    obtain ⟨-, rfl⟩ := names
    exact known _ rfl
  | found key name =>
    obtain ⟨-, -, rfl, -⟩ := names
    exact known _ rfl
  | stale requestId key => exact nomatch names
  | failed requestId error => exact nomatch names

theorem assigned (foreign : Foreign now) {key : String × String} {qboId : String}
    (assigned : Assigned now key qboId) : isLocalId qboId = false := by
  rcases assigned with stored | ⟨row, -, -, acknowledged⟩
  · exact foreign.localIdMap _ stored
  · exact foreign.acknowledged acknowledged

theorem lookup (foreign : Foreign now) {key : String × Nat} {existing : EntityPayload}
    (logged : now.quickBooks.requestLog.lookup key = some existing) :
    isLocalId existing.qboId = false := by
  obtain ⟨earlier, later, split, -⟩ := List.lookup_eq_some_iff.mp logged
  exact foreign.requestLog (key, existing) (by simp [split])

theorem noting (foreign : Foreign now) {book : MockQbo} {news : List Note}
    (entities : ∀ entry ∈ book.entities, isLocalId entry.2.qboId = false)
    (requestLog : ∀ entry ∈ book.requestLog, isLocalId entry.2.qboId = false)
    (foreignNews : ∀ note ∈ news, ∀ key, note.key? = some key → isLocalId key.2.2 = false) :
    Foreign (now.noting book news) := by
  refine ⟨entities, requestLog, foreign.localIdMap, ?_⟩
  intro note noteMem
  rcases List.mem_append.mp noteMem with new | old
  · exact foreignNews note new
  · exact foreign.notes note old

theorem lost {requestId : Nat} {lost : List Note} (isLost : LostAnswer fate requestId lost)
    {note : Note} (noteMem : note ∈ lost) : note.key? = none := by
  rcases isLost with rfl | ⟨error, -, rfl⟩
  · exact nomatch noteMem
  · rw [List.mem_singleton.mp noteMem]
    rfl

theorem answered {requestId : Nat} {lost : List Note}
    (isLost : LostAnswer fate requestId lost) {note : Note}
    (foreignNote : ∀ key, note.key? = some key → isLocalId key.2.2 = false) :
    ∀ news ∈ lost ++ [note], ∀ key, news.key? = some key → isLocalId key.2.2 = false := by
  intro news newsMem key isKey
  rcases List.mem_append.mp newsMem with wasLost | isNote
  · rw [Foreign.lost isLost wasLost] at isKey
    exact nomatch isKey
  · rw [List.mem_singleton.mp isNote] at isKey
    exact foreignNote key isKey

theorem upsert (foreign : Foreign now) {entry : String × EntityPayload}
    (isForeign : isLocalId entry.2.qboId = false) :
    ∀ other ∈ KeyedTables.upsert MockQbo.keyOf entry now.quickBooks.entities,
      isLocalId other.2.qboId = false := by
  intro other otherMem
  rcases KeyedTables.mem_upsert _ _ _ otherMem with rfl | ⟨old, -⟩
  · exact isForeign
  · exact foreign.entities other old

theorem logged (foreign : Foreign now) {entry : (String × Nat) × EntityPayload}
    (isForeign : isLocalId entry.2.qboId = false) :
    ∀ other ∈ entry :: now.quickBooks.requestLog, isLocalId other.2.qboId = false := by
  intro other otherMem
  rcases List.mem_cons.mp otherMem with rfl | old
  · exact isForeign
  · exact foreign.requestLog other old

theorem change (foreign : Foreign now) (change : Change command before now fate call after) :
    Foreign after := by
  cases change with
  | still => exact foreign
  | minted => exact ⟨foreign.entities, foreign.requestLog, foreign.localIdMap, foreign.notes⟩
  | saved row record rowMem same why isCall => exact ⟨foreign.entities, foreign.requestLog,
      foreign.localIdMap, foreign.notes⟩
  | unsaved record notServed isCall => exact ⟨foreign.entities, foreign.requestLog,
      foreign.localIdMap, foreign.notes⟩
  | queued record sameStore freshId freshRequest freshLog queued queues ordered minted isCall =>
    exact ⟨foreign.entities, foreign.requestLog, foreign.localIdMap, foreign.notes⟩
  | mapped realm localEntityId qboId assigned isCall =>
    refine ⟨foreign.entities, foreign.requestLog, ?_, foreign.notes⟩
    intro entry entryMem
    change entry ∈ (now.store.recordIdMapping realm localEntityId qboId).localIdMap at entryMem
    unfold Store.recordIdMapping at entryMem
    split_ifs at entryMem with present
    · exact foreign.localIdMap entry entryMem
    · rcases List.mem_append.mp entryMem with old | new
      · exact foreign.localIdMap entry old
      · rw [List.mem_singleton.mp new]
        exact foreign.assigned assigned
  | unheard row idMap payload sending error isError remote =>
    refine foreign.noting foreign.entities foreign.requestLog ?_
    intro note noteMem key isKey
    rw [List.mem_singleton.mp noteMem] at isKey
    exact nomatch isKey
  | replayed row idMap payload sending existing deduplicates logged remote lost isLost =>
    refine foreign.noting foreign.entities foreign.requestLog (answered isLost ?_)
    rintro key ⟨⟩
    exact foreign.lookup logged
  | refused row idMap payload sending remote lost isLost =>
    refine foreign.noting foreign.entities foreign.requestLog ?_
    intro note noteMem key isKey
    rw [Foreign.lost isLost noteMem] at isKey
    exact nomatch isKey
  | added row idMap payload sending isCreate isCall free absent book entities_eq nextId_eq
      requestLog_eq lost isLost =>
      have numeral : isLocalId (now.quickBooks.newRecord row.entityType payload).qboId = false :=
        isLocalId_toString _
      refine foreign.noting ?_ ?_ (answered isLost ?_)
      · rw [entities_eq]
        exact foreign.upsert numeral
      · rw [requestLog_eq]
        split_ifs
        · exact foreign.requestLog
        · exact foreign.logged numeral
      · rintro key ⟨⟩
        exact numeral
  | stale row idMap payload sending isUpdate fresh qboId isTarget isCall entity held moved lost
      isLost =>
      refine foreign.noting foreign.entities foreign.requestLog (answered isLost ?_)
      rintro key ⟨⟩
  | changed row idMap payload sending isUpdate fresh qboId isTarget isCall entity held current
      book entities_eq nextId_eq requestLog_eq lost isLost =>
      obtain ⟨entityMem, -, sameId⟩ := MockQbo.key_of_get? held
      have isForeign : isLocalId (now.quickBooks.revised entity payload).qboId = false :=
        foreign.entities _ entityMem
      refine foreign.noting ?_ ?_ (answered isLost ?_)
      · rw [entities_eq]
        exact foreign.upsert isForeign
      · rw [requestLog_eq]
        exact foreign.logged isForeign
      · rintro key ⟨⟩
        exact sameId ▸ isForeign
  | found row idMap payload sending isCreate name named existing isFound isCall =>
    refine foreign.noting foreign.entities foreign.requestLog ?_
    intro note noteMem key isKey
    rw [List.mem_singleton.mp noteMem] at isKey
    obtain ⟨entry, isEntry, rfl⟩ := Option.map_eq_some_iff.mp isFound
    cases isKey
    exact foreign.entities entry (List.mem_of_find?_eq_some isEntry)

end Foreign

theorem Foreign.occur {world : World} (foreign : Foreign world) (event : Event) :
    Foreign (occur event world) := by
  cases event with
  | edited realm entityType qboId rawJson =>
    refine ⟨?_, ?_, foreign.localIdMap, foreign.notes⟩
    · change ∀ entry ∈ (world.quickBooks.edit realm entityType qboId rawJson).entities, _
      unfold MockQbo.edit
      cases held : world.quickBooks.get? realm entityType qboId with
      | none => exact foreign.entities
      | some entity =>
        have isForeign : isLocalId entity.qboId = false :=
          foreign.entities _ (MockQbo.key_of_get? held).1
        exact foreign.upsert isForeign
    · change ∀ entry ∈ (world.quickBooks.edit realm entityType qboId rawJson).requestLog, _
      rw [requestLog_edit]
      exact foreign.requestLog
  | synced realm entityType qboId =>
    have sameMap : (world.store.sync world.quickBooks realm entityType qboId).localIdMap =
        world.store.localIdMap := by
      unfold Store.sync
      cases world.quickBooks.get? realm entityType qboId <;> rfl
    refine ⟨foreign.entities, foreign.requestLog, ?_, foreign.notes⟩
    change AssignsForeign (world.store.sync world.quickBooks realm entityType qboId).localIdMap
    rw [sameMap]
    exact foreign.localIdMap
  | writesEnabled realm =>
    exact ⟨foreign.entities, foreign.requestLog, foreign.localIdMap, foreign.notes⟩

theorem unsaved_occur {world : World} (event : Event) :
    (occur event world).unsaved = world.unsaved := by
  cases event <;> rfl

/-- The fates of runs in which the file serves every call; what becomes of a
request to the book of record is open. -/
def FileServes (fate : Fate) (call : Call) (_ : World) : Prop :=
  call.isRemote = false → fate = .served

theorem Change.unsaved_eq {command : Command} {before now after : World} {fate : Fate}
    {call : Call} (change : Change command before now fate call after)
    (serves : FileServes fate call now) : after.unsaved = now.unsaved := by
  cases change with
  | unsaved record notServed isCall => exact absurd (serves (isCall ▸ rfl)) notServed
  | mapped realm localEntityId qboId assigned isCall => rfl
  | _ => rfl

/-! ## What a request may be sent for -/

/-- The record that a request is sent for. -/
def Call.IsFor (row : OutboxRecord) : Call → Prop
  | .findByName realm entityType _ =>
    row.operation = .create ∧ row.realmId = realm ∧ row.entityType = entityType
  | .create realm entityType _ requestId =>
    row.operation = .create ∧ row.realmId = realm ∧ row.entityType = entityType ∧
      row.requestId = requestId
  | .update realm entityType _ _ _ requestId =>
    row.operation = .update ∧ row.realmId = realm ∧ row.entityType = entityType ∧
      row.requestId = requestId
  | _ => False

/-- Whether a request carries a local id, in its body or as the id of the record
to update. -/
def Call.carriesLocalId : Call → Bool
  | .create _ _ payload _ => !(localReferences payload).isEmpty
  | .update _ _ qboId payload _ _ => !(localReferences payload).isEmpty || isLocalId qboId
  | _ => false

/-- The earlier writes to the entity of a record are over, and what the record
depends on was applied. -/
structure MayGo (outbox : List OutboxRecord) (row : OutboxRecord) : Prop where
  earlier : ∀ other ∈ outbox, other.entityKey = row.entityKey → other.id < row.id →
    other.state = .applied ∨ other.state = .discarded
  parent : ∀ id, row.dependsOn = some id →
    ∃ parent ∈ outbox, parent.id = id ∧ parent.state = .applied

def SentInOrder (world : World) (call : Call) : Prop :=
  (∃ row ∈ world.store.outbox, call.IsFor row ∧ row.state = .inFlight ∧
    MayGo world.store.outbox row) ∧ call.carriesLocalId = false

/-- Every waiting update of a record known by a local id has its assigned id, or
an earlier open record of the same entity that gets it one. -/
def UpdatesReachable (store : Store) : Prop :=
  ∀ row ∈ store.outbox, row.state.mayBeSent = true → row.operation = .update →
    isLocalId row.localEntityId = true →
      (store.localIdMap.lookup (row.realmId, row.localEntityId)).isSome ∨
        ∃ other ∈ store.outbox, other.entityKey = row.entityKey ∧ other.id < row.id ∧
          other.state.isTerminal = false

/-- When a command may be started: a pass keeps to the company, and to updates
whose record the book of record knows or will know. -/
def Orderly : Command → World → Prop
  | .drainOnce _ _, world =>
    SameRealmParents world.store.outbox ∧ UpdatesReachable world.store
  | _, _ => True

section Orders

variable {command : Command} {before now : World} {row : OutboxRecord} {idMap : IdMap}
variable {payload : Json}

theorem Sending.mayGo (sending : Sending before now row idMap payload)
    (sameRealm : SameRealmParents before.store.outbox) (saved : now.unsaved = []) :
    MayGo now.store.outbox row := by
  constructor
  case earlier =>
    intro other otherMem sameKey earlier
    rcases sending.earlierOver sameRealm other otherMem sameKey earlier with final | unsaved
    · cases state : other.state <;> simp [state, OutboxState.isTerminal] at final ⊢
    · rw [saved] at unsaved
      cases unsaved
  case parent =>
    intro id depends
    obtain ⟨parent, parentMem, isParent, applied | unsaved⟩ := sending.parentApplied id depends
    · exact ⟨parent, parentMem, isParent, applied⟩
    · rw [saved] at unsaved
      cases unsaved

theorem Sending.assignsForeign (sending : Sending before now row idMap payload)
    (foreign : Foreign now) : AssignsForeign idMap :=
  fun entry entryMem => foreign.assigned (sending.assigned entry entryMem)

theorem Sending.references (sending : Sending before now row idMap payload)
    (foreign : Foreign now) : localReferences payload = [] := by
  have body := localReferences_rewritten (sending.assignsForeign foreign) row.payloadJson
    (congrArg Prod.snd sending.rewritten)
  rwa [congrArg Prod.fst sending.rewritten] at body

theorem Sending.isForeign_target (sending : Sending before now row idMap payload)
    (foreign : Foreign now) (isUpdate : row.operation = .update)
    (sameRealm : SameRealmParents before.store.outbox)
    (reachable : UpdatesReachable before.store) :
    isLocalId ((idMap.lookup (row.realmId, row.localEntityId)).getD row.localEntityId) =
      false := by
  cases found : idMap.lookup (row.realmId, row.localEntityId) with
  | some qboId =>
    obtain ⟨earlier, later, split, -⟩ := List.lookup_eq_some_iff.mp found
    exact sending.assignsForeign foreign ((row.realmId, row.localEntityId), qboId)
      (by simp [split])
  | none =>
    by_contra isLocal
    rw [Bool.not_eq_false] at isLocal
    obtain ⟨held, heldMem, same, waits⟩ := sending.waited
    obtain ⟨unmapped, ended⟩ := (sending.target sameRealm).resolve_left (by simp [found])
    rcases reachable held heldMem waits (same.operation_eq.trans isUpdate)
      (same.localEntityId_eq ▸ isLocal) with mapped | ⟨other, otherMem, sameKey, earlier, isOpen⟩
    · rw [same.realmId_eq, same.localEntityId_eq, unmapped] at mapped
      exact nomatch mapped
    · have final := ended other otherMem (sameKey.trans same.entityKey_eq)
        (same.id_eq ▸ earlier)
      rw [isOpen] at final
      exact nomatch final

theorem sentInOrder_of_fits {call : Call} (orderly : Orderly command before)
    (fits : CommandFit command before call now) (foreign : Foreign now)
    (saved : now.unsaved = []) (remote : call.isRemote = true) : SentInOrder now call := by
  obtain ⟨-, fit⟩ := fits
  have orders : command.drains = true →
      SameRealmParents before.store.outbox ∧ UpdatesReachable before.store := by
    intro drains
    cases command with
    | drainOnce realm time => exact orderly
    | _ => exact nomatch drains
  cases call with
  | findByName realm entityType name =>
    obtain ⟨drains, row, idMap, payload, sending, rfl, rfl, isCreate, -⟩ := fit
    exact ⟨⟨row, sending.rowMem, ⟨isCreate, rfl, rfl⟩, sending.inFlight,
      sending.mayGo (orders drains).1 saved⟩, rfl⟩
  | create realm entityType payload requestId =>
    obtain ⟨drains, row, idMap, sending, rfl, rfl, isCreate, rfl, -⟩ := fit
    refine ⟨⟨row, sending.rowMem, ⟨isCreate, rfl, rfl, rfl⟩, sending.inFlight,
      sending.mayGo (orders drains).1 saved⟩, ?_⟩
    simp [Call.carriesLocalId, sending.references foreign]
  | update realm entityType qboId payload baseSyncToken requestId =>
    obtain ⟨drains, row, idMap, sending, rfl, rfl, isUpdate, rfl, rfl, -⟩ := fit
    obtain ⟨sameRealm, reachable⟩ := orders drains
    refine ⟨⟨row, sending.rowMem, ⟨isUpdate, rfl, rfl, rfl⟩, sending.inFlight,
      sending.mayGo sameRealm saved⟩, ?_⟩
    simp [Call.carriesLocalId, sending.references foreign,
      sending.isForeign_target foreign isUpdate sameRealm reachable]
  | _ => exact nomatch remote

/-- In every orderly run over any outbox, whatever becomes of the requests and
wherever the process dies, no request overtakes an earlier write to its entity or
what its record depends on, and none carries a local id. -/
theorem requests_sentInOrder {start : World} {moves : List WriteMove} (sound : Sound start)
    (foreign : Foreign start) (saved : start.unsaved = [])
    (permitted : EveryStep (Session.step serve program occur)
      (Permitted Orderly FileServes (fun _ => True) fun _ _ => True) (Session.idle start) moves)
    {call : Call} (asked : (runSession start moves).asks? = some call)
    (remote : call.isRemote = true) : SentInOrder (runSession start moves).world call := by
  have calls : ∀ fate call now, FileServes fate call now →
      AskedFrom Orderly (fun world => Foreign world ∧ world.unsaved = []) call now →
      Foreign now ∧ now.unsaved = [] →
      Foreign (serve fate call now).1 ∧ (serve fate call now).1.unsaved = [] := by
    rintro fate call now serves ⟨command, before, -, beforeSound, -, fits⟩ ⟨nowForeign, nowSaved⟩
    have change : Change command before now fate call (serve fate call now).1 :=
      change_serve beforeSound fits
    exact ⟨nowForeign.change change, (change.unsaved_eq serves).trans nowSaved⟩
  have holds := runSession_holds calls
    (fun event world _ held _ => ⟨held.1.occur event, (unsaved_occur event).trans held.2⟩) sound
    ⟨foreign, saved⟩ permitted
  obtain ⟨⟨command, before, orderly, -, -, fits⟩, nowForeign, nowSaved⟩ := holds.asks asked
  exact sentInOrder_of_fits orderly fits nowForeign nowSaved remote

end Orders

/-! ## A create and a later update of its record -/

namespace UpdatedCustomer

def create (state : OutboxState) : OutboxRecord where
  id := 0
  realmId := "1"
  entityType := .customer
  operation := .create
  payloadJson := .object [("DisplayName", .string "Ada")]
  localEntityId := "local:0"
  baseSyncToken := none
  requestId := 1
  state := state
  attempts := 0
  dependsOn := none
  lastError := none
  createdAt := 0
  updatedAt := 0

def update : OutboxRecord :=
  { create .pending with
    id := 2
    operation := .update
    payloadJson := .object [("Notes", .string "calls back")]
    requestId := 3 }

/-- The two records, the create in the given state. -/
def world (state : OutboxState) : World where
  store :=
    { writeEnabled := ["1"], outbox := [create state, update], localIdMap := [],
      entities := [] }
  quickBooks := { entities := [], requestLog := [], nextId := 1, clock := 0 }
  nextUuid := 4
  notes := []
  unsaved := []

theorem sound_world (state : OutboxState) : Sound (world state) := by
  constructor <;> simp [world, create, update]

theorem foreign_world (state : OutboxState) : Foreign (world state) := by
  constructor <;> simp [world, AssignsForeign]

def moves (calls : Nat) : List WriteMove :=
  .start (.drainOnce "1" 5) :: List.replicate calls (.serve .served)

theorem permitted_moves {startable : Command → World → Prop} {state : OutboxState}
    (canStart : startable (.drainOnce "1" 5) (world state)) (calls : Nat) :
    EveryStep (Session.step serve program occur)
      (Permitted startable FileServes (fun _ => True) fun _ _ => True)
      (Session.idle (world state)) (moves calls) := by
  refine ⟨fun _ => canStart, everyStep_of_forall ?_⟩
  intro move moveMem session
  rw [List.eq_of_mem_replicate moveMem]
  exact fun _ _ _ _ => rfl

theorem orderly_pending : Orderly (.drainOnce "1" 5) (world .pending) := by
  constructor
  · simp [SameRealmParents, world, create, update]
  · intro row rowMem
    have cases : row = create .pending ∨ row = update := by simpa [world] using rowMem
    rcases cases with rfl | rfl
    · exact fun _ isUpdate => nomatch isUpdate
    · exact fun _ _ _ => .inr ⟨create .pending, by simp [world], rfl, by decide, rfl⟩

end UpdatedCustomer

open UpdatedCustomer in
/-- Once the create landed the update goes out under the assigned id. -/
theorem requests_sentInOrder_update :
    ∃ call, (runSession (world .pending) (moves 8)).asks? = some call ∧
      call.isRemote = true ∧ SentInOrder (runSession (world .pending) (moves 8)).world call := by
  have asked : ((runSession (world .pending) (moves 8)).asks?.any Call.isRemote) = true := by
    decide +kernel
  obtain ⟨call, isCall, remote⟩ := (Option.any_eq_true _ _).mp asked
  exact ⟨call, isCall, remote, requests_sentInOrder (sound_world _) (foreign_world _)
    rfl (permitted_moves orderly_pending 8) isCall remote⟩

open UpdatedCustomer in
/-- Once the create was discarded the update goes out under the local id. -/
theorem not_requests_sentInOrder :
    ¬ ∀ (start : World) (moves : List WriteMove), Sound start → Foreign start →
      start.unsaved = [] → EveryStep (Session.step serve program occur)
        (Permitted (fun _ _ => True) FileServes (fun _ => True) fun _ _ => True)
        (Session.idle start) moves →
      ∀ call, (runSession start moves).asks? = some call → call.isRemote = true →
        SentInOrder (runSession start moves).world call := by
  intro inOrder
  have asked : ((runSession (world .discarded) (moves 4)).asks?.any fun call =>
      call.isRemote && call.carriesLocalId) = true := by
    decide +kernel
  obtain ⟨call, isCall, wrong⟩ := (Option.any_eq_true _ _).mp asked
  rw [Bool.and_eq_true] at wrong
  have sent := inOrder _ _ (sound_world _) (foreign_world _) rfl (permitted_moves trivial 4) call
    isCall wrong.1
  rw [sent.2] at wrong
  exact nomatch wrong.2

end QuickBooks.Outbox
