import QuickBooks.OutboxSteps

/-!
# Every request takes effect once

A create adds at most one record and an update changes its record at most once,
over passes that may lose answers and die anywhere.  The book of record answers
a repeated request from its log; the creation of a customer or an item is found
again by its name, as long as no update takes the name away in between.
-/

namespace QuickBooks.Outbox

open InterruptiblePrograms TransitionRuns

/-! ## Names in payloads -/

theorem lookup_rewriteFields (realm : String) (idMap : IdMap) (key : String)
    (fields : List (String × Json)) :
    (rewriteFields realm idMap fields).1.lookup key =
      (fields.lookup key).map fun value => (rewriteLocalIds realm idMap value).1 := by
  induction fields with
  | nil => rfl
  | cons field rest ih =>
    obtain ⟨name, value⟩ := field
    rw [rewriteFields, Json.lookup_field, Json.lookup_field, ih]
    split_ifs <;> rfl

theorem uniqueNameOf_rewritten {entityType : EntityType} {payload : Json} {name : String}
    (named : uniqueNameOf entityType payload = some name) (notLocal : isLocalId name = false)
    (realm : String) (idMap : IdMap) :
    uniqueNameOf entityType (rewriteLocalIds realm idMap payload).1 = some name := by
  unfold uniqueNameOf at named ⊢
  cases isField : uniqueNameField entityType with
  | none => rw [isField] at named; exact nomatch named
  | some field =>
    rw [isField] at named
    cases payload with
    | object fields =>
      simp only [rewriteLocalIds, Json.get?, Option.bind_eq_bind, Option.bind_some,
        lookup_rewriteFields] at named ⊢
      cases found : fields.lookup field with
      | none => rw [found] at named; exact nomatch named
      | some value =>
        rw [found] at named
        cases value with
        | string text =>
          obtain rfl : text = name := by simpa using named
          simp [rewriteLocalIds, notLocal]
        | _ => exact nomatch named
    | _ => exact nomatch named

/-- The create of a customer or an item carries its unique name; a text marked as
a local id is a reference and no name. -/
def OutboxRecord.CarriesName (record : OutboxRecord) : Prop :=
  ∃ name, uniqueNameOf record.entityType record.payloadJson = some name ∧
    isLocalId name = false

/-! ## What took effect -/

namespace Note

def creates (requestId : Nat) : Note → Bool
  | .created id _ => id = requestId
  | _ => false

def updates (requestId : Nat) : Note → Bool
  | .updated id _ => id = requestId
  | _ => false

end Note

def Effective (world : World) (requestId : Nat) : Prop :=
  (∃ key, .created requestId key ∈ world.notes) ∨ ∃ key, .updated requestId key ∈ world.notes

/-- The create added its record, or adopted one of its name; the update changed
its record. -/
def TookEffect (world : World) (row : OutboxRecord) : Prop :=
  match row.operation with
  | .create =>
    (∃ qboId, .created row.requestId (row.realmId, row.entityType, qboId) ∈ world.notes) ∨
      ∃ qboId name, .found (row.realmId, row.entityType, qboId) name ∈ world.notes ∧
        uniqueNameOf row.entityType row.payloadJson = some name
  | .update => ∃ key, .updated row.requestId key ∈ world.notes

/-- What holds throughout a run. -/
structure Once (start world : World) : Prop where
  createdOnce : ∀ requestId, world.notes.countP (Note.creates requestId) ≤ 1
  updatedOnce : ∀ requestId, world.notes.countP (Note.updates requestId) ≤ 1
  createdFor : ∀ requestId key, .created requestId key ∈ world.notes →
    ∃ row ∈ world.store.outbox, row.requestId = requestId ∧ row.operation = .create ∧
      row.realmId = key.1 ∧ row.entityType = key.2.1
  updatedFor : ∀ requestId key, .updated requestId key ∈ world.notes →
    ∃ row ∈ world.store.outbox, row.requestId = requestId ∧ row.operation = .update ∧
      row.realmId = key.1
  replayedFor : ∀ requestId key, .replayed requestId key ∈ world.notes →
    Effective world requestId
  createdLogged : ∀ requestId key, .created requestId key ∈ world.notes →
    requiresQueryBeforeCreate key.2.1 = false →
      (world.quickBooks.requestLog.lookup (key.1, requestId)).isSome
  updatedLogged : ∀ requestId key, .updated requestId key ∈ world.notes →
    (world.quickBooks.requestLog.lookup (key.1, requestId)).isSome
  loggedFor : ∀ row ∈ world.store.outbox, row.state.isTerminal = false →
    (world.quickBooks.requestLog.lookup (row.realmId, row.requestId)).isSome →
      Effective world row.requestId
  held : ∀ requestId key, .created requestId key ∈ world.notes →
    (world.quickBooks.get? key.1 key.2.1 key.2.2).isSome
  named : ∀ row ∈ world.store.outbox, row.state.mayBeSent = true →
    requiresQueryBeforeCreate row.entityType = true →
    ∀ key, .created row.requestId key ∈ world.notes →
    ∀ entity, world.quickBooks.get? key.1 key.2.1 key.2.2 = some entity →
      uniqueNameOf row.entityType entity.rawJson =
        uniqueNameOf row.entityType row.payloadJson
  carries : ∀ row ∈ world.store.outbox, row.operation = .create →
    requiresQueryBeforeCreate row.entityType = true → row.CarriesName
  freshIds : ∀ entry ∈ world.quickBooks.entities, ∀ number,
    world.quickBooks.nextId ≤ number → entry.2.qboId ≠ toString number
  applied : ∀ row ∈ world.store.outbox, row.state = .applied →
    (∃ held ∈ start.store.outbox, held.id = row.id ∧ held.state = .applied) ∨
      TookEffect world row
  origins : ∀ entry ∈ world.quickBooks.entities,
    (∃ held ∈ start.quickBooks.entities, MockQbo.keyOf held = MockQbo.keyOf entry) ∨
      ∃ requestId, .created requestId (MockQbo.keyOf entry) ∈ world.notes

section Effects

variable {before after : World} {row other : OutboxRecord} {requestId : Nat}

theorem Effective.mono (grows : ∀ note ∈ before.notes, note ∈ after.notes)
    (effective : Effective before requestId) : Effective after requestId := by
  rcases effective with ⟨key, noteMem⟩ | ⟨key, noteMem⟩
  · exact .inl ⟨key, grows _ noteMem⟩
  · exact .inr ⟨key, grows _ noteMem⟩

theorem TookEffect.mono (grows : ∀ note ∈ before.notes, note ∈ after.notes)
    (took : TookEffect before row) : TookEffect after row := by
  unfold TookEffect at took ⊢
  cases operation : row.operation with
  | create =>
    rw [operation] at took
    rcases took with ⟨qboId, noteMem⟩ | ⟨qboId, name, noteMem, named⟩
    · exact .inl ⟨qboId, grows _ noteMem⟩
    · exact .inr ⟨qboId, name, grows _ noteMem, named⟩
  | update =>
    rw [operation] at took
    obtain ⟨key, noteMem⟩ := took
    exact ⟨key, grows _ noteMem⟩

theorem TookEffect.of_sameRequest (same : SameRequest row other)
    (took : TookEffect before row) : TookEffect before other := by
  unfold TookEffect at took ⊢
  rw [← same.operation_eq, ← same.requestId_eq, ← same.realmId_eq, ← same.entityType_eq,
    ← same.payloadJson_eq]
  exact took

theorem eq_of_requestId_eq {outbox : List OutboxRecord}
    (distinct : (outbox.map OutboxRecord.requestId).Nodup) (rowMem : row ∈ outbox)
    (otherMem : other ∈ outbox) (same : row.requestId = other.requestId) : row = other :=
  List.inj_on_of_nodup_map distinct rowMem otherMem same

end Effects

/-- An update that changes its record keeps the name that a create will look for. -/
def KeepsNames (_ : Fate) (call : Call) (world : World) : Prop :=
  match call with
  | .update realm entityType qboId payload baseSyncToken requestId =>
    world.quickBooks.requestLog.lookup (realm, requestId) = none →
    ∀ row ∈ world.store.outbox, row.state.mayBeSent = true →
      requiresQueryBeforeCreate row.entityType = true →
      .created row.requestId (realm, entityType, qboId) ∈ world.notes →
      ∀ entity, world.quickBooks.get? realm entityType qboId = some entity →
        entity.syncToken = baseSyncToken →
        uniqueNameOf row.entityType (updatedJson entity.rawJson payload) =
          uniqueNameOf row.entityType entity.rawJson
  | _ => True

namespace Once

variable {start before now after : World} {command : Command} {fate : Fate}
variable {call : Call} {row record : OutboxRecord} {idMap : IdMap} {payload : Json}

theorem tookEffect (once : Once start now) (sound : Sound now)
    (rowMem : row ∈ now.store.outbox) {qboId : String}
    (acknowledged : Acknowledged now row qboId) : TookEffect now row := by
  have ofCreated : ∀ key, .created row.requestId key ∈ now.notes → TookEffect now row := by
    intro key noteMem
    obtain ⟨made, madeMem, sameRequest, isCreate, sameRealm, sameType⟩ :=
      once.createdFor _ key noteMem
    obtain rfl := eq_of_requestId_eq sound.distinctRequests madeMem rowMem sameRequest
    unfold TookEffect
    rw [isCreate]
    refine .inl ⟨key.2.2, ?_⟩
    rw [sameRealm, sameType]
    exact noteMem
  have ofUpdated : ∀ key, .updated row.requestId key ∈ now.notes → TookEffect now row := by
    intro key noteMem
    obtain ⟨made, madeMem, sameRequest, isUpdate, -⟩ := once.updatedFor _ key noteMem
    obtain rfl := eq_of_requestId_eq sound.distinctRequests madeMem rowMem sameRequest
    unfold TookEffect
    rw [isUpdate]
    exact ⟨key, noteMem⟩
  obtain ⟨note, noteMem, names⟩ := acknowledged
  cases note with
  | created requestId key =>
    obtain ⟨rfl, -⟩ := names
    exact ofCreated key noteMem
  | updated requestId key =>
    obtain ⟨rfl, -⟩ := names
    exact ofUpdated key noteMem
  | replayed requestId key =>
    obtain ⟨rfl, -⟩ := names
    rcases once.replayedFor _ key noteMem with ⟨key, created⟩ | ⟨key, updated⟩
    · exact ofCreated key created
    · exact ofUpdated key updated
  | found key name =>
    obtain ⟨isCreate, requires, rfl, idMap, named⟩ := names
    obtain ⟨ownName, carried, notLocal⟩ := once.carries row rowMem isCreate requires
    have sameName := uniqueNameOf_rewritten carried notLocal row.realmId idMap
    rw [named] at sameName
    unfold TookEffect
    rw [isCreate]
    exact .inr ⟨qboId, name, noteMem, carried.trans sameName.symm⟩
  | stale requestId key => exact nomatch names
  | failed requestId error => exact nomatch names

/-- News of no effect: nothing was added or changed, and what was replayed took
effect before. -/
def Quiet (world : World) : Note → Prop
  | .created _ _ | .updated _ _ => False
  | .replayed requestId _ => Effective world requestId
  | _ => True

theorem quiet (once : Once start now) (sameOutbox : after.store.outbox = now.store.outbox)
    (sameBook : after.quickBooks = now.quickBooks) {news : List Note}
    (noted : after.notes = news ++ now.notes) (isQuiet : ∀ note ∈ news, Quiet now note) :
    Once start after := by
  have grows : ∀ note ∈ now.notes, note ∈ after.notes := by
    intro note noteMem
    rw [noted]
    exact List.mem_append_right _ noteMem
  have old : ∀ note ∈ after.notes, ¬ Quiet now note → note ∈ now.notes := by
    intro note noteMem loud
    rw [noted] at noteMem
    exact (List.mem_append.mp noteMem).resolve_left fun isNew => loud (isQuiet note isNew)
  have countNone : ∀ test : Note → Bool, (∀ note ∈ news, test note = false) →
      after.notes.countP test = now.notes.countP test := by
    intro test none
    rw [noted, List.countP_append, List.countP_eq_zero.mpr fun note noteMem => by
      simp [none note noteMem], Nat.zero_add]
  constructor
  case createdOnce =>
    intro requestId
    rw [countNone _ fun note noteMem => ?_]
    · exact once.createdOnce requestId
    · have isQuiet := isQuiet note noteMem
      cases note <;> first | rfl | exact isQuiet.elim
  case updatedOnce =>
    intro requestId
    rw [countNone _ fun note noteMem => ?_]
    · exact once.updatedOnce requestId
    · have isQuiet := isQuiet note noteMem
      cases note <;> first | rfl | exact isQuiet.elim
  case createdFor =>
    rw [sameOutbox]
    exact fun requestId key noteMem => once.createdFor requestId key (old _ noteMem id)
  case updatedFor =>
    rw [sameOutbox]
    exact fun requestId key noteMem => once.updatedFor requestId key (old _ noteMem id)
  case replayedFor =>
    intro requestId key noteMem
    rw [noted] at noteMem
    rcases List.mem_append.mp noteMem with new | noteMem
    · exact (isQuiet _ new).mono grows
    · exact (once.replayedFor requestId key noteMem).mono grows
  case createdLogged =>
    rw [sameBook]
    exact fun requestId key noteMem => once.createdLogged requestId key (old _ noteMem id)
  case updatedLogged =>
    rw [sameBook]
    exact fun requestId key noteMem => once.updatedLogged requestId key (old _ noteMem id)
  case loggedFor =>
    rw [sameOutbox, sameBook]
    exact fun row rowMem isOpen logged => (once.loggedFor row rowMem isOpen logged).mono grows
  case held =>
    rw [sameBook]
    exact fun requestId key noteMem => once.held requestId key (old _ noteMem id)
  case named =>
    rw [sameOutbox, sameBook]
    exact fun row rowMem waits requires key noteMem =>
      once.named row rowMem waits requires key (old _ noteMem id)
  case carries => rw [sameOutbox]; exact once.carries
  case freshIds => rw [sameBook]; exact once.freshIds
  case applied =>
    rw [sameOutbox]
    exact fun row rowMem isApplied =>
      (once.applied row rowMem isApplied).imp_right (TookEffect.mono grows)
  case origins =>
    rw [sameBook]
    exact fun entry entryMem => (once.origins entry entryMem).imp_right fun ⟨requestId, noteMem⟩ =>
      ⟨requestId, grows _ noteMem⟩

theorem open_of_drains (drains : command.drains = true)
    (why : SavesAs command before now row record) :
    row.state.isTerminal = false ∧
      (record.state.mayBeSent = true → row.state.mayBeSent = true) ∧
      (record.state = .applied → ∃ qboId, Acknowledged now row qboId) := by
  cases why with
  | recovered _ inFlight pending sameBase => simp [inFlight, pending, OutboxState.isTerminal,
      OutboxState.mayBeSent]
  | begun _ pending inFlight sameBase => simp [inFlight, pending, OutboxState.isTerminal,
      OutboxState.mayBeSent]
  | applied _ inFlight applied sameBase acknowledged inRealm =>
    refine ⟨by rw [inFlight]; rfl, ?_, fun _ => acknowledged⟩
    rw [applied]
    exact fun waits => by cases waits
  | failed _ inFlight failure sameBase stale =>
    refine ⟨by rw [inFlight]; rfl, fun _ => by rw [inFlight]; rfl, ?_⟩
    intro isApplied
    rcases failure with failed | failed | failed <;> rw [isApplied] at failed <;>
      cases failed
  | retried realm time isRetry => rw [isRetry] at drains; cases drains
  | discarded realm time isDiscard => rw [isDiscard] at drains; cases drains

theorem saving (once : Once start now) (sound : Sound now) (drains : command.drains = true)
    (rowMem : row ∈ now.store.outbox) (same : SameRequest row record)
    (why : SavesAs command before now row record) : Once start (now.saving record) := by
  obtain ⟨wasOpen, waits, acknowledged⟩ := open_of_drains drains why
  have saved : Saved now record (now.saving record) := .done rfl
  have cases : ∀ other ∈ (now.saving record).store.outbox,
      other = record ∨ other ∈ now.store.outbox := by
    intro other otherMem
    exact (saved.mem_cases sound.distinctIds ⟨row, rowMem, same⟩ otherMem).imp_right And.left
  have keeps : ∀ {requestId : Nat} {claim : OutboxRecord → Prop},
      (∀ {first second}, SameRequest first second → claim first → claim second) →
      (∃ made ∈ now.store.outbox, made.requestId = requestId ∧ claim made) →
      ∃ made ∈ (now.saving record).store.outbox, made.requestId = requestId ∧ claim made := by
    rintro requestId claim carried ⟨made, madeMem, rfl, holds⟩
    obtain ⟨kept, keptMem, keptSame⟩ := saved.exists_sameRequest madeMem
    exact ⟨kept, keptMem, keptSame.requestId_eq.symm, carried keptSame holds⟩
  constructor
  case createdOnce => exact once.createdOnce
  case updatedOnce => exact once.updatedOnce
  case createdFor =>
    intro requestId key noteMem
    refine keeps ?_ (once.createdFor requestId key noteMem)
    rintro first second keptSame ⟨isCreate, sameRealm, sameType⟩
    exact ⟨keptSame.operation_eq ▸ isCreate, keptSame.realmId_eq ▸ sameRealm,
      keptSame.entityType_eq ▸ sameType⟩
  case updatedFor =>
    intro requestId key noteMem
    refine keeps ?_ (once.updatedFor requestId key noteMem)
    rintro first second keptSame ⟨isUpdate, sameRealm⟩
    exact ⟨keptSame.operation_eq ▸ isUpdate, keptSame.realmId_eq ▸ sameRealm⟩
  case replayedFor => exact once.replayedFor
  case createdLogged => exact once.createdLogged
  case updatedLogged => exact once.updatedLogged
  case loggedFor =>
    intro other otherMem isOpen logged
    rcases cases other otherMem with rfl | old
    · rw [← same.requestId_eq, ← same.realmId_eq] at logged
      exact same.requestId_eq ▸ once.loggedFor row rowMem wasOpen logged
    · exact once.loggedFor other old isOpen logged
  case held => exact once.held
  case named =>
    intro other otherMem otherWaits requires key noteMem
    rcases cases other otherMem with rfl | old
    · rw [← same.entityType_eq, ← same.payloadJson_eq]
      exact once.named row rowMem (waits otherWaits) (same.entityType_eq ▸ requires) key
        (same.requestId_eq ▸ noteMem)
    · exact once.named other old otherWaits requires key noteMem
  case carries =>
    intro other otherMem isCreate requires
    rcases cases other otherMem with rfl | old
    · obtain ⟨name, named⟩ := once.carries row rowMem (same.operation_eq.trans isCreate)
        (same.entityType_eq ▸ requires)
      exact ⟨name, same.entityType_eq ▸ same.payloadJson_eq ▸ named⟩
    · exact once.carries other old isCreate requires
  case freshIds => exact once.freshIds
  case applied =>
    intro other otherMem isApplied
    rcases cases other otherMem with rfl | old
    · obtain ⟨qboId, acknowledged⟩ := acknowledged isApplied
      exact .inr ((once.tookEffect sound rowMem acknowledged).of_sameRequest same)
    · exact once.applied other old isApplied
  case origins => exact once.origins

theorem not_created (once : Once start now) (sound : Sound now)
    (sending : Sending before now row idMap payload) (isCreate : row.operation = .create)
    (free : ¬ now.quickBooks.Clashes row.realmId row.entityType payload)
    (absent : requiresQueryBeforeCreate row.entityType = false →
      now.quickBooks.requestLog.lookup (row.realmId, row.requestId) = none) (key : EntityKey) :
    .created row.requestId key ∉ now.notes := by
  intro noteMem
  obtain ⟨made, madeMem, sameRequest, -, sameRealm, sameType⟩ := once.createdFor _ key noteMem
  obtain rfl := eq_of_requestId_eq sound.distinctRequests madeMem sending.rowMem sameRequest
  cases requires : requiresQueryBeforeCreate made.entityType with
  | false =>
    have logged := once.createdLogged _ key noteMem (sameType ▸ requires)
    rw [← sameRealm, absent requires] at logged
    exact nomatch logged
  | true =>
    obtain ⟨entity, isEntity⟩ := Option.isSome_iff_exists.mp (once.held _ key noteMem)
    obtain ⟨entityMem, isType, -⟩ := MockQbo.key_of_get? isEntity
    obtain ⟨name, carried, notLocal⟩ := once.carries made madeMem isCreate requires
    have kept := once.named made madeMem (by rw [sending.inFlight]; rfl) requires key noteMem
      entity isEntity
    have sent := uniqueNameOf_rewritten carried notLocal made.realmId idMap
    rw [sending.rewritten] at sent
    refine free ⟨name, sent, _, entityMem, ?_⟩
    simp [MockQbo.named, sameRealm, isType, sameType, ← kept.trans carried]

theorem not_updated (once : Once start now) (sound : Sound now)
    (rowMem : row ∈ now.store.outbox)
    (fresh : now.quickBooks.requestLog.lookup (row.realmId, row.requestId) = none)
    (key : EntityKey) : .updated row.requestId key ∉ now.notes := by
  intro noteMem
  obtain ⟨made, madeMem, sameRequest, -, sameRealm⟩ := once.updatedFor _ key noteMem
  obtain rfl := eq_of_requestId_eq sound.distinctRequests madeMem rowMem sameRequest
  have logged := once.updatedLogged _ key noteMem
  rw [← sameRealm, fresh] at logged
  exact nomatch logged

theorem added (once : Once start now) (sound : Sound now)
    (sending : Sending before now row idMap payload) (isCreate : row.operation = .create)
    (free : ¬ now.quickBooks.Clashes row.realmId row.entityType payload)
    (absent : requiresQueryBeforeCreate row.entityType = false →
      now.quickBooks.requestLog.lookup (row.realmId, row.requestId) = none)
    {book : MockQbo}
    (entities_eq : book.entities = KeyedTables.upsert MockQbo.keyOf
      (row.realmId, now.quickBooks.newRecord row.entityType payload) now.quickBooks.entities)
    (nextId_eq : book.nextId = now.quickBooks.nextId + 1)
    (requestLog_eq : book.requestLog =
      if requiresQueryBeforeCreate row.entityType then now.quickBooks.requestLog
      else ((row.realmId, row.requestId), now.quickBooks.newRecord row.entityType payload) ::
        now.quickBooks.requestLog)
    {lost : List Note} (isLost : LostAnswer fate row.requestId lost) :
    Once start (now.noting book (lost ++ [.created row.requestId
      (row.realmId, row.entityType, toString now.quickBooks.nextId)])) := by
  have unmade := once.not_created sound sending isCreate free absent
  have grows : ∀ note ∈ now.notes, note ∈ (now.noting book (lost ++ [.created row.requestId
      (row.realmId, row.entityType, toString now.quickBooks.nextId)])).notes :=
    fun note noteMem => List.mem_append_right _ noteMem
  have created : ∀ {requestId key}, Note.created requestId key ∈ (now.noting book
      (lost ++ [.created row.requestId
        (row.realmId, row.entityType, toString now.quickBooks.nextId)])).notes →
      requestId = row.requestId ∧
          key = (row.realmId, row.entityType, toString now.quickBooks.nextId) ∨
        Note.created requestId key ∈ now.notes := by
    intro requestId key noteMem
    rcases isLost.mem_noting noteMem with ⟨id, error, isFailed⟩ | isNew | old
    · exact nomatch isFailed
    · exact .inl (by simpa using isNew)
    · exact .inr old
  have logs : ∀ {key}, (now.quickBooks.requestLog.lookup key).isSome →
      (book.requestLog.lookup key).isSome := by
    intro key logged
    rw [requestLog_eq]
    split_ifs
    · exact logged
    · exact MockQbo.isSome_lookup_cons.mpr (.inr logged)
  have getNew : book.get? row.realmId row.entityType (toString now.quickBooks.nextId) =
      some (now.quickBooks.newRecord row.entityType payload) :=
    (MockQbo.get?_of_upsert entities_eq).trans (if_pos rfl)
  have getOld : ∀ {requestId key}, Note.created requestId key ∈ now.notes →
      book.get? key.1 key.2.1 key.2.2 = now.quickBooks.get? key.1 key.2.1 key.2.2 := by
    intro requestId key noteMem
    rw [MockQbo.get?_of_upsert entities_eq, if_neg]
    intro sameKey
    obtain ⟨entity, isEntity⟩ := Option.isSome_iff_exists.mp (once.held _ key noteMem)
    obtain ⟨entityMem, -, sameId⟩ := MockQbo.key_of_get? isEntity
    exact once.freshIds _ entityMem _ le_rfl
      (sameId.trans (Prod.mk.inj (Prod.mk.inj sameKey).2).2.symm)
  constructor
  case createdOnce =>
    intro requestId
    rw [isLost.countP_noting _ fun _ _ => rfl]
    by_cases isRow : row.requestId = requestId
    · have none : now.notes.countP (Note.creates requestId) = 0 := by
        rw [List.countP_eq_zero]
        intro note noteMem creates
        cases note with
        | created id key =>
          obtain rfl : id = requestId := of_decide_eq_true creates
          exact unmade key (isRow ▸ noteMem)
        | _ => exact nomatch creates
      simp [none, Note.creates, isRow]
    · simpa [Note.creates, isRow] using once.createdOnce requestId
  case updatedOnce =>
    intro requestId
    rw [isLost.countP_noting _ fun _ _ => rfl]
    exact once.updatedOnce requestId
  case createdFor =>
    intro requestId key noteMem
    rcases created noteMem with ⟨rfl, rfl⟩ | old
    · exact ⟨row, sending.rowMem, rfl, isCreate, rfl, rfl⟩
    · exact once.createdFor requestId key old
  case updatedFor =>
    intro requestId key noteMem
    rcases isLost.mem_noting noteMem with ⟨id, error, isFailed⟩ | isNew | old
    · exact nomatch isFailed
    · exact nomatch isNew
    · exact once.updatedFor requestId key old
  case replayedFor =>
    intro requestId key noteMem
    rcases isLost.mem_noting noteMem with ⟨id, error, isFailed⟩ | isNew | old
    · exact nomatch isFailed
    · exact nomatch isNew
    · exact (once.replayedFor requestId key old).mono grows
  case createdLogged =>
    intro requestId key noteMem deduplicates
    rcases created noteMem with ⟨rfl, rfl⟩ | old
    · change (book.requestLog.lookup (row.realmId, row.requestId)).isSome
      have notRequired : ¬ requiresQueryBeforeCreate row.entityType = true := by
        simpa using deduplicates
      rw [requestLog_eq, if_neg notRequired]
      exact MockQbo.isSome_lookup_cons.mpr (.inl rfl)
    · exact logs (once.createdLogged requestId key old deduplicates)
  case updatedLogged =>
    intro requestId key noteMem
    rcases isLost.mem_noting noteMem with ⟨id, error, isFailed⟩ | isNew | old
    · exact nomatch isFailed
    · exact nomatch isNew
    · exact logs (once.updatedLogged requestId key old)
  case loggedFor =>
    intro other otherMem isOpen logged
    by_cases isRow : other.requestId = row.requestId
    · rw [isRow]
      exact .inl ⟨_, new_mem_noting⟩
    · have oldLog : (now.quickBooks.requestLog.lookup
          (other.realmId, other.requestId)).isSome := by
        change (book.requestLog.lookup _).isSome at logged
        rw [requestLog_eq] at logged
        split_ifs at logged
        · exact logged
        · refine (MockQbo.isSome_lookup_cons.mp logged).resolve_left ?_
          intro same
          exact isRow (Prod.mk.inj same).2
      exact (once.loggedFor other otherMem isOpen oldLog).mono grows
  case held =>
    intro requestId key noteMem
    change (book.get? _ _ _).isSome
    rcases created noteMem with ⟨rfl, rfl⟩ | old
    · rw [getNew]
      rfl
    · rw [getOld old]
      exact once.held requestId key old
  case named =>
    intro other otherMem waits requires key noteMem entity isEntity
    change book.get? _ _ _ = _ at isEntity
    rcases created noteMem with ⟨isRow, rfl⟩ | old
    · obtain rfl := eq_of_requestId_eq sound.distinctRequests otherMem sending.rowMem isRow
      rw [getNew] at isEntity
      obtain rfl := Option.some.inj isEntity
      obtain ⟨name, carried, notLocal⟩ := once.carries other otherMem isCreate requires
      have sent := uniqueNameOf_rewritten carried notLocal other.realmId idMap
      rw [sending.rewritten] at sent
      exact sent.trans carried.symm
    · rw [getOld old] at isEntity
      exact once.named other otherMem waits requires key old entity isEntity
  case carries => exact once.carries
  case freshIds =>
    intro entry entryMem number later
    change entry ∈ book.entities at entryMem
    change book.nextId ≤ number at later
    rw [entities_eq] at entryMem
    rw [nextId_eq] at later
    rcases KeyedTables.mem_upsert _ _ _ entryMem with rfl | ⟨old, -⟩
    · intro same
      have := FirstFreeNumbers.numeral_injective same
      omega
    · exact once.freshIds entry old number (by omega)
  case applied =>
    exact fun other otherMem isApplied =>
      (once.applied other otherMem isApplied).imp_right (TookEffect.mono grows)
  case origins =>
    intro entry entryMem
    change entry ∈ book.entities at entryMem
    rw [entities_eq] at entryMem
    rcases KeyedTables.mem_upsert _ _ _ entryMem with rfl | ⟨old, -⟩
    · exact .inr ⟨row.requestId, new_mem_noting⟩
    · exact (once.origins entry old).imp_right fun ⟨requestId, noteMem⟩ =>
        ⟨requestId, grows _ noteMem⟩

theorem changed (once : Once start now) (sound : Sound now)
    (sending : Sending before now row idMap payload) (isUpdate : row.operation = .update)
    (fresh : now.quickBooks.requestLog.lookup (row.realmId, row.requestId) = none)
    {qboId : String}
    (keepsNames : KeepsNames fate (.update row.realmId row.entityType qboId payload
      (row.baseSyncToken.getD "") row.requestId) now)
    {entity : EntityPayload}
    (held : now.quickBooks.get? row.realmId row.entityType qboId = some entity)
    (current : entity.syncToken = row.baseSyncToken.getD "")
    {book : MockQbo}
    (entities_eq : book.entities = KeyedTables.upsert MockQbo.keyOf
      (row.realmId, now.quickBooks.revised entity payload) now.quickBooks.entities)
    (nextId_eq : book.nextId = now.quickBooks.nextId)
    (requestLog_eq : book.requestLog =
      ((row.realmId, row.requestId), now.quickBooks.revised entity payload) ::
        now.quickBooks.requestLog)
    {lost : List Note} (isLost : LostAnswer fate row.requestId lost) :
    Once start (now.noting book (lost ++ [.updated row.requestId
      (row.realmId, row.entityType, qboId)])) := by
  obtain ⟨entityMem, isType, isId⟩ := MockQbo.key_of_get? held
  have unchanged := once.not_updated sound sending.rowMem fresh
  have grows : ∀ note ∈ now.notes, note ∈ (now.noting book (lost ++ [.updated row.requestId
      (row.realmId, row.entityType, qboId)])).notes :=
    fun note noteMem => List.mem_append_right _ noteMem
  have created : ∀ {requestId key}, Note.created requestId key ∈ (now.noting book
      (lost ++ [.updated row.requestId (row.realmId, row.entityType, qboId)])).notes →
        Note.created requestId key ∈ now.notes := by
    intro requestId key noteMem
    rcases isLost.mem_noting noteMem with ⟨id, error, isFailed⟩ | isNew | old
    · exact nomatch isFailed
    · exact nomatch isNew
    · exact old
  have logs : ∀ {key}, (now.quickBooks.requestLog.lookup key).isSome →
      (book.requestLog.lookup key).isSome := by
    intro key logged
    rw [requestLog_eq]
    exact MockQbo.isSome_lookup_cons.mpr (.inr logged)
  have getAfter : ∀ realm entityType other, book.get? realm entityType other =
      if (row.realmId, row.entityType, qboId) = (realm, entityType, other) then
        some (now.quickBooks.revised entity payload)
      else now.quickBooks.get? realm entityType other := by
    intro realm entityType other
    rw [MockQbo.get?_of_upsert entities_eq, ← isType, ← isId]
    rfl
  constructor
  case createdOnce =>
    intro requestId
    rw [isLost.countP_noting _ fun _ _ => rfl]
    exact once.createdOnce requestId
  case updatedOnce =>
    intro requestId
    rw [isLost.countP_noting _ fun _ _ => rfl]
    by_cases isRow : row.requestId = requestId
    · have none : now.notes.countP (Note.updates requestId) = 0 := by
        rw [List.countP_eq_zero]
        intro note noteMem updates
        cases note with
        | updated id key =>
          obtain rfl : id = requestId := of_decide_eq_true updates
          exact unchanged key (isRow ▸ noteMem)
        | _ => exact nomatch updates
      simp [none, Note.updates, isRow]
    · simpa [Note.updates, isRow] using once.updatedOnce requestId
  case createdFor => exact fun requestId key noteMem => once.createdFor _ key (created noteMem)
  case updatedFor =>
    intro requestId key noteMem
    rcases isLost.mem_noting noteMem with ⟨id, error, isFailed⟩ | isNew | old
    · exact nomatch isFailed
    · obtain ⟨rfl, rfl⟩ : requestId = row.requestId ∧ key = _ := by simpa using isNew
      exact ⟨row, sending.rowMem, rfl, isUpdate, rfl⟩
    · exact once.updatedFor requestId key old
  case replayedFor =>
    intro requestId key noteMem
    rcases isLost.mem_noting noteMem with ⟨id, error, isFailed⟩ | isNew | old
    · exact nomatch isFailed
    · exact nomatch isNew
    · exact (once.replayedFor requestId key old).mono grows
  case createdLogged =>
    exact fun requestId key noteMem deduplicates =>
      logs (once.createdLogged requestId key (created noteMem) deduplicates)
  case updatedLogged =>
    intro requestId key noteMem
    rcases isLost.mem_noting noteMem with ⟨id, error, isFailed⟩ | isNew | old
    · exact nomatch isFailed
    · obtain ⟨rfl, rfl⟩ : requestId = row.requestId ∧ key = _ := by simpa using isNew
      change (book.requestLog.lookup (row.realmId, row.requestId)).isSome
      rw [requestLog_eq]
      exact MockQbo.isSome_lookup_cons.mpr (.inl rfl)
    · exact logs (once.updatedLogged requestId key old)
  case loggedFor =>
    intro other otherMem isOpen logged
    by_cases isRow : other.requestId = row.requestId
    · rw [isRow]
      exact .inr ⟨_, new_mem_noting⟩
    · change (book.requestLog.lookup _).isSome at logged
      rw [requestLog_eq] at logged
      have oldLog := (MockQbo.isSome_lookup_cons.mp logged).resolve_left
        fun same => isRow (Prod.mk.inj same).2
      exact (once.loggedFor other otherMem isOpen oldLog).mono grows
  case held =>
    intro requestId key noteMem
    change (book.get? _ _ _).isSome
    rw [getAfter]
    split_ifs
    · rfl
    · exact once.held requestId key (created noteMem)
  case named =>
    intro other otherMem waits requires key noteMem after isAfter
    have noteMem := created noteMem
    change book.get? _ _ _ = _ at isAfter
    rw [getAfter] at isAfter
    split_ifs at isAfter with sameKey
    · obtain rfl := Option.some.inj isAfter
      have isKey : key = (row.realmId, row.entityType, qboId) := sameKey.symm
      subst isKey
      exact (keepsNames fresh other otherMem waits requires noteMem entity held current).trans
        (once.named other otherMem waits requires _ noteMem entity held)
    · exact once.named other otherMem waits requires key noteMem after isAfter
  case carries => exact once.carries
  case freshIds =>
    intro entry entryMem number later
    change entry ∈ book.entities at entryMem
    change book.nextId ≤ number at later
    rw [entities_eq] at entryMem
    rw [nextId_eq] at later
    rcases KeyedTables.mem_upsert _ _ _ entryMem with rfl | ⟨old, -⟩
    · exact once.freshIds _ entityMem number later
    · exact once.freshIds entry old number later
  case applied =>
    exact fun other otherMem isApplied =>
      (once.applied other otherMem isApplied).imp_right (TookEffect.mono grows)
  case origins =>
    intro entry entryMem
    change entry ∈ book.entities at entryMem
    rw [entities_eq] at entryMem
    rcases KeyedTables.mem_upsert _ _ _ entryMem with rfl | ⟨old, -⟩
    · exact (once.origins _ entityMem).imp_right fun ⟨requestId, noteMem⟩ =>
        ⟨requestId, grows _ noteMem⟩
    · exact (once.origins entry old).imp_right fun ⟨requestId, noteMem⟩ =>
        ⟨requestId, grows _ noteMem⟩

theorem change (once : Once start now) (sound : Sound now) (drains : command.drains = true)
    (keepsNames : KeepsNames fate call now)
    (change : Change command before now fate call after) : Once start after := by
  have lostQuiet : ∀ {requestId lost}, LostAnswer fate requestId lost →
      ∀ note ∈ lost, Quiet now note := by
    rintro requestId lost (rfl | ⟨error, -, rfl⟩) note noteMem
    · exact nomatch noteMem
    · rw [List.mem_singleton.mp noteMem]
      trivial
  have withLost : ∀ {requestId lost note}, LostAnswer fate requestId lost → Quiet now note →
      ∀ news ∈ lost ++ [note], Quiet now news := by
    intro requestId lost note isLost isQuiet news newsMem
    rcases List.mem_append.mp newsMem with wasLost | isNote
    · exact lostQuiet isLost news wasLost
    · rw [List.mem_singleton.mp isNote]
      exact isQuiet
  have still : ∀ {later : World}, later.store.outbox = now.store.outbox →
      later.quickBooks = now.quickBooks → later.notes = now.notes → Once start later :=
    fun sameOutbox sameBook sameNotes => once.quiet sameOutbox sameBook
      (sameNotes.trans (List.nil_append _).symm) fun _ isNew => nomatch isNew
  cases change with
  | still => exact once
  | minted => exact still rfl rfl rfl
  | saved row record rowMem same why isCall => exact once.saving sound drains rowMem same why
  | unsaved record notServed isCall => exact still rfl rfl rfl
  | queued record sameStore freshId freshRequest freshLog queued queues ordered minted isCall =>
    cases command with
    | drainOnce realm time => exact queues.elim
    | _ => exact nomatch drains
  | mapped realm localEntityId qboId assigned isCall =>
    refine still ?_ rfl rfl
    exact outbox_recordIdMapping _ _ _
  | unheard row idMap payload sending error isError remote =>
    refine once.quiet rfl rfl rfl fun note noteMem => ?_
    rw [List.mem_singleton.mp noteMem]
    trivial
  | replayed row idMap payload sending existing deduplicates logged remote lost isLost =>
    refine once.quiet rfl rfl rfl (withLost isLost ?_)
    exact once.loggedFor row sending.rowMem (by rw [sending.inFlight]; rfl) (by rw [logged]; rfl)
  | refused row idMap payload sending remote lost isLost =>
    exact once.quiet rfl rfl rfl (lostQuiet isLost)
  | added row idMap payload sending isCreate isCall free absent book entities_eq nextId_eq
      requestLog_eq lost isLost =>
      exact once.added sound sending isCreate free absent entities_eq nextId_eq requestLog_eq
        isLost
  | stale row idMap payload sending isUpdate fresh qboId isTarget isCall entity held moved lost
      isLost =>
      exact once.quiet rfl rfl rfl (withLost isLost trivial)
  | changed row idMap payload sending isUpdate fresh qboId isTarget isCall entity held current
      book entities_eq nextId_eq requestLog_eq lost isLost =>
      exact once.changed sound sending isUpdate fresh (isCall ▸ keepsNames) held current
        entities_eq nextId_eq requestLog_eq isLost
  | found row idMap payload sending isCreate name named existing isFound isCall =>
    refine once.quiet rfl rfl rfl fun note noteMem => ?_
    rw [List.mem_singleton.mp noteMem]
    trivial

end Once

/-! ## Runs -/

/-- Nothing that the open records ask for was sent before. -/
structure Unsent (world : World) : Prop where
  notes : world.notes = []
  fresh : ∀ row ∈ world.store.outbox, row.state.isTerminal = false →
    world.quickBooks.requestLog.lookup (row.realmId, row.requestId) = none
  named : ∀ row ∈ world.store.outbox, row.operation = .create →
    requiresQueryBeforeCreate row.entityType = true → row.CarriesName
  freshIds : ∀ entry ∈ world.quickBooks.entities, ∀ number,
    world.quickBooks.nextId ≤ number → entry.2.qboId ≠ toString number

theorem Unsent.once {start : World} (unsent : Unsent start) : Once start start := by
  have none : ∀ note, note ∉ start.notes := by
    rw [unsent.notes]
    exact fun note => List.not_mem_nil
  constructor
  case createdOnce => simp [unsent.notes]
  case updatedOnce => simp [unsent.notes]
  case createdFor => exact fun requestId key noteMem => absurd noteMem (none _)
  case updatedFor => exact fun requestId key noteMem => absurd noteMem (none _)
  case replayedFor => exact fun requestId key noteMem => absurd noteMem (none _)
  case createdLogged => exact fun requestId key noteMem => absurd noteMem (none _)
  case updatedLogged => exact fun requestId key noteMem => absurd noteMem (none _)
  case loggedFor =>
    intro row rowMem isOpen logged
    rw [unsent.fresh row rowMem isOpen] at logged
    exact nomatch logged
  case held => exact fun requestId key noteMem => absurd noteMem (none _)
  case named => exact fun row rowMem waits requires key noteMem => absurd noteMem (none _)
  case carries => exact unsent.named
  case freshIds => exact unsent.freshIds
  case applied => exact fun row rowMem applied => .inl ⟨row, rowMem, rfl, applied⟩
  case origins => exact fun entry entryMem => .inl ⟨entry, entryMem, rfl⟩

/-- Every record of the book of record was there when the run began or was added
by a create, no request adds or changes more than one, and what is stored as
applied took effect. -/
structure ExactlyOnce (start world : World) : Prop where
  origins : ∀ entry ∈ world.quickBooks.entities,
    (∃ held ∈ start.quickBooks.entities, MockQbo.keyOf held = MockQbo.keyOf entry) ∨
      ∃ row ∈ world.store.outbox, row.operation = .create ∧
        .created row.requestId (MockQbo.keyOf entry) ∈ world.notes
  creates : ∀ row ∈ world.store.outbox, world.notes.countP (Note.creates row.requestId) ≤ 1
  updates : ∀ row ∈ world.store.outbox, world.notes.countP (Note.updates row.requestId) ≤ 1
  applied : ∀ row ∈ world.store.outbox, row.state = .applied →
    (∃ held ∈ start.store.outbox, held.id = row.id ∧ held.state = .applied) ∨
      TookEffect world row

/-- What happens beside the passes, where nobody else edits. -/
def NobodyEdits (event : Event) (_ : World) : Prop :=
  match event with
  | .edited _ _ _ _ => False
  | _ => True

theorem Once.occur {start world : World} (once : Once start world) (event : Event)
    (nobody : NobodyEdits event world) : Once start (occur event world) := by
  have unchanged : (Outbox.occur event world).store.outbox = world.store.outbox ∧
      (Outbox.occur event world).quickBooks = world.quickBooks ∧
        (Outbox.occur event world).notes = world.notes := by
    cases event with
    | edited realm entityType qboId rawJson => exact nobody.elim
    | synced realm entityType qboId =>
      refine ⟨?_, rfl, rfl⟩
      change (world.store.sync world.quickBooks realm entityType qboId).outbox = _
      unfold Store.sync
      cases world.quickBooks.get? realm entityType qboId <;> rfl
    | writesEnabled realm => exact ⟨rfl, rfl, rfl⟩
  obtain ⟨sameOutbox, sameBook, sameNotes⟩ := unchanged
  exact once.quiet sameOutbox sameBook (sameNotes.trans (List.nil_append _).symm)
    fun _ isNew => nomatch isNew

/-- In every run of passes, whatever becomes of the calls and wherever the process
dies, as long as no update takes away a name that a create will look for. -/
theorem drains_exactlyOnce {start : World} {moves : List WriteMove} (sound : Sound start)
    (unsent : Unsent start)
    (permitted : EveryStep (Session.step serve program occur)
      (Permitted (fun command _ => command.drains = true) KeepsNames (fun _ => True)
        NobodyEdits) (Session.idle start) moves) :
    ExactlyOnce start (runSession start moves).world := by
  have calls : ∀ fate call now, KeepsNames fate call now →
      AskedFrom (fun command _ => command.drains = true) (Once start) call now →
      Once start now → Once start (serve fate call now).1 := by
    rintro fate call now keepsNames ⟨command, before, drains, beforeSound, -, fits⟩ once
    exact once.change fits.1 drains keepsNames (change_serve beforeSound fits)
  have holds := runSession_holds calls
    (fun event world _ once nobody => once.occur event nobody) sound unsent.once permitted
  have once : Once start (runSession start moves).world :=
    holds.world (fun _ _ fits => fits.2) fun _ between => between.2
  refine ⟨?_, fun row _ => once.createdOnce _, fun row _ => once.updatedOnce _, once.applied⟩
  intro entry entryMem
  refine (once.origins entry entryMem).imp_right ?_
  rintro ⟨requestId, noteMem⟩
  obtain ⟨row, rowMem, rfl, isCreate, -⟩ := once.createdFor requestId _ noteMem
  exact ⟨row, rowMem, isCreate, noteMem⟩

/-! ## A create whose answer was lost -/

namespace LostCreate

def create : OutboxRecord where
  id := 0
  realmId := "1"
  entityType := .customer
  operation := .create
  payloadJson := .object [("DisplayName", .string "Ada")]
  localEntityId := "local:0"
  baseSyncToken := none
  requestId := 1
  state := .pending
  attempts := 0
  dependsOn := none
  lastError := none
  createdAt := 0
  updatedAt := 0

/-- An update of the first record that will be added. -/
def update (changes : List (String × Json)) : OutboxRecord :=
  { create with
    id := 2
    operation := .update
    payloadJson := .object (("sparse", .bool true) :: changes)
    localEntityId := "1"
    baseSyncToken := some "0"
    requestId := 3 }

def world (changes : List (String × Json)) : World where
  store :=
    { writeEnabled := ["1"], outbox := [create, update changes], localIdMap := [],
      entities := [] }
  quickBooks := { entities := [], requestLog := [], nextId := 1, clock := 0 }
  nextUuid := 4
  notes := []
  unsaved := []

theorem sound_world (changes : List (String × Json)) : Sound (world changes) := by
  constructor <;> simp [world, create, update]

theorem unsent_world (changes : List (String × Json)) : Unsent (world changes) := by
  constructor
  case named =>
    intro row rowMem isCreate
    have cases : row = create ∨ row = update changes := by simpa [world] using rowMem
    rcases cases with rfl | rfl
    · exact fun _ => ⟨"Ada", by decide, by decide⟩
    · exact nomatch isCreate
  all_goals simp [world]

/-- A pass in which the answer to the create is lost, and the next pass. -/
def moves : List WriteMove :=
  .start (.drainOnce "1" 5) :: List.replicate 5 (.serve .served) ++
    .serve (.unanswered (.network "timed out")) :: List.replicate 4 (.serve .served) ++
    .start (.drainOnce "1" 6) :: List.replicate 8 (.serve .served)

/-- The move starts a pass or serves a call, of an update one that changes no
name. -/
def keepsNames (move : WriteMove) (session : WriteSession) : Bool :=
  match move with
  | .start command => command.drains
  | .serve _ =>
    match session.asks? with
    | some (.update _ _ _ payload _ _) =>
      (payload.get? "sparse").bind Json.asBool == some true &&
        ((payload.get? "DisplayName").isNone && (payload.get? "Name").isNone)
    | _ => true
  | _ => false

theorem permitted_of_keepsNames {move : WriteMove} {session : WriteSession}
    (keeps : keepsNames move session = true) :
    Permitted (fun command _ => command.drains = true) KeepsNames (fun _ => True) NobodyEdits
      move session := by
  cases move with
  | start command => exact fun _ => keeps
  | serve fate =>
    intro request next running
    cases request with
    | update realm entityType qboId payload baseSyncToken requestId =>
      have checked := keeps
      simp only [keepsNames, Session.asks?, running, Bool.and_eq_true, beq_iff_eq,
        Option.isNone_iff_eq_none] at checked
      obtain ⟨sparse, noDisplayName, noName⟩ := checked
      intro _ row _ _ requires _ entity _ _
      unfold uniqueNameOf
      cases isType : row.entityType <;> simp [isType, requiresQueryBeforeCreate] at requires
      · simp [uniqueNameField, get?_updatedJson sparse noDisplayName]
      · simp [uniqueNameField, get?_updatedJson sparse noName]
    | _ => trivial
  | die => cases keeps
  | happen event => cases keeps

/-- The move starts a pass or serves a call. -/
def isPass : WriteMove → Bool
  | .start command => command.drains
  | .serve _ => true
  | _ => false

/-- The second pass adopts what the first one created. -/
theorem drains_exactlyOnce_notes :
    ExactlyOnce (world [("Notes", .string "calls back")])
      (runSession (world [("Notes", .string "calls back")]) moves).world := by
  refine drains_exactlyOnce (sound_world _) (unsent_world _) (EveryStep.mono ?_
    fun move session => permitted_of_keepsNames)
  decide +kernel

/-- Where the update takes the name away, the next pass creates it again. -/
theorem not_drains_exactlyOnce :
    ¬ ∀ (start : World) (moves : List WriteMove), Sound start → Unsent start →
      EveryStep (Session.step serve program occur)
        (Permitted (fun command _ => command.drains = true) (fun _ _ _ => True)
          (fun _ => True) NobodyEdits) (Session.idle start) moves →
      ExactlyOnce start (runSession start moves).world := by
  intro once
  have passes : EveryStep (Session.step serve program occur)
      (Permitted (fun command _ => command.drains = true) (fun _ _ _ => True)
        (fun _ => True) NobodyEdits)
      (Session.idle (world [("DisplayName", .string "Bea")])) moves := by
    apply everyStep_of_forall
    intro move moveMem session
    have drains : isPass move = true :=
      List.all_eq_true.mp (by decide : moves.all isPass = true) move moveMem
    cases move with
    | start command => exact fun _ => drains
    | serve fate => exact fun _ _ _ => trivial
    | die => exact nomatch drains
    | happen event => exact nomatch drains
  have atMostOnce := (once _ moves (sound_world _) (unsent_world _) passes).creates
  have rowStays : ((runSession (world [("DisplayName", .string "Bea")]) moves).world.store.outbox.any
      fun row => row.requestId = 1) = true := by
    decide +kernel
  obtain ⟨row, rowMem, isCreate⟩ := List.any_eq_true.mp rowStays
  have twice : (runSession (world [("DisplayName", .string "Bea")]) moves).world.notes.countP
      (Note.creates 1) = 2 := by
    decide +kernel
  have once := atMostOnce row rowMem
  rw [of_decide_eq_true isCreate, twice] at once
  exact absurd once (by decide)

end LostCreate

end QuickBooks.Outbox
