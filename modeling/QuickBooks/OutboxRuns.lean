import QuickBooks.OutboxLoading

/-!
# Runs of the write path

A single process runs one command after another on the file and may die between
any two calls; in between someone may edit a record in the book of record and a
sync may bring the replica up to date.  An invariant of the file and the book of
record that every fit call keeps holds in every state of such a run.
-/

/-!
## Queueing a write and resolving a failed one

Queueing only reads before it adds its one row, and a resolution saves the one
row it is about.
-/

namespace QuickBooks.Outbox

open InterruptiblePrograms

section Queueing

variable {before now : World} {command : Command} {realm : String} {time : Int}
variable {allowed : Fate → Call → World → Prop}

def OnlyMinted (before now : World) : Prop :=
  now.store = before.store ∧ now.quickBooks = before.quickBooks ∧ now.notes = before.notes ∧
    before.nextUuid ≤ now.nextUuid

theorem OnlyMinted.sound (minted : OnlyMinted before now) (sound : Sound before) : Sound now := by
  obtain ⟨sameStore, sameBook, -, later⟩ := minted
  refine ⟨?_, ?_, ?_, ?_, ?_⟩
  · rw [sameStore]; exact sound.distinctIds
  · rw [sameStore]; exact sound.distinctRequests
  · rw [sameStore]; exact fun row rowMem => lt_of_lt_of_le (sound.mintedIds row rowMem) later
  · rw [sameStore]
    exact fun row rowMem => lt_of_lt_of_le (sound.mintedRequests row rowMem) later
  · rw [sameBook]
    exact fun entry entryMem => lt_of_lt_of_le (sound.mintedLog entry entryMem) later

def IsParent (store : Store) (realm : String) (parent : OutboxRecord) : Prop :=
  parent ∈ store.outbox ∧ parent.realmId = realm ∧ parent.state.isTerminal = false ∧
    parent.operation = .create

def Resolvable (store : Store) (realm reference : String) : Prop :=
  (store.localIdMap.lookup (realm, reference)).isSome ∨
    ∃ parent, IsParent store realm parent ∧ parent.localEntityId = reference

theorem meets_parentOf (sound : Sound now) (reference : String) :
    Meets serve allowed (CommandFit command before) (fun _ => Sound)
      (fun parent after => after = now ∧ Resolvable now.store realm reference ∧
        ∀ id, parent = some id → ∃ row, IsParent now.store realm row ∧ row.id = id)
      (parentOf realm reference) now := by
  unfold parentOf
  apply meets_resolveLocalId realm reference ⟨sound, trivial⟩ _ fun _ => sound
  split_ifs with assigned
  · exact ⟨rfl, .inl assigned, fun id isParent => absurd isParent (by simp)⟩
  · apply meets_outboxRecords realm openStates ⟨sound, trivial⟩ _ fun _ => sound
    cases found : (now.store.outboxRecords realm openStates).find? fun record =>
        record.operation == .create && record.localEntityId == reference with
    | none => exact sound
    | some parent =>
      have matched := List.find?_some found
      rw [Bool.and_eq_true, beq_iff_eq, beq_iff_eq] at matched
      obtain ⟨parentMem, inRealm, isOpen⟩ :=
        Store.mem_outboxRecords.mp (List.mem_of_find?_eq_some found)
      have isParent : IsParent now.store realm parent :=
        ⟨parentMem, inRealm, Store.mem_openStates.mp isOpen, matched.1⟩
      refine ⟨rfl, .inr ⟨parent, isParent, matched.2⟩, ?_⟩
      rintro id ⟨⟩
      exact ⟨parent, isParent, rfl⟩

theorem meets_lastParents (sound : Sound now) (references : List String) :
    Meets serve allowed (CommandFit command before) (fun _ => Sound)
      (fun dependsOn after => after = now ∧
        (∀ reference ∈ references, Resolvable now.store realm reference) ∧
        ∀ id, dependsOn = some id → ∃ row, IsParent now.store realm row ∧ row.id = id)
      (references.foldlM (lastParent realm) none) now := by
  refine (meets_foldlM (fun todo (dependsOn : Option Nat) after => after = now ∧
      (∀ reference ∈ references, reference ∈ todo ∨ Resolvable now.store realm reference) ∧
      ∀ id, dependsOn = some id → ∃ row, IsParent now.store realm row ∧ row.id = id)
    ?_ ⟨rfl, fun reference referenceMem => .inl referenceMem,
      fun id isParent => absurd isParent (by simp)⟩).imp ?_
  · rintro reference todo dependsOn _ ⟨rfl, resolvable, parents⟩
    unfold lastParent
    rw [meets_bind]
    refine (meets_parentOf sound reference).imp ?_
    rintro parent after ⟨rfl, isResolvable, isParent⟩
    refine ⟨rfl, ?_, ?_⟩
    · intro other otherMem
      rcases resolvable other otherMem with inTodo | known
      · rcases List.mem_cons.mp inTodo with rfl | later
        · exact .inr isResolvable
        · exact .inl later
      · exact .inr known
    · intro id chosen
      cases parent with
      | none => exact parents id chosen
      | some found => exact isParent id chosen
  · rintro dependsOn after ⟨rfl, resolvable, parents⟩
    exact ⟨rfl, fun reference referenceMem => (resolvable reference referenceMem).resolve_left
      List.not_mem_nil, parents⟩

theorem sound_enqueue {record : OutboxRecord} {store : Store} (sound : Sound now)
    (freshId : ∀ row ∈ now.store.outbox, row.id ≠ record.id)
    (freshRequest : ∀ row ∈ now.store.outbox, row.requestId ≠ record.requestId)
    (mintedId : record.id < now.nextUuid) (mintedRequest : record.requestId < now.nextUuid)
    (enqueued : now.store.enqueue record = .ok store) : Sound { now with store } := by
  unfold Store.enqueue at enqueued
  split_ifs at enqueued
  obtain rfl := (Except.ok.inj enqueued).symm
  have distinct : ∀ {key : OutboxRecord → Nat}, (now.store.outbox.map key).Nodup →
      (∀ row ∈ now.store.outbox, key row ≠ key record) →
      ((now.store.outbox ++ [record]).map key).Nodup := by
    intro key held fresh
    rw [List.map_append, List.map_singleton]
    apply List.Nodup.append held (List.nodup_singleton _)
    intro shared sharedMem isNew
    obtain ⟨row, rowMem, rfl⟩ := List.mem_map.mp sharedMem
    exact fresh row rowMem (List.mem_singleton.mp isNew)
  have minted : ∀ {key : OutboxRecord → Nat}, (∀ row ∈ now.store.outbox, key row < now.nextUuid) →
      key record < now.nextUuid → ∀ row ∈ now.store.outbox ++ [record], key row < now.nextUuid := by
    intro key held here row rowMem
    rcases List.mem_append.mp rowMem with old | new
    · exact held row old
    · rw [List.mem_singleton.mp new]
      exact here
  exact ⟨distinct sound.distinctIds freshId, distinct sound.distinctRequests freshRequest,
    minted sound.mintedIds mintedId, minted sound.mintedRequests mintedRequest, sound.mintedLog⟩

theorem meets_queue (sound : Sound before) (since : OnlyMinted before now)
    {entityType : EntityType} {operation : Operation} {localEntityId : String}
    {payload : Json} {baseSyncToken : Option String}
    (target : match operation with
      | .create => baseSyncToken = none ∧ ∃ uuid, before.nextUuid ≤ uuid ∧
          uuid < now.nextUuid ∧ localEntityId = localIdOf uuid
      | .update => ∃ version, before.store.getEntity realm entityType localEntityId =
          some version ∧ version.isDeleted = false ∧
            baseSyncToken = some version.syncToken)
    (queues : ∀ record : OutboxRecord, record.operation = operation → record.realmId = realm →
      record.entityType = entityType → record.localEntityId = localEntityId →
      record.payloadJson = payload → command.Queues record) :
    Meets serve allowed (CommandFit command before) (fun _ => Sound) (fun _ => Sound)
      (queue realm entityType operation localEntityId payload baseSyncToken time) now := by
  have nowSound := since.sound sound
  unfold queue
  apply meets_requireWrites ⟨nowSound, trivial⟩ _ fun _ => nowSound
  rw [meets_bind]
  refine (meets_lastParents nowSound (sortedReferences payload localEntityId)).imp ?_
  rintro dependsOn _ ⟨rfl, resolvable, parents⟩
  obtain ⟨sameStore, sameBook, sameNotes, later⟩ := since
  rename_i now
  have oneMinted : OnlyMinted before { now with nextUuid := now.nextUuid + 1 } :=
    ⟨sameStore, sameBook, sameNotes, by dsimp only; omega⟩
  have twoMinted : OnlyMinted before { now with nextUuid := now.nextUuid + 1 + 1 } :=
    ⟨sameStore, sameBook, sameNotes, by dsimp only; omega⟩
  apply meets_newUuid ⟨nowSound, trivial⟩
  apply meets_newUuid ⟨oneMinted.sound sound, trivial⟩
  have finalSound := twoMinted.sound sound
  have queued : Queued before
      { OutboxRecord.new
          { id := now.nextUuid, requestId := now.nextUuid + 1, realmId := realm, entityType,
            operation, payloadJson := payload, localEntityId, baseSyncToken } time with
        dependsOn } := by
    refine ⟨rfl, ?_, ?_, ?_⟩
    · intro reference referenceMem notOwn
      rw [← sameStore]
      rcases resolvable reference (by
          simp only [sortedReferences, List.mem_insertionSort, List.mem_filter, List.mem_dedup]
          exact ⟨referenceMem, by simpa [OutboxRecord.new] using notOwn⟩) with
        mapped | ⟨parent, ⟨parentMem, inRealm, isOpen, isCreate⟩, named⟩
      · exact .inl mapped
      · exact .inr ⟨parent, parentMem, inRealm, isOpen, isCreate, named⟩
    · intro id depends
      obtain ⟨parent, ⟨parentMem, inRealm, isOpen, isCreate⟩, sameId⟩ := parents id depends
      exact ⟨parent, sameStore ▸ parentMem, sameId, inRealm, isOpen, isCreate⟩
    · exact target
  refine ⟨⟨finalSound, queues _ rfl rfl rfl rfl rfl, sameStore, sameBook, sameNotes, later, Nat.lt_succ_self _,
    Nat.lt_succ_self _, queued⟩, ?_⟩
  rintro (_ | error | error) -
  · change Meets serve allowed _ _ _ (stored (World.stored _ _).2 >>= _) (World.stored _ _).1
    cases enqueued : now.store.enqueue
        { OutboxRecord.new
            { id := now.nextUuid, requestId := now.nextUuid + 1, realmId := realm, entityType,
              operation, payloadJson := payload, localEntityId, baseSyncToken } time with
          dependsOn } with
    | error failure => exact finalSound
    | ok store =>
      refine sound_enqueue finalSound ?_ ?_ (Nat.lt_succ_of_lt (Nat.lt_succ_self _))
        (Nat.lt_succ_self _) enqueued
      · exact fun row rowMem => (nowSound.mintedIds row rowMem).ne
      · exact fun row rowMem => (Nat.lt_succ_of_lt (nowSound.mintedRequests row rowMem)).ne
  · exact finalSound
  · exact finalSound

theorem meets_queueCreate (sound : Sound before) (entityType : EntityType) (payload : Json) :
    Meets serve allowed (CommandFit (.queueCreate realm entityType payload time) before)
      (fun _ => Sound) (fun _ => Sound) (queueCreate realm entityType payload time) before := by
  unfold queueCreate
  apply meets_newUuid ⟨sound, trivial⟩
  have since : OnlyMinted before { before with nextUuid := before.nextUuid + 1 } :=
    ⟨rfl, rfl, rfl, Nat.le_succ _⟩
  exact meets_queue sound since ⟨rfl, before.nextUuid, le_rfl, Nat.lt_succ_self _, rfl⟩
    fun record isCreate inRealm isType _ isPayload => ⟨isCreate, inRealm, isType, isPayload⟩

theorem meets_queueUpdate (sound : Sound before) (entityType : EntityType) (qboId : String)
    (payload : Json) :
    Meets serve allowed (CommandFit (.queueUpdate realm entityType qboId payload time) before)
      (fun _ => Sound) (fun _ => Sound) (queueUpdate realm entityType qboId payload time) before := by
  unfold queueUpdate
  apply meets_getEntity realm entityType qboId ⟨sound, trivial⟩ _ fun _ => sound
  cases found : before.store.getEntity realm entityType qboId with
  | none => exact sound
  | some version =>
    dsimp only
    split_ifs with deleted
    · exact sound
    · exact meets_queue sound ⟨rfl, rfl, rfl, le_rfl⟩
        ⟨version, found, by simpa using deleted, rfl⟩
        fun record isUpdate inRealm isType isTarget isPayload =>
          ⟨isUpdate, inRealm, isType, isTarget, isPayload⟩

theorem meets_resolveRecord (sound : Sound before) {record : OutboxRecord}
    (recordMem : record ∈ before.store.outbox) (inRealm : record.realmId = realm)
    (resolution : Resolution) :
    Meets serve allowed (CommandFit command before) (fun _ => Sound)
      (fun resolved after => after = before ∧ SameRequest record resolved ∧
        SavesAs (.resolve realm record.id resolution time) before before record resolved)
      (resolveRecord realm time record resolution) before := by
  cases resolution with
  | discard =>
    unfold resolveRecord
    rw [meets_expect]
    refine ⟨?_, fun failure _ => sound⟩
    intro discarded moved
    obtain ⟨permitted, rfl⟩ := OutboxRecord.transition_spec moved
    have attention : record.state.needsAttention = true := by
      cases state : record.state <;>
        simp [state, OutboxState.canTransitionTo, OutboxState.needsAttention] at permitted ⊢
    exact ⟨rfl, by simp [SameRequest], .discarded realm time rfl recordMem attention rfl rfl⟩
  | retry =>
    unfold resolveRecord
    apply meets_requireWrites ⟨sound, trivial⟩ _ fun _ => sound
    have retries : ∀ base : OutboxRecord, SameRequest record base → base.state = record.state →
        (base.baseSyncToken = record.baseSyncToken ∨ ∃ current,
          before.store.getEntity record.realmId record.entityType record.localEntityId =
            some current ∧ base.baseSyncToken = some current.syncToken) →
        Meets serve allowed (CommandFit command before) (fun _ => Sound)
          (fun resolved after => after = before ∧ SameRequest record resolved ∧
            SavesAs (.resolve realm record.id .retry time) before before record resolved)
          (Process.expect WriteError.outbox (base.resolve time)) before := by
      intro base same sameState sameBase
      rw [meets_expect]
      refine ⟨?_, fun failure _ => sound⟩
      intro pending moved
      obtain ⟨permitted, rfl⟩ := OutboxRecord.transition_spec moved
      refine ⟨rfl, same.trans (by simp [SameRequest]), ?_⟩
      rw [sameState] at permitted
      cases state : record.state with
      | inFlight => exact .retried realm time rfl recordMem (.inl state) rfl sameBase
      | conflicted | rejected =>
        exact .retried realm time rfl recordMem (.inr (by rw [state]; rfl)) rfl sameBase
      | pending | applied | discarded =>
        simp [state, OutboxState.canTransitionTo] at permitted
    rw [meets_bind]
    unfold rebased
    split_ifs with conflict
    · apply meets_getEntity realm record.entityType record.localEntityId ⟨sound, trivial⟩ _
        fun _ => sound
      cases found : before.store.getEntity realm record.entityType record.localEntityId with
      | none => exact sound
      | some current =>
        dsimp only
        split_ifs with unchanged
        · exact sound
        · refine retries { record with baseSyncToken := some current.syncToken }
            (by simp [SameRequest]) rfl (.inr ⟨current, ?_, rfl⟩)
          rw [inRealm]
          exact found
    · exact retries record (.refl record) rfl (.inl rfl)

theorem meets_resolve (sound : Sound before) (id : Nat) (resolution : Resolution) :
    Meets serve allowed (CommandFit (.resolve realm id resolution time) before)
      (fun _ => Sound) (fun _ => Sound) (resolve realm id resolution time) before := by
  unfold resolve
  apply meets_outboxRecord id ⟨sound, trivial⟩ _ fun _ => sound
  cases found : before.store.outboxRecord id with
  | none => exact sound
  | some record =>
    obtain ⟨recordMem, rfl⟩ := Store.outboxRecord_eq_some found
    dsimp only
    split_ifs with otherRealm
    · exact sound
    · rw [not_not] at otherRealm
      rw [meets_bind]
      refine (meets_resolveRecord sound recordMem otherRealm resolution).imp ?_
      rintro resolved after ⟨isBefore, same, saves⟩
      subst isBefore
      have revises : Revises after.store.outbox resolved := ⟨record, recordMem, same⟩
      refine ⟨⟨sound, record, recordMem, same, saves⟩, ?_⟩
      intro fate _
      have saved := saved_serve revises fate
      rcases serve_saveOutboxState revises fate with done | ⟨error, failed⟩
      · rw [done] at saved ⊢
        exact saved.sound sound
      · rw [failed] at saved ⊢
        exact saved.sound sound

end Queueing

end QuickBooks.Outbox

namespace QuickBooks.Outbox

open InterruptiblePrograms TransitionRuns

/-- What happens beside the commands. -/
inductive Event where
  | edited (realm : String) (entityType : EntityType) (qboId : String) (rawJson : Json)
  | synced (realm : String) (entityType : EntityType) (qboId : String)
  | writesEnabled (realm : String)

namespace MockQbo

/-- Someone changes a record in the web interface. -/
def edit (mock : MockQbo) (realm : String) (entityType : EntityType) (qboId : String)
    (rawJson : Json) : MockQbo :=
  match mock.get? realm entityType qboId with
  | none => mock
  | some entity =>
    mock.seed realm { entity with
      syncToken := nextSyncToken entity.syncToken, rawJson, lastUpdatedUtc := mock.clock }

end MockQbo

namespace Store

/-- A sync brings one record of the replica up to date. -/
def sync (store : Store) (quickBooks : MockQbo) (realm : String) (entityType : EntityType)
    (qboId : String) : Store :=
  match quickBooks.get? realm entityType qboId with
  | none => store
  | some entity =>
    { store with
      entities := ((realm, entityType, qboId),
        { syncToken := entity.syncToken, isDeleted := entity.isDeleted }) :: store.entities }

end Store

def occur (event : Event) (world : World) : World :=
  match event with
  | .edited realm entityType qboId rawJson =>
    { world with quickBooks := world.quickBooks.edit realm entityType qboId rawJson }
  | .synced realm entityType qboId =>
    { world with store := world.store.sync world.quickBooks realm entityType qboId }
  | .writesEnabled realm =>
    { world with store := { world.store with
        writeEnabled := realm :: world.store.writeEnabled } }

abbrev WriteSession := Session Call Answer WriteError Unit World

abbrev WriteMove := Move Command Fate Event

def runSession (start : World) (moves : List WriteMove) : WriteSession :=
  runFrom (Session.step serve program occur) (Session.idle start) moves

section Commands

variable {allowed : Fate → Call → World → Prop}

theorem meets_program (command : Command) {before : World} (sound : Sound before) :
    Meets serve allowed (CommandFit command before) (fun _ => Sound) (fun _ => Sound)
      (program command) before := by
  cases command with
  | queueCreate realm entityType payload time =>
    exact meets_bind.mpr (meets_queueCreate sound entityType payload)
  | queueUpdate realm entityType qboId payload time =>
    exact meets_bind.mpr (meets_queueUpdate sound entityType qboId payload)
  | resolve realm id resolution time =>
    exact meets_bind.mpr (meets_resolve sound id resolution)
  | drainOnce realm time =>
    refine meets_bind.mpr ((meets_drainOnce sound).mono (fun _ _ fits => fits)
      (fun _ _ refused => refused.1) (fun _ _ ended => ended.1))

end Commands

section Events

variable {world : World}

theorem requestLog_edit {mock : MockQbo} (realm : String) (entityType : EntityType)
    (qboId : String) (rawJson : Json) :
    (mock.edit realm entityType qboId rawJson).requestLog = mock.requestLog := by
  unfold MockQbo.edit
  cases mock.get? realm entityType qboId <;> rfl

theorem sound_occur (sound : Sound world) (event : Event) : Sound (occur event world) := by
  cases event with
  | edited realm entityType qboId rawJson =>
    refine ⟨sound.distinctIds, sound.distinctRequests, sound.mintedIds,
      sound.mintedRequests, ?_⟩
    change ∀ entry ∈ (world.quickBooks.edit _ _ _ _).requestLog, _
    rw [requestLog_edit]
    exact sound.mintedLog
  | synced realm entityType qboId =>
    have sameOutbox : (world.store.sync world.quickBooks realm entityType qboId).outbox =
        world.store.outbox := by
      unfold Store.sync
      cases world.quickBooks.get? realm entityType qboId <;> rfl
    constructor
    case distinctIds => rw [occur, sameOutbox]; exact sound.distinctIds
    case distinctRequests => rw [occur, sameOutbox]; exact sound.distinctRequests
    case mintedIds => rw [occur, sameOutbox]; exact sound.mintedIds
    case mintedRequests => rw [occur, sameOutbox]; exact sound.mintedRequests
    case mintedLog => exact sound.mintedLog
  | writesEnabled realm =>
    exact ⟨sound.distinctIds, sound.distinctRequests, sound.mintedIds,
      sound.mintedRequests, sound.mintedLog⟩

end Events

section Runs

variable {startable : Command → World → Prop} {allowed : Fate → Call → World → Prop}
variable {mayDie : World → Prop} {mayHappen : Event → World → Prop}
variable {invariant : World → Prop}

/-- A call that some command asks for, with the invariant where it began. -/
def AskedFrom (startable : Command → World → Prop) (invariant : World → Prop) (call : Call)
    (now : World) : Prop :=
  ∃ command before, startable command before ∧ Sound before ∧ invariant before ∧
    CommandFit command before call now

theorem runSession_holds
    (calls : ∀ fate call now, allowed fate call now →
      AskedFrom startable invariant call now → invariant now →
      invariant (serve fate call now).1)
    (events : ∀ event world, Sound world → invariant world → mayHappen event world →
      invariant (occur event world))
    {start : World} {moves : List WriteMove} (sound : Sound start) (holds : invariant start)
    (permitted : EveryStep (Session.step serve program occur)
      (Permitted startable allowed mayDie mayHappen) (Session.idle start) moves) :
    SessionHolds serve allowed
      (fun call now => AskedFrom startable invariant call now ∧ invariant now)
      (fun world => Sound world ∧ invariant world) (runSession start moves) := by
  refine session_invariant ?_ ?_ ?_ ⟨sound, holds⟩ permitted
  · rintro command before ⟨beforeSound, beforeHolds⟩ canStart
    have asked : ∀ call now, CommandFit command before call now →
        AskedFrom startable invariant call now :=
      fun call now fits => ⟨command, before, canStart, beforeSound, beforeHolds, fits⟩
    have meets : Meets serve allowed (CommandFit command before) (fun _ => Sound)
        (fun _ => Sound) (program command) before :=
      meets_program command beforeSound
    exact (meets.mono asked (fun _ _ ended => ended) (fun _ _ ended => ended)).keep calls
      beforeHolds
  · rintro call now ⟨⟨command, before, -, -, -, fits⟩, nowHolds⟩ -
    exact ⟨fits.1, nowHolds⟩
  · rintro event world ⟨worldSound, worldHolds⟩ canHappen
    exact ⟨sound_occur worldSound event, events event world worldSound worldHolds canHappen⟩

end Runs

end QuickBooks.Outbox
