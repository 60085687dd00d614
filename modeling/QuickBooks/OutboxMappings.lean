import QuickBooks.OutboxOrder

/-!
# Assigned ids survive

The id that the book of record assigns to a create is recorded at the end of the
pass that applied it, apart from the state of the record.  Unless the process
dies, or that write fails, while an applied create has no id yet, every applied
create has its id in the file once the pass is over, and what references it can
be sent.
-/

namespace QuickBooks.Outbox

open InterruptiblePrograms TransitionRuns

theorem isLocalId_localIdOf (uuid : Nat) : isLocalId (localIdOf uuid) = true := by
  rw [isLocalId, List.isPrefixOf_iff_prefix, localIdOf, String.toList_append]
  exact List.prefix_append _ _

/-- The local id of a create belongs to no other record, and what is assigned to
it was answered for that create. -/
structure LocalIds (world : World) : Prop where
  creates : ∀ row ∈ world.store.outbox, row.operation = .create →
    isLocalId row.localEntityId = true
  own : ∀ row ∈ world.store.outbox, ∀ other ∈ world.store.outbox, row.operation = .create →
    (other.realmId, other.localEntityId) = (row.realmId, row.localEntityId) → other = row
  minted : ∀ row ∈ world.store.outbox, ∀ uuid, row.localEntityId = localIdOf uuid →
    uuid < world.nextUuid
  mintedMap : ∀ entry ∈ world.store.localIdMap, ∀ uuid, entry.1.2 = localIdOf uuid →
    uuid < world.nextUuid
  replica : ∀ entry ∈ world.store.entities, isLocalId entry.1.2.2 = false
  assigned : ∀ entry ∈ world.store.localIdMap, ∀ row ∈ world.store.outbox,
    row.operation = .create → (row.realmId, row.localEntityId) = entry.1 →
      Acknowledged world row entry.2

namespace LocalIds

variable {command : Command} {before now after : World} {fate : Fate} {call : Call}

theorem of_fields (ids : LocalIds now) (sameOutbox : after.store.outbox = now.store.outbox)
    (sameMap : after.store.localIdMap = now.store.localIdMap)
    (sameReplica : after.store.entities = now.store.entities)
    (later : now.nextUuid ≤ after.nextUuid)
    (grows : ∀ note ∈ now.notes, note ∈ after.notes) : LocalIds after := by
  constructor
  case creates => rw [sameOutbox]; exact ids.creates
  case own => rw [sameOutbox]; exact ids.own
  case minted =>
    rw [sameOutbox]
    exact fun row rowMem uuid isLocal => (ids.minted row rowMem uuid isLocal).trans_le later
  case mintedMap =>
    rw [sameMap]
    exact fun entry entryMem uuid isLocal =>
      (ids.mintedMap entry entryMem uuid isLocal).trans_le later
  case replica => rw [sameReplica]; exact ids.replica
  case assigned =>
    rw [sameOutbox, sameMap]
    exact fun entry entryMem row rowMem isCreate isKey =>
      (ids.assigned entry entryMem row rowMem isCreate isKey).mono grows

theorem noting (ids : LocalIds now) {book : MockQbo} {news : List Note} :
    LocalIds (now.noting book news) :=
  ids.of_fields rfl rfl rfl le_rfl fun _ noteMem => List.mem_append_right _ noteMem

theorem saving (ids : LocalIds now) (sound : Sound now) (record : OutboxRecord) :
    LocalIds (now.saving record) := by
  have saved : Saved now record (now.saving record) := .done rfl
  have afterSound := saved.sound sound
  have origin : ∀ {kept}, kept ∈ (now.saving record).store.outbox →
      ∃ held ∈ now.store.outbox, SameRequest held kept :=
    fun keptMem => saved.exists_sameRequest_before keptMem
  constructor
  case creates =>
    intro kept keptMem isCreate
    obtain ⟨held, heldMem, heldSame⟩ := origin keptMem
    exact heldSame.localEntityId_eq ▸ ids.creates held heldMem
      (heldSame.operation_eq.trans isCreate)
  case own =>
    intro kept keptMem other otherMem isCreate sameKey
    obtain ⟨held, heldMem, heldSame⟩ := origin keptMem
    obtain ⟨heldOther, heldOtherMem, otherSame⟩ := origin otherMem
    have sameHeld : heldOther = held := by
      refine ids.own held heldMem heldOther heldOtherMem
        (heldSame.operation_eq.trans isCreate) ?_
      rw [heldSame.realmId_eq, heldSame.localEntityId_eq, otherSame.realmId_eq,
        otherSame.localEntityId_eq]
      exact sameKey
    refine eq_of_id_eq afterSound.distinctIds otherMem keptMem ?_
    rw [← otherSame.id_eq, ← heldSame.id_eq, sameHeld]
  case minted =>
    intro kept keptMem uuid isLocal
    obtain ⟨held, heldMem, heldSame⟩ := origin keptMem
    exact ids.minted held heldMem uuid (heldSame.localEntityId_eq.trans isLocal)
  case mintedMap => exact ids.mintedMap
  case replica => exact ids.replica
  case assigned =>
    intro entry entryMem kept keptMem isCreate isKey
    obtain ⟨held, heldMem, heldSame⟩ := origin keptMem
    refine (ids.assigned entry entryMem held heldMem
      (heldSame.operation_eq.trans isCreate) ?_).of_sameRequest heldSame
    rw [heldSame.realmId_eq, heldSame.localEntityId_eq]
    exact isKey

theorem notLocal_of_queued (beforeIds : LocalIds before) {record : OutboxRecord}
    (queued : Queued before record) (isUpdate : record.operation = .update) :
    isLocalId record.localEntityId = false := by
  have target := queued.target
  rw [isUpdate] at target
  obtain ⟨version, isHeld, -, -⟩ := target
  obtain ⟨first, second, split, -⟩ := List.lookup_eq_some_iff.mp isHeld
  exact beforeIds.replica
    ((record.realmId, record.entityType, record.localEntityId), version) (by simp [split])

/-- A queued create takes a local id of its own, and a queued update the id of a
mirrored record. -/
theorem queued (ids : LocalIds now) {record : OutboxRecord}
    (sameStore : now.store = before.store) (beforeIds : LocalIds before)
    (queued : Queued before record) (minted : record.id < now.nextUuid) :
    LocalIds { now with
      store := { now.store with outbox := now.store.outbox ++ [record] } } := by
  have target := queued.target
  have rowCases : ∀ {row}, row ∈ now.store.outbox ++ [record] →
      row ∈ now.store.outbox ∨ row = record := by
    intro row rowMem
    exact (List.mem_append.mp rowMem).imp_right List.mem_singleton.mp
  have newLocal : ∀ uuid, record.localEntityId = localIdOf uuid →
      before.nextUuid ≤ uuid ∧ uuid < now.nextUuid := by
    intro uuid isLocal
    cases operation : record.operation with
    | create =>
      rw [operation] at target
      obtain ⟨-, minting, since, earlier, isMinted⟩ := target
      have sameUuid := FirstFreeNumbers.numeral_injective
        ((String.append_right_inj localIdPrefix).mp (isMinted.symm.trans isLocal))
      omega
    | update =>
      have notLocal := beforeIds.notLocal_of_queued queued operation
      rw [isLocal, isLocalId_localIdOf] at notLocal
      exact nomatch notLocal
  have apart : ∀ row ∈ now.store.outbox,
      row.operation = .create ∨ record.operation = .create →
      row.localEntityId ≠ record.localEntityId := by
    intro row rowMem someCreate sameId
    rw [sameStore] at rowMem
    cases operation : record.operation with
    | create =>
      rw [operation] at target
      obtain ⟨-, minting, since, earlier, isMinted⟩ := target
      have := beforeIds.minted row rowMem minting (sameId.trans isMinted)
      omega
    | update =>
      have notLocal := beforeIds.notLocal_of_queued queued operation
      have isCreate := someCreate.resolve_right (by simp [operation])
      rw [← sameId, beforeIds.creates row rowMem isCreate] at notLocal
      exact nomatch notLocal
  constructor
  case creates =>
    intro row rowMem isCreate
    rcases rowCases rowMem with old | rfl
    · exact ids.creates row old isCreate
    · rw [isCreate] at target
      obtain ⟨-, minting, -, -, isMinted⟩ := target
      rw [isMinted]
      exact isLocalId_localIdOf minting
  case own =>
    intro row rowMem other otherMem isCreate sameKey
    rcases rowCases rowMem with old | rfl
    · rcases rowCases otherMem with oldOther | rfl
      · exact ids.own row old other oldOther isCreate sameKey
      · exact absurd (Prod.mk.inj sameKey).2.symm (apart row old (.inl isCreate))
    · rcases rowCases otherMem with oldOther | rfl
      · exact absurd (Prod.mk.inj sameKey).2 (apart other oldOther (.inr isCreate))
      · rfl
  case minted =>
    intro row rowMem uuid isLocal
    rcases rowCases rowMem with old | rfl
    · exact ids.minted row old uuid isLocal
    · exact (newLocal uuid isLocal).2
  case mintedMap => exact ids.mintedMap
  case replica => exact ids.replica
  case assigned =>
    intro entry entryMem row rowMem isCreate isKey
    rcases rowCases rowMem with old | rfl
    · exact ids.assigned entry entryMem row old isCreate isKey
    · rw [isCreate] at target
      obtain ⟨-, minting, since, -, isMinted⟩ := target
      change entry ∈ now.store.localIdMap at entryMem
      rw [sameStore] at entryMem
      have := beforeIds.mintedMap entry entryMem minting
        ((Prod.mk.inj isKey).2.symm.trans isMinted)
      omega

theorem mapped (ids : LocalIds now) {realm localEntityId qboId : String}
    (assigned : Assigned now (realm, localEntityId) qboId) :
    LocalIds { now with store := now.store.recordIdMapping realm localEntityId qboId } := by
  have sameOutbox := @outbox_recordIdMapping realm now.store localEntityId qboId
  have entryCases : ∀ {entry},
      entry ∈ (now.store.recordIdMapping realm localEntityId qboId).localIdMap →
      entry ∈ now.store.localIdMap ∨ entry = ((realm, localEntityId), qboId) := by
    intro entry entryMem
    unfold Store.recordIdMapping at entryMem
    split_ifs at entryMem
    · exact .inl entryMem
    · exact (List.mem_append.mp entryMem).imp_right List.mem_singleton.mp
  constructor
  case creates => rw [sameOutbox]; exact ids.creates
  case own => rw [sameOutbox]; exact ids.own
  case minted => rw [sameOutbox]; exact ids.minted
  case mintedMap =>
    intro entry entryMem uuid isLocal
    rcases entryCases entryMem with old | rfl
    · exact ids.mintedMap entry old uuid isLocal
    · rcases assigned with stored | ⟨row, rowMem, isKey, -⟩
      · exact ids.mintedMap _ stored uuid isLocal
      · exact ids.minted row rowMem uuid ((Prod.mk.inj isKey).2.trans isLocal)
  case replica =>
    intro entry entryMem
    change entry ∈ (now.store.recordIdMapping realm localEntityId qboId).entities at entryMem
    unfold Store.recordIdMapping at entryMem
    split_ifs at entryMem <;> exact ids.replica entry entryMem
  case assigned =>
    intro entry entryMem row rowMem isCreate isKey
    rw [sameOutbox] at rowMem
    rcases entryCases entryMem with old | rfl
    · exact ids.assigned entry old row rowMem isCreate isKey
    · rcases assigned with stored | ⟨other, otherMem, otherKey, acknowledged⟩
      · exact ids.assigned _ stored row rowMem isCreate isKey
      · exact ids.own row rowMem other otherMem isCreate (otherKey.trans isKey.symm) ▸
          acknowledged

theorem change (ids : LocalIds now) (sound : Sound now) (beforeIds : LocalIds before)
    (change : Change command before now fate call after) : LocalIds after := by
  cases change with
  | still => exact ids
  | minted => exact ids.of_fields rfl rfl rfl (Nat.le_succ _) fun _ noteMem => noteMem
  | saved row record rowMem same why isCall => exact ids.saving sound record
  | unsaved record notServed isCall =>
    exact ids.of_fields rfl rfl rfl le_rfl fun _ noteMem => noteMem
  | queued record sameStore freshId freshRequest freshLog queued queues ordered minted isCall =>
    exact ids.queued sameStore beforeIds queued (ordered.trans minted)
  | mapped realm localEntityId qboId assigned isCall => exact ids.mapped assigned
  | unheard => exact ids.noting
  | replayed => exact ids.noting
  | refused => exact ids.noting
  | added => exact ids.noting
  | stale => exact ids.noting
  | changed => exact ids.noting
  | found => exact ids.noting

theorem occur (ids : LocalIds now) (foreign : Foreign now) (event : Event) :
    LocalIds (Outbox.occur event now) := by
  cases event with
  | edited realm entityType qboId rawJson =>
    exact ids.of_fields rfl rfl rfl le_rfl fun _ noteMem => noteMem
  | synced realm entityType qboId =>
    change LocalIds { now with
      store := now.store.sync now.quickBooks realm entityType qboId }
    unfold Store.sync
    cases held : now.quickBooks.get? realm entityType qboId with
    | none => exact ids
    | some entity =>
      refine ⟨ids.creates, ids.own, ids.minted, ids.mintedMap, ?_, ids.assigned⟩
      intro entry entryMem
      rcases List.mem_cons.mp entryMem with rfl | old
      · obtain ⟨entityMem, -, rfl⟩ := MockQbo.key_of_get? held
        exact foreign.entities _ entityMem
      · exact ids.replica entry old
  | writesEnabled realm => exact ids.of_fields rfl rfl rfl le_rfl fun _ noteMem => noteMem

end LocalIds

/-! ## From one pass to the next -/

theorem Change.final_mem {command : Command} {before now after : World} {fate : Fate}
    {call : Call} (change : Change command before now fate call after) (sound : Sound now)
    {row : OutboxRecord} (rowMem : row ∈ now.store.outbox)
    (final : row.state.isTerminal = true) : row ∈ after.store.outbox := by
  cases change with
  | saved held record heldMem same why isCall =>
    have saved : Saved now record (now.saving record) := .done rfl
    refine saved.mem_of_ne rowMem ?_
    intro sameId
    obtain rfl := eq_of_id_eq sound.distinctIds rowMem heldMem
      (sameId.trans same.id_eq.symm)
    cases why with
    | recovered _ state => simp [state, OutboxState.isTerminal] at final
    | begun _ state => simp [state, OutboxState.isTerminal] at final
    | applied _ state => simp [state, OutboxState.isTerminal] at final
    | failed _ state => simp [state, OutboxState.isTerminal] at final
    | retried realm time isRetry rowMem stopped =>
      rcases stopped with state | state <;> cases kind : row.state <;>
        simp [kind, OutboxState.isTerminal, OutboxState.needsAttention] at final state
    | discarded realm time isDiscard rowMem attention =>
      cases kind : row.state <;>
        simp [kind, OutboxState.isTerminal, OutboxState.needsAttention] at final attention
  | queued => exact List.mem_append_left _ rowMem
  | mapped realm localEntityId qboId => 
    exact outbox_recordIdMapping now.store localEntityId qboId ▸ rowMem
  | _ => exact rowMem

def Mapped (world : World) : Prop :=
  ∀ row ∈ world.store.outbox, row.state = .applied → row.operation = .create →
    (world.store.localIdMap.lookup (row.realmId, row.localEntityId)).isSome

/-- What a command of a company leaves to that company's pass. -/
structure Landing (command : Command) (before now : World) : Prop where
  applied : ∀ row ∈ now.store.outbox, row.state = .applied → row ∈ before.store.outbox ∨
    command.drains = true ∧ row.realmId = command.realm
  grows : ∀ key, (before.store.localIdMap.lookup key).isSome →
    (now.store.localIdMap.lookup key).isSome

theorem Landing.refl (command : Command) (before : World) : Landing command before before :=
  ⟨fun _ rowMem _ => .inl rowMem, fun _ found => found⟩

theorem Landing.change {command : Command} {before now after : World} {fate : Fate}
    {call : Call} (landing : Landing command before now) (sound : Sound now)
    (sameRealm : command.drains = true → SameRealmParents before.store.outbox)
    (change : Change command before now fate call after) : Landing command before after := by
  cases change with
  | saved row record rowMem same why isCall =>
    refine ⟨?_, landing.grows⟩
    have saved : Saved now record (now.saving record) := .done rfl
    intro kept keptMem applied
    rcases saved.mem_cases sound.distinctIds ⟨row, rowMem, same⟩ keptMem with rfl | ⟨old, -⟩
    · cases why with
      | recovered _ _ state => rw [state] at applied; exact nomatch applied
      | begun _ _ state => rw [state] at applied; exact nomatch applied
      | applied drains _ _ _ _ inRealm =>
        exact .inr ⟨drains, same.realmId_eq ▸ inRealm (sameRealm drains)⟩
      | failed _ _ failure =>
        rcases failure with state | state | state <;> rw [state] at applied <;>
          exact nomatch applied
      | retried realm time isRetry rowMem stopped state =>
        rw [state] at applied; exact nomatch applied
      | discarded realm time isDiscard rowMem attention state =>
        rw [state] at applied; exact nomatch applied
    · exact landing.applied kept old applied
  | queued record sameStore freshId freshRequest freshLog queued queues ordered minted isCall =>
    refine ⟨?_, landing.grows⟩
    intro row rowMem applied
    rcases List.mem_append.mp rowMem with old | new
    · exact landing.applied row old applied
    · rw [List.mem_singleton.mp new, queued.pending] at applied
      exact nomatch applied
  | mapped realm localEntityId qboId assigned isCall =>
    constructor
    · intro row rowMem applied
      have held : row ∈ now.store.outbox := outbox_recordIdMapping now.store _ _ ▸ rowMem
      exact landing.applied row held applied
    · intro key found
      change ((now.store.recordIdMapping realm localEntityId qboId).localIdMap.lookup key).isSome
      rw [lookup_recordIdMapping]
      split_ifs
      · rfl
      · exact landing.grows key found
  | _ => exact ⟨landing.applied, landing.grows⟩

def WithinCompany : Command → World → Prop
  | .drainOnce _ _, world => SameRealmParents world.store.outbox
  | _, _ => True

/-- An id is recorded without fail while an applied create has none. -/
def RecordsIds (fate : Fate) (call : Call) (world : World) : Prop :=
  match call with
  | .recordIdMapping _ _ _ _ _ => fate = .served ∨ Mapped world
  | _ => True

def AllMapped (world : World) : Prop :=
  Sound world ∧ Foreign world ∧ LocalIds world ∧ Mapped world

/-- What holds when a command asks for a call. -/
def AskedMapping (call : Call) (now : World) : Prop :=
  (∃ command before, Sound before ∧ LocalIds before ∧
    (command.drains = true → SameRealmParents before.store.outbox) ∧
      CommandFit command before call now) ∧ Foreign now ∧ LocalIds now

theorem drains_of_withinCompany {command : Command} {world : World}
    (within : WithinCompany command world) :
    command.drains = true → SameRealmParents world.store.outbox := by
  cases command with
  | drainOnce realm time => exact fun _ => within
  | _ => exact fun drains => nomatch drains

theorem meets_allMapped {command : Command} {before : World} (holds : AllMapped before)
    (within : WithinCompany command before) :
    Meets serve RecordsIds AskedMapping (fun _ => AllMapped) (fun _ => AllMapped)
      (program command) before := by
  obtain ⟨sound, foreign, ids, mapped⟩ := holds
  have sameRealm := drains_of_withinCompany within
  have kept : ∀ fate call now, RecordsIds fate call now → CommandFit command before call now →
      (Foreign now ∧ LocalIds now ∧ Landing command before now) →
      Foreign (serve fate call now).1 ∧ LocalIds (serve fate call now).1 ∧
        Landing command before (serve fate call now).1 := by
    rintro fate call now - fits ⟨nowForeign, nowIds, landing⟩
    have change : Change command before now fate call (serve fate call now).1 :=
      change_serve sound fits
    exact ⟨nowForeign.change change, nowIds.change fits.1 ids change,
      landing.change fits.1 sameRealm change⟩
  have asked : ∀ call now, CommandFit command before call now ∧
      (Foreign now ∧ LocalIds now ∧ Landing command before now) → AskedMapping call now :=
    fun call now held =>
      ⟨⟨command, before, sound, ids, sameRealm, held.1⟩, held.2.1, held.2.2.1⟩
  have heldBefore : ∀ {now row}, Landing command before now → row ∈ before.store.outbox →
      row.state = .applied → row.operation = .create →
        (now.store.localIdMap.lookup (row.realmId, row.localEntityId)).isSome :=
    fun landing rowMem applied isCreate =>
      landing.grows _ (mapped _ rowMem applied isCreate)
  have quietly : command.drains = false → Meets serve RecordsIds AskedMapping
      (fun _ => AllMapped) (fun _ => AllMapped) (program command) before := by
    intro notDrain
    have ended : ∀ now, Sound now ∧ (Foreign now ∧ LocalIds now ∧ Landing command before now) →
        AllMapped now := by
      rintro now ⟨nowSound, nowForeign, nowIds, landing⟩
      refine ⟨nowSound, nowForeign, nowIds, ?_⟩
      intro row rowMem applied isCreate
      rcases landing.applied row rowMem applied with old | ⟨drains, -⟩
      · exact heldBefore landing old applied isCreate
      · rw [notDrain] at drains
        exact nomatch drains
    exact ((meets_program command sound).keep kept ⟨foreign, ids, .refl _ _⟩).mono asked
      (fun _ => ended) fun _ => ended
  cases command with
  | drainOnce realm time =>
    have meets : Meets serve RecordsIds (CommandFit (.drainOnce realm time) before)
        (fun _ => PassRefused RecordsIds before)
        (fun _ after => Sound after ∧ LandedMapped realm before after)
        (program (.drainOnce realm time)) before :=
      meets_bind.mpr (meets_drainOnce sound)
    refine (meets.keep kept ⟨foreign, ids, .refl _ _⟩).mono asked ?_ ?_
    · rintro failure now ⟨⟨nowSound, ended⟩, nowForeign, nowIds, landing⟩
      refine ⟨nowSound, nowForeign, nowIds, ?_⟩
      rcases ended with appliedBefore | ⟨fate, owner, name, kind, id, at', lost, isAllowed⟩
      · exact fun row rowMem applied isCreate =>
          heldBefore landing (appliedBefore row rowMem applied) applied isCreate
      · exact isAllowed.resolve_left lost
    · rintro value now ⟨⟨nowSound, landed⟩, nowForeign, nowIds, landing⟩
      refine ⟨nowSound, nowForeign, nowIds, ?_⟩
      intro row rowMem applied isCreate
      rcases landing.applied row rowMem applied with old | ⟨-, inRealm⟩
      · exact heldBefore landing old applied isCreate
      · change row.realmId = realm at inRealm
        subst inRealm
        rcases landed row rowMem applied isCreate rfl with old | found
        · exact heldBefore landing old applied isCreate
        · exact found
  | _ => exact quietly rfl

theorem lookup_idMap (store : Store) (realm localEntityId : String) :
    (store.idMap realm).lookup (realm, localEntityId) =
      store.localIdMap.lookup (realm, localEntityId) := by
  unfold Store.idMap
  induction store.localIdMap with
  | nil => rfl
  | cons entry rest ih =>
    rw [List.filter_cons]
    by_cases here : (realm, localEntityId) = entry.1
    · obtain ⟨key, qboId⟩ := entry
      obtain rfl : (realm, localEntityId) = key := here
      simp
    · have different : ((realm, localEntityId) == entry.1) = false := by simpa using here
      obtain ⟨key, qboId⟩ := entry
      split_ifs
      · rw [List.lookup_cons, List.lookup_cons, different]
        exact ih
      · rw [List.lookup_cons, different]
        exact ih

/-- In every run of commands in which the process neither dies nor fails to record
an id while an applied create has none, every create stored as applied has, once
the command under way is over, the id that was answered for it, and so has every
reference to it in the next pass. -/
theorem applied_create_mapped {start : World} {moves : List WriteMove} (sound : Sound start)
    (foreign : Foreign start) (ids : LocalIds start) (mapped : Mapped start)
    (permitted : EveryStep (Session.step serve program occur)
      (Permitted WithinCompany RecordsIds Mapped fun _ _ => True) (Session.idle start) moves)
    {row : OutboxRecord} (rowMem : row ∈ (runSession start moves).world.store.outbox)
    (applied : row.state = .applied) (isCreate : row.operation = .create) :
    ∃ calls, ∃ later, later = runSession start (moves ++ List.replicate calls (.serve .served)) ∧
      later.running = none ∧ ∃ qboId, Acknowledged later.world row qboId ∧
        later.world.store.localIdMap.lookup (row.realmId, row.localEntityId) = some qboId ∧
        (later.world.store.idMap row.realmId).lookup (row.realmId, row.localEntityId) =
          some qboId := by
  have holds : SessionHolds serve RecordsIds AskedMapping AllMapped (runSession start moves) := by
    refine session_invariant ?_ ?_ ?_ ⟨sound, foreign, ids, mapped⟩ permitted
    · exact fun command world between within => meets_allMapped between within
    · rintro call now ⟨⟨command, before, -, -, -, fits⟩, nowForeign, nowIds⟩ allMapped
      exact ⟨fits.1, nowForeign, nowIds, allMapped⟩
    · rintro event world ⟨worldSound, worldForeign, worldIds, worldMapped⟩ -
      refine ⟨sound_occur worldSound event, worldForeign.occur event,
        worldIds.occur worldForeign event, ?_⟩
      have sameTables : (occur event world).store.outbox = world.store.outbox ∧
          (occur event world).store.localIdMap = world.store.localIdMap := by
        cases event with
        | synced realm entityType qboId =>
          change (world.store.sync _ _ _ _).outbox = _ ∧
            (world.store.sync _ _ _ _).localIdMap = _
          unfold Store.sync
          cases world.quickBooks.get? realm entityType qboId <;> exact ⟨rfl, rfl⟩
        | _ => exact ⟨rfl, rfl⟩
      unfold Mapped
      rw [sameTables.1, sameTables.2]
      exact worldMapped
  have rowStays : ∀ fate call now, RecordsIds fate call now → AskedMapping call now →
      row ∈ now.store.outbox → row ∈ (serve fate call now).1.store.outbox := by
    rintro fate call now - ⟨⟨command, before, beforeSound, -, -, fits⟩, -⟩ held
    have change : Change command before now fate call (serve fate call now).1 :=
      change_serve beforeSound fits
    exact change.final_mem fits.1 held (by rw [applied]; rfl)
  have always : ∀ call world, RecordsIds .served call world := by
    intro call world
    cases call <;> first | trivial | exact .inl rfl
  have finish : ∃ calls,
      (runFrom (Session.step serve program occur) (runSession start moves)
        (List.replicate calls (.serve .served))).running = none ∧
      AllMapped (runFrom (Session.step serve program occur) (runSession start moves)
        (List.replicate calls (.serve .served))).world ∧
      row ∈ (runFrom (Session.step serve program occur) (runSession start moves)
        (List.replicate calls (.serve .served))).world.store.outbox :=
    (holds.keep rowStays rowMem).finishes always (isProper_run moves)
  obtain ⟨calls, ended, ⟨-, -, laterIds, laterMapped⟩, laterMem⟩ := finish
  refine ⟨calls, _, rfl, ?_⟩
  rw [runSession, runFrom_append]
  refine ⟨ended, ?_⟩
  obtain ⟨qboId, found⟩ := Option.isSome_iff_exists.mp (laterMapped row laterMem applied isCreate)
  obtain ⟨first, second, split, -⟩ := List.lookup_eq_some_iff.mp found
  refine ⟨qboId, ?_, found, (lookup_idMap _ _ _).trans found⟩
  exact laterIds.assigned ((row.realmId, row.localEntityId), qboId) (by simp [split]) row
    laterMem isCreate rfl

/-! ## A pass that died before it recorded an id -/

theorem meets_drainOnce_over {allowed : Fate → Call → World → Prop} {world : World}
    (allFinal : ∀ row ∈ world.store.outbox, row.state.isTerminal = true) (realm : String)
    (time : Int) :
    Meets serve allowed (fun _ now => now = world) (fun _ now => now = world)
      (fun _ now => now = world) (drainOnce realm time) world := by
  have none : world.store.outboxRecords realm openStates = [] := by
    rw [List.eq_nil_iff_forall_not_mem]
    intro row rowMem
    obtain ⟨rowMem, -, isOpen⟩ := Store.mem_outboxRecords.mp rowMem
    rw [Store.mem_openStates, allFinal row rowMem] at isOpen
    exact nomatch isOpen
  unfold drainOnce loadOpen
  rw [meets_bind]
  apply meets_requireWrites (by rfl) _ fun _ => by rfl
  apply meets_outboxRecords realm openStates (by rfl) _ fun _ => by rfl
  rw [none]
  have loaded : Meets serve allowed (fun _ now => now = world) (fun _ now => now = world)
      (fun _ now => now = world)
      (Requests.idMap realm >>= fun outcome => stored outcome >>= fun idMap => do
        let sweep ← drainWith time idMap []
        let landed ← (landedNow time sweep).foldlM (recordLanded realm time sweep.idMap) []
        pure ({ recovered := 0, drain := sweep.report, landed } : WriteReport)) world :=
    meets_idMap realm rfl rfl fun _ => rfl
  exact loaded

namespace DiedInPass

/-- A company that may write, with nothing queued. -/
def world : World where
  store := { writeEnabled := ["1"], outbox := [], localIdMap := [], entities := [] }
  quickBooks := { entities := [], requestLog := [], nextId := 1, clock := 0 }
  nextUuid := 0
  notes := []
  unsaved := []

theorem sound_world : Sound world := by
  constructor <;> simp [world]

theorem foreign_world : Foreign world := by
  constructor <;> simp [world, AssignsForeign]

theorem localIds_world : LocalIds world := by
  constructor <;> simp [world]

theorem mapped_world : Mapped world := by
  simp [Mapped, world]

/-- A customer is queued and sent; so many calls of the pass are served. -/
def moves (calls : Nat) : List WriteMove :=
  .start (.queueCreate "1" .customer (.object [("DisplayName", .string "Ada")]) 4) ::
    List.replicate 5 (.serve .served) ++
    .start (.drainOnce "1" 5) :: List.replicate calls (.serve .served)

/-- Every call is served, and no record depends on another. -/
def isServed (move : WriteMove) (session : WriteSession) : Bool :=
  match move with
  | .start _ => session.world.store.outbox.all fun row => row.dependsOn.isNone
  | .serve .served => true
  | _ => false

theorem permitted_of_isServed {move : WriteMove} {session : WriteSession}
    (isServed : isServed move session = true) :
    Permitted WithinCompany RecordsIds Mapped (fun _ _ => True) move session := by
  cases move with
  | start command =>
    intro _
    cases command with
    | drainOnce realm time =>
      intro row rowMem parent _ depends
      have free := List.all_eq_true.mp isServed row rowMem
      rw [depends] at free
      exact nomatch free
    | _ => trivial
  | serve fate =>
    cases fate with
    | served =>
      intro request next _
      cases request <;> first | trivial | exact .inl rfl
    | _ => exact nomatch isServed
  | die => exact nomatch isServed
  | happen event => exact nomatch isServed

/-- The whole pass is served: the customer has its id. -/
theorem applied_create_mapped_customer :
    ∃ row ∈ (runSession world (moves 8)).world.store.outbox, row.operation = .create ∧
      ∃ calls, ∃ later,
        later = runSession world (moves 8 ++ List.replicate calls (.serve .served)) ∧
        later.running = none ∧ ∃ qboId, Acknowledged later.world row qboId ∧
          later.world.store.localIdMap.lookup (row.realmId, row.localEntityId) = some qboId ∧
          (later.world.store.idMap row.realmId).lookup (row.realmId, row.localEntityId) =
            some qboId := by
  have landed : ((runSession world (moves 8)).world.store.outbox.any fun row =>
      decide (row.state = .applied) && decide (row.operation = .create)) = true := by
    decide +kernel
  obtain ⟨row, rowMem, isLanded⟩ := List.any_eq_true.mp landed
  simp only [Bool.and_eq_true, decide_eq_true_eq] at isLanded
  refine ⟨row, rowMem, isLanded.2, applied_create_mapped sound_world foreign_world
    localIds_world mapped_world (EveryStep.mono ?_ fun _ _ => permitted_of_isServed) rowMem
    isLanded.1 isLanded.2⟩
  decide +kernel

/-- The move belongs to a pass. -/
def isPass : WriteMove → Bool
  | .start command => command.drains
  | .serve _ | .die => true
  | .happen _ => false

theorem passes_leave {settled : World}
    (final : ∀ row ∈ settled.store.outbox, row.state.isTerminal = true) {passes : List WriteMove}
    (arePasses : ∀ move ∈ passes, isPass move = true) :
    (runSession settled passes).world = settled := by
  have permitted : EveryStep (Session.step serve program occur)
      (Permitted (fun command _ => command.drains = true) (fun _ _ _ => True) (fun _ => True)
        fun _ _ => False) (Session.idle settled) passes := by
    apply everyStep_of_forall
    intro move moveMem session
    have pass := arePasses move moveMem
    cases move with
    | start command => exact fun _ => pass
    | serve fate => exact fun _ _ _ => trivial
    | die => exact fun _ => trivial
    | happen event => exact nomatch pass
  have begins : SessionHolds serve (fun _ _ _ => True) (fun _ now => now = settled)
      (fun now => now = settled) (Session.idle settled : WriteSession) := by
    rfl
  have commands : ∀ (command : Command) (now : World), now = settled → command.drains = true →
      Meets serve (fun _ _ _ => True) (fun _ now => now = settled) (fun _ now => now = settled)
        (fun _ now => now = settled) (program command) now := by
    rintro command now rfl drains
    cases command with
    | drainOnce realm time => exact meets_bind.mpr (meets_drainOnce_over final realm time)
    | _ => exact nomatch drains
  have holds : SessionHolds serve (fun _ _ _ => True) (fun _ now => now = settled)
      (fun now => now = settled) (runSession settled passes) :=
    session_invariant commands (fun _ _ same _ => same) (fun _ _ _ never => never.elim) begins
      permitted
  exact holds.world (fun _ _ same => same) fun _ same => same

theorem passes_leave_after {start : World} {moves passes : List WriteMove}
    (final : ∀ row ∈ (runSession start (moves ++ [.die])).world.store.outbox,
      row.state.isTerminal = true)
    (arePasses : ∀ move ∈ passes, isPass move = true) :
    (runSession start (moves ++ [.die] ++ passes)).world =
      (runSession start (moves ++ [.die])).world := by
  have idle : runSession start (moves ++ [.die]) =
      Session.idle (runSession start (moves ++ [.die])).world := by
    unfold runSession
    rw [runFrom_append]
    generalize runFrom _ _ moves = session
    cases session.running <;> rfl
  have later := passes_leave final arePasses
  unfold runSession at idle later ⊢
  rw [runFrom_append, idle]
  exact later

/-- The process dies after the create was saved as applied. -/
theorem not_applied_create_mapped :
    ¬ ∀ (start : World) (moves : List WriteMove), Sound start → Foreign start →
      LocalIds start → Mapped start →
      EveryStep (Session.step serve program occur)
        (Permitted WithinCompany (fun _ _ _ => True) (fun _ => True) fun _ _ => True)
        (Session.idle start) moves →
      ∀ row ∈ (runSession start moves).world.store.outbox, row.state = .applied →
        row.operation = .create →
        ∃ passes : List WriteMove, (∀ move ∈ passes, isPass move = true) ∧
          ((runSession start (moves ++ passes)).world.store.localIdMap.lookup
            (row.realmId, row.localEntityId)).isSome := by
  intro survives
  have permitted : EveryStep (Session.step serve program occur)
      (Permitted WithinCompany (fun _ _ _ => True) (fun _ => True) fun _ _ => True)
      (Session.idle world) (moves 7 ++ [.die]) := by
    rw [everyStep_append]
    refine ⟨EveryStep.mono (?_ : EveryStep (Session.step serve program occur)
      (fun move session => isServed move session = true) _ _) ?_, fun _ => trivial, trivial⟩
    · decide +kernel
    · intro move session served
      have kept := permitted_of_isServed served
      cases move with
      | start command => exact kept
      | serve fate => exact fun _ _ _ => trivial
      | die => exact fun _ => trivial
      | happen event => exact fun _ => trivial
  have landed : ((runSession world (moves 7 ++ [.die])).world.store.outbox.any fun row =>
      decide (row.state = .applied) && decide (row.operation = .create)) = true := by
    decide +kernel
  obtain ⟨row, rowMem, isLanded⟩ := List.any_eq_true.mp landed
  simp only [Bool.and_eq_true, decide_eq_true_eq] at isLanded
  obtain ⟨passes, arePasses, found⟩ := survives world _ sound_world foreign_world localIds_world
    mapped_world permitted row rowMem isLanded.1 isLanded.2
  have allFinal : ((runSession world (moves 7 ++ [.die])).world.store.outbox.all fun row =>
      row.state.isTerminal) = true := by
    decide +kernel
  have unmapped : (runSession world (moves 7 ++ [.die])).world.store.localIdMap = [] := by
    decide +kernel
  rw [passes_leave_after (List.all_eq_true.mp allFinal) arePasses, unmapped] at found
  exact nomatch found

end DiedInPass

end QuickBooks.Outbox
