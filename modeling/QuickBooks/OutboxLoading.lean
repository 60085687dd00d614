import QuickBooks.OutboxDraining

/-!
# Loading the open records and recording what landed

A pass starts from the open rows of the company and the final rows that they
depend on, with what was in flight returned to the queue.  It ends by assigning
the ids of what it created.
-/

namespace QuickBooks.Outbox

open InterruptiblePrograms

/-- What the loaded records have to do with the file. -/
structure LoadKnows (before : World) (realm : String) (records : List OutboxRecord)
    (now : World) : Prop where
  sound : Sound now
  localIdMap_eq : now.store.localIdMap = before.store.localIdMap
  rows : ∀ record ∈ records, record ∈ now.store.outbox
  distinct : (records.map OutboxRecord.id).Nodup
  realms : SameRealmParents before.store.outbox →
    ∀ record ∈ records, record.realmId = realm ∨ record.state.isTerminal = true
  opened : ∀ row ∈ now.store.outbox, row.realmId = realm → row.state.isTerminal = false →
    row ∈ records
  openedBefore : ∀ row ∈ before.store.outbox, row.realmId = realm →
    row.state.isTerminal = false → ∃ record ∈ records, SameRequest row record
  finalRows : ∀ row ∈ now.store.outbox, row.state.isTerminal = true →
    row ∈ before.store.outbox
  finalsKept : ∀ row ∈ before.store.outbox, row.state.isTerminal = true →
    row ∈ now.store.outbox
  origins : ∀ row ∈ now.store.outbox, ∃ held ∈ before.store.outbox, SameRequest held row
  waited : WaitedBefore before now

def AllOpen (realm : String) (records : List OutboxRecord) : Prop :=
  ∀ record ∈ records, record.realmId = realm ∧ record.state.isTerminal = false

def AppliedBefore (before now : World) : Prop :=
  ∀ row ∈ now.store.outbox, row.state = .applied → row ∈ before.store.outbox

/-- Every create of the company that was applied since has an assigned id. -/
def LandedMapped (realm : String) (before now : World) : Prop :=
  ∀ row ∈ now.store.outbox, row.state = .applied → row.operation = .create →
    row.realmId = realm → row ∈ before.store.outbox ∨
      (now.store.localIdMap.lookup (realm, row.localEntityId)).isSome

/-- How a pass can be refused: before anything was applied, or because an
assigned id could not be recorded. -/
def PassRefused (allowed : Fate → Call → World → Prop) (before now : World) : Prop :=
  Sound now ∧ (AppliedBefore before now ∨
    ∃ fate realm localEntityId entityType qboId time, fate ≠ .served ∧
      allowed fate (.recordIdMapping realm localEntityId entityType qboId time) now)

section Loading

variable {before now after : World} {realm : String} {time : Int}
variable {record copy : OutboxRecord} {records front back : List OutboxRecord}

theorem LoadKnows.appliedBefore (knows : LoadKnows before realm records now) :
    AppliedBefore before now := by
  intro row rowMem applied
  exact knows.finalRows row rowMem (by rw [applied]; rfl)

theorem loadKnows_open (sound : Sound before) :
    LoadKnows before realm (before.store.outboxRecords realm openStates) before where
  sound := sound
  localIdMap_eq := rfl
  rows record recordMem := (Store.mem_outboxRecords.mp recordMem).1
  distinct := by
    unfold Store.outboxRecords
    rw [((OutboxRecord.oldestFirst_perm _).map OutboxRecord.id).nodup_iff]
    exact sound.distinctIds.sublist (List.filter_sublist.map OutboxRecord.id)
  realms _ record recordMem := .inl (Store.mem_outboxRecords.mp recordMem).2.1
  opened row rowMem inRealm isOpen :=
    Store.mem_outboxRecords.mpr ⟨rowMem, inRealm, Store.mem_openStates.mpr isOpen⟩
  openedBefore row rowMem inRealm isOpen :=
    ⟨row, Store.mem_outboxRecords.mpr ⟨rowMem, inRealm, Store.mem_openStates.mpr isOpen⟩,
      .refl row⟩
  finalRows row rowMem _ := rowMem
  finalsKept row rowMem _ := rowMem
  origins row rowMem := ⟨row, rowMem, .refl row⟩
  waited row rowMem waits := ⟨row, rowMem, .refl row, waits⟩

theorem LoadKnows.replace (knows : LoadKnows before realm (front ++ record :: back) now)
    (same : SameRequest record copy) (isOpen : copy.state.isTerminal = false)
    (waits : record.state.mayBeSent = true)
    (stored : after = { now with
      store := { now.store with outbox := now.store.outbox.map (Store.savedRow copy) } }) :
    LoadKnows before realm (front ++ copy :: back) after := by
  have wasOpen : record.state.isTerminal = false :=
    OutboxState.isTerminal_of_mayBeSent waits
  have saved : Saved now copy after := .done stored
  have recordMem := knows.rows record (by simp)
  have revises : Revises now.store.outbox copy := ⟨record, recordMem, same⟩
  have sameIds : (front ++ copy :: back).map OutboxRecord.id =
      (front ++ record :: back).map OutboxRecord.id := by
    simp [same.id_eq]
  have others : ∀ {other}, other ∈ front ++ copy :: back →
      other = copy ∨ other ∈ front ++ record :: back ∧ other.id ≠ copy.id := by
    intro other otherMem
    have distinct := knows.distinct
    rw [← sameIds, List.map_append, List.map_cons, List.nodup_middle, List.nodup_cons,
      ← List.map_append] at distinct
    rcases List.mem_append.mp otherMem with inFront | inRest
    · refine .inr ⟨List.mem_append_left _ inFront, ?_⟩
      intro sameId
      exact distinct.1 (sameId ▸ List.mem_map_of_mem (List.mem_append_left _ inFront))
    · rcases List.mem_cons.mp inRest with isCopy | inBack
      · exact .inl isCopy
      · refine .inr ⟨List.mem_append_right _ (List.mem_cons_of_mem _ inBack), ?_⟩
        intro sameId
        exact distinct.1 (sameId ▸ List.mem_map_of_mem (List.mem_append_right _ inBack))
  have rowCases : ∀ row ∈ after.store.outbox,
      row = copy ∨ row ∈ now.store.outbox ∧ row.id ≠ copy.id := by
    intro row rowMem
    rw [stored] at rowMem
    exact (mem_map_savedRow knows.sound.distinctIds revises).mp rowMem
  have keepOther : ∀ {other}, other ∈ front ++ record :: back → other.id ≠ copy.id →
      other ∈ front ++ copy :: back := by
    intro other otherMem different
    rcases List.mem_append.mp otherMem with inFront | inRest
    · exact List.mem_append_left _ inFront
    · rcases List.mem_cons.mp inRest with rfl | inBack
      · exact absurd same.id_eq different
      · exact List.mem_append_right _ (List.mem_cons_of_mem _ inBack)
  constructor
  case sound => exact saved.sound knows.sound
  case localIdMap_eq => rw [saved.localIdMap_eq]; exact knows.localIdMap_eq
  case rows =>
    intro other otherMem
    rcases others otherMem with rfl | ⟨old, different⟩
    · rw [stored]
      exact (mem_map_savedRow knows.sound.distinctIds revises).mpr (.inl rfl)
    · exact saved.mem_of_ne (knows.rows other old) different
  case distinct => rw [sameIds]; exact knows.distinct
  case realms =>
    intro sameRealm other otherMem
    rcases others otherMem with rfl | ⟨old, -⟩
    · left
      rw [← same.realmId_eq]
      exact (knows.realms sameRealm record (by simp)).resolve_right (by simp [wasOpen])
    · exact knows.realms sameRealm other old
  case opened =>
    intro row rowMem inRealm rowOpen
    rcases rowCases row rowMem with rfl | ⟨old, different⟩
    · simp
    · exact keepOther (knows.opened row old inRealm rowOpen) different
  case openedBefore =>
    intro row rowMem inRealm rowOpen
    obtain ⟨other, otherMem, otherSame⟩ := knows.openedBefore row rowMem inRealm rowOpen
    by_cases here : other.id = copy.id
    · have isRecord : other = record := eq_of_id_eq knows.sound.distinctIds
        (knows.rows other otherMem) recordMem (here.trans same.id_eq.symm)
      exact ⟨copy, by simp, (isRecord ▸ otherSame).trans same⟩
    · exact ⟨other, keepOther otherMem here, otherSame⟩
  case finalRows =>
    intro row rowMem final
    rcases rowCases row rowMem with rfl | ⟨old, -⟩
    · simp [final] at isOpen
    · exact knows.finalRows row old final
  case finalsKept =>
    intro row rowMem final
    have held := knows.finalsKept row rowMem final
    refine saved.mem_of_ne held ?_
    intro sameId
    have isRecord := eq_of_id_eq knows.sound.distinctIds held recordMem
      (sameId.trans same.id_eq.symm)
    simp [← isRecord, final] at wasOpen
  case origins =>
    intro row rowMem
    rcases rowCases row rowMem with rfl | ⟨old, -⟩
    · obtain ⟨held, heldMem, heldSame⟩ := knows.origins record recordMem
      exact ⟨held, heldMem, heldSame.trans same⟩
    · exact knows.origins row old
  case waited =>
    exact saved.waitedBefore knows.sound.distinctIds recordMem same (fun _ => waits) knows.waited

theorem LoadKnows.addParent (knows : LoadKnows before realm records now)
    {parent child : OutboxRecord} (parentMem : parent ∈ now.store.outbox)
    (fresh : parent.id ∉ records.map OutboxRecord.id) (childMem : child ∈ records)
    (childRealm : child.realmId = realm) (childOpen : child.state.isTerminal = false)
    (depends : child.dependsOn = some parent.id) :
    LoadKnows before realm (records ++ [parent]) now := by
  have openOrigin : ∀ {row}, row ∈ now.store.outbox → row.state.isTerminal = false →
      ∃ held ∈ before.store.outbox, SameRequest held row ∧ held.state.isTerminal = false := by
    intro row rowMem rowOpen
    obtain ⟨held, heldMem, same⟩ := knows.origins row rowMem
    refine ⟨held, heldMem, same, ?_⟩
    by_contra final
    rw [Bool.not_eq_false] at final
    rw [eq_of_id_eq knows.sound.distinctIds (knows.finalsKept held heldMem final) rowMem
      same.id_eq] at final
    simp [final] at rowOpen
  constructor
  case sound => exact knows.sound
  case localIdMap_eq => exact knows.localIdMap_eq
  case rows =>
    intro other otherMem
    rcases List.mem_append.mp otherMem with old | isParent
    · exact knows.rows other old
    · rw [List.mem_singleton.mp isParent]
      exact parentMem
  case distinct =>
    rw [List.map_append, List.map_singleton]
    apply List.Nodup.append knows.distinct (List.nodup_singleton _)
    intro id inRecords isParent
    exact fresh (List.mem_singleton.mp isParent ▸ inRecords)
  case realms =>
    intro sameRealm other otherMem
    rcases List.mem_append.mp otherMem with old | isParent
    · exact knows.realms sameRealm other old
    · rw [List.mem_singleton.mp isParent]
      by_cases final : parent.state.isTerminal = true
      · exact .inr final
      · rw [Bool.not_eq_true] at final
        obtain ⟨heldParent, heldParentMem, parentSame, parentOpen⟩ :=
          openOrigin parentMem final
        obtain ⟨heldChild, heldChildMem, childSame, heldOpen⟩ :=
          openOrigin (knows.rows child childMem) childOpen
        left
        rw [← parentSame.realmId_eq, ← childRealm, ← childSame.realmId_eq]
        apply sameRealm heldChild heldChildMem heldParent heldParentMem _ heldOpen parentOpen
        rw [childSame.dependsOn_eq, depends, parentSame.id_eq]
  case opened =>
    exact fun row rowMem inRealm isOpen =>
      List.mem_append_left _ (knows.opened row rowMem inRealm isOpen)
  case openedBefore =>
    intro row rowMem inRealm isOpen
    obtain ⟨other, otherMem, same⟩ := knows.openedBefore row rowMem inRealm isOpen
    exact ⟨other, List.mem_append_left _ otherMem, same⟩
  case finalRows => exact knows.finalRows
  case finalsKept => exact knows.finalsKept
  case origins => exact knows.origins
  case waited => exact knows.waited

variable {allowed : Fate → Call → World → Prop}

theorem meets_recover {todo : List OutboxRecord} {recovered : List OutboxRecord × Nat}
    (knows : LoadKnows before realm (recovered.1 ++ record :: todo) now)
    (allOpen : AllOpen realm (recovered.1 ++ record :: todo)) :
    Meets serve allowed (CommandFit (.drainOnce realm time) before) (fun _ => PassRefused allowed before)
      (fun recovered after => LoadKnows before realm (recovered.1 ++ todo) after ∧
        AllOpen realm (recovered.1 ++ todo))
      (recover time recovered record) now := by
  unfold recover
  cases state : record.state with
  | inFlight =>
    have recordMem := knows.rows record (by simp)
    obtain ⟨inRealm, -⟩ := allOpen record (by simp)
    obtain ⟨pending, moved, same, isPending, sameBase⟩ : ∃ pending,
        record.recoverInFlight time = .ok pending ∧ SameRequest record pending ∧
          pending.state = .pending ∧ pending.baseSyncToken = record.baseSyncToken := by
      refine ⟨{ record with state := .pending, updatedAt := time }, ?_, ?_, rfl, rfl⟩
      · simp [OutboxRecord.recoverInFlight, OutboxRecord.transition, state,
          OutboxState.canTransitionTo]
      · simp [SameRequest]
    have isOpen : pending.state.isTerminal = false := by
      rw [isPending]
      rfl
    have revises : Revises now.store.outbox pending := ⟨record, recordMem, same⟩
    rw [moved]
    refine ⟨⟨knows.sound, record, recordMem, same, .recovered rfl state isPending sameBase⟩, ?_⟩
    intro fate _
    rcases serve_saveOutboxState revises fate with done | ⟨error, failed⟩
    · rw [done]
      have replaced := knows.replace same isOpen (by rw [state]; rfl) rfl
      have stillOpen : AllOpen realm (recovered.1 ++ pending :: todo) := by
        intro other otherMem
        rcases List.mem_append.mp otherMem with inFront | inRest
        · exact allOpen other (List.mem_append_left _ inFront)
        · rcases List.mem_cons.mp inRest with rfl | inBack
          · exact ⟨same.realmId_eq ▸ inRealm, isOpen⟩
          · exact allOpen other (List.mem_append_right _ (List.mem_cons_of_mem _ inBack))
      change LoadKnows before realm ((recovered.1 ++ [pending]) ++ todo) _ ∧ _
      rw [List.append_assoc]
      exact ⟨replaced, stillOpen⟩
    · rw [failed]
      have saved : Saved now pending _ := .failed rfl
      exact ⟨saved.sound knows.sound, .inl knows.appliedBefore⟩
  | _ =>
    change LoadKnows before realm ((recovered.1 ++ [record]) ++ todo) now ∧ _
    rw [List.append_assoc]
    exact ⟨knows, allOpen⟩

theorem meets_loadParent {todo : List Nat} {parent : Nat}
    (knows : LoadKnows before realm records now)
    (distinct : (parent :: todo).Nodup)
    (fresh : ∀ id ∈ parent :: todo, id ∉ records.map OutboxRecord.id)
    (needed : ∀ id ∈ parent :: todo, ∃ child ∈ records, child.realmId = realm ∧
      child.state.isTerminal = false ∧ child.dependsOn = some id) :
    Meets serve allowed (CommandFit (.drainOnce realm time) before) (fun _ => PassRefused allowed before)
      (fun records after => LoadKnows before realm records after ∧
        (∀ id ∈ todo, id ∉ records.map OutboxRecord.id) ∧
        ∀ id ∈ todo, ∃ child ∈ records, child.realmId = realm ∧
          child.state.isTerminal = false ∧ child.dependsOn = some id)
      (loadParent records parent) now := by
  unfold loadParent
  refine meets_outboxRecord parent ⟨knows.sound, trivial⟩ ?_
    (fun error => ⟨knows.sound, .inl knows.appliedBefore⟩)
  have laterFresh : ∀ id ∈ todo, id ∉ records.map OutboxRecord.id :=
    fun id idMem => fresh id (List.mem_cons_of_mem _ idMem)
  have laterNeeded := fun id idMem => needed id (List.mem_cons_of_mem _ idMem)
  cases found : now.store.outboxRecord parent with
  | none => exact ⟨knows, laterFresh, laterNeeded⟩
  | some loaded =>
    obtain ⟨loadedMem, rfl⟩ := Store.outboxRecord_eq_some found
    obtain ⟨child, childMem, childRealm, childOpen, depends⟩ :=
      needed loaded.id List.mem_cons_self
    refine ⟨knows.addParent loadedMem (fresh _ List.mem_cons_self) childMem childRealm
      childOpen depends, ?_, ?_⟩
    · intro id idMem
      rw [List.map_append, List.mem_append, not_or]
      refine ⟨laterFresh id idMem, ?_⟩
      intro isLoaded
      rw [List.map_singleton, List.mem_singleton] at isLoaded
      exact (List.nodup_cons.mp distinct).1 (isLoaded ▸ idMem)
    · intro id idMem
      obtain ⟨child, childMem, rest⟩ := laterNeeded id idMem
      exact ⟨child, List.mem_append_left _ childMem, rest⟩

theorem meets_loadOpen (sound : Sound before) :
    Meets serve allowed (CommandFit (.drainOnce realm time) before) (fun _ => PassRefused allowed before)
      (fun loaded after => LoadKnows before realm loaded.1 after) (loadOpen realm time)
      before := by
  have refused : PassRefused allowed before before :=
    ⟨sound, .inl fun row rowMem _ => rowMem⟩
  unfold loadOpen
  apply meets_requireWrites ⟨sound, trivial⟩ _ fun _ => refused
  apply meets_outboxRecords realm openStates ⟨sound, trivial⟩ _ fun _ => refused
  rw [meets_bind]
  refine (meets_foldlM
    (fun todo (recovered : List OutboxRecord × Nat) after =>
      LoadKnows before realm (recovered.1 ++ todo) after ∧ AllOpen realm (recovered.1 ++ todo))
    (fun record todo recovered after knows => meets_recover knows.1 knows.2)
    ⟨loadKnows_open sound, ?_⟩).imp ?_
  · intro record recordMem
    have loaded := Store.mem_outboxRecords.mp recordMem
    exact ⟨loaded.2.1, Store.mem_openStates.mp loaded.2.2⟩
  rintro ⟨recovered, count⟩ middle knows
  rw [List.append_nil] at knows
  obtain ⟨knows, allOpen⟩ := knows
  have parents : ∀ id ∈ landedParents recovered,
      id ∉ recovered.map OutboxRecord.id ∧ ∃ child ∈ recovered, child.realmId = realm ∧
        child.state.isTerminal = false ∧ child.dependsOn = some id := by
    intro id idMem
    obtain ⟨wanted, absent⟩ := List.mem_filter.mp (List.mem_dedup.mp idMem)
    obtain ⟨child, childMem, depends⟩ := List.mem_filterMap.mp wanted
    obtain ⟨inRealm, isOpen⟩ := allOpen child childMem
    exact ⟨by simpa using absent, child, childMem, inRealm, isOpen, depends⟩
  rw [meets_bind]
  refine (meets_foldlM
    (fun todo (records : List OutboxRecord) after => LoadKnows before realm records after ∧
      todo.Nodup ∧ (∀ id ∈ todo, id ∉ records.map OutboxRecord.id) ∧
      ∀ id ∈ todo, ∃ child ∈ records, child.realmId = realm ∧
        child.state.isTerminal = false ∧ child.dependsOn = some id)
    ?_ ⟨knows, List.nodup_dedup _, fun id idMem => (parents id idMem).1,
      fun id idMem => (parents id idMem).2⟩).imp ?_
  · rintro parent todo records after ⟨knows, distinct, fresh, needed⟩
    refine (meets_loadParent knows distinct fresh needed).imp ?_
    rintro loaded later ⟨knows, fresh, needed⟩
    exact ⟨knows, (List.nodup_cons.mp distinct).2, fresh, needed⟩
  · rintro loaded later ⟨knows, -⟩
    exact knows

theorem LoadKnows.begin (knows : LoadKnows before realm records now) :
    PassKnows before realm time (OutboxRecord.oldestFirst records)
      { states := records.map fun record => (record.id, record.state)
        blockedEntities := []
        idMap := now.store.idMap realm
        report :=
          { applied := 0, adopted := 0, conflicted := 0, rejected := 0, retried := 0, blocked := 0 }
        drained := [] } now := by
  have mem_sorted : ∀ {record}, record ∈ OutboxRecord.oldestFirst records ↔
      record ∈ records := OutboxRecord.mem_oldestFirst _
  constructor
  case sound => exact knows.sound
  case localIdMap_eq => exact knows.localIdMap_eq
  case rows => exact fun record recordMem => knows.rows record (mem_sorted.mp recordMem)
  case sorted => exact OutboxRecord.pairwise_oldestFirst knows.distinct
  case realms =>
    exact fun sameRealm record recordMem =>
      knows.realms sameRealm record (mem_sorted.mp recordMem)
  case finals =>
    exact fun record recordMem =>
      knows.finalRows record (knows.rows record (mem_sorted.mp recordMem))
  case drainedRows => exact fun drained drainedMem => nomatch drainedMem
  case drainedIds => exact fun drained drainedMem => nomatch drainedMem
  case drained => exact fun drained drainedMem => nomatch drainedMem
  case opened =>
    exact fun row rowMem inRealm isOpen =>
      .inl (mem_sorted.mpr (knows.opened row rowMem inRealm isOpen))
  case openedBefore =>
    intro row rowMem inRealm isOpen
    obtain ⟨record, recordMem, same⟩ := knows.openedBefore row rowMem inRealm isOpen
    exact ⟨record, .inl (mem_sorted.mpr recordMem), same⟩
  case appliedRows => exact fun row rowMem applied => .inl (knows.appliedBefore row rowMem applied)
  case states =>
    intro id found
    change (records.map fun record => (record.id, record.state)).lookup id = _ at found
    obtain ⟨first, second, split, -⟩ := List.lookup_eq_some_iff.mp found
    have pairMem : (id, OutboxState.applied) ∈
        records.map fun record => (record.id, record.state) := by
      rw [split]
      simp
    obtain ⟨record, recordMem, isPair⟩ := List.mem_map.mp pairMem
    have parts := Prod.mk.inj isPair
    exact ⟨record, knows.rows record recordMem, parts.1, .inl parts.2⟩
  case assigned => exact fun entry entryMem => .inl (List.mem_filter.mp entryMem).1
  case known =>
    intro key inRealm found
    rw [← knows.localIdMap_eq] at found
    obtain ⟨qboId, isEntry⟩ := Option.isSome_iff_exists.mp found
    obtain ⟨first, second, split, -⟩ := List.lookup_eq_some_iff.mp isEntry
    rw [Option.isSome_iff_ne_none]
    intro missing
    have entryMem : (key, qboId) ∈ now.store.idMap realm := by
      refine List.mem_filter.mpr ⟨?_, by simpa using inRealm⟩
      rw [split]
      simp
    simpa using List.lookup_eq_none_iff.mp missing (key, qboId) entryMem
  case waited => exact knows.waited

/-! ## The end of a pass -/

/-- What recording the assigned ids leaves to do. -/
structure LandKnows (before : World) (realm : String) (idMap : IdMap)
    (todo : List OutboxRecord) (now : World) : Prop where
  sound : Sound now
  assigned : ∀ entry ∈ idMap, Assigned now entry.1 entry.2
  landed : ∀ row ∈ now.store.outbox, row.state = .applied → row.operation = .create →
    row.realmId = realm → row ∈ before.store.outbox ∨
      (now.store.localIdMap.lookup (realm, row.localEntityId)).isSome ∨
      row ∈ todo ∧ (idMap.lookup (realm, row.localEntityId)).isSome

theorem lookup_recordIdMapping (store : Store) (localEntityId qboId : String)
    (key : String × String) :
    (store.recordIdMapping realm localEntityId qboId).localIdMap.lookup key =
      if key = (realm, localEntityId) ∧ store.localIdMap.lookup key = none then some qboId
      else store.localIdMap.lookup key := by
  unfold Store.recordIdMapping
  by_cases held : (store.localIdMap.lookup (realm, localEntityId)).isSome
  · rw [if_pos held, if_neg]
    rintro ⟨rfl, missing⟩
    simp [missing] at held
  · rw [if_neg held, List.lookup_append]
    rw [Option.not_isSome_iff_eq_none] at held
    by_cases here : key = (realm, localEntityId)
    · subst here
      simp [held]
    · have different : (key == (realm, localEntityId)) = false := by simpa using here
      simp [List.lookup_cons, different, here]

theorem mem_recordIdMapping {store : Store} {localEntityId qboId : String}
    {entry : (String × String) × String} (entryMem : entry ∈ store.localIdMap) :
    entry ∈ (store.recordIdMapping realm localEntityId qboId).localIdMap := by
  unfold Store.recordIdMapping
  split_ifs
  · exact entryMem
  · exact List.mem_append_left _ entryMem

theorem outbox_recordIdMapping (store : Store) (localEntityId qboId : String) :
    (store.recordIdMapping realm localEntityId qboId).outbox = store.outbox := by
  unfold Store.recordIdMapping
  split_ifs <;> rfl

theorem sound_recordIdMapping (sound : Sound now) (localEntityId qboId : String) :
    Sound { now with store := now.store.recordIdMapping realm localEntityId qboId } := by
  constructor
  case distinctIds => rw [outbox_recordIdMapping]; exact sound.distinctIds
  case distinctRequests => rw [outbox_recordIdMapping]; exact sound.distinctRequests
  case mintedIds => rw [outbox_recordIdMapping]; exact sound.mintedIds
  case mintedRequests => rw [outbox_recordIdMapping]; exact sound.mintedRequests
  case mintedLog => exact sound.mintedLog

theorem meets_recordLanded {idMap : IdMap} {todo : List OutboxRecord}
    {landed : List (EntityType × String)}
    (knows : LandKnows before realm idMap (record :: todo) now) :
    Meets serve allowed (CommandFit (.drainOnce realm time) before) (fun _ => PassRefused allowed before)
      (fun _ => LandKnows before realm idMap todo)
      (recordLanded realm time idMap landed record) now := by
  have passesOver : record.operation ≠ .create ∨
      idMap.lookup (realm, record.localEntityId) = none →
      LandKnows before realm idMap todo now := by
    intro nothing
    refine ⟨knows.sound, knows.assigned, ?_⟩
    intro row rowMem applied isCreate inRealm
    rcases knows.landed row rowMem applied isCreate inRealm with old | mapped | ⟨inTodo, found⟩
    · exact .inl old
    · exact .inr (.inl mapped)
    · rcases List.mem_cons.mp inTodo with rfl | later
      · rcases nothing with notCreate | missing
        · exact absurd isCreate notCreate
        · simp [missing] at found
      · exact .inr (.inr ⟨later, found⟩)
  unfold recordLanded
  cases operation : record.operation with
  | update => exact passesOver (.inl (by simp [operation]))
  | create =>
    cases found : idMap.lookup (realm, record.localEntityId) with
    | none => exact passesOver (.inr found)
    | some qboId =>
      obtain ⟨first, second, split, -⟩ := List.lookup_eq_some_iff.mp found
      have isAssigned := knows.assigned ((realm, record.localEntityId), qboId)
        (by rw [split]; simp)
      have refused : ∀ fate, fate ≠ Fate.served → allowed fate
          (.recordIdMapping realm record.localEntityId record.entityType qboId time) now →
          PassRefused allowed before now := fun fate notServed isAllowed =>
        ⟨knows.sound, .inr ⟨fate, _, _, _, _, _, notServed, isAllowed⟩⟩
      refine ⟨⟨knows.sound, isAssigned⟩, ?_⟩
      rintro (_ | error | error) isAllowed
      · refine (⟨sound_recordIdMapping knows.sound _ _, ?_, ?_⟩ : LandKnows _ _ _ _ _)
        · intro entry entryMem
          rcases knows.assigned entry entryMem with stored | ⟨row, rowMem, rest⟩
          · exact .inl (mem_recordIdMapping stored)
          · exact .inr ⟨row, by rw [outbox_recordIdMapping]; exact rowMem, rest⟩
        · intro row rowMem applied isCreate inRealm
          rw [outbox_recordIdMapping] at rowMem
          rw [lookup_recordIdMapping]
          rcases knows.landed row rowMem applied isCreate inRealm with
            old | mapped | ⟨inTodo, isFound⟩
          · exact .inl old
          · right
            left
            split_ifs
            · rfl
            · exact mapped
          · rcases List.mem_cons.mp inTodo with rfl | later
            · right
              left
              split_ifs with missing
              · rfl
              · rw [Option.isSome_iff_ne_none]
                exact fun absent => missing ⟨rfl, absent⟩
            · exact .inr (.inr ⟨later, isFound⟩)
      · exact refused _ (by simp) isAllowed
      · exact refused _ (by simp) isAllowed

/-- Every call that a pass asks for is fit, and a pass that comes to its end has
assigned the ids of what it created. -/
theorem meets_drainOnce (sound : Sound before) :
    Meets serve allowed (CommandFit (.drainOnce realm time) before) (fun _ => PassRefused allowed before)
      (fun _ after => Sound after ∧ LandedMapped realm before after)
      (drainOnce realm time) before := by
  unfold drainOnce
  rw [meets_bind]
  refine (meets_loadOpen sound).imp ?_
  intro loaded middle knows
  apply meets_idMap realm ⟨knows.sound, trivial⟩ _
    (fun _ => ⟨knows.sound, .inl knows.appliedBefore⟩)
  rw [meets_bind]
  refine (meets_foldlM (fun todo sweep after => PassKnows before realm time todo sweep after)
    (fun record todo sweep after knows => meets_drainRecord sound knows) knows.begin).imp ?_
  intro sweep drained knows
  rw [meets_bind]
  refine (meets_foldlM (fun todo (_ : List (EntityType × String)) after =>
      LandKnows before realm sweep.idMap todo after)
    (fun record todo landed after knows => meets_recordLanded knows) ?_).imp ?_
  · refine ⟨knows.sound, knows.assigned, ?_⟩
    intro row rowMem applied isCreate inRealm
    refine (knows.appliedRows row rowMem applied).imp_right fun ⟨drainedMem, updated, found⟩ => ?_
    refine .inr ⟨List.mem_filter.mpr ⟨drainedMem, by simp [applied, updated]⟩, ?_⟩
    rwa [inRealm] at found
  · intro landed after knows
    refine ⟨knows.sound, ?_⟩
    intro row rowMem applied isCreate inRealm
    rcases knows.landed row rowMem applied isCreate inRealm with old | mapped | ⟨inTodo, -⟩
    · exact .inl old
    · exact .inr mapped
    · exact nomatch inTodo

end Loading

end QuickBooks.Outbox
