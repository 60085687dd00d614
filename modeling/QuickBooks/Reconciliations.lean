import QuickBooks.SyncSteps

/-!
# Reconciliation of a type

Every live record of the book of record is read and compared with the replica by
its id and its time.  What is missing or stale is written as a poll would write
it, so a version with a lower token than the one held is skipped here too; what
the replica has live and the book has not is set aside and never deleted.
-/

namespace QuickBooks

namespace Mirror

open ExceptPrograms
open Outbox (EntityPayload)

inductive SyncError where
  | qbo
  | store (error : StoreError)
  | rateBudgetExhausted

/-- One disagreement between the book of record and the replica. -/
inductive Discrepancy where
  | missing (qboId : String)
  | stale (qboId : String) (localUpdated remoteUpdated : Instant)
  | extra (qboId : String)
deriving DecidableEq

/-- What the comparison reads of a record that the replica holds. -/
structure IndexedEntity where
  qboId : String
  lastUpdatedUtc : Instant
  isDeleted : Bool

def indexed (entity : EntityPayload) : IndexedEntity :=
  ⟨entity.qboId, entity.lastUpdatedUtc, entity.isDeleted⟩

def Store.indexedEntities (store : Store) (entityType : EntityType) : List IndexedEntity :=
  (store.entities.filter fun entity => entity.entityType = entityType).map indexed

structure ReconcileReport where
  entityType : EntityType
  remote : Nat
  «local» : Nat
  discrepancies : List Discrepancy
  healed : Nat
  quarantinedExtra : Nat
  skippedRecent : Nat
  requests : Nat

/-- Read the live records page by page, by their ids.  There is no result while
more pages follow than are allowed for. -/
def readRemote (pageSize : Nat) (fetchPage : Nat → Except SyncError ReadPage) :
    Nat → Nat → List EntityPayload → Nat → Option (Except SyncError (List EntityPayload × Nat))
  | 0, _, _, _ => none
  | pages + 1, start, remote, requests =>
    match fetchPage start with
    | .error error => some (.error error)
    | .ok page =>
      let returned := page.entities.length
      let remote := (page.entities.filter fun payload => !payload.isDeleted).foldl
        (fun remote payload => KeyedTables.upsert EntityPayload.qboId payload remote) remote
      if returned < pageSize then some (.ok (remote, requests + 1))
      else readRemote pageSize fetchPage pages (start + returned) remote (requests + 1)

/-- What is wrong with the replica's row of a live record, by its time. -/
def discrepancyOf (row : Option IndexedEntity) (payload : EntityPayload) : Option Discrepancy :=
  match row with
  | none => some (.missing payload.qboId)
  | some row =>
    if row.isDeleted then some (.missing payload.qboId)
    else if row.lastUpdatedUtc < payload.lastUpdatedUtc then
      some (.stale payload.qboId row.lastUpdatedUtc payload.lastUpdatedUtc)
    else none

/-- What setting the extra records aside comes to. -/
structure SetAside where
  store : Store
  discrepancies : List Discrepancy
  quarantinedExtra : Nat
  skippedRecent : Nat

/-- Set a record aside that the book does not have, unless it changed after the
reading began. -/
def setAside (entityType : EntityType) (now : Instant) (state : SetAside)
    (row : IndexedEntity) : SetAside :=
  if row.lastUpdatedUtc ≥ now then { state with skippedRecent := state.skippedRecent + 1 }
  else
    let discrepancies := state.discrepancies ++ [.extra row.qboId]
    match state.store.get? (entityType, row.qboId) with
    | some entity =>
      { state with
        store := state.store.quarantine entity (.absentFromQbo now)
        discrepancies
        quarantinedExtra := state.quarantinedExtra + 1 }
    | none => { state with discrepancies }

section Reconciling

variable (options : SyncOptions) (readers : TextReaders) (entityType : EntityType)
  (store : Store) (now : Instant)

/-- Compare what was read with the replica, and heal it. -/
def reconcileWith (remote : List EntityPayload) (requests : Nat) :
    Except SyncError (Store × ReconcileReport) := do
  let rows := store.indexedEntities entityType
  let discrepancy payload :=
    discrepancyOf (rows.find? fun row => row.qboId = payload.qboId) payload
  let ordered := remote.insertionSort fun first second => first.qboId ≤ second.qboId
  let heal := ordered.filter fun payload => (discrepancy payload).isSome
  let applied : Except SyncError Store := if heal.isEmpty then .ok store
    else ((store.applyChanges readers heal none).map Prod.fst).mapError .store
  let healed ← applied
  let extras := rows.filter fun row =>
    !row.isDeleted && !remote.any fun payload => payload.qboId = row.qboId
  let after := (extras.insertionSort fun first second => first.qboId ≤ second.qboId).foldl
    (setAside entityType now) ⟨healed, ordered.filterMap discrepancy, 0, 0⟩
  return (after.store, {
    entityType
    remote := remote.length
    «local» := (rows.filter fun row => !row.isDeleted).length
    discrepancies := after.discrepancies
    healed := heal.length
    quarantinedExtra := after.quarantinedExtra
    skippedRecent := after.skippedRecent
    requests })

def reconcileEntityType (fetchPage : Nat → Except SyncError ReadPage) (pages : Nat) :
    Option (Except SyncError (Store × ReconcileReport)) :=
  (readRemote options.pageSize fetchPage pages 0 [] 0).map fun read => do
    let (remote, requests) ← read
    reconcileWith readers entityType store now remote requests

end Reconciling

/-- The pages that are fetched are of the book of record as it is; any of them
may be refused. -/
def Serves (book : BookOfRecord) (pageSize : Nat) (fetchPage : Nat → Except SyncError ReadPage) :
    Prop :=
  ∀ start page, fetchPage start = .ok page → page = book.queryPage none start pageSize

section Reads

variable {book : BookOfRecord} {pageSize pages start requests : Nat}
  {fetchPage : Nat → Except SyncError ReadPage} {remote : List EntityPayload}
  {read : List EntityPayload × Nat}

theorem filter_live_matching {entities : List EntityPayload}
    (matched : entities ⊆ book.matching none) :
    (entities.filter fun payload => !payload.isDeleted) = entities := by
  refine List.filter_eq_self.mpr fun payload payloadMem => ?_
  have live := (mem_matching.mp (matched payloadMem)).2.1
  rw [live]
  rfl

theorem readRemote_ok (serves : Serves book pageSize fetchPage)
    (distinct : (book.records.map EntityPayload.qboId).Nodup)
    (reads : readRemote pageSize fetchPage pages start ((book.matching none).take start)
      requests = some (.ok read)) :
    read.1 = book.matching none ∧ 0 < pageSize := by
  induction pages generalizing start requests with
  | zero => cases reads
  | succ pages ih =>
    unfold readRemote at reads
    cases fetched : fetchPage start with
    | error error =>
      rw [fetched] at reads
      cases reads
    | ok page =>
      rw [fetched] at reads
      dsimp only at reads
      have isPage : page.entities = ((book.matching none).drop start).take pageSize := by
        rw [serves start page fetched]
        rfl
      have split : (book.matching none).drop start = page.entities ++
          (book.matching none).drop (start + page.entities.length) := by
        rw [isPage]
        exact drop_eq_page_append
      have matched : page.entities ⊆ book.matching none := by
        rw [isPage]
        exact fun payload payloadMem => List.mem_of_mem_drop (List.mem_of_mem_take payloadMem)
      have grown : (book.matching none).take start ++ page.entities =
          (book.matching none).take (start + page.entities.length) := by
        rw [List.take_add, split, List.take_left']
        rfl
      have once : (((book.matching none).take start ++ page.entities).map
          EntityPayload.qboId).Nodup := by
        rw [grown]
        exact (distinct.sublist (List.filter_sublist.map _)).sublist
          ((List.take_sublist _ _).map _)
      rw [filter_live_matching matched, KeyedTables.foldl_upsert_eq_append once, grown]
        at reads
      split_ifs at reads with short
      · cases reads
        rw [isPage] at short
        have nothing := drop_of_short short
        rw [isPage]
        exact ⟨List.take_of_length_le (List.drop_eq_nil_iff.mp nothing),
          (Nat.zero_le _).trans_lt short⟩
      · exact ih reads

theorem exists_readRemote (positive : 0 < pageSize)
    (enough : ((book.matching none).drop start).length < pages) :
    ∃ read, readRemote pageSize (fun start => .ok (book.queryPage none start pageSize)) pages
      start remote requests = some (.ok read) := by
  induction pages generalizing start remote requests with
  | zero => exact absurd enough (Nat.not_lt_zero _)
  | succ pages ih =>
    unfold readRemote
    dsimp only
    split_ifs with short
    · exact ⟨_, rfl⟩
    · change ¬(((book.matching none).drop start).take pageSize).length < pageSize at short
      refine ih ?_
      change ((book.matching none).drop (start +
        (((book.matching none).drop start).take pageSize).length)).length < pages
      simp only [List.length_drop, List.length_take] at enough short ⊢
      omega

end Reads

section Comparisons

variable {readers : TextReaders} {entityType : EntityType} {store after : Store}
  {record : EntityPayload} {now : Instant} {remote : List EntityPayload} {requests : Nat}
  {report : ReconcileReport}

/-- A live record that the comparison by time finds missing or stale. -/
def IsFound (held : Option Version) (record : EntityPayload) : Prop :=
  match held with
  | none => True
  | some version => version.isDeleted = true ∨ version.lastUpdatedUtc < record.lastUpdatedUtc

theorem find?_indexedEntities (qboId : String) :
    (store.indexedEntities entityType).find? (fun row => row.qboId = qboId) =
      (store.get? (entityType, qboId)).map indexed := by
  unfold Store.indexedEntities Store.get?
  rw [List.find?_map, List.find?_filter]
  congr 2
  funext entity
  rw [Bool.eq_iff_iff]
  simp only [Function.comp_apply, keyOf, Prod.mk.injEq, decide_eq_true_eq]
  exact Iff.rfl

theorem isSome_discrepancyOf (ofType : record.entityType = entityType) :
    (discrepancyOf ((store.indexedEntities entityType).find? fun row =>
        row.qboId = record.qboId) record).isSome = true ↔
      IsFound (store.held (keyOf record)) record := by
  rw [find?_indexedEntities, ← ofType]
  change (discrepancyOf ((store.get? (keyOf record)).map indexed) record).isSome = true ↔ _
  unfold Store.held
  cases store.get? (keyOf record) with
  | none => exact ⟨fun _ => trivial, fun _ => rfl⟩
  | some held =>
    simp only [Option.map_some, discrepancyOf, indexed, IsFound, versionOf]
    split_ifs with isDeleted isStale
    · exact ⟨fun _ => .inl isDeleted, fun _ => rfl⟩
    · exact ⟨fun _ => .inr isStale, fun _ => rfl⟩
    · exact ⟨fun found => (by cases found), fun found =>
        absurd found (by simp [isDeleted, isStale])⟩

theorem foldl_setAside {rows : List IndexedEntity} {state : SetAside} :
    (rows.foldl (setAside entityType now) state).store.held = state.store.held ∧
      (rows.foldl (setAside entityType now) state).store.cursors = state.store.cursors ∧
      (rows.foldl (setAside entityType now) state).store.checkpoints = state.store.checkpoints ∧
      ∀ discrepancy ∈ (rows.foldl (setAside entityType now) state).discrepancies,
        discrepancy ∈ state.discrepancies ∨ ∃ qboId, discrepancy = .extra qboId := by
  induction rows generalizing state with
  | nil => exact ⟨rfl, rfl, rfl, fun _ => .inl⟩
  | cons row rows ih =>
    have one : (setAside entityType now state row).store.held = state.store.held ∧
        (setAside entityType now state row).store.cursors = state.store.cursors ∧
        (setAside entityType now state row).store.checkpoints = state.store.checkpoints ∧
        ∀ discrepancy ∈ (setAside entityType now state row).discrepancies,
          discrepancy ∈ state.discrepancies ∨ ∃ qboId, discrepancy = .extra qboId := by
      unfold setAside
      split_ifs
      · exact ⟨rfl, rfl, rfl, fun _ => .inl⟩
      · have added : ∀ discrepancy ∈ state.discrepancies ++ [.extra row.qboId],
            discrepancy ∈ state.discrepancies ∨ ∃ qboId, discrepancy = .extra qboId := by
          intro discrepancy isOne
          rcases List.mem_append.mp isOne with before | isNew
          · exact .inl before
          · exact .inr ⟨_, List.mem_singleton.mp isNew⟩
        dsimp only
        split
        · exact ⟨rfl, rfl, rfl, added⟩
        · exact ⟨rfl, rfl, rfl, added⟩
    obtain ⟨heldEq, cursorsEq, checkpointsEq, kept⟩ := ih
    rw [List.foldl_cons]
    refine ⟨heldEq.trans one.1, cursorsEq.trans one.2.1, checkpointsEq.trans one.2.2.1, ?_⟩
    intro discrepancy isOne
    rcases kept discrepancy isOne with before | isExtra
    · exact one.2.2.2 discrepancy before
    · exact .inr isExtra

theorem reconcileWith_ok (typed : ∀ payload ∈ remote, payload.entityType = entityType)
    (once : (remote.map keyOf).Nodup)
    (reconciles : reconcileWith readers entityType store now remote requests =
      .ok (after, report)) :
    ∃ heal, (∀ payload, payload ∈ heal ↔
          payload ∈ remote ∧ IsFound (store.held (keyOf payload)) payload) ∧
      (heal.map keyOf).Nodup ∧
      after.held = (freshOf store.held heal).foldl receive store.held ∧
      after.cursors = store.cursors ∧ after.checkpoints = store.checkpoints ∧
      ∀ discrepancy ∈ report.discrepancies,
        heal ≠ [] ∨ ∃ qboId, discrepancy = .extra qboId := by
  unfold reconcileWith at reconciles
  obtain ⟨healed, heals, done⟩ := bind_eq_ok_iff.mp reconciles
  cases done
  let ordered := remote.insertionSort fun first second => first.qboId ≤ second.qboId
  let discrepancy payload := discrepancyOf ((store.indexedEntities entityType).find? fun row =>
    row.qboId = payload.qboId) payload
  let heal := ordered.filter fun payload => (discrepancy payload).isSome
  have isPerm : ordered.Perm remote := List.perm_insertionSort _ _
  have healMem : ∀ payload, payload ∈ heal ↔
      payload ∈ remote ∧ IsFound (store.held (keyOf payload)) payload := by
    intro payload
    rw [List.mem_filter, isPerm.mem_iff]
    exact and_congr_right fun payloadMem => isSome_discrepancyOf (typed payload payloadMem)
  have healOnce : (heal.map keyOf).Nodup :=
    ((isPerm.map keyOf).nodup_iff.mpr once).sublist (List.filter_sublist.map _)
  have applied : healed.held = (freshOf store.held heal).foldl receive store.held ∧
      healed.cursors = store.cursors ∧ healed.checkpoints = store.checkpoints := by
    change (if heal.isEmpty then _ else _) = _ at heals
    split_ifs at heals with isEmpty
    · rw [List.isEmpty_iff.mp isEmpty]
      cases heals
      exact ⟨rfl, rfl, rfl⟩
    · obtain ⟨⟨written, counted⟩, applies, rfl⟩ :=
        map_eq_ok_iff.mp (mapError_eq_ok_iff.mp heals)
      exact ⟨(Store.applied_applyChanges applies).held,
        (Store.applied_applyChanges applies).cursors,
        (Store.applied_applyChanges applies).checkpoints⟩
  obtain ⟨heldEq, cursorsEq, checkpointsEq, kept⟩ := foldl_setAside
  refine ⟨heal, healMem, healOnce, heldEq.trans applied.1, cursorsEq.trans applied.2.1,
    checkpointsEq.trans applied.2.2, ?_⟩
  intro found foundMem
  refine (kept found foundMem).imp_left fun inRead => ?_
  obtain ⟨payload, payloadMem, isOne⟩ := List.mem_filterMap.mp inRead
  exact List.ne_nil_of_mem (List.mem_filter.mpr ⟨payloadMem, Option.isSome_iff_exists.mpr
    ⟨found, isOne⟩⟩)

end Comparisons

/-! ### What a reconciliation is for -/

def Discrepancy.isExtra : Discrepancy → Bool
  | extra _ => true
  | _ => false

section Purpose

variable (options : SyncOptions) (readers : TextReaders) (entityType : EntityType)
  (book : BookOfRecord) (store : Store)

/-- What holds after a reconciliation that did what it is for: the replica has the
version of every live record, no mark has moved, and another reconciliation comes
to an end and finds nothing missing and nothing stale. -/
structure HealsAndRests (after : Store) : Prop where
  healed : ∀ record ∈ book.matching none, after.held (keyOf record) = some (versionOf record)
  marks : after.cursors = store.cursors ∧ after.checkpoints = store.checkpoints
  rests : ∀ later fetchPage pages again report, Serves book options.pageSize fetchPage →
    reconcileEntityType options readers entityType after later fetchPage pages =
      some (.ok (again, report)) → ∀ discrepancy ∈ report.discrepancies, discrepancy.isExtra = true
  ends : ∀ later, ∃ pages done, reconcileEntityType options readers entityType after later
    (fun start => .ok (book.queryPage none start options.pageSize)) pages = some (.ok done)

/-- A live record is held at its version already, or it is found by its time and
its version is not skipped by its token. -/
def Heals (held : Held) (record : EntityPayload) : Prop :=
  held (keyOf record) = some (versionOf record) ∨
    IsFound (held (keyOf record)) record ∧
      (versionOf record).isSkipped (held (keyOf record)) = false

end Purpose

section Runs

variable {options : SyncOptions} {readers : TextReaders} {entityType : EntityType}
  {book : BookOfRecord} {store after : Store} {now : Instant}
  {fetchPage : Nat → Except SyncError ReadPage} {pages : Nat} {report : ReconcileReport}

theorem reconcileEntityType_ok (typed : ∀ record ∈ book.records, record.entityType = entityType)
    (distinct : (book.records.map EntityPayload.qboId).Nodup)
    (serves : Serves book options.pageSize fetchPage)
    (reconciles : reconcileEntityType options readers entityType store now fetchPage pages =
      some (.ok (after, report))) :
    0 < options.pageSize ∧ ∃ heal, (∀ payload, payload ∈ heal ↔
          payload ∈ book.matching none ∧ IsFound (store.held (keyOf payload)) payload) ∧
      (heal.map keyOf).Nodup ∧
      after.held = (freshOf store.held heal).foldl receive store.held ∧
      after.cursors = store.cursors ∧ after.checkpoints = store.checkpoints ∧
      ∀ discrepancy ∈ report.discrepancies,
        heal ≠ [] ∨ ∃ qboId, discrepancy = .extra qboId := by
  obtain ⟨read, reads, done⟩ := Option.map_eq_some_iff.mp reconciles
  obtain ⟨⟨remote, requests⟩, rfl, compares⟩ := bind_eq_ok_iff.mp done
  obtain ⟨rfl, positive⟩ := readRemote_ok serves distinct reads
  refine ⟨positive, reconcileWith_ok ?_ ?_ compares⟩
  · exact fun payload payloadMem => typed payload (mem_matching.mp payloadMem).1
  · refine List.Nodup.of_map Prod.snd ?_
    rw [List.map_map]
    exact distinct.sublist (List.filter_sublist.map _)

theorem held_iff_heals (distinct : (book.records.map EntityPayload.qboId).Nodup) {heal : List EntityPayload}
    (healMem : ∀ payload, payload ∈ heal ↔
      payload ∈ book.matching none ∧ IsFound (store.held (keyOf payload)) payload)
    (once : (heal.map keyOf).Nodup) {record : EntityPayload}
    (recordMem : record ∈ book.matching none) :
    (freshOf store.held heal).foldl receive store.held (keyOf record) =
        some (versionOf record) ↔ Heals store.held record := by
  by_cases written : record ∈ freshOf store.held heal
  · obtain ⟨inHeal, notSkipped⟩ := List.mem_filter.mp written
    refine iff_of_true (foldl_receive_of_mem (once.sublist (List.filter_sublist.map _)) written)
      (.inr ⟨((healMem record).mp inHeal).2, by simpa using notSkipped⟩)
  · have others : ∀ entry ∈ freshOf store.held heal, keyOf entry ≠ keyOf record := by
      intro entry entryMem same
      have inBook := ((healMem entry).mp (List.mem_filter.mp entryMem).1).1
      have isRecord : entry = record := List.inj_on_of_nodup_map distinct
        (mem_matching.mp inBook).1 (mem_matching.mp recordMem).1 (congrArg Prod.snd same)
      exact written (isRecord ▸ entryMem)
    rw [foldl_receive_of_forall_ne others]
    refine ⟨.inl, fun heals => heals.resolve_right fun found => written ?_⟩
    exact List.mem_filter.mpr ⟨(healMem record).mpr ⟨recordMem, found.1⟩, by simp [found.2]⟩

theorem not_isFound_of_held {record : EntityPayload} (live : record.isDeleted = false)
    (isHeld : store.held (keyOf record) = some (versionOf record)) :
    ¬IsFound (store.held (keyOf record)) record := by
  rw [isHeld]
  rintro (isDeleted | older)
  · exact absurd (live.symm.trans isDeleted) Bool.false_ne_true
  · exact lt_irrefl _ older

theorem exists_reconcileWith {remote : List EntityPayload} {requests : Nat}
    (typed : ∀ payload ∈ remote, payload.entityType = entityType)
    (inStep : ∀ payload ∈ remote, ¬IsFound (store.held (keyOf payload)) payload) :
    ∃ done, reconcileWith readers entityType store now remote requests = .ok done := by
  let ordered := remote.insertionSort fun first second => first.qboId ≤ second.qboId
  let discrepancy payload := discrepancyOf ((store.indexedEntities entityType).find? fun row =>
    row.qboId = payload.qboId) payload
  have nothing : (ordered.filter fun payload => (discrepancy payload).isSome) = [] := by
    refine List.filter_eq_nil_iff.mpr fun payload payloadMem found => ?_
    have inRemote : payload ∈ remote := (List.mem_insertionSort _).mp payloadMem
    exact inStep payload inRemote ((isSome_discrepancyOf (typed payload inRemote)).mp found)
  have applied : (if (ordered.filter fun payload => (discrepancy payload).isSome).isEmpty then
      .ok store else ((store.applyChanges readers (ordered.filter fun payload =>
        (discrepancy payload).isSome) none).map Prod.fst).mapError SyncError.store) =
          Except.ok store := by
    rw [nothing]
    rfl
  exact ⟨_, bind_eq_ok_iff.mpr ⟨store, applied, rfl⟩⟩

/-- A reconciliation that succeeds has done what it is for exactly when every live
record is held at its version already, or is found by its time and not skipped by
its token. -/
theorem healsAndRests_iff (typed : ∀ record ∈ book.records, record.entityType = entityType)
    (distinct : (book.records.map EntityPayload.qboId).Nodup)
    (serves : Serves book options.pageSize fetchPage)
    (reconciles : reconcileEntityType options readers entityType store now fetchPage pages =
      some (.ok (after, report))) :
    HealsAndRests options readers entityType book store after ↔
      ∀ record ∈ book.matching none, Heals store.held record := by
  obtain ⟨positive, heal, healMem, once, heldEq, cursorsEq, checkpointsEq, -⟩ :=
    reconcileEntityType_ok typed distinct serves reconciles
  have each : ∀ record ∈ book.matching none,
      (after.held (keyOf record) = some (versionOf record) ↔ Heals store.held record) := by
    intro record recordMem
    rw [heldEq]
    exact held_iff_heals distinct healMem once recordMem
  constructor
  · exact fun heals record recordMem => (each record recordMem).mp (heals.healed record recordMem)
  · intro heals
    have healed : ∀ record ∈ book.matching none,
        after.held (keyOf record) = some (versionOf record) :=
      fun record recordMem => (each record recordMem).mpr (heals record recordMem)
    have inStep : ∀ record ∈ book.matching none,
        ¬IsFound (after.held (keyOf record)) record := fun record recordMem =>
      not_isFound_of_held (mem_matching.mp recordMem).2.1 (healed record recordMem)
    refine ⟨healed, ⟨cursorsEq, checkpointsEq⟩, ?_, ?_⟩
    · intro later fetchAgain pagesAgain again reportAgain servesAgain reconcilesAgain
      obtain ⟨-, healAgain, healAgainMem, -, -, -, -, found⟩ :=
        reconcileEntityType_ok typed distinct servesAgain reconcilesAgain
      intro discrepancy isOne
      obtain notEmpty | ⟨qboId, rfl⟩ := found discrepancy isOne
      · obtain ⟨payload, payloadMem⟩ := List.exists_mem_of_ne_nil _ notEmpty
        obtain ⟨isLive, isFound⟩ := (healAgainMem payload).mp payloadMem
        exact absurd isFound (inStep payload isLive)
      · rfl
    · intro later
      have enough : ((book.matching none).drop 0).length < (book.matching none).length + 1 := by
        simp
      have comes : ∃ read, readRemote options.pageSize
          (fun start => .ok (book.queryPage none start options.pageSize))
          ((book.matching none).length + 1) 0 [] 0 = some (.ok read) :=
        exists_readRemote positive enough
      obtain ⟨read, reads⟩ := comes
      have servesPages : Serves book options.pageSize
          fun start => .ok (book.queryPage none start options.pageSize) := by
        rintro start page ⟨⟩
        rfl
      have isRead := (readRemote_ok servesPages distinct reads).1
      have ofType : ∀ payload ∈ read.1, payload.entityType = entityType := by
        rw [isRead]
        exact fun payload payloadMem => typed payload (mem_matching.mp payloadMem).1
      have foundNone : ∀ payload ∈ read.1, ¬IsFound (after.held (keyOf payload)) payload := by
        rw [isRead]
        exact inStep
      obtain ⟨done, compares⟩ := exists_reconcileWith ofType foundNone
      exact ⟨_, done, Option.map_eq_some_iff.mpr ⟨.ok read, reads, compares⟩⟩

end Runs

/-! ### Two customers reconciled -/

namespace RestoredCustomer

def readers : TextReaders := plainLibrary.toTextReaders

def options : SyncOptions where
  pageSize := 2
  cdcMaxAge := 25 * 86400
  cdcResponseCap := 1000
  uncoveredSweepInterval := 3600
  cdcOverlap := 300

def customer (qboId syncToken : String) (lastUpdatedUtc : Instant) (isDeleted : Bool) :
    EntityPayload where
  entityType := .customer
  qboId
  syncToken
  lastUpdatedUtc
  isDeleted
  rawJson := .object [("DisplayName", .string "Pool Shop")]

/-- The replica with two customers, the first deleted. -/
def replica (deletedToken : String) : Store :=
  match Store.empty.applyBatch readers
      [customer "1" deletedToken 150 true, customer "2" "0" 100 false]
      (some (.customer, ⟨some 160, none⟩)) with
  | .ok (store, _) => store
  | .error _ => .empty

/-- The book with both customers live. -/
def book (secondUpdated : Instant) : BookOfRecord where
  records := [customer "1" "1" 200 false, customer "2" "1" secondUpdated false]
  clock := 300
  statesToken := fun _ => true

def fetchPage (secondUpdated : Instant) (start : Nat) : Except SyncError ReadPage :=
  .ok ((book secondUpdated).queryPage none start 2)

theorem serves (secondUpdated : Instant) : Serves (book secondUpdated) 2
    (fetchPage secondUpdated) := by
  rintro start page ⟨⟩
  rfl

def reconciled (deletedToken : String) (secondUpdated : Instant) :
    Option (Except SyncError (Store × ReconcileReport)) :=
  reconcileEntityType options readers .customer (replica deletedToken) 300
    (fetchPage secondUpdated) 2

/-- The replica after a reconciliation. -/
def after (deletedToken : String) (secondUpdated : Instant) : Store :=
  match reconciled deletedToken secondUpdated with
  | some (.ok (store, _)) => store
  | _ => .empty

def report (discrepancies : List Discrepancy) (healed : Nat) : ReconcileReport where
  entityType := .customer
  remote := 2
  «local» := 1
  discrepancies
  healed
  quarantinedExtra := 0
  skippedRecent := 0
  requests := 2

/-- A restored customer and an edited one are healed. -/
theorem heals_restored :
    HealsAndRests options readers .customer (book 120) (replica "0") (after "0" 120) := by
  have reconciles : reconcileEntityType options readers .customer (replica "0") 300
      (fetchPage 120) 2 =
        some (.ok (after "0" 120, report [.missing "1", .stale "2" 100 120] 2)) :=
    rfl
  refine (healsAndRests_iff ?_ ?_ (serves 120) reconciles).mpr ?_
  · decide
  · decide
  · have first : Heals (replica "0").held (customer "1" "1" 200 false) :=
      .inr ⟨.inl rfl, rfl⟩
    have second : Heals (replica "0").held (customer "2" "1" 120 false) :=
      .inr ⟨.inr (by decide), rfl⟩
    intro record recordMem
    have isOne : record ∈ [customer "1" "1" 200 false, customer "2" "1" 120 false] := recordMem
    simp only [List.mem_cons, List.not_mem_nil, or_false] at isOne
    obtain rfl | rfl := isOne
    · exact first
    · exact second

/-- The deletion held of the first customer has a higher token than the customer
that was restored from a backup, and the second customer was edited twice in one
second: the one is counted as healed and not written, and found again; the other is
not found. -/
theorem restored_not_healed :
    reconciled "2" 100 = some (.ok (after "2" 100, report [.missing "1"] 1)) ∧
      (after "2" 100).held (.customer, "1") = some ⟨"2", 150, true⟩ ∧
      (after "2" 100).held (.customer, "2") = some ⟨"0", 100, false⟩ ∧
      reconcileEntityType options readers .customer (after "2" 100) 400 (fetchPage 100) 2 =
        some (.ok (after "2" 100, report [.missing "1"] 1)) ∧
      ¬HealsAndRests options readers .customer (book 100) (replica "2") (after "2" 100) := by
  refine ⟨rfl, rfl, rfl, rfl, fun heals => ?_⟩
  have isHeld := heals.healed (customer "1" "1" 200 false) (.head _)
  have notHeld : (after "2" 100).held (.customer, "1") = some ⟨"2", 150, true⟩ := rfl
  exact absurd (notHeld.symm.trans isHeld) (by simp [versionOf, customer])

end RestoredCustomer

end Mirror

end QuickBooks
