import QuickBooks.PlainReaders
import QuickBooks.SyncDriver

/-!
# Deletions of the change feed

A deletion that a complete poll brings should end flagged in the replica, and so
should its row.  It passes through the token it has or gets by default, the
comparison with the version that is held, and the reading of the last payload.
-/

namespace QuickBooks

namespace Mirror

open ExceptPrograms
open Outbox (EntityPayload)

def RowMarked (store : Store) (key : RecordKey) : Prop :=
  ∀ row, store.rowFor key = some row → row.isDeleted = true

def Flagged (store : Store) (key : RecordKey) : Prop :=
  (∃ held, store.get? key = some held ∧ held.isDeleted = true) ∧ RowMarked store key

/-- A deletion is not skipped, and the payload that was kept can be read, unless
the record is already flagged or has no row that is not. -/
def DeletionLands (readers : TextReaders) (store : Store) (deletion : EntityPayload) : Prop :=
  if store.holdsThisVersionOrNewer deletion then Flagged store (keyOf deletion)
  else
    (store.projectionOf readers deletion).isSome ∨ RowMarked store (keyOf deletion)

section Frames

variable {readers : TextReaders} {store after : Store} {incoming entity : EntityPayload}
  {outcome : Outcome} {batch : List EntityPayload} {report : BatchReport}
  {done : Store × BatchReport} {key : RecordKey}

theorem rowKey_injective {entityType : EntityType} {first second : String} {shared : RowKey}
    (one : rowKey entityType first = some shared) (two : rowKey entityType second = some shared) :
    first = second := by
  rw [← qboId_of_rowKey one, qboId_of_rowKey two]

def SameAt (key : RecordKey) (first second : Store) : Prop :=
  first.get? key = second.get? key ∧ first.rowFor key = second.rowFor key

theorem sameAt_saveCursor (cursor : Option (EntityType × SyncCursor)) :
    SameAt key (store.saveCursor cursor) store := by
  cases cursor <;> exact ⟨rfl, rfl⟩

theorem rowKey_of_projectionOf {row : ParsedEntity}
    (projects : store.projectionOf readers incoming = some row) :
    rowKey incoming.entityType incoming.qboId = some row.key ∧
      row.isDeleted = incoming.isDeleted := by
  obtain ⟨entity, keeps, isRow⟩ := Option.bind_eq_some_iff.mp projects
  obtain ⟨sameKey, sameVersion⟩ := Store.keyOf_withLastKnownPayload keeps
  obtain ⟨isKey, marked⟩ := key_of_parse (Store.rowOf_eq_some_iff.mp isRow)
  unfold keyOf at sameKey
  unfold versionOf at sameVersion
  rw [Prod.mk.injEq] at sameKey
  rw [Version.mk.injEq] at sameVersion
  unfold mirrored at isKey marked
  dsimp only at isKey marked
  rw [sameKey.1, sameKey.2] at isKey
  exact ⟨isKey, marked.trans sameVersion.2.2⟩

theorem rowFor_applyEntity
    (applies : store.applyEntity readers incoming = .ok (after, outcome)) :
    after.rowFor (keyOf incoming) =
      (store.projectionOf readers incoming).or (store.rowFor (keyOf incoming)) := by
  unfold Store.rowFor
  have rows : ∀ wanted, after.row? wanted = _ := fun _ => Store.row?_applyEntity applies
  cases projects : store.projectionOf readers incoming with
  | none =>
    simp only [projects] at rows
    simp only [rows, Option.none_or]
  | some row =>
    simp only [projects] at rows
    change (rowKey incoming.entityType incoming.qboId).bind after.row? = _
    rw [(rowKey_of_projectionOf projects).1, Option.bind_some, rows, if_pos rfl]
    rfl

theorem sameAt_applyEntity (applies : store.applyEntity readers incoming = .ok (after, outcome))
    (sameType : incoming.entityType = key.1) (other : keyOf incoming ≠ key) :
    SameAt key after store := by
  refine ⟨by rw [Store.get?_applyEntity applies, if_neg other], ?_⟩
  unfold Store.rowFor
  cases isKey : rowKey key.1 key.2 with
  | none => rfl
  | some wanted =>
    rw [Option.bind_some, Option.bind_some, Store.row?_applyEntity applies]
    cases projects : store.projectionOf readers incoming with
    | none => rfl
    | some row =>
      refine if_neg fun same => other ?_
      have own := (rowKey_of_projectionOf projects).1
      rw [same, sameType] at own
      exact Prod.ext sameType (rowKey_injective own isKey)

theorem sameAt_applyEntities
    (applies : Store.applyEntities readers (store, report) batch = .ok done)
    (sameType : ∀ entity ∈ batch, entity.entityType = key.1)
    (others : ∀ entity ∈ batch, keyOf entity ≠ key) : SameAt key done.1 store := by
  induction batch generalizing store report with
  | nil =>
    cases applies
    exact ⟨rfl, rfl⟩
  | cons first rest ih =>
    obtain ⟨⟨middle, outcome⟩, firstApplies, later⟩ := bind_eq_ok_iff.mp applies
    have sameFirst := sameAt_applyEntity firstApplies (sameType first (.head _))
      (others first (.head _))
    have sameRest := ih later (fun entity entityMem => sameType entity (.tail _ entityMem))
      fun entity entityMem => others entity (.tail _ entityMem)
    exact ⟨sameRest.1.trans sameFirst.1, sameRest.2.trans sameFirst.2⟩

theorem exists_applyEntity_of_mem
    (applies : Store.applyEntities readers (store, report) batch = .ok done)
    (sameType : ∀ entity ∈ batch, entity.entityType = key.1)
    (once : (batch.map keyOf).Nodup) (entityMem : entity ∈ batch) (isKey : keyOf entity = key) :
    ∃ before after outcome, SameAt key before store ∧
      before.applyEntity readers entity = .ok (after, outcome) ∧ SameAt key done.1 after := by
  induction batch generalizing store report with
  | nil => cases entityMem
  | cons first rest ih =>
    obtain ⟨⟨middle, outcome⟩, firstApplies, later⟩ := bind_eq_ok_iff.mp applies
    rw [List.map_cons, List.nodup_cons] at once
    have restType : ∀ entity ∈ rest, entity.entityType = key.1 :=
      fun entity entityMem => sameType entity (.tail _ entityMem)
    rcases List.mem_cons.mp entityMem with rfl | inRest
    · refine ⟨store, middle, outcome, ⟨rfl, rfl⟩, firstApplies, ?_⟩
      refine sameAt_applyEntities later restType fun other otherMem same => ?_
      exact once.1 (List.mem_map.mpr ⟨other, otherMem, same.trans isKey.symm⟩)
    · obtain ⟨before, after, outcome, same, written, sameAfter⟩ := ih later restType once.2 inRest
      have otherKey : keyOf first ≠ key := fun sameKey =>
        once.1 (List.mem_map.mpr ⟨entity, inRest, isKey.trans sameKey.symm⟩)
      have sameFirst := sameAt_applyEntity firstApplies (sameType first (.head _)) otherKey
      exact ⟨before, after, outcome, ⟨same.1.trans sameFirst.1, same.2.trans sameFirst.2⟩,
        written, sameAfter⟩

theorem projectionOf_congr {first second : Store}
    (same : first.get? (keyOf incoming) = second.get? (keyOf incoming)) :
    first.projectionOf readers incoming = second.projectionOf readers incoming := by
  unfold Store.projectionOf Store.withLastKnownPayload
  rw [same]

end Frames

section Polls

variable {options : SyncOptions} {readers : TextReaders} {entityType : EntityType}
  {store after : Store} {now changedSince : Instant} {cursor : SyncCursor} {changed : ReadPage}
  {deletion : EntityPayload}

theorem applyChanges_of_pollAnswered
    (completes : pollAnswered options readers entityType store now cursor changedSince changed =
      .ok (after, .idle)) :
    ∃ written report, Store.applyEntities readers (store, ⟨0, 0, 0, 0, 0⟩)
        (changed.entities.filter fun entity => !store.holdsThisVersionOrNewer entity) =
          .ok (written, report) ∧
      after = written.saveCursor (some (entityType, cursor.advance .complete
        (cursorAfterRead changedSince changed.serverTime
          (changed.entities.map EntityPayload.lastUpdatedUtc)))) := by
  unfold pollAnswered at completes
  split_ifs at completes
  · cases completes
  · split at completes
    · obtain ⟨⟨middle, report⟩, applies, done⟩ := bind_eq_ok_iff.mp completes
      obtain ⟨⟨inner, counted⟩, inBatch, isMiddle⟩ := bind_eq_ok_iff.mp applies
      obtain ⟨⟨written, writtenReport⟩, writes, isInner⟩ := bind_eq_ok_iff.mp inBatch
      cases isInner
      cases isMiddle
      cases done
      exact ⟨written, _, writes, rfl⟩
    · cases completes

theorem flagged_iff_deletionLands (ofType : ∀ entity ∈ changed.entities,
      entity.entityType = entityType)
    (once : (changed.entities.map EntityPayload.qboId).Nodup)
    (completes : pollAnswered options readers entityType store now cursor changedSince changed =
      .ok (after, .idle))
    (deletionMem : deletion ∈ changed.entities) (isDeleted : deletion.isDeleted = true) :
    Flagged after (keyOf deletion) ↔ DeletionLands readers store deletion := by
  obtain ⟨written, report, applies, rfl⟩ := applyChanges_of_pollAnswered completes
  have isType := ofType deletion deletionMem
  have onceKeys : (changed.entities.map keyOf).Nodup := by
    refine List.Nodup.of_map Prod.snd ?_
    rw [List.map_map]
    exact once
  have freshType : ∀ entity ∈ changed.entities.filter fun entity =>
      !store.holdsThisVersionOrNewer entity, entity.entityType = (keyOf deletion).1 :=
    fun entity entityMem => (ofType entity (List.mem_filter.mp entityMem).1).trans isType.symm
  have sameSaved : ∀ saved : Option (EntityType × SyncCursor), SameAt (keyOf deletion)
      (written.saveCursor saved) written := fun saved => sameAt_saveCursor saved
  unfold Flagged RowMarked
  rw [(sameSaved _).1, (sameSaved _).2]
  unfold DeletionLands
  split_ifs with skipped
  · have same : SameAt (keyOf deletion) written store := by
      refine sameAt_applyEntities applies freshType fun entity entityMem same => ?_
      obtain ⟨inResponse, isFresh⟩ := List.mem_filter.mp entityMem
      rw [List.inj_on_of_nodup_map onceKeys inResponse deletionMem same, skipped] at isFresh
      cases isFresh
    rw [same.1, same.2]
    exact Iff.rfl
  · have isFresh : deletion ∈ changed.entities.filter fun entity =>
        !store.holdsThisVersionOrNewer entity :=
      List.mem_filter.mpr ⟨deletionMem, by simpa using skipped⟩
    obtain ⟨before, afterOne, outcome, sameBefore, applied, sameAfter⟩ :=
      exists_applyEntity_of_mem applies freshType 
        (onceKeys.sublist (List.filter_sublist.map keyOf)) isFresh rfl
    rw [sameAfter.1, sameAfter.2, rowFor_applyEntity applied, Store.get?_applyEntity applied,
      if_pos rfl, projectionOf_congr sameBefore.1, sameBefore.2]
    have sameVersion : versionOf (before.stored deletion) = versionOf deletion :=
      Store.keyOf_stored.2
    have marked : (before.stored deletion).isDeleted = true :=
      (congrArg Version.isDeleted sameVersion).trans isDeleted
    cases projects : store.projectionOf readers deletion with
    | none =>
      rw [Option.none_or]
      constructor
      · exact fun flagged => .inr flagged.2
      · rintro (nothing | rowMarked)
        · cases nothing
        · exact ⟨⟨_, rfl, marked⟩, rowMarked⟩
    | some row =>
      constructor
      · exact fun _ => .inl rfl
      · refine fun _ => ⟨⟨_, rfl, marked⟩, fun written isRow => ?_⟩
        cases isRow
        exact (rowKey_of_projectionOf projects).2.trans isDeleted

/-- After a complete poll every deletion of the response is flagged exactly when
every one of them lands. -/
theorem polledDeletions_iff {parseTime : TimeReader} {response : Json}
    {entities : List EntityPayload} (reads : parseCdcResponse parseTime response = .ok entities)
    (ofType : ∀ entity ∈ entities, entity.entityType = entityType)
    (once : (entities.map EntityPayload.qboId).Nodup)
    (completes : pollAnswered options readers entityType store now cursor changedSince
      ⟨entities, responseTime parseTime response⟩ = .ok (after, .idle)) :
    (∀ entity ∈ entities, isTombstone entity.rawJson = true → Flagged after (keyOf entity)) ↔
      ∀ entity ∈ entities, isTombstone entity.rawJson = true →
        DeletionLands readers store entity := by
  have each : ∀ entity ∈ entities, isTombstone entity.rawJson = true →
      (Flagged after (keyOf entity) ↔ DeletionLands readers store entity) := by
    intro entity entityMem isTomb
    rw [← isDeleted_of_parseCdcResponse reads entityMem] at isTomb
    exact flagged_iff_deletionLands ofType once completes entityMem isTomb
  constructor
  · intro flagged entity entityMem isTomb
    exact (each entity entityMem isTomb).mp (flagged entity entityMem isTomb)
  · intro lands entity entityMem isTomb
    exact (each entity entityMem isTomb).mpr (lands entity entityMem isTomb)

end Polls

/-! ### A customer deleted -/

namespace DeletedCustomer

def readers : TextReaders := plainLibrary.toTextReaders

def options : SyncOptions where
  pageSize := 1000
  cdcMaxAge := 25 * 86400
  cdcResponseCap := 1000
  uncoveredSweepInterval := 3600
  cdcOverlap := 300

/-- A reader of the two times of the response, in seconds of its day. -/
def parseTime : TimeReader := fun text =>
  if text = "2026-10-31T09:00:00Z" then some 32400
  else if text = "2026-10-31T09:14:03Z" then some 33243
  else none

/-- The customer as the replica holds it, after four changes. -/
def customer : EntityPayload where
  entityType := .customer
  qboId := "7"
  syncToken := "3"
  lastUpdatedUtc := 20000
  isDeleted := false
  rawJson := .object [("Id", .string "7"), ("DisplayName", .string "Pool Shop")]

def replica : Store :=
  match Store.empty.applyBatch readers [customer] (some (.customer, ⟨some 30000, none⟩)) with
  | .ok (store, _) => store
  | .error _ => .empty

/-- A response of the change feed with one deletion. -/
def response (token : List (String × Json)) : Json :=
  .object [("CDCResponse", .array [.object [("QueryResponse", .array [.object
      [("Customer", .array [.object (token ++ [("Id", .string "7"),
        ("MetaData", .object [("LastUpdatedTime", .string "2026-10-31T09:00:00Z")]),
        ("status", .string "Deleted")])]),
      ("startPosition", .number (.integer 1))]])]]),
    ("time", .string "2026-10-31T09:14:03Z")]

def deletion (token : List (String × Json)) (syncToken : String) : EntityPayload where
  entityType := .customer
  qboId := "7"
  syncToken
  lastUpdatedUtc := 32400
  isDeleted := true
  rawJson := .object (token ++ [("Id", .string "7"),
    ("MetaData", .object [("LastUpdatedTime", .string "2026-10-31T09:00:00Z")]),
    ("status", .string "Deleted")])

/-- The replica after a poll with the response. -/
def polled (deletions : List EntityPayload) : Store :=
  match pollAnswered options readers .customer replica 33300 ⟨some 30000, none⟩ 30000
      ⟨deletions, some 33243⟩ with
  | .ok (after, _) => after
  | .error _ => .empty

/-- A deletion that carries the token of its version lands. -/
theorem deletion_with_token :
    (∀ entity ∈ [deletion [("SyncToken", .string "4")] "4"],
        isTombstone entity.rawJson = true →
          Flagged (polled [deletion [("SyncToken", .string "4")] "4"]) (keyOf entity)) ↔
      ∀ entity ∈ [deletion [("SyncToken", .string "4")] "4"],
        isTombstone entity.rawJson = true → DeletionLands readers replica entity := by
  have reads : parseCdcResponse parseTime (response [("SyncToken", .string "4")]) =
      .ok [deletion [("SyncToken", .string "4")] "4"] :=
    rfl
  have completes : pollAnswered options readers .customer replica 33300 ⟨some 30000, none⟩ 30000
      ⟨[deletion [("SyncToken", .string "4")] "4"],
        responseTime parseTime (response [("SyncToken", .string "4")])⟩ =
      .ok (polled [deletion [("SyncToken", .string "4")] "4"], .idle) :=
    rfl
  exact polledDeletions_iff reads (by simp [deletion]) (by simp) completes

/-- A deletion without a token is taken for an older version and dropped, and the
cursor moves past it. -/
theorem deletion_without_token :
    parseCdcResponse parseTime (response []) = .ok [deletion [] "0"] ∧
      pollAnswered options readers .customer replica 33300 ⟨some 30000, none⟩ 30000
        ⟨[deletion [] "0"], responseTime parseTime (response [])⟩ =
          .ok (polled [deletion [] "0"], .idle) ∧
      ((polled [deletion [] "0"]).cursors .customer).lastCdcCursor = some 33243 ∧
      ¬Flagged (polled [deletion [] "0"]) (.customer, "7") := by
  refine ⟨rfl, rfl, rfl, ?_⟩
  rintro ⟨⟨held, found, isDeleted⟩, -⟩
  have isCustomer : (polled [deletion [] "0"]).get? (.customer, "7") = some customer := rfl
  rw [isCustomer] at found
  cases found
  cases isDeleted

end DeletedCustomer

end Mirror

end QuickBooks
