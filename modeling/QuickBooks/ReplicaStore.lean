import QuickBooks.ReplicaProjections

/-!
# The store of the replica

The records of one company as they were last read, the projection of their
payloads, and where each type's reads have got to.  A batch is written in one
transaction with the cursor that it advances.  A deletion carries no payload of
its own, so the record keeps the last full one; what a poll reads is written only
where the store does not hold that version or a newer one.
-/

namespace QuickBooks

namespace Mirror

open ExceptPrograms
open Outbox (EntityPayload digitsValue)

abbrev RecordKey := EntityType × String

def keyOf (entity : EntityPayload) : RecordKey :=
  (entity.entityType, entity.qboId)

/-- What the parser reads of a record. -/
def mirrored (entity : EntityPayload) : MirroredEntity where
  entityType := entity.entityType
  qboId := entity.qboId
  isDeleted := entity.isDeleted
  rawJson := entity.rawJson

/-- The row of a record as its payload has it. -/
def rowOf (readers : TextReaders) (entity : EntityPayload) : Option ParsedEntity :=
  match parse readers (mirrored entity) with
  | .parsed row => some row
  | _ => none

/-- Why a record is set aside: its payload cannot be read, or a reconciliation
finds it live here and absent from the book of record. -/
inductive QuarantineReason where
  | unread (error : ProjectError)
  | absentFromQbo (now : Int)

structure QuarantineRow where
  entityType : EntityType
  qboId : String
  reason : QuarantineReason
  rawJson : Json

def QuarantineRow.key (row : QuarantineRow) : RecordKey :=
  (row.entityType, row.qboId)

structure SyncCursor where
  lastCdcCursor : Option Int
  lastFullSweep : Option Int
deriving DecidableEq

structure SweepCheckpoint where
  nextStart : Nat
  startedAt : Int
deriving DecidableEq

/-- The tables of one company.  A type without a row of its own in the cursors
was never read. -/
structure Store where
  entities : List EntityPayload
  projected : List ParsedEntity
  quarantined : List QuarantineRow
  cursors : EntityType → SyncCursor
  checkpoints : EntityType → Option SweepCheckpoint

/-- A refusal of the tables: a document has two lines of one number. -/
inductive StoreError where
  | uniqueLines (docQboId : RowKey)
deriving DecidableEq

/-- What became of the payload of one record. -/
inductive Outcome where
  | projected
  | notProjected
  | quarantined
deriving DecidableEq

structure BatchReport where
  mirrored : Nat
  projected : Nat
  notProjected : Nat
  quarantined : Nat
  alreadyHeld : Nat
deriving DecidableEq

def BatchReport.count (report : BatchReport) : Outcome → BatchReport
  | .projected =>
    { report with mirrored := report.mirrored + 1, projected := report.projected + 1 }
  | .notProjected =>
    { report with mirrored := report.mirrored + 1, notProjected := report.notProjected + 1 }
  | .quarantined =>
    { report with mirrored := report.mirrored + 1, quarantined := report.quarantined + 1 }

/-- A number of sixty-four bits without a sign, as a text spells it. -/
def parseU64 (text : String) : Option Nat :=
  let digits := match text.toList with
    | '+' :: rest => String.ofList rest
    | _ => text
  (digitsValue digits).filter fun value => value < 2 ^ 64

/-- The payload that only says that a record was deleted. -/
def isTombstone (raw : Json) : Bool :=
  match raw.get? "status" with
  | some (.string status) => status = "Deleted"
  | _ => false

namespace Store

def empty : Store where
  entities := []
  projected := []
  quarantined := []
  cursors _ := ⟨none, none⟩
  checkpoints _ := none

variable (store : Store)

def get? (key : RecordKey) : Option EntityPayload :=
  store.entities.find? fun entity => keyOf entity = key

def row? (key : RowKey) : Option ParsedEntity :=
  store.projected.find? fun row => row.key = key

def rowFor (key : RecordKey) : Option ParsedEntity :=
  (rowKey key.1 key.2).bind store.row?

def quarantine? (key : RecordKey) : Option QuarantineRow :=
  store.quarantined.find? fun row => row.key = key

def upsertEntity (entity : EntityPayload) : Store :=
  { store with entities := KeyedTables.upsert keyOf entity store.entities }

def clearQuarantine (key : RecordKey) : Store :=
  { store with quarantined := store.quarantined.filter fun row => row.key ≠ key }

def quarantine (entity : EntityPayload) (reason : QuarantineReason) : Store :=
  { store with
    quarantined := KeyedTables.upsert QuarantineRow.key
      ⟨entity.entityType, entity.qboId, reason, entity.rawJson⟩ store.quarantined }

/-- Write a projected row.  A document's lines and links are replaced wholesale
with it, and no two of its lines may have one number. -/
def writeParsed (row : ParsedEntity) : Except StoreError Store :=
  if row.lineNumbers.Nodup then
    .ok { store with projected := KeyedTables.upsert ParsedEntity.key row store.projected }
  else .error (.uniqueLines row.key)

/-- Write a cursor beside the records that it covers. -/
def saveCursor : Option (EntityType × SyncCursor) → Store
  | some (entityType, cursor) =>
    { store with cursors := Function.update store.cursors entityType cursor }
  | none => store

def saveCheckpoint (entityType : EntityType) (checkpoint : Option SweepCheckpoint) : Store :=
  { store with checkpoints := Function.update store.checkpoints entityType checkpoint }

/-- A deletion with the last full payload that the store holds; nothing where it
holds none. -/
def withLastKnownPayload (entity : EntityPayload) : Option EntityPayload :=
  if !entity.isDeleted then some entity
  else
    match store.get? (keyOf entity) with
    | none => none
    | some existing =>
      if isTombstone existing.rawJson then none
      else some { entity with rawJson := existing.rawJson }

/-- Whether the store holds a record at this version or a later one. -/
def holdsThisVersionOrNewer (entity : EntityPayload) : Bool :=
  match store.get? (keyOf entity) with
  | none => false
  | some held =>
    let identical := held.syncToken = entity.syncToken ∧
      held.lastUpdatedUtc = entity.lastUpdatedUtc ∧ held.isDeleted = entity.isDeleted
    let older := match parseU64 entity.syncToken, parseU64 held.syncToken with
      | some incoming, some held => decide (incoming < held)
      | _, _ => false
    decide identical || older

variable (readers : TextReaders)

/-- Write one record of a batch and its projection. -/
def applyEntity (incoming : EntityPayload) : Except StoreError (Store × Outcome) :=
  match store.withLastKnownPayload incoming with
  | none =>
    .ok ((store.upsertEntity incoming).clearQuarantine (keyOf incoming), .notProjected)
  | some entity =>
    let written := store.upsertEntity entity
    match parse readers (mirrored entity) with
    | .parsed row => do
      let projected ← written.writeParsed row
      return (projected.clearQuarantine (keyOf entity), .projected)
    | .notProjected => .ok (written, .notProjected)
    | .quarantine error => .ok (written.quarantine entity (.unread error), .quarantined)

/-- Write the records of a batch in order, and count what became of each. -/
def applyEntities : Store × BatchReport → List EntityPayload →
    Except StoreError (Store × BatchReport)
  | state, [] => .ok state
  | (store, report), incoming :: rest => do
    let (store, outcome) ← store.applyEntity readers incoming
    applyEntities (store, report.count outcome) rest

/-- The body of a batch, within its transaction. -/
def applyBatchIn (entities : List EntityPayload) (cursor : Option (EntityType × SyncCursor)) :
    Except StoreError (Store × BatchReport) := do
  let (after, report) ← applyEntities readers (store, ⟨0, 0, 0, 0, 0⟩) entities
  return (after.saveCursor cursor, report)

def applyBatch (entities : List EntityPayload) (cursor : Option (EntityType × SyncCursor)) :
    Except StoreError (Store × BatchReport) :=
  store.applyBatchIn readers entities cursor

/-- A batch without the records that the store already holds. -/
def applyChanges (entities : List EntityPayload) (cursor : Option (EntityType × SyncCursor)) :
    Except StoreError (Store × BatchReport) := do
  let fresh := entities.filter fun entity => !store.holdsThisVersionOrNewer entity
  let (after, report) ← store.applyBatchIn readers fresh cursor
  return (after, { report with alreadyHeld := entities.length - fresh.length })

/-- A page of a sweep, and in the same transaction where the sweep has got to. -/
def applySweepPage (entityType : EntityType) (entities : List EntityPayload)
    (checkpoint : Option SweepCheckpoint) (cursor : Option (EntityType × SyncCursor)) :
    Except StoreError (Store × BatchReport) := do
  let (after, report) ← store.applyBatchIn readers entities cursor
  return (after.saveCheckpoint entityType checkpoint, report)

end Store

/-! ### What one record leaves -/

/-- Which version of a record a payload is. -/
structure Version where
  syncToken : String
  lastUpdatedUtc : Int
  isDeleted : Bool
deriving DecidableEq

def versionOf (entity : EntityPayload) : Version :=
  ⟨entity.syncToken, entity.lastUpdatedUtc, entity.isDeleted⟩

namespace Store

variable {store after : Store} {readers : TextReaders} {incoming : EntityPayload}
  {outcome : Outcome} {row : ParsedEntity} {key : RecordKey} {rowKey : RowKey}

@[simp]
theorem get?_upsertEntity (entity : EntityPayload) :
    (store.upsertEntity entity).get? key =
      if keyOf entity = key then some entity else store.get? key :=
  KeyedTables.find?_upsert keyOf entity store.entities key

@[simp]
theorem get?_clearQuarantine (cleared : RecordKey) :
    (store.clearQuarantine cleared).get? key = store.get? key :=
  rfl

@[simp]
theorem get?_quarantine (entity : EntityPayload) (reason : QuarantineReason) :
    (store.quarantine entity reason).get? key = store.get? key :=
  rfl

@[simp]
theorem row?_upsertEntity (entity : EntityPayload) :
    (store.upsertEntity entity).row? rowKey = store.row? rowKey :=
  rfl

@[simp]
theorem row?_clearQuarantine (cleared : RecordKey) :
    (store.clearQuarantine cleared).row? rowKey = store.row? rowKey :=
  rfl

@[simp]
theorem row?_quarantine (entity : EntityPayload) (reason : QuarantineReason) :
    (store.quarantine entity reason).row? rowKey = store.row? rowKey :=
  rfl

theorem rowOf_eq_some_iff {entity : EntityPayload} :
    rowOf readers entity = some row ↔ parse readers (mirrored entity) = .parsed row := by
  unfold rowOf
  split
  · rename_i found reads
    rw [reads, Option.some_inj, Projection.parsed.injEq]
  · rename_i notParsed
    exact ⟨fun isRow => (by cases isRow), fun reads => (notParsed row reads).elim⟩

theorem writeParsed_eq_ok_iff :
    store.writeParsed row = .ok after ↔
      row.lineNumbers.Nodup ∧
        after = { store with
          projected := KeyedTables.upsert ParsedEntity.key row store.projected } := by
  unfold writeParsed
  split_ifs with distinct
  · simp [distinct, eq_comm]
  · simp [distinct]

def stored (store : Store) (incoming : EntityPayload) : EntityPayload :=
  (store.withLastKnownPayload incoming).getD incoming

theorem keyOf_withLastKnownPayload {entity : EntityPayload}
    (keeps : store.withLastKnownPayload incoming = some entity) :
    keyOf entity = keyOf incoming ∧ versionOf entity = versionOf incoming := by
  unfold withLastKnownPayload at keeps
  split_ifs at keeps
  · cases keeps
    exact ⟨rfl, rfl⟩
  · split at keeps
    · cases keeps
    · split_ifs at keeps
      cases keeps
      exact ⟨rfl, rfl⟩

theorem keyOf_stored :
    keyOf (store.stored incoming) = keyOf incoming ∧
      versionOf (store.stored incoming) = versionOf incoming := by
  unfold stored
  cases keeps : store.withLastKnownPayload incoming with
  | none => exact ⟨rfl, rfl⟩
  | some entity => exact keyOf_withLastKnownPayload keeps

theorem applyEntity_cases (applies : store.applyEntity readers incoming = .ok (after, outcome)) :
    (store.withLastKnownPayload incoming = none ∧ outcome = .notProjected ∧
        after = (store.upsertEntity incoming).clearQuarantine (keyOf incoming)) ∨
      ∃ entity, store.withLastKnownPayload incoming = some entity ∧
        ((∃ row, parse readers (mirrored entity) = .parsed row ∧ row.lineNumbers.Nodup ∧
            outcome = .projected ∧
            after = Store.clearQuarantine { store.upsertEntity entity with
              projected := KeyedTables.upsert ParsedEntity.key row store.projected }
              (keyOf entity)) ∨
          (parse readers (mirrored entity) = .notProjected ∧ outcome = .notProjected ∧
            after = store.upsertEntity entity) ∨
          ∃ error, parse readers (mirrored entity) = .quarantine error ∧
            outcome = .quarantined ∧
            after = (store.upsertEntity entity).quarantine entity (.unread error)) := by
  unfold applyEntity at applies
  cases keeps : store.withLastKnownPayload incoming with
  | none =>
    rw [keeps] at applies
    cases applies
    exact .inl ⟨rfl, rfl, rfl⟩
  | some entity =>
    rw [keeps] at applies
    dsimp only at applies
    refine .inr ⟨entity, rfl, ?_⟩
    cases reads : parse readers (mirrored entity) with
    | parsed row =>
      rw [reads] at applies
      obtain ⟨projected, writes, applies⟩ := bind_eq_ok_iff.mp applies
      obtain ⟨distinct, rfl⟩ := writeParsed_eq_ok_iff.mp writes
      cases applies
      exact .inl ⟨row, rfl, distinct, rfl, rfl⟩
    | notProjected =>
      rw [reads] at applies
      cases applies
      exact .inr (.inl ⟨rfl, rfl, rfl⟩)
    | quarantine reason =>
      rw [reads] at applies
      cases applies
      exact .inr (.inr ⟨reason, rfl, rfl, rfl⟩)

theorem get?_applyEntity (applies : store.applyEntity readers incoming = .ok (after, outcome)) :
    after.get? key =
      if keyOf incoming = key then some (store.stored incoming) else store.get? key := by
  unfold stored
  obtain ⟨keeps, -, rfl⟩ | ⟨entity, keeps, written⟩ := applyEntity_cases applies
  · rw [keeps]
    simp
  · rw [keeps, ← (keyOf_withLastKnownPayload keeps).1]
    obtain ⟨row, -, -, -, rfl⟩ | ⟨-, -, rfl⟩ | ⟨reason, -, -, rfl⟩ := written
    · exact get?_upsertEntity entity
    · exact get?_upsertEntity entity
    · exact get?_upsertEntity entity

def projectionOf (store : Store) (readers : TextReaders) (incoming : EntityPayload) :
    Option ParsedEntity :=
  (store.withLastKnownPayload incoming).bind (rowOf readers)

theorem row?_applyEntity (applies : store.applyEntity readers incoming = .ok (after, outcome)) :
    after.row? rowKey =
      match store.projectionOf readers incoming with
      | some row => if row.key = rowKey then some row else store.row? rowKey
      | none => store.row? rowKey := by
  unfold projectionOf
  obtain ⟨keeps, -, rfl⟩ | ⟨entity, keeps, written⟩ := applyEntity_cases applies
  · rw [keeps]
    rfl
  · rw [keeps]
    obtain ⟨row, reads, -, -, rfl⟩ | ⟨reads, -, rfl⟩ | ⟨reason, reads, -, rfl⟩ := written
    · simp only [Option.bind_some, rowOf, reads]
      exact KeyedTables.find?_upsert ParsedEntity.key row store.projected rowKey
    · simp only [Option.bind_some, rowOf, reads]
      rfl
    · simp only [Option.bind_some, rowOf, reads]
      rfl

theorem applyEntity_isOk_iff :
    (∃ done, store.applyEntity readers incoming = .ok done) ↔
      ∀ row, store.projectionOf readers incoming = some row → row.lineNumbers.Nodup := by
  unfold applyEntity projectionOf
  cases store.withLastKnownPayload incoming with
  | none => exact ⟨fun _ _ isRow => (by cases isRow), fun _ => ⟨_, rfl⟩⟩
  | some entity =>
    rw [Option.bind_some]
    unfold rowOf
    dsimp only
    cases parse readers (mirrored entity) with
    | parsed row =>
      dsimp only
      constructor
      · rintro ⟨done, applies⟩ _ ⟨⟩
        obtain ⟨projected, writes, -⟩ := bind_eq_ok_iff.mp applies
        exact (writeParsed_eq_ok_iff.mp writes).1
      · intro distinct
        have writes : (store.upsertEntity entity).writeParsed row = .ok _ :=
          writeParsed_eq_ok_iff.mpr ⟨distinct row rfl, rfl⟩
        exact ⟨_, bind_eq_ok_iff.mpr ⟨_, writes, rfl⟩⟩
    | notProjected => exact ⟨fun _ _ isRow => (by cases isRow), fun _ => ⟨_, rfl⟩⟩
    | quarantine reason => exact ⟨fun _ _ isRow => (by cases isRow), fun _ => ⟨_, rfl⟩⟩

theorem cursors_applyEntity (applies : store.applyEntity readers incoming = .ok (after, outcome)) :
    after.cursors = store.cursors ∧ after.checkpoints = store.checkpoints := by
  obtain ⟨-, -, rfl⟩ | ⟨entity, -, written⟩ := applyEntity_cases applies
  · exact ⟨rfl, rfl⟩
  · obtain ⟨row, -, -, -, rfl⟩ | ⟨-, -, rfl⟩ | ⟨reason, -, -, rfl⟩ := written
    · exact ⟨rfl, rfl⟩
    · exact ⟨rfl, rfl⟩
    · exact ⟨rfl, rfl⟩

end Store

/-! ### Which versions are held -/

abbrev Held := RecordKey → Option Version

def receive (held : Held) (entity : EntityPayload) : Held :=
  Function.update held (keyOf entity) (some (versionOf entity))

/-- Whether the token of a version is a lower number than that of another. -/
def Version.isOlderThan (version other : Version) : Bool :=
  match parseU64 version.syncToken, parseU64 other.syncToken with
  | some token, some otherToken => token < otherToken
  | _, _ => false

def Version.isSkipped (version : Version) : Option Version → Bool
  | none => false
  | some held => version = held || version.isOlderThan held

def freshOf (held : Held) (entities : List EntityPayload) : List EntityPayload :=
  entities.filter fun entity => !(versionOf entity).isSkipped (held (keyOf entity))

namespace Store

variable {store after : Store} {readers : TextReaders} {incoming : EntityPayload}
  {outcome : Outcome} {report : BatchReport} {entities : List EntityPayload}
  {cursor : Option (EntityType × SyncCursor)}

def held (store : Store) : Held := fun key =>
  (store.get? key).map versionOf

theorem holdsThisVersionOrNewer_eq (entity : EntityPayload) :
    store.holdsThisVersionOrNewer entity =
      (versionOf entity).isSkipped (store.held (keyOf entity)) := by
  unfold holdsThisVersionOrNewer held
  cases store.get? (keyOf entity) with
  | none => rfl
  | some found =>
    simp only [Option.map_some, Version.isSkipped, Version.isOlderThan, versionOf,
      Version.mk.injEq]
    congr 1
    simp only [eq_comm]

theorem held_applyEntity (applies : store.applyEntity readers incoming = .ok (after, outcome)) :
    after.held = receive store.held incoming := by
  funext key
  unfold held receive
  rw [get?_applyEntity applies, Function.update_apply]
  by_cases here : key = keyOf incoming
  · rw [if_pos here.symm, if_pos here, Option.map_some, keyOf_stored.2]
  · rw [if_neg (Ne.symm here), if_neg here]

theorem applyEntities_induct {state done : Store × BatchReport}
    (applies : applyEntities readers state entities = .ok done) :
    done.1.held = entities.foldl receive state.1.held ∧
      done.1.cursors = state.1.cursors ∧ done.1.checkpoints = state.1.checkpoints := by
  induction entities generalizing state with
  | nil =>
    cases applies
    exact ⟨rfl, rfl, rfl⟩
  | cons incoming rest ih =>
    obtain ⟨⟨middle, outcome⟩, first, later⟩ := bind_eq_ok_iff.mp applies
    obtain ⟨heldEq, cursorsEq, checkpointsEq⟩ := ih later
    have sameOthers := cursors_applyEntity first
    rw [List.foldl_cons, ← held_applyEntity first]
    exact ⟨heldEq, cursorsEq.trans sameOthers.1, checkpointsEq.trans sameOthers.2⟩

/-- What a batch does to the versions held and to the marks of the reads. -/
structure Applied (before : Store) (entities : List EntityPayload)
    (cursor : Option (EntityType × SyncCursor)) (after : Store) : Prop where
  held : after.held = entities.foldl receive before.held
  cursors : after.cursors = (before.saveCursor cursor).cursors
  checkpoints : after.checkpoints = before.checkpoints

theorem held_saveCursor : (store.saveCursor cursor).held = store.held := by
  cases cursor <;> rfl

theorem applied_applyBatchIn
    (applies : store.applyBatchIn readers entities cursor = .ok (after, report)) :
    store.Applied entities cursor after := by
  obtain ⟨⟨middle, counted⟩, writes, done⟩ := bind_eq_ok_iff.mp applies
  cases done
  obtain ⟨heldEq, cursorsEq, checkpointsEq⟩ := applyEntities_induct writes
  refine ⟨held_saveCursor.trans heldEq, ?_, ?_⟩
  · cases cursor with
    | none => exact cursorsEq
    | some saved => exact congrArg (Function.update · saved.1 saved.2) cursorsEq
  · cases cursor <;> exact checkpointsEq

theorem applied_applyChanges
    (applies : store.applyChanges readers entities cursor = .ok (after, report)) :
    store.Applied (freshOf store.held entities) cursor after := by
  have sameFresh : (entities.filter fun entity => !store.holdsThisVersionOrNewer entity) =
      freshOf store.held entities := by
    simp only [holdsThisVersionOrNewer_eq, freshOf]
  unfold applyChanges at applies
  rw [sameFresh] at applies
  obtain ⟨⟨middle, counted⟩, writes, done⟩ := bind_eq_ok_iff.mp applies
  cases done
  exact applied_applyBatchIn writes

theorem applied_applySweepPage {entityType : EntityType} {checkpoint : Option SweepCheckpoint}
    (applies : store.applySweepPage readers entityType entities checkpoint cursor =
      .ok (after, report)) :
    after.held = entities.foldl receive store.held ∧
      after.cursors = (store.saveCursor cursor).cursors ∧
      after.checkpoints = Function.update store.checkpoints entityType checkpoint := by
  obtain ⟨⟨middle, counted⟩, writes, done⟩ := bind_eq_ok_iff.mp applies
  cases done
  have applied := applied_applyBatchIn writes
  refine ⟨applied.held, applied.cursors, ?_⟩
  rw [← applied.checkpoints]
  rfl

end Store

section Receives

variable {held : Held} {entities : List EntityPayload} {key : RecordKey}

theorem foldl_receive_of_forall_ne (others : ∀ entity ∈ entities, keyOf entity ≠ key) :
    entities.foldl receive held key = held key := by
  induction entities generalizing held with
  | nil => rfl
  | cons first rest ih =>
    rw [List.foldl_cons, ih fun entity entityMem => others entity (.tail _ entityMem)]
    exact Function.update_of_ne (Ne.symm (others first (.head _))) _ _

theorem foldl_receive_of_mem {entity : EntityPayload}
    (distinct : (entities.map keyOf).Nodup) (entityMem : entity ∈ entities) :
    entities.foldl receive held (keyOf entity) = some (versionOf entity) := by
  induction entities generalizing held with
  | nil => cases entityMem
  | cons first rest ih =>
    rw [List.map_cons, List.nodup_cons] at distinct
    rw [List.foldl_cons]
    rcases List.mem_cons.mp entityMem with rfl | later
    · rw [foldl_receive_of_forall_ne]
      · exact Function.update_self _ _ _
      · intro other otherMem same
        exact distinct.1 (List.mem_map.mpr ⟨other, otherMem, same⟩)
    · exact ih distinct.2 later

end Receives

end Mirror

end QuickBooks
