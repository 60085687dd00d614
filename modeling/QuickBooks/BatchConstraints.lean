import QuickBooks.PlainReaders
import QuickBooks.ReplicaRebuild

/-!
# The constraints of the replica's tables

A batch is written as a whole or not at all.  Its payloads are read field by
field, and one that cannot be read is set aside; but the lines of a document that
was read are keyed by their numbers.  A batch, and a rebuild, succeeds exactly
when no payload that it writes has two lines of one number.
-/

namespace QuickBooks

namespace Mirror

open ExceptPrograms
open Outbox (EntityPayload)

namespace Store

/-- The primary keys of the tables. -/
structure WellKeyed (store : Store) : Prop where
  entities : (store.entities.map keyOf).Nodup
  projected : (store.projected.map ParsedEntity.key).Nodup
  quarantined : (store.quarantined.map QuarantineRow.key).Nodup
  lines : ∀ row ∈ store.projected, row.lineNumbers.Nodup

/-- The payloads that a batch comes to write and read, in order: a deletion is
written with the payload that was kept. -/
def payloadsToWrite : Store → List EntityPayload → List EntityPayload
  | _, [] => []
  | store, incoming :: rest =>
    (store.withLastKnownPayload incoming).toList ++
      payloadsToWrite (store.upsertEntity (store.stored incoming)) rest

def notYetHeld (store : Store) (entities : List EntityPayload) : List EntityPayload :=
  entities.filter fun entity => !store.holdsThisVersionOrNewer entity

def SameTables (first second : Store) : Prop :=
  first.entities = second.entities ∧ first.projected = second.projected ∧
    first.quarantined = second.quarantined

end Store

/-- How a record was taken in: stored with its payload, or the last one for a
deletion, and then projected, left without a row or quarantined with it. -/
structure Written (readers : TextReaders) (store : Store) (incoming : EntityPayload)
    (outcome : Outcome) (after : Store) : Prop where
  kept : after.get? (keyOf incoming) = some (store.stored incoming)
  accounted : match outcome with
    | .projected => ∃ row, store.projectionOf readers incoming = some row ∧
        after.row? row.key = some row
    | .notProjected => store.projectionOf readers incoming = none ∧
        after.projected = store.projected
    | .quarantined => store.projectionOf readers incoming = none ∧
        ∃ reason, after.quarantine? (keyOf incoming) = some ⟨incoming.entityType,
          incoming.qboId, reason, (store.stored incoming).rawJson⟩

/-- Every record of a list was taken in, one after the other. -/
inductive TakenIn (readers : TextReaders) : Store → List EntityPayload → Store → Prop
  | nil (store : Store) : TakenIn readers store [] store
  | cons {store middle after : Store} {incoming : EntityPayload} {rest : List EntityPayload}
      {outcome : Outcome} (written : Written readers store incoming outcome middle)
      (later : TakenIn readers middle rest after) : TakenIn readers store (incoming :: rest) after

/-- A batch that took in every record that it was to write, within the
constraints of the tables. -/
structure TakesAll (readers : TextReaders) (store : Store) (entities : List EntityPayload)
    (after : Store) (report : BatchReport) : Prop where
  taken : ∃ middle, TakenIn readers store entities middle ∧ after.SameTables middle
  mirrored : report.mirrored = entities.length
  counted : report.projected + report.notProjected + report.quarantined = report.mirrored
  wellKeyed : after.WellKeyed

/-- A rebuild that read every stored payload, within the constraints. -/
structure ReadsAll (readers : TextReaders) (store after : Store) (report : ReprojectReport) :
    Prop where
  kept : after.entities = store.entities
  projected : ∀ entity ∈ store.entities, ∀ row, rowOf readers entity = some row →
    (after.row? row.key).isSome
  quarantined : ∀ entity ∈ store.entities, ∀ row, quarantineRowOf readers entity = some row →
    after.quarantine? (keyOf entity) = some row
  counted : report.parsed + report.notProjected + report.quarantined = store.entities.length
  wellKeyed : after.WellKeyed

section Constraints

variable {readers : TextReaders} {store after : Store} {incoming entity : EntityPayload}
  {entities : List EntityPayload} {outcome : Outcome} {row : ParsedEntity}
  {state done : Store × BatchReport}

theorem Store.wellKeyed_empty : Store.empty.WellKeyed where
  entities := List.nodup_nil
  projected := List.nodup_nil
  quarantined := List.nodup_nil
  lines row rowMem := by cases rowMem

section Writes

variable (wellKeyed : store.WellKeyed)
include wellKeyed

theorem Store.WellKeyed.upsertEntity (entity : EntityPayload) :
    (store.upsertEntity entity).WellKeyed :=
  { wellKeyed with entities := KeyedTables.nodup_upsert wellKeyed.entities }

theorem Store.WellKeyed.clearQuarantine (key : RecordKey) :
    (store.clearQuarantine key).WellKeyed :=
  { wellKeyed with quarantined := wellKeyed.quarantined.sublist (List.filter_sublist.map _) }

theorem Store.WellKeyed.quarantine (entity : EntityPayload) (reason : QuarantineReason) :
    (store.quarantine entity reason).WellKeyed :=
  { wellKeyed with quarantined := KeyedTables.nodup_upsert wellKeyed.quarantined }

theorem Store.WellKeyed.project (distinct : row.lineNumbers.Nodup) :
    Store.WellKeyed { store with
      projected := KeyedTables.upsert ParsedEntity.key row store.projected } where
  entities := wellKeyed.entities
  projected := KeyedTables.nodup_upsert wellKeyed.projected
  quarantined := wellKeyed.quarantined
  lines other otherMem := by
    obtain rfl | ⟨old, -⟩ := KeyedTables.mem_upsert ParsedEntity.key row store.projected otherMem
    · exact distinct
    · exact wellKeyed.lines other old

theorem Store.WellKeyed.applyEntity
    (applies : store.applyEntity readers incoming = .ok (after, outcome)) : after.WellKeyed := by
  obtain ⟨-, -, rfl⟩ | ⟨entity, -, written⟩ := Store.applyEntity_cases applies
  · exact (wellKeyed.upsertEntity incoming).clearQuarantine _
  · have upserted := wellKeyed.upsertEntity entity
    obtain ⟨row, -, distinct, -, rfl⟩ | ⟨-, -, rfl⟩ | ⟨reason, -, -, rfl⟩ := written
    · exact (upserted.project distinct).clearQuarantine _
    · exact upserted
    · exact upserted.quarantine entity _

theorem Store.WellKeyed.reprojectEntity
    (writes : store.reprojectEntity readers entity = .ok (after, outcome)) : after.WellKeyed := by
  obtain ⟨row, -, distinct, rfl⟩ | ⟨-, rfl⟩ | ⟨reason, -, rfl⟩ := reprojectEntity_cases writes
  · exact wellKeyed.project distinct
  · exact wellKeyed
  · exact wellKeyed.quarantine entity _

end Writes

theorem row?_project :
    Store.row? { store with
      projected := KeyedTables.upsert ParsedEntity.key row store.projected } row.key =
        some row := by
  unfold Store.row?
  rw [KeyedTables.find?_upsert, if_pos rfl]

theorem written_of_applyEntity
    (applies : store.applyEntity readers incoming = .ok (after, outcome)) :
    Written readers store incoming outcome after := by
  refine ⟨by rw [Store.get?_applyEntity applies, if_pos rfl], ?_⟩
  unfold Store.projectionOf Store.stored
  obtain ⟨keeps, rfl, rfl⟩ | ⟨entity, keeps, written⟩ := Store.applyEntity_cases applies
  · rw [keeps]
    exact ⟨rfl, rfl⟩
  · have sameKey := (Store.keyOf_withLastKnownPayload keeps).1
    rw [keeps, Option.bind_some, Option.getD_some]
    unfold rowOf
    obtain ⟨row, reads, -, rfl, rfl⟩ | ⟨reads, rfl, rfl⟩ | ⟨reason, reads, rfl, rfl⟩ := written
    · rw [reads]
      exact ⟨row, rfl, row?_project⟩
    · rw [reads]
      exact ⟨rfl, rfl⟩
    · rw [reads]
      refine ⟨rfl, .unread reason, ?_⟩
      rw [quarantine?_quarantine, if_pos sameKey]
      unfold keyOf at sameKey
      rw [Prod.mk.injEq] at sameKey
      rw [sameKey.1, sameKey.2]

theorem payloadsToWrite_congr {first second : Store} (same : first.entities = second.entities) :
    first.payloadsToWrite entities = second.payloadsToWrite entities := by
  induction entities generalizing first second with
  | nil => rfl
  | cons incoming rest ih =>
    have sameGet : ∀ key, first.get? key = second.get? key := by
      intro key
      unfold Store.get?
      rw [same]
    have sameKept : first.withLastKnownPayload incoming =
        second.withLastKnownPayload incoming := by
      unfold Store.withLastKnownPayload
      rw [sameGet]
    unfold Store.payloadsToWrite Store.stored
    rw [sameKept]
    refine congrArg _ (ih ?_)
    unfold Store.upsertEntity
    rw [same]

theorem entities_applyEntity
    (applies : store.applyEntity readers incoming = .ok (after, outcome)) :
    after.entities = (store.upsertEntity (store.stored incoming)).entities := by
  unfold Store.stored
  obtain ⟨keeps, -, rfl⟩ | ⟨entity, keeps, written⟩ := Store.applyEntity_cases applies
  · rw [keeps]
    rfl
  · rw [keeps]
    obtain ⟨row, -, -, -, rfl⟩ | ⟨-, -, rfl⟩ | ⟨reason, -, -, rfl⟩ := written
    · rfl
    · rfl
    · rfl

theorem applyEntity_isOk_iff_fits :
    (∃ done, store.applyEntity readers incoming = .ok done) ↔
      ∀ entity ∈ (store.withLastKnownPayload incoming).toList, FitsLines readers entity := by
  rw [Store.applyEntity_isOk_iff]
  unfold Store.projectionOf FitsLines
  cases store.withLastKnownPayload incoming with
  | none => simp
  | some entity => simp

theorem applyEntities_isOk_iff :
    (∃ done, Store.applyEntities readers state entities = .ok done) ↔
      ∀ entity ∈ state.1.payloadsToWrite entities, FitsLines readers entity := by
  induction entities generalizing state with
  | nil => exact ⟨fun _ _ entityMem => (by cases entityMem), fun _ => ⟨_, rfl⟩⟩
  | cons incoming rest ih =>
    unfold Store.payloadsToWrite
    rw [List.forall_mem_append, ← applyEntity_isOk_iff_fits]
    constructor
    · rintro ⟨done, applies⟩
      obtain ⟨⟨middle, outcome⟩, first, later⟩ := bind_eq_ok_iff.mp applies
      refine ⟨⟨_, first⟩, ?_⟩
      rw [← payloadsToWrite_congr (entities_applyEntity first)]
      exact ih.mp ⟨done, later⟩
    · rintro ⟨⟨⟨middle, outcome⟩, first⟩, fits⟩
      rw [← payloadsToWrite_congr (entities_applyEntity first)] at fits
      have laterOk : ∃ done,
          Store.applyEntities readers (middle, state.2.count outcome) rest = .ok done :=
        ih.mpr fits
      obtain ⟨done, later⟩ := laterOk
      exact ⟨done, bind_eq_ok_iff.mpr ⟨_, first, later⟩⟩

theorem takenIn_of_applyEntities
    (applies : Store.applyEntities readers state entities = .ok done) :
    TakenIn readers state.1 entities done.1 ∧
      done.2.mirrored = state.2.mirrored + entities.length ∧
      done.2.projected + done.2.notProjected + done.2.quarantined + state.2.mirrored =
        state.2.projected + state.2.notProjected + state.2.quarantined + done.2.mirrored ∧
      (state.1.WellKeyed → done.1.WellKeyed) := by
  induction entities generalizing state with
  | nil =>
    cases applies
    exact ⟨.nil _, rfl, rfl, id⟩
  | cons incoming rest ih =>
    obtain ⟨⟨middle, outcome⟩, first, later⟩ := bind_eq_ok_iff.mp applies
    obtain ⟨taken, mirrored, counted, kept⟩ := ih later
    refine ⟨.cons (written_of_applyEntity first) taken, ?_, ?_,
      fun wellKeyed => kept (wellKeyed.applyEntity first)⟩
    · rw [mirrored, List.length_cons]
      cases outcome <;> simp only [BatchReport.count] <;> omega
    · revert counted
      cases outcome <;> simp only [BatchReport.count] <;> omega

theorem applyBatchIn_takesAll_iff (wellKeyed : store.WellKeyed)
    (cursor : Option (EntityType × SyncCursor)) :
    (∃ after report, store.applyBatchIn readers entities cursor = .ok (after, report) ∧
        TakesAll readers store entities after report) ↔
      ∀ entity ∈ store.payloadsToWrite entities, FitsLines readers entity := by
  have isOk : (∃ done, Store.applyEntities readers (store, ⟨0, 0, 0, 0, 0⟩) entities = .ok done) ↔
      ∀ entity ∈ store.payloadsToWrite entities, FitsLines readers entity :=
    applyEntities_isOk_iff
  rw [← isOk]
  constructor
  · rintro ⟨after, report, applies, -⟩
    obtain ⟨middle, writes, -⟩ := bind_eq_ok_iff.mp applies
    exact ⟨middle, writes⟩
  · rintro ⟨⟨middle, counted⟩, writes⟩
    obtain ⟨taken, mirrored, sums, kept⟩ := takenIn_of_applyEntities writes
    have tables : (middle.saveCursor cursor).SameTables middle := by
      cases cursor <;> exact ⟨rfl, rfl, rfl⟩
    refine ⟨middle.saveCursor cursor, counted, bind_eq_ok_iff.mpr ⟨_, writes, rfl⟩,
      ⟨middle, taken, tables⟩, by simpa using mirrored, by simpa using sums, ?_⟩
    cases cursor <;> exact { kept wellKeyed with }

theorem reprojectEach_counts {state done : Store × ReprojectReport}
    (writes : Store.reprojectEach readers state entities = .ok done) :
    done.1.entities = state.1.entities ∧
      done.2.parsed + done.2.notProjected + done.2.quarantined =
        state.2.parsed + state.2.notProjected + state.2.quarantined + entities.length ∧
      (state.1.WellKeyed → done.1.WellKeyed) := by
  induction entities generalizing state with
  | nil =>
    cases writes
    exact ⟨rfl, rfl, id⟩
  | cons first rest ih =>
    obtain ⟨⟨middle, outcome⟩, firstWrites, later⟩ := bind_eq_ok_iff.mp writes
    obtain ⟨sameEntities, counted, kept⟩ := ih later
    have sameFirst : middle.entities = state.1.entities := by
      obtain ⟨row, -, -, rfl⟩ | ⟨-, rfl⟩ | ⟨reason, -, rfl⟩ := reprojectEntity_cases firstWrites
      · rfl
      · rfl
      · rfl
    refine ⟨sameEntities.trans sameFirst, ?_,
      fun wellKeyed => kept (wellKeyed.reprojectEntity firstWrites)⟩
    rw [counted, List.length_cons]
    cases outcome <;> simp only [ReprojectReport.count] <;> omega

theorem reprojectAll_readsAll_iff (wellKeyed : store.WellKeyed) :
    (∃ after report, store.reprojectAll readers = .ok (after, report) ∧
        ReadsAll readers store after report) ↔
      ∀ entity ∈ store.entities, FitsLines readers entity := by
  rw [← reprojectAll_isOk_iff]
  constructor
  · rintro ⟨after, report, writes, -⟩
    exact ⟨_, writes⟩
  · rintro ⟨⟨after, report⟩, writes⟩
    obtain ⟨lastRows, quarantined⟩ := isLastRow_reprojectAll writes
    obtain ⟨sameEntities, counted, kept⟩ := reprojectEach_counts writes
    refine ⟨after, report, writes, sameEntities, ?_, ?_, ?_, kept ?_⟩
    · intro entity entityMem row isRow
      have last := lastRows row.key
      cases found : after.row? row.key with
      | none =>
        rw [found] at last
        exact absurd rfl (last entity entityMem row isRow)
      | some other => rfl
    · intro entity entityMem row isRow
      have isQuarantined := quarantined (keyOf entity)
      cases found : after.quarantine? (keyOf entity) with
      | none =>
        rw [found] at isQuarantined
        rw [isQuarantined entity entityMem rfl] at isRow
        cases isRow
      | some other =>
        rw [found] at isQuarantined
        obtain ⟨holder, holderMem, sameKey, isOther⟩ := isQuarantined
        have same := List.inj_on_of_nodup_map wellKeyed.entities holderMem entityMem sameKey
        rw [same, isRow] at isOther
        exact isOther.symm
    · unfold Store.allEntities at counted
      rw [List.length_insertionSort] at counted
      simpa using counted
    · exact { wellKeyed with
        projected := List.nodup_nil
        quarantined := List.nodup_nil
        lines := fun row rowMem => by cases rowMem }

/-- The batches and the rebuild succeed, with every payload projected, left
without a row or quarantined, exactly when no payload that they write has two
lines of one number. -/
theorem batches_succeed_iff (wellKeyed : store.WellKeyed) (entities : List EntityPayload)
    (cursor : Option (EntityType × SyncCursor)) (entityType : EntityType)
    (checkpoint : Option SweepCheckpoint) :
    ((∃ after report, store.applyBatch readers entities cursor = .ok (after, report) ∧
        TakesAll readers store entities after report) ↔
      ∀ entity ∈ store.payloadsToWrite entities, FitsLines readers entity) ∧
    ((∃ after report, store.applyChanges readers entities cursor = .ok (after, report) ∧
        report.mirrored + report.alreadyHeld = entities.length ∧
        TakesAll readers store (store.notYetHeld entities) after report) ↔
      ∀ entity ∈ store.payloadsToWrite (store.notYetHeld entities), FitsLines readers entity) ∧
    ((∃ after report, store.applySweepPage readers entityType entities checkpoint cursor =
        .ok (after, report) ∧ TakesAll readers store entities after report) ↔
      ∀ entity ∈ store.payloadsToWrite entities, FitsLines readers entity) ∧
    ((∃ after report, store.reprojectAll readers = .ok (after, report) ∧
        ReadsAll readers store after report) ↔
      ∀ entity ∈ store.entities, FitsLines readers entity) := by
  refine ⟨applyBatchIn_takesAll_iff wellKeyed cursor, ?_, ?_,
    reprojectAll_readsAll_iff wellKeyed⟩
  · rw [← applyBatchIn_takesAll_iff wellKeyed cursor]
    constructor
    · rintro ⟨after, report, applies, -, takes⟩
      obtain ⟨⟨middle, counted⟩, writes, done⟩ := bind_eq_ok_iff.mp applies
      cases done
      exact ⟨after, counted, writes, { takes with }⟩
    · rintro ⟨after, report, writes, takes⟩
      refine ⟨after, _, bind_eq_ok_iff.mpr ⟨_, writes, rfl⟩, ?_, { takes with }⟩
      dsimp only
      rw [takes.mirrored]
      have shorter : (store.notYetHeld entities).length ≤ entities.length :=
        List.length_filter_le _ _
      unfold Store.notYetHeld at shorter ⊢
      omega
  · rw [← applyBatchIn_takesAll_iff wellKeyed cursor]
    constructor
    · rintro ⟨after, report, applies, takes⟩
      obtain ⟨⟨middle, counted⟩, writes, done⟩ := bind_eq_ok_iff.mp applies
      cases done
      exact ⟨middle, report, writes, takes.taken, takes.mirrored, takes.counted,
        { takes.wellKeyed with }⟩
    · rintro ⟨after, report, writes, takes⟩
      exact ⟨_, report, bind_eq_ok_iff.mpr ⟨_, writes, rfl⟩, takes.taken, takes.mirrored,
        takes.counted, { takes.wellKeyed with }⟩

end Constraints

/-! ### An invoice with a line numbered twice -/

namespace RepeatedLine

def readers : TextReaders := plainLibrary.toTextReaders

def customer : EntityPayload where
  entityType := .customer
  qboId := "7"
  syncToken := "0"
  lastUpdatedUtc := 10
  isDeleted := false
  rawJson := .object [("Id", .string "7"), ("DisplayName", .string "Pool Shop")]

/-- An invoice whose first line states the number that its second one gets. -/
def invoice : EntityPayload where
  entityType := .invoice
  qboId := "12"
  syncToken := "0"
  lastUpdatedUtc := 20
  isDeleted := false
  rawJson := .object [("Id", .string "12"), ("TxnDate", .string "2026-03-02"),
    ("TotalAmt", .number (.integer 30)),
    ("Line", .array [
      .object [("LineNum", .number (.integer 2)), ("Amount", .number (.integer 10))],
      .object [("Amount", .number (.integer 20))]])]

/-- A batch without the invoice is taken in, and can be read again. -/
theorem customer_taken :
    ((∃ after report, Store.empty.applyBatch readers [customer] none = .ok (after, report) ∧
        TakesAll readers .empty [customer] after report) ↔
      ∀ entity ∈ Store.empty.payloadsToWrite [customer], FitsLines readers entity) ∧
    ((∃ after report, Store.empty.applyChanges readers [customer] none = .ok (after, report) ∧
        report.mirrored + report.alreadyHeld = 1 ∧
        TakesAll readers .empty (Store.empty.notYetHeld [customer]) after report) ↔
      ∀ entity ∈ Store.empty.payloadsToWrite (Store.empty.notYetHeld [customer]),
        FitsLines readers entity) ∧
    ((∃ after report, Store.empty.applySweepPage readers .customer [customer] none none =
        .ok (after, report) ∧ TakesAll readers .empty [customer] after report) ↔
      ∀ entity ∈ Store.empty.payloadsToWrite [customer], FitsLines readers entity) ∧
    ((∃ after report, Store.empty.reprojectAll readers = .ok (after, report) ∧
        ReadsAll readers .empty after report) ↔
      ∀ entity ∈ Store.empty.entities, FitsLines readers entity) :=
  batches_succeed_iff Store.wellKeyed_empty [customer] none .customer none

/-- The invoice stops the batch that it came in, with the customer before it. -/
theorem invoice_stops_batch :
    Store.empty.WellKeyed ∧
      ¬(∃ done, Store.empty.applyBatch readers [customer, invoice] none = .ok done) ∧
      ¬(∃ done, Store.empty.applyChanges readers [customer, invoice] none = .ok done) ∧
      ¬∃ done, Store.empty.applySweepPage readers .invoice [customer, invoice] none none =
        .ok done := by
  have refused : (Store.empty.applyBatch readers [customer, invoice] none).toOption.isNone =
      true := by
    decide +kernel
  have changesRefused :
      (Store.empty.applyChanges readers [customer, invoice] none).toOption.isNone = true := by
    decide +kernel
  have pageRefused : (Store.empty.applySweepPage readers .invoice [customer, invoice]
      none none).toOption.isNone = true := by
    decide +kernel
  refine ⟨Store.wellKeyed_empty, ?_, ?_, ?_⟩
  · rintro ⟨done, applies⟩
    rw [applies] at refused
    cases refused
  · rintro ⟨done, applies⟩
    rw [applies] at changesRefused
    cases changesRefused
  · rintro ⟨done, applies⟩
    rw [applies] at pageRefused
    cases pageRefused

end RepeatedLine

end Mirror

end QuickBooks
