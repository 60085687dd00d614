import QuickBooks.BatchConstraints
import QuickBooks.TransitionRuns

/-!
# What is projected and what is stored

The projection should be what a rebuild would make of the stored payloads.  The
batches keep it so unless a payload stops being readable while its record has a
row, a deletion of a record that was never stored could be read or quarantined, or
a document takes the row of another type's document of the same id out of turn.
-/

namespace QuickBooks

namespace Mirror

open ExceptPrograms TransitionRuns
open Outbox (EntityPayload)

/-- A way in which records arrive. -/
inductive Batch where
  | batch (entities : List EntityPayload) (cursor : Option (EntityType × SyncCursor))
  | changes (entities : List EntityPayload) (cursor : Option (EntityType × SyncCursor))
  | sweepPage (entityType : EntityType) (entities : List EntityPayload)
      (checkpoint : Option SweepCheckpoint) (cursor : Option (EntityType × SyncCursor))

namespace Batch

variable (readers : TextReaders) (store : Store)

def apply : Batch → Except StoreError (Store × BatchReport)
  | batch entities cursor => store.applyBatch readers entities cursor
  | changes entities cursor => store.applyChanges readers entities cursor
  | sweepPage entityType entities checkpoint cursor =>
    store.applySweepPage readers entityType entities checkpoint cursor

/-- The records that are written, in order. -/
def written : Batch → List EntityPayload
  | batch entities _ => entities
  | changes entities _ => store.notYetHeld entities
  | sweepPage _ entities _ _ => entities

end Batch

/-- Receive a batch; one that is refused leaves the store as it was. -/
def receiveBatch (readers : TextReaders) (batch : Batch) (store : Store) : Store :=
  match batch.apply readers store with
  | .ok (after, _) => after
  | .error _ => store

/-- A record keeps the projection what a rebuild would make it: the deletion of
something never stored is of a type without rows; a document's row is not that of
a type read later; and a payload that cannot be read is of a record without a row. -/
def RowFollows (readers : TextReaders) (store : Store) (incoming : EntityPayload) : Prop :=
  match store.withLastKnownPayload incoming with
  | none => parse readers (mirrored incoming) = .notProjected
  | some entity =>
    match parse readers (mirrored entity) with
    | .parsed row => ∀ other ∈ store.entities, keyOf other ≠ keyOf entity →
        ∀ otherRow, rowOf readers other = some otherRow → otherRow.key = row.key →
          StoredBefore other entity
    | .notProjected => True
    | .quarantine _ => ∀ held, store.get? (keyOf entity) = some held →
        ∀ row, rowOf readers held = some row → store.row? row.key ≠ some row

/-- Every record of a list follows, in the store that those before it left. -/
def EachFollows (readers : TextReaders) : Store → List EntityPayload → Prop
  | _, [] => True
  | store, incoming :: rest => RowFollows readers store incoming ∧
    ∀ after outcome, store.applyEntity readers incoming = .ok (after, outcome) →
      EachFollows readers after rest

def BatchFollows (readers : TextReaders) (batch : Batch) (store : Store) : Prop :=
  EachFollows readers store (batch.written store)

def SameProjection (first second : Store) : Prop :=
  first.projected.Perm second.projected ∧ first.quarantined.Perm second.quarantined

/-- The tables are what a rebuild makes of the stored records. -/
structure Derived (readers : TextReaders) (store : Store) : Prop where
  wellKeyed : store.WellKeyed
  fits : ∀ entity ∈ store.entities, FitsLines readers entity
  rows : ∀ wanted, IsLastRow readers store.entities wanted (store.row? wanted)
  quarantined : ∀ key, IsQuarantined readers store.entities key (store.quarantine? key)

section Upserts

variable {readers : TextReaders} {entities : List EntityPayload} {entity : EntityPayload}
  {wanted : RowKey} {key : RecordKey} {found : Option ParsedEntity}

theorem mem_upsert_iff {candidate : EntityPayload} :
    candidate ∈ KeyedTables.upsert keyOf entity entities ↔
      candidate = entity ∨ candidate ∈ entities ∧ keyOf candidate ≠ keyOf entity := by
  constructor
  · exact KeyedTables.mem_upsert keyOf entity entities
  · rintro (rfl | ⟨candidateMem, other⟩)
    · exact KeyedTables.mem_upsert_row keyOf candidate entities
    · exact KeyedTables.mem_upsert_of_ne keyOf entity entities candidateMem other

theorem key_eq_of_keyOf_eq {first second : EntityPayload} {row other : ParsedEntity}
    (same : keyOf first = keyOf second) (isRow : rowOf readers first = some row)
    (isOther : rowOf readers second = some other) : row.key = other.key := by
  have firstKey := (key_of_parse (Store.rowOf_eq_some_iff.mp isRow)).1
  have secondKey := (key_of_parse (Store.rowOf_eq_some_iff.mp isOther)).1
  unfold keyOf at same
  rw [Prod.mk.injEq] at same
  unfold mirrored at firstKey secondKey
  dsimp only at firstKey secondKey
  rw [same.1, same.2, secondKey] at firstKey
  exact (Option.some_inj.mp firstKey).symm

theorem IsLastRow.upsert_of_none (last : IsLastRow readers entities wanted found)
    (noRow : ∀ row, rowOf readers entity = some row → row.key ≠ wanted)
    (notHeld : ∀ held ∈ entities, keyOf held = keyOf entity →
      ∀ row, rowOf readers held = some row → row.key = wanted → found ≠ some row) :
    IsLastRow readers (KeyedTables.upsert keyOf entity entities) wanted found := by
  cases found with
  | none =>
    intro candidate candidateMem
    obtain rfl | ⟨old, -⟩ := mem_upsert_iff.mp candidateMem
    · exact noRow
    · exact last candidate old
  | some row =>
    obtain ⟨holder, holderMem, isRow, isWanted, isLast⟩ := last
    have otherKey : keyOf holder ≠ keyOf entity := fun same =>
      notHeld holder holderMem same row isRow isWanted rfl
    refine ⟨holder, mem_upsert_iff.mpr (.inr ⟨holderMem, otherKey⟩), isRow, isWanted, ?_⟩
    intro candidate candidateMem candidateRow isCandidate sameKey
    obtain rfl | ⟨old, -⟩ := mem_upsert_iff.mp candidateMem
    · exact absurd sameKey (noRow candidateRow isCandidate)
    · exact isLast candidate old candidateRow isCandidate sameKey

theorem isLastRow_upsert_of_some {row : ParsedEntity} (isRow : rowOf readers entity = some row)
    (before : ∀ other ∈ entities, keyOf other ≠ keyOf entity → ∀ otherRow,
      rowOf readers other = some otherRow → otherRow.key = row.key → StoredBefore other entity) :
    IsLastRow readers (KeyedTables.upsert keyOf entity entities) row.key (some row) := by
  refine ⟨entity, mem_upsert_iff.mpr (.inl rfl), isRow, rfl, ?_⟩
  intro candidate candidateMem candidateRow isCandidate sameKey
  obtain rfl | ⟨old, otherKey⟩ := mem_upsert_iff.mp candidateMem
  · exact storedBefore_refl candidate
  · exact before candidate old otherKey candidateRow isCandidate sameKey

theorem IsQuarantined.upsert {foundRow : Option QuarantineRow}
    (quarantined : IsQuarantined readers entities key foundRow) :
    IsQuarantined readers (KeyedTables.upsert keyOf entity entities) key
      (if keyOf entity = key then quarantineRowOf readers entity else foundRow) := by
  split_ifs with isKey
  · cases reads : quarantineRowOf readers entity with
    | none =>
      intro candidate candidateMem candidateKey
      obtain rfl | ⟨-, otherKey⟩ := mem_upsert_iff.mp candidateMem
      · exact reads
      · exact absurd (candidateKey.trans isKey.symm) otherKey
    | some row => exact ⟨entity, mem_upsert_iff.mpr (.inl rfl), isKey, reads⟩
  · cases foundRow with
    | none =>
      intro candidate candidateMem candidateKey
      obtain rfl | ⟨old, -⟩ := mem_upsert_iff.mp candidateMem
      · exact absurd candidateKey isKey
      · exact quarantined candidate old candidateKey
    | some row =>
      obtain ⟨holder, holderMem, holderKey, isRow⟩ := quarantined
      refine ⟨holder, mem_upsert_iff.mpr (.inr ⟨holderMem, ?_⟩), holderKey, isRow⟩
      exact fun same => isKey (same.symm.trans holderKey)

end Upserts

section Steps

variable {readers : TextReaders} {store after : Store} {incoming entity : EntityPayload}
  {outcome : Outcome} {key : RecordKey}

theorem quarantine?_clearQuarantine (cleared : RecordKey) :
    (store.clearQuarantine cleared).quarantine? key =
      if cleared = key then none else store.quarantine? key := by
  unfold Store.clearQuarantine Store.quarantine?
  dsimp only
  rw [List.find?_filter]
  split_ifs with same
  · rw [List.find?_eq_none]
    intro row _ both
    simp_all
  · refine congrArg (List.find? · store.quarantined) ?_
    funext row
    by_cases isKey : row.key = key
    · simp [isKey, Ne.symm same]
    · simp [isKey]

theorem parse_eq_notProjected (noKey : rowKey entity.entityType entity.qboId = none) :
    parse readers (mirrored entity) = .notProjected := by
  unfold rowKey at noKey
  unfold parse parseAs mirrored
  dsimp only
  split at noKey
  · cases noKey
  · cases noKey
  · cases noKey
  · cases noKey
  · cases noKey
  · rw [Option.map_eq_none_iff] at noKey
    split
    · rename_i parsed reads
      split at reads <;> simp_all
    · rfl
    · rename_i reason reads
      split at reads <;> simp_all

theorem get?_eq_some_of_mem (wellKeyed : store.WellKeyed) (entityMem : entity ∈ store.entities) :
    store.get? (keyOf entity) = some entity :=
  KeyedTables.find?_eq_some_of_nodup wellKeyed.entities entityMem

theorem Derived.upsert_of_none (derived : Derived readers store)
    (keyed : after.WellKeyed)
    (sameEntities : after.entities = KeyedTables.upsert keyOf entity store.entities)
    (sameRows : after.projected = store.projected) (noRow : rowOf readers entity = none)
    (notHeld : ∀ held, store.get? (keyOf entity) = some held →
      ∀ row, rowOf readers held = some row → store.row? row.key ≠ some row)
    (setAside : ∀ key, after.quarantine? key =
      if keyOf entity = key then quarantineRowOf readers entity else store.quarantine? key) :
    Derived readers after where
  wellKeyed := keyed
  fits := by
    rw [sameEntities]
    intro candidate candidateMem
    obtain rfl | ⟨old, -⟩ := mem_upsert_iff.mp candidateMem
    · intro row isRow
      rw [noRow] at isRow
      cases isRow
    · exact derived.fits candidate old
  rows wanted := by
    have sameRow : after.row? wanted = store.row? wanted := by
      unfold Store.row?
      rw [sameRows]
    rw [sameEntities, sameRow]
    refine (derived.rows wanted).upsert_of_none (fun row isRow => ?_) ?_
    · rw [noRow] at isRow
      cases isRow
    · intro held heldMem sameKey row isRow isWanted
      have found := get?_eq_some_of_mem derived.wellKeyed heldMem
      rw [sameKey] at found
      rw [← isWanted]
      exact notHeld held found row isRow
  quarantined key := by
    rw [sameEntities, setAside]
    exact (derived.quarantined key).upsert

theorem Derived.applyEntity (derived : Derived readers store)
    (follows : RowFollows readers store incoming)
    (applies : store.applyEntity readers incoming = .ok (after, outcome)) :
    Derived readers after := by
  have keyed := derived.wellKeyed.applyEntity applies
  -- A type that is read as nothing has neither rows nor quarantine rows.
  have unread : ∀ written, parse readers (mirrored written) = .notProjected →
      rowOf readers written = none ∧ quarantineRowOf readers written = none ∧
        (∀ held, keyOf held = keyOf written → parse readers (mirrored held) = .notProjected) := by
    intro written reads
    refine ⟨by rw [rowOf, reads], by rw [quarantineRowOf, reads], fun held sameKey => ?_⟩
    have noKey := rowKey_eq_none_of_parse reads
    unfold keyOf at sameKey
    rw [Prod.mk.injEq] at sameKey
    unfold mirrored at noKey
    dsimp only at noKey
    rw [← sameKey.1, ← sameKey.2] at noKey
    exact parse_eq_notProjected noKey
  have notHeldRow : ∀ written, parse readers (mirrored written) = .notProjected →
      ∀ held, store.get? (keyOf written) = some held →
        ∀ row, rowOf readers held = some row → store.row? row.key ≠ some row := by
    intro written reads held found row isRow
    have heldReads := (unread written reads).2.2 held (by simpa using List.find?_some found)
    rw [rowOf, heldReads] at isRow
    cases isRow
  obtain ⟨keeps, -, rfl⟩ | ⟨entity, keeps, written⟩ := Store.applyEntity_cases applies
  · unfold RowFollows at follows
    rw [keeps] at follows
    refine derived.upsert_of_none keyed rfl rfl (unread incoming follows).1
      (notHeldRow incoming follows) fun key => ?_
    rw [quarantine?_clearQuarantine, (unread incoming follows).2.1]
    rfl
  · unfold RowFollows at follows
    rw [keeps] at follows
    dsimp only at follows
    obtain ⟨row, reads, distinct, -, rfl⟩ | ⟨reads, -, rfl⟩ | ⟨reason, reads, -, rfl⟩ := written
    · rw [reads] at follows
      have isRow := Store.rowOf_eq_some_iff.mpr reads
      refine ⟨keyed, fun candidate candidateMem => ?_, fun wanted => ?_, fun key => ?_⟩
      · obtain rfl | ⟨old, -⟩ := mem_upsert_iff.mp candidateMem
        · intro candidateRow isCandidate
          rw [isRow] at isCandidate
          cases isCandidate
          exact distinct
        · exact derived.fits candidate old
      · change IsLastRow readers _ wanted
          (List.find? _ (KeyedTables.upsert ParsedEntity.key row store.projected))
        rw [KeyedTables.find?_upsert]
        split_ifs with isWanted
        · subst isWanted
          exact isLastRow_upsert_of_some isRow follows
        · refine (derived.rows wanted).upsert_of_none (fun other isOther => ?_) ?_
          · rw [isRow] at isOther
            cases isOther
            exact isWanted
          · intro held _ sameKey heldRow isHeld heldKey
            rw [key_eq_of_keyOf_eq sameKey isHeld isRow] at heldKey
            exact absurd heldKey isWanted
      · have readable : quarantineRowOf readers entity = none := by
          rw [quarantineRowOf, reads]
        have kept : IsQuarantined readers (KeyedTables.upsert keyOf entity store.entities) key
            (if keyOf entity = key then quarantineRowOf readers entity
              else store.quarantine? key) :=
          (derived.quarantined key).upsert
        rw [readable] at kept
        rw [quarantine?_clearQuarantine]
        exact kept
    · refine derived.upsert_of_none keyed rfl rfl (unread entity reads).1
        (notHeldRow entity reads) fun key => ?_
      rw [(unread entity reads).2.1]
      split_ifs with isKey
      · change store.quarantine? key = none
        have quarantined := derived.quarantined key
        cases found : store.quarantine? key with
        | none => rfl
        | some row =>
          rw [found] at quarantined
          obtain ⟨holder, -, holderKey, isRow⟩ := quarantined
          have holderReads := (unread entity reads).2.2 holder (holderKey.trans isKey.symm)
          rw [(unread holder holderReads).2.1] at isRow
          cases isRow
      · rfl
    · rw [reads] at follows
      refine derived.upsert_of_none keyed rfl rfl (by rw [rowOf, reads]) follows fun key => ?_
      rw [quarantine?_quarantine, quarantineRowOf, reads]
      rfl

theorem Derived.applyEntities {report : BatchReport} {done : Store × BatchReport}
    {entities : List EntityPayload} (derived : Derived readers store)
    (follows : EachFollows readers store entities)
    (applies : Store.applyEntities readers (store, report) entities = .ok done) :
    Derived readers done.1 := by
  induction entities generalizing store report with
  | nil =>
    cases applies
    exact derived
  | cons incoming rest ih =>
    obtain ⟨⟨middle, outcome⟩, first, later⟩ := bind_eq_ok_iff.mp applies
    exact ih (derived.applyEntity follows.1 first) (follows.2 middle outcome first) later

theorem Derived.congr (derived : Derived readers store) (same : after.SameTables store) :
    Derived readers after := by
  obtain ⟨entities, projected, quarantined, cursors, checkpoints⟩ := after
  obtain ⟨rfl, rfl, rfl⟩ := same
  exact ⟨{ derived.wellKeyed with }, derived.fits, derived.rows, derived.quarantined⟩

end Steps

section Runs

variable {readers : TextReaders} {store : Store} {batch : Batch}

theorem applyEntities_of_apply {after : Store} {report : BatchReport}
    (applies : batch.apply readers store = .ok (after, report)) :
    ∃ done, Store.applyEntities readers (store, ⟨0, 0, 0, 0, 0⟩) (batch.written store) =
      .ok done ∧ after.SameTables done.1 := by
  have inTransaction : ∀ entities cursor inner counted,
      store.applyBatchIn readers entities cursor = .ok (inner, counted) →
        ∃ done, Store.applyEntities readers (store, ⟨0, 0, 0, 0, 0⟩) entities = .ok done ∧
          inner.SameTables done.1 := by
    intro entities cursor inner counted writes
    obtain ⟨⟨middle, middleReport⟩, inner, done⟩ := bind_eq_ok_iff.mp writes
    cases done
    exact ⟨_, inner, by cases cursor <;> exact ⟨rfl, rfl, rfl⟩⟩
  cases batch with
  | batch entities cursor => exact inTransaction entities cursor after report applies
  | changes entities cursor =>
    obtain ⟨⟨middle, counted⟩, writes, done⟩ := bind_eq_ok_iff.mp applies
    cases done
    exact inTransaction _ cursor _ counted writes
  | sweepPage entityType entities checkpoint cursor =>
    obtain ⟨⟨middle, counted⟩, writes, done⟩ := bind_eq_ok_iff.mp applies
    cases done
    obtain ⟨written, inBatch, same⟩ := inTransaction entities cursor middle _ writes
    exact ⟨written, inBatch, same⟩

theorem Derived.receiveBatch (derived : Derived readers store)
    (follows : BatchFollows readers batch store) :
    Derived readers (receiveBatch readers batch store) := by
  unfold Mirror.receiveBatch
  cases applies : batch.apply readers store with
  | error refusal => exact derived
  | ok result =>
    obtain ⟨done, writes, same⟩ := applyEntities_of_apply applies
    exact (derived.applyEntities follows writes).congr same

theorem derived_empty : Derived readers .empty where
  wellKeyed := Store.wellKeyed_empty
  fits entity entityMem := by cases entityMem
  rows wanted entity entityMem := by cases entityMem
  quarantined key entity entityMem := by cases entityMem

theorem Derived.reprojectAll (derived : Derived readers store) :
    ∃ rebuilt report, store.reprojectAll readers = .ok (rebuilt, report) ∧
      SameProjection rebuilt store := by
  obtain ⟨⟨rebuilt, report⟩, writes⟩ := reprojectAll_isOk_iff.mpr derived.fits
  obtain ⟨lastRows, quarantined⟩ := isLastRow_reprojectAll writes
  have keyed : rebuilt.WellKeyed := (reprojectEach_counts writes).2.2
    { derived.wellKeyed with
      projected := List.nodup_nil
      quarantined := List.nodup_nil
      lines := fun row rowMem => by cases rowMem }
  refine ⟨rebuilt, report, writes, ?_, ?_⟩
  · exact KeyedTables.perm_of_find?_eq keyed.projected derived.wellKeyed.projected fun wanted =>
      (lastRows wanted).eq derived.wellKeyed.entities (derived.rows wanted)
  · exact KeyedTables.perm_of_find?_eq keyed.quarantined derived.wellKeyed.quarantined fun key =>
      (quarantined key).eq derived.wellKeyed.entities (derived.quarantined key)

/-- After every run of batches whose records follow, a rebuild leaves the rows and
the quarantine as the batches left them. -/
theorem reprojectAll_sameProjection {batches : List Batch}
    (follows : EveryStep (receiveBatch readers) (BatchFollows readers) .empty batches) :
    ∃ rebuilt report,
      (runFrom (receiveBatch readers) .empty batches).reprojectAll readers =
        .ok (rebuilt, report) ∧
      SameProjection rebuilt (runFrom (receiveBatch readers) .empty batches) := by
  have derived : Derived readers (runFrom (receiveBatch readers) .empty batches) :=
    invariant_of_everyStep (Derived readers)
      (fun _ _ derived follows => derived.receiveBatch follows) derived_empty follows
  exact derived.reprojectAll

end Runs

/-! ### A customer edited and deleted -/

namespace EditedCustomer

def readers : TextReaders := plainLibrary.toTextReaders

def version (syncToken : String) (isDeleted : Bool) (rawJson : Json) : EntityPayload where
  entityType := .customer
  qboId := "7"
  syncToken
  lastUpdatedUtc := 10
  isDeleted
  rawJson

def created : EntityPayload :=
  version "0" false (.object [("Id", .string "7"), ("DisplayName", .string "Pool Shop")])

def nameless : EntityPayload :=
  version "1" false (.object [("Id", .string "7")])

def deletion : EntityPayload :=
  version "2" true (.object [("Id", .string "7"), ("status", .string "Deleted")])

def createdThenDeleted : List Batch :=
  [.batch [created] none, .changes [deletion] none]

theorem createdThenDeleted_follows :
    EveryStep (receiveBatch readers) (BatchFollows readers) .empty createdThenDeleted := by
  refine ⟨⟨?_, fun _ _ _ => trivial⟩, ⟨?_, fun _ _ _ => trivial⟩, trivial⟩
  · change ∀ other ∈ [], _
    intro other otherMem
    cases otherMem
  · change ∀ other ∈ [created], keyOf other ≠ keyOf created → _
    intro other otherMem otherKey
    rw [List.mem_singleton.mp otherMem] at otherKey
    exact absurd rfl otherKey

/-- After a deletion the rebuild leaves the row as the batches left it. -/
theorem deleted_rebuilds :
    ∃ rebuilt report,
      (runFrom (receiveBatch readers) .empty createdThenDeleted).reprojectAll readers =
        .ok (rebuilt, report) ∧
      SameProjection rebuilt (runFrom (receiveBatch readers) .empty createdThenDeleted) :=
  reprojectAll_sameProjection createdThenDeleted_follows

def createdThenNameless : List Batch :=
  [.batch [created] none, .batch [nameless] none]

/-- The row of the version that could be read stays beside the quarantine of the
one that could not; the rebuild has no row. -/
theorem nameless_keeps_row :
    ¬∃ rebuilt report,
      (runFrom (receiveBatch readers) .empty createdThenNameless).reprojectAll readers =
        .ok (rebuilt, report) ∧
      SameProjection rebuilt (runFrom (receiveBatch readers) .empty createdThenNameless) := by
  have keeps : (runFrom (receiveBatch readers) .empty createdThenNameless).projected.length =
      1 := by
    decide +kernel
  have rebuilds : ((runFrom (receiveBatch readers) .empty createdThenNameless).reprojectAll
      readers).toOption.map (fun done => done.1.projected.length) = some 0 := by
    decide +kernel
  rintro ⟨rebuilt, report, writes, same⟩
  rw [writes] at rebuilds
  have lengths := same.1.length_eq
  rw [keeps] at lengths
  have none : rebuilt.projected.length = 0 := by simpa [Except.toOption] using rebuilds
  omega

end EditedCustomer

end Mirror

end QuickBooks
