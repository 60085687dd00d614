import Mathlib.Data.Prod.Lex
import Mathlib.Data.String.Basic
import QuickBooks.ReplicaStore

/-!
# The rebuild of the replica

The projection is derived: it can be dropped and written again from the payloads
that are stored.  The records are read in the order of their types and ids, so of
two that would have one row the last in that order has it.
-/

namespace QuickBooks

namespace Mirror

open ExceptPrograms
open Outbox (EntityPayload)

def StoredBefore (first second : EntityPayload) : Prop :=
  toLex (first.entityType.asStr, first.qboId) ≤ toLex (second.entityType.asStr, second.qboId)

instance : DecidableRel StoredBefore := fun _ _ => inferInstanceAs (Decidable (_ ≤ _))

structure ReprojectReport where
  parsed : Nat
  notProjected : Nat
  quarantined : Nat
deriving DecidableEq

def ReprojectReport.count (report : ReprojectReport) : Outcome → ReprojectReport
  | .projected => { report with parsed := report.parsed + 1 }
  | .notProjected => { report with notProjected := report.notProjected + 1 }
  | .quarantined => { report with quarantined := report.quarantined + 1 }

namespace Store

variable (store : Store) (readers : TextReaders)

def allEntities : List EntityPayload :=
  store.entities.insertionSort StoredBefore

def withoutProjection : Store :=
  { store with projected := [], quarantined := [] }

/-- Write the projection of one stored record. -/
def reprojectEntity (entity : EntityPayload) : Except StoreError (Store × Outcome) :=
  match parse readers (mirrored entity) with
  | .parsed row => do
    let projected ← store.writeParsed row
    return (projected, .projected)
  | .notProjected => .ok (store, .notProjected)
  | .quarantine error => .ok (store.quarantine entity (.unread error), .quarantined)

def reprojectEach : Store × ReprojectReport → List EntityPayload →
    Except StoreError (Store × ReprojectReport)
  | state, [] => .ok state
  | (store, report), entity :: rest => do
    let (store, outcome) ← store.reprojectEntity readers entity
    reprojectEach (store, report.count outcome) rest

def reprojectAll : Except StoreError (Store × ReprojectReport) :=
  reprojectEach readers (store.withoutProjection, ⟨0, 0, 0⟩) store.allEntities

end Store

def FitsLines (readers : TextReaders) (entity : EntityPayload) : Prop :=
  ∀ row, rowOf readers entity = some row → row.lineNumbers.Nodup

/-- The row of a payload that cannot be read. -/
def quarantineRowOf (readers : TextReaders) (entity : EntityPayload) : Option QuarantineRow :=
  match parse readers (mirrored entity) with
  | .quarantine error =>
    some ⟨entity.entityType, entity.qboId, .unread error, entity.rawJson⟩
  | _ => none

/-- What the projection has under a key when it is written from the records: the
row of the last of those that would have it. -/
def IsLastRow (readers : TextReaders) (entities : List EntityPayload) (wanted : RowKey) :
    Option ParsedEntity → Prop
  | some row => ∃ entity ∈ entities, rowOf readers entity = some row ∧ row.key = wanted ∧
      ∀ other ∈ entities, ∀ otherRow, rowOf readers other = some otherRow →
        otherRow.key = wanted → StoredBefore other entity
  | none => ∀ entity ∈ entities, ∀ row, rowOf readers entity = some row → row.key ≠ wanted

/-- What is quarantined under a key when the records are read. -/
def IsQuarantined (readers : TextReaders) (entities : List EntityPayload) (key : RecordKey) :
    Option QuarantineRow → Prop
  | some row => ∃ entity ∈ entities, keyOf entity = key ∧
      quarantineRowOf readers entity = some row
  | none => ∀ entity ∈ entities, keyOf entity = key → quarantineRowOf readers entity = none

section Orders

theorem storedBefore_refl (entity : EntityPayload) : StoredBefore entity entity :=
  le_refl (toLex (entity.entityType.asStr, entity.qboId))

theorem asStr_injective : Function.Injective EntityType.asStr := by
  intro first second same
  cases first <;> cases second <;> first | rfl | exact absurd same (by decide)

theorem keyOf_eq_of_storedBefore {first second : EntityPayload} (one : StoredBefore first second)
    (two : StoredBefore second first) : keyOf first = keyOf second := by
  have same := toLex_inj.mp (le_antisymm one two)
  rw [Prod.mk.injEq] at same
  exact Prod.ext (asStr_injective same.1) same.2

theorem pairwise_allEntities (store : Store) : store.allEntities.Pairwise StoredBefore := by
  have total : Std.Total StoredBefore := ⟨fun _ _ => le_total _ _⟩
  have transitive : IsTrans EntityPayload StoredBefore := ⟨fun _ _ _ => le_trans⟩
  exact List.pairwise_insertionSort StoredBefore store.entities

theorem mem_allEntities {store : Store} {entity : EntityPayload} :
    entity ∈ store.allEntities ↔ entity ∈ store.entities :=
  List.mem_insertionSort _

end Orders

section Rebuilds

variable {readers : TextReaders} {store after : Store} {entity : EntityPayload}
  {entities seen : List EntityPayload} {wanted : RowKey} {key : RecordKey} {outcome : Outcome}
  {state done : Store × ReprojectReport}

theorem reprojectEntity_cases
    (writes : store.reprojectEntity readers entity = .ok (after, outcome)) :
    (∃ row, parse readers (mirrored entity) = .parsed row ∧ row.lineNumbers.Nodup ∧
        after = { store with
          projected := KeyedTables.upsert ParsedEntity.key row store.projected }) ∨
      (parse readers (mirrored entity) = .notProjected ∧ after = store) ∨
      ∃ error, parse readers (mirrored entity) = .quarantine error ∧
        after = store.quarantine entity (.unread error) := by
  unfold Store.reprojectEntity at writes
  cases reads : parse readers (mirrored entity) with
  | parsed row =>
    rw [reads] at writes
    obtain ⟨projected, written, done⟩ := bind_eq_ok_iff.mp writes
    obtain ⟨distinct, rfl⟩ := Store.writeParsed_eq_ok_iff.mp written
    cases done
    exact .inl ⟨row, rfl, distinct, rfl⟩
  | notProjected =>
    rw [reads] at writes
    cases writes
    exact .inr (.inl ⟨rfl, rfl⟩)
  | quarantine reason =>
    rw [reads] at writes
    cases writes
    exact .inr (.inr ⟨reason, rfl, rfl⟩)

theorem reprojectEntity_isOk_iff :
    (∃ done, store.reprojectEntity readers entity = .ok done) ↔ FitsLines readers entity := by
  unfold Store.reprojectEntity FitsLines rowOf
  cases parse readers (mirrored entity) with
  | parsed row =>
    dsimp only
    constructor
    · rintro ⟨done, writes⟩ _ ⟨⟩
      obtain ⟨projected, written, -⟩ := bind_eq_ok_iff.mp writes
      exact (Store.writeParsed_eq_ok_iff.mp written).1
    · intro distinct
      have written : store.writeParsed row = .ok _ :=
        Store.writeParsed_eq_ok_iff.mpr ⟨distinct row rfl, rfl⟩
      exact ⟨_, bind_eq_ok_iff.mpr ⟨_, written, rfl⟩⟩
  | notProjected => exact ⟨fun _ _ isRow => (by cases isRow), fun _ => ⟨_, rfl⟩⟩
  | quarantine reason => exact ⟨fun _ _ isRow => (by cases isRow), fun _ => ⟨_, rfl⟩⟩

theorem row?_reprojectEntity
    (writes : store.reprojectEntity readers entity = .ok (after, outcome)) :
    after.row? wanted =
      match rowOf readers entity with
      | some row => if row.key = wanted then some row else store.row? wanted
      | none => store.row? wanted := by
  unfold rowOf
  obtain ⟨row, reads, -, rfl⟩ | ⟨reads, rfl⟩ | ⟨reason, reads, rfl⟩ := reprojectEntity_cases writes
  · rw [reads]
    exact KeyedTables.find?_upsert ParsedEntity.key row store.projected wanted
  · rw [reads]
  · rw [reads]
    rfl

theorem quarantine?_quarantine (reason : QuarantineReason) :
    (store.quarantine entity reason).quarantine? key =
      if keyOf entity = key then some ⟨entity.entityType, entity.qboId, reason, entity.rawJson⟩
      else store.quarantine? key :=
  KeyedTables.find?_upsert QuarantineRow.key
    ⟨entity.entityType, entity.qboId, reason, entity.rawJson⟩ store.quarantined key

theorem quarantine?_reprojectEntity
    (writes : store.reprojectEntity readers entity = .ok (after, outcome)) :
    after.quarantine? key =
      match quarantineRowOf readers entity with
      | some row => if keyOf entity = key then some row else store.quarantine? key
      | none => store.quarantine? key := by
  unfold quarantineRowOf
  obtain ⟨row, reads, -, rfl⟩ | ⟨reads, rfl⟩ | ⟨reason, reads, rfl⟩ := reprojectEntity_cases writes
  · rw [reads]
    rfl
  · rw [reads]
  · rw [reads]
    exact quarantine?_quarantine (.unread reason)

theorem reprojectEach_isOk_iff :
    (∃ done, Store.reprojectEach readers state entities = .ok done) ↔
      ∀ entity ∈ entities, FitsLines readers entity := by
  induction entities generalizing state with
  | nil => exact ⟨fun _ _ entityMem => (by cases entityMem), fun _ => ⟨_, rfl⟩⟩
  | cons first rest ih =>
    rw [List.forall_mem_cons]
    constructor
    · rintro ⟨done, writes⟩
      obtain ⟨⟨middle, outcome⟩, firstWrites, later⟩ := bind_eq_ok_iff.mp writes
      exact ⟨reprojectEntity_isOk_iff.mp ⟨_, firstWrites⟩, ih.mp ⟨_, later⟩⟩
    · rintro ⟨firstFits, restFit⟩
      have firstOk : ∃ done, state.1.reprojectEntity readers first = .ok done :=
        reprojectEntity_isOk_iff.mpr firstFits
      obtain ⟨⟨middle, outcome⟩, firstWrites⟩ := firstOk
      have restOk : ∃ done,
          Store.reprojectEach readers (middle, state.2.count outcome) rest = .ok done :=
        ih.mpr restFit
      obtain ⟨done, later⟩ := restOk
      exact ⟨done, bind_eq_ok_iff.mpr ⟨_, firstWrites, later⟩⟩

theorem IsLastRow.snoc (last : IsLastRow readers seen wanted (store.row? wanted))
    (sorted : ∀ other ∈ seen, StoredBefore other entity)
    (writes : store.reprojectEntity readers entity = .ok (after, outcome)) :
    IsLastRow readers (seen ++ [entity]) wanted (after.row? wanted) := by
  rw [row?_reprojectEntity writes]
  have frame : (∀ row, rowOf readers entity = some row → row.key ≠ wanted) →
      IsLastRow readers (seen ++ [entity]) wanted (store.row? wanted) := by
    intro other
    cases found : store.row? wanted with
    | none =>
      rw [found] at last
      intro candidate candidateMem
      rcases List.mem_append.mp candidateMem with before | here
      · exact last candidate before
      · rw [List.mem_singleton.mp here]
        exact other
    | some row =>
      rw [found] at last
      obtain ⟨holder, holderMem, isRow, isWanted, isLast⟩ := last
      refine ⟨holder, List.mem_append_left _ holderMem, isRow, isWanted, ?_⟩
      intro candidate candidateMem candidateRow isCandidate sameKey
      rcases List.mem_append.mp candidateMem with before | here
      · exact isLast candidate before candidateRow isCandidate sameKey
      · rw [List.mem_singleton.mp here] at isCandidate
        exact absurd sameKey (other candidateRow isCandidate)
  cases reads : rowOf readers entity with
  | none => exact frame fun row isRow => by rw [reads] at isRow; cases isRow
  | some row =>
    dsimp only
    split_ifs with isWanted
    · refine ⟨entity, List.mem_append_right _ (List.mem_singleton_self _), reads, isWanted, ?_⟩
      intro candidate candidateMem candidateRow _ _
      rcases List.mem_append.mp candidateMem with before | here
      · exact sorted candidate before
      · rw [List.mem_singleton.mp here]
        exact storedBefore_refl entity
    · refine frame fun other isOther => ?_
      rw [reads] at isOther
      cases isOther
      exact isWanted

theorem IsQuarantined.snoc (quarantined : IsQuarantined readers seen key (store.quarantine? key))
    (writes : store.reprojectEntity readers entity = .ok (after, outcome)) :
    IsQuarantined readers (seen ++ [entity]) key (after.quarantine? key) := by
  rw [quarantine?_reprojectEntity writes]
  have frame : (keyOf entity = key → quarantineRowOf readers entity = none) →
      IsQuarantined readers (seen ++ [entity]) key (store.quarantine? key) := by
    intro other
    cases found : store.quarantine? key with
    | none =>
      rw [found] at quarantined
      intro candidate candidateMem
      rcases List.mem_append.mp candidateMem with before | here
      · exact quarantined candidate before
      · rw [List.mem_singleton.mp here]
        exact other
    | some row =>
      rw [found] at quarantined
      obtain ⟨holder, holderMem, isRow⟩ := quarantined
      exact ⟨holder, List.mem_append_left _ holderMem, isRow⟩
  cases reads : quarantineRowOf readers entity with
  | none => exact frame fun _ => reads
  | some row =>
    dsimp only
    split_ifs with isKey
    · exact ⟨entity, List.mem_append_right _ (List.mem_singleton_self _), isKey, reads⟩
    · exact frame fun same => absurd same isKey

theorem isLastRow_reprojectEach (sorted : (seen ++ entities).Pairwise StoredBefore)
    (lastRows : ∀ wanted, IsLastRow readers seen wanted (state.1.row? wanted))
    (quarantined : ∀ key, IsQuarantined readers seen key (state.1.quarantine? key))
    (writes : Store.reprojectEach readers state entities = .ok done) :
    (∀ wanted, IsLastRow readers (seen ++ entities) wanted (done.1.row? wanted)) ∧
      ∀ key, IsQuarantined readers (seen ++ entities) key (done.1.quarantine? key) := by
  induction entities generalizing seen state with
  | nil =>
    cases writes
    rw [List.append_nil]
    exact ⟨lastRows, quarantined⟩
  | cons first rest ih =>
    obtain ⟨⟨middle, outcome⟩, firstWrites, later⟩ := bind_eq_ok_iff.mp writes
    have firstLast : ∀ other ∈ seen, StoredBefore other first := fun other otherMem =>
      (List.pairwise_append.mp sorted).2.2 other otherMem first (.head _)
    rw [List.append_cons] at sorted ⊢
    exact ih sorted (fun wanted => (lastRows wanted).snoc firstLast firstWrites)
      (fun key => (quarantined key).snoc firstWrites) later

theorem isLastRow_congr {others : List EntityPayload} {found : Option ParsedEntity}
    (same : ∀ entity, entity ∈ entities ↔ entity ∈ others) :
    IsLastRow readers entities wanted found ↔ IsLastRow readers others wanted found := by
  cases found <;> simp only [IsLastRow, same]

theorem isQuarantined_congr {others : List EntityPayload} {found : Option QuarantineRow}
    (same : ∀ entity, entity ∈ entities ↔ entity ∈ others) :
    IsQuarantined readers entities key found ↔ IsQuarantined readers others key found := by
  cases found <;> simp only [IsQuarantined, same]

theorem reprojectAll_isOk_iff :
    (∃ done, store.reprojectAll readers = .ok done) ↔
      ∀ entity ∈ store.entities, FitsLines readers entity := by
  unfold Store.reprojectAll
  simp only [reprojectEach_isOk_iff, mem_allEntities]

theorem isLastRow_reprojectAll (writes : store.reprojectAll readers = .ok done) :
    (∀ wanted, IsLastRow readers store.entities wanted (done.1.row? wanted)) ∧
      ∀ key, IsQuarantined readers store.entities key (done.1.quarantine? key) := by
  have noRow : ∀ wanted, IsLastRow readers [] wanted (store.withoutProjection.row? wanted) := by
    intro wanted entity entityMem
    cases entityMem
  have noneQuarantined : ∀ key,
      IsQuarantined readers [] key (store.withoutProjection.quarantine? key) := by
    intro key entity entityMem
    cases entityMem
  obtain ⟨lastRows, quarantined⟩ :=
    isLastRow_reprojectEach (pairwise_allEntities store) noRow noneQuarantined writes
  rw [List.nil_append] at lastRows quarantined
  constructor
  · exact fun wanted => (isLastRow_congr fun _ => mem_allEntities).mp (lastRows wanted)
  · exact fun key => (isQuarantined_congr fun _ => mem_allEntities).mp (quarantined key)

theorem IsLastRow.eq {first second : Option ParsedEntity} (distinct : (entities.map keyOf).Nodup)
    (one : IsLastRow readers entities wanted first)
    (two : IsLastRow readers entities wanted second) : first = second := by
  cases first with
  | none =>
    cases second with
    | none => rfl
    | some row =>
      obtain ⟨holder, holderMem, isRow, isWanted, -⟩ := two
      exact absurd isWanted (one holder holderMem row isRow)
  | some row =>
    obtain ⟨holder, holderMem, isRow, isWanted, isLast⟩ := one
    cases second with
    | none => exact absurd isWanted (two holder holderMem row isRow)
    | some other =>
      obtain ⟨otherHolder, otherMem, isOther, otherWanted, otherLast⟩ := two
      have sameKey := keyOf_eq_of_storedBefore
        (otherLast holder holderMem row isRow isWanted)
        (isLast otherHolder otherMem other isOther otherWanted)
      have same := List.inj_on_of_nodup_map distinct holderMem otherMem sameKey
      rw [same, isOther] at isRow
      exact isRow.symm

theorem IsQuarantined.eq {first second : Option QuarantineRow}
    (distinct : (entities.map keyOf).Nodup) (one : IsQuarantined readers entities key first)
    (two : IsQuarantined readers entities key second) : first = second := by
  cases first with
  | none =>
    cases second with
    | none => rfl
    | some row =>
      obtain ⟨holder, holderMem, isKey, isRow⟩ := two
      rw [one holder holderMem isKey] at isRow
      cases isRow
  | some row =>
    obtain ⟨holder, holderMem, isKey, isRow⟩ := one
    cases second with
    | none =>
      rw [two holder holderMem isKey] at isRow
      cases isRow
    | some other =>
      obtain ⟨otherHolder, otherMem, otherKey, isOther⟩ := two
      have same := List.inj_on_of_nodup_map distinct holderMem otherMem
        (isKey.trans otherKey.symm)
      rw [same, isOther] at isRow
      exact isRow.symm

end Rebuilds

end Mirror

end QuickBooks
