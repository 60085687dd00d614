import QuickBooks.PlainReaders
import QuickBooks.ReplicaStore
import QuickBooks.TransitionRuns

/-!
# Deliveries of one record

The versions of a record reach the replica in any order, more than once and in
batches.  A batch is compared with what the replica holds before it, and two
versions of one token are not told apart by their times; where neither matters,
the replica ends with the latest version and with its rows.
-/

namespace QuickBooks

namespace Mirror

open ExceptPrograms TransitionRuns
open Outbox (EntityPayload)

def tokenOf (entity : EntityPayload) : Nat :=
  (parseU64 entity.syncToken).getD 0

def NotLater (first second : EntityPayload) : Prop :=
  tokenOf first ≤ tokenOf second ∧ first.lastUpdatedUtc ≤ second.lastUpdatedUtc

instance (first second : EntityPayload) : Decidable (NotLater first second) :=
  inferInstanceAs (Decidable (_ ∧ _))

theorem NotLater.trans {first second third : EntityPayload} (one : NotLater first second)
    (two : NotLater second third) : NotLater first third :=
  ⟨one.1.trans two.1, one.2.trans two.2⟩

/-- The versions of one record: their tokens are numbers, their times never
contradict the tokens, a token and a time are of one version, and a deletion is
what says that it is one. -/
structure Consistent (key : RecordKey) (versions : List EntityPayload) : Prop where
  sameRecord : ∀ entity ∈ versions, keyOf entity = key
  numbered : ∀ entity ∈ versions, (parseU64 entity.syncToken).isSome
  agree : ∀ first ∈ versions, ∀ second ∈ versions,
    first.lastUpdatedUtc < second.lastUpdatedUtc → tokenOf first ≤ tokenOf second
  distinct : ∀ first ∈ versions, ∀ second ∈ versions, tokenOf first = tokenOf second →
    first.lastUpdatedUtc = second.lastUpdatedUtc → first = second
  marked : ∀ entity ∈ versions, entity.isDeleted = isTombstone entity.rawJson

theorem Consistent.mono {key : RecordKey} {versions others : List EntityPayload}
    (consistent : Consistent key others) (fewer : versions ⊆ others) :
    Consistent key versions where
  sameRecord entity entityMem := consistent.sameRecord entity (fewer entityMem)
  numbered entity entityMem := consistent.numbered entity (fewer entityMem)
  agree first firstMem second secondMem :=
    consistent.agree first (fewer firstMem) second (fewer secondMem)
  distinct first firstMem second secondMem :=
    consistent.distinct first (fewer firstMem) second (fewer secondMem)
  marked entity entityMem := consistent.marked entity (fewer entityMem)

/-- A payload that can be read as its type, and whose row fits the tables. -/
def Readable (readers : TextReaders) (entity : EntityPayload) : Prop :=
  match parse readers (mirrored entity) with
  | .parsed row => row.lineNumbers.Nodup
  | .notProjected => True
  | .quarantine _ => False

/-- The rows that a stored record has: none for a deletion of something that was
never mirrored. -/
def heldRow (readers : TextReaders) (entity : EntityPayload) : Option ParsedEntity :=
  if isTombstone entity.rawJson then none else rowOf readers entity

/-- The record's rows are those of what is stored of it. -/
structure Settled (readers : TextReaders) (key : RecordKey) (store : Store) : Prop where
  absent : store.get? key = none → store.rowFor key = none
  held : ∀ entity, store.get? key = some entity →
    store.rowFor key = heldRow readers entity ∧
      (isTombstone entity.rawJson = false → Readable readers entity)

section Entities

variable {readers : TextReaders} {key : RecordKey} {store after : Store}
  {incoming : EntityPayload} {outcome : Outcome} {batch : List EntityPayload}

theorem mirrored_withPayload (held : EntityPayload) (incoming : EntityPayload)
    (sameKey : keyOf held = keyOf incoming) :
    mirrored { incoming with rawJson := held.rawJson } =
      { mirrored held with isDeleted := incoming.isDeleted } := by
  unfold keyOf at sameKey
  rw [Prod.mk.injEq] at sameKey
  simp [mirrored, sameKey.1, sameKey.2]

theorem keyOf_of_get? {entity : EntityPayload} (found : store.get? key = some entity) :
    keyOf entity = key := by
  simpa using List.find?_some found

theorem readable_withPayload {held : EntityPayload} (sameKey : keyOf held = keyOf incoming)
    (readable : Readable readers held) :
    Readable readers { incoming with rawJson := held.rawJson } := by
  unfold Readable at readable ⊢
  rw [mirrored_withPayload held incoming sameKey, parse_withDeleted]
  cases reads : parse readers (mirrored held) with
  | parsed row =>
    rw [reads] at readable
    simpa [Projection.withDeleted] using readable
  | notProjected => trivial
  | quarantine reason =>
    rw [reads] at readable
    exact readable

theorem Settled.withLastKnownPayload (settled : Settled readers key store)
    (isKey : keyOf incoming = key) (marked : incoming.isDeleted = isTombstone incoming.rawJson)
    (readable : incoming.isDeleted = false → Readable readers incoming) :
    (store.withLastKnownPayload incoming = none ∧ isTombstone incoming.rawJson = true ∧
        store.rowFor key = none) ∨
      ∃ entity, store.withLastKnownPayload incoming = some entity ∧
        isTombstone entity.rawJson = false ∧ Readable readers entity := by
  unfold Store.withLastKnownPayload
  cases isDeleted : incoming.isDeleted with
  | false =>
    rw [isDeleted] at marked
    exact .inr ⟨incoming, rfl, marked.symm, readable isDeleted⟩
  | true =>
    rw [isDeleted] at marked
    rw [isKey]
    cases found : store.get? key with
    | none => exact .inl ⟨rfl, marked.symm, settled.absent found⟩
    | some held =>
      obtain ⟨sameRow, readableHeld⟩ := settled.held held found
      cases isTomb : isTombstone held.rawJson with
      | true =>
        refine .inl ⟨by simp [isTomb], marked.symm, ?_⟩
        rw [sameRow, heldRow, if_pos isTomb]
      | false =>
        refine .inr ⟨{ incoming with rawJson := held.rawJson }, by simp [isTomb, isDeleted],
          isTomb, ?_⟩
        exact readable_withPayload ((keyOf_of_get? found).trans isKey.symm)
          (readableHeld isTomb)

theorem Settled.applyEntity (settled : Settled readers key store)
    (isKey : keyOf incoming = key) (marked : incoming.isDeleted = isTombstone incoming.rawJson)
    (readable : incoming.isDeleted = false → Readable readers incoming) :
    ∃ after outcome, store.applyEntity readers incoming = .ok (after, outcome) ∧
      Settled readers key after ∧ after.get? key = some (store.stored incoming) := by
  have kept := settled.withLastKnownPayload isKey marked readable
  have isOk : ∃ done, store.applyEntity readers incoming = .ok done := by
    rw [Store.applyEntity_isOk_iff]
    intro row isRow
    unfold Store.projectionOf at isRow
    obtain ⟨keeps, -, -⟩ | ⟨entity, keeps, -, fine⟩ := kept
    · rw [keeps] at isRow
      cases isRow
    · rw [keeps, Option.bind_some, rowOf] at isRow
      unfold Readable at fine
      cases reads : parse readers (mirrored entity) with
      | parsed found =>
        rw [reads] at isRow fine
        cases isRow
        exact fine
      | notProjected => rw [reads] at isRow; cases isRow
      | quarantine reason => rw [reads] at isRow; cases isRow
  obtain ⟨⟨after, outcome⟩, applies⟩ := isOk
  have isStored : after.get? key = some (store.stored incoming) := by
    rw [Store.get?_applyEntity applies, if_pos isKey]
  refine ⟨after, outcome, applies, ⟨fun absent => ?_, fun entity found => ?_⟩, isStored⟩
  · rw [isStored] at absent
    cases absent
  · rw [isStored] at found
    cases found
    have sameRows : ∀ wanted, after.row? wanted = _ := fun _ => Store.row?_applyEntity applies
    unfold Store.rowFor Store.stored heldRow
    unfold Store.projectionOf at sameRows
    obtain ⟨keeps, isTomb, noRow⟩ | ⟨entity, keeps, notTomb, fine⟩ := kept
    · rw [keeps] at sameRows ⊢
      rw [Option.getD_none, if_pos isTomb]
      refine ⟨?_, fun notTomb => ?_⟩
      · simp only [sameRows, Option.bind_none]
        exact noRow
      · rw [isTomb] at notTomb
        cases notTomb
    · rw [keeps] at sameRows ⊢
      rw [Option.getD_some, if_neg (by rw [notTomb]; decide)]
      refine ⟨?_, fun _ => fine⟩
      have entityKey := (Store.keyOf_withLastKnownPayload keeps).1.trans isKey
      unfold rowOf
      unfold Readable at fine
      cases reads : parse readers (mirrored entity) with
      | parsed row =>
        have rowKeyEq := (key_of_parse reads).1
        rw [← entityKey]
        change rowKey entity.entityType entity.qboId = _ at rowKeyEq
        dsimp only [keyOf]
        rw [rowKeyEq, Option.bind_some, sameRows]
        simp [rowOf, reads]
      | notProjected =>
        have noKey := rowKey_eq_none_of_parse reads
        change rowKey entity.entityType entity.qboId = none at noKey
        rw [← entityKey]
        dsimp only [keyOf]
        rw [noKey]
        rfl
      | quarantine reason =>
        rw [reads] at fine
        exact fine.elim

theorem Settled.applyEntities (settled : Settled readers key store)
    (isKey : ∀ entity ∈ batch, keyOf entity = key)
    (marked : ∀ entity ∈ batch, entity.isDeleted = isTombstone entity.rawJson)
    (readable : ∀ entity ∈ batch, entity.isDeleted = false → Readable readers entity)
    (report : BatchReport) :
    ∃ after counted, Store.applyEntities readers (store, report) batch = .ok (after, counted) ∧
      Settled readers key after ∧
      ∀ last ∈ batch.getLast?, ∃ held, after.get? key = some held ∧
        versionOf held = versionOf last ∧ (last.isDeleted = false → held = last) := by
  induction batch generalizing store report with
  | nil => exact ⟨store, report, rfl, settled, fun last isLast => by cases isLast⟩
  | cons first rest ih =>
    obtain ⟨middle, outcome, applies, settledMiddle, isStored⟩ :=
      settled.applyEntity (isKey first (.head _)) (marked first (.head _))
        (readable first (.head _))
    obtain ⟨after, counted, done, settledAfter, holdsLast⟩ := ih settledMiddle
      (fun entity entityMem => isKey entity (.tail _ entityMem))
      (fun entity entityMem => marked entity (.tail _ entityMem))
      (fun entity entityMem => readable entity (.tail _ entityMem)) (report.count outcome)
    refine ⟨after, counted, bind_eq_ok_iff.mpr ⟨_, applies, done⟩, settledAfter, ?_⟩
    intro last isLast
    cases rest with
    | nil =>
      rw [List.getLast?_singleton, Option.mem_some_iff] at isLast
      subst isLast
      cases done
      refine ⟨_, isStored, Store.keyOf_stored.2, fun live => ?_⟩
      unfold Store.stored Store.withLastKnownPayload
      rw [live]
      rfl
    | cons second others =>
      rw [List.getLast?_cons_cons] at isLast
      exact holdsLast last isLast

end Entities

/-! ### Deliveries -/

abbrev Delivery := List EntityPayload × Option (EntityType × SyncCursor)

/-- Receive a delivery; a refused batch leaves the store as it was. -/
def receiveChanges (readers : TextReaders) (delivery : Delivery) (store : Store) : Store :=
  match store.applyChanges readers delivery.1 delivery.2 with
  | .ok (after, _) => after
  | .error _ => store

/-- Of the versions that a delivery brings and the store does not hold, the last
one is the latest, it is not of the token held and of an earlier time, and their
payloads can be read. -/
structure InOrder (readers : TextReaders) (key : RecordKey) (delivery : Delivery)
    (store : Store) : Prop where
  latestLast : ∀ last ∈ (freshOf store.held delivery.1).getLast?,
    ∀ entity ∈ freshOf store.held delivery.1, NotLater entity last
  notBehind : ∀ last ∈ (freshOf store.held delivery.1).getLast?,
    ∀ held, store.get? key = some held →
      tokenOf last = tokenOf held → held.lastUpdatedUtc ≤ last.lastUpdatedUtc
  readable : ∀ entity ∈ freshOf store.held delivery.1, entity.isDeleted = false →
    Readable readers entity

/-- The latest version received is stored, with its rows. -/
def HoldsLatest (readers : TextReaders) (key : RecordKey) (received : List EntityPayload)
    (store : Store) : Prop :=
  ∃ latest ∈ received, (∀ entity ∈ received, NotLater entity latest) ∧
    ∃ held, store.get? key = some held ∧ versionOf held = versionOf latest ∧
      (latest.isDeleted = false → held = latest) ∧
      store.rowFor key = heldRow readers held

section Deliveries

variable {readers : TextReaders} {key : RecordKey} {store : Store} {delivery : Delivery}
  {received : List EntityPayload}

/-- What holds after every delivery. -/
structure Delivered (readers : TextReaders) (key : RecordKey) (received : List EntityPayload)
    (store : Store) : Prop where
  settled : Settled readers key store
  nothing : received = [] → store.get? key = none
  latest : received ≠ [] → HoldsLatest readers key received store

theorem notLater_of_versionOf {first second third : EntityPayload}
    (same : versionOf first = versionOf second) (later : NotLater third second) :
    NotLater third first := by
  obtain ⟨tokens, times⟩ := later
  unfold versionOf at same
  rw [Version.mk.injEq] at same
  unfold NotLater tokenOf
  rw [same.1, same.2.1]
  exact ⟨tokens, times⟩

theorem notLater_of_isSkipped {entity held : EntityPayload}
    (numbered : (parseU64 entity.syncToken).isSome)
    (agree : held.lastUpdatedUtc < entity.lastUpdatedUtc → tokenOf held ≤ tokenOf entity)
    (skipped : (versionOf entity).isSkipped (some (versionOf held)) = true) :
    NotLater entity held := by
  unfold Version.isSkipped at skipped
  rw [Bool.or_eq_true, decide_eq_true_eq] at skipped
  rcases skipped with identical | older
  · exact notLater_of_versionOf identical.symm ⟨le_rfl, le_rfl⟩
  · unfold Version.isOlderThan versionOf at older
    dsimp only at older
    obtain ⟨token, isToken⟩ := Option.isSome_iff_exists.mp numbered
    cases heldToken : parseU64 held.syncToken with
    | none => simp [isToken, heldToken] at older
    | some other =>
      simp only [isToken, heldToken, decide_eq_true_eq] at older
      have tokens : tokenOf entity < tokenOf held := by
        simpa [tokenOf, isToken, heldToken] using older
      refine ⟨tokens.le, ?_⟩
      by_contra later
      exact absurd (agree (not_le.mp later)) (not_le.mpr tokens)

theorem notLater_of_not_isSkipped {entity held : EntityPayload}
    (numbered : (parseU64 entity.syncToken).isSome) (heldNumbered : (parseU64 held.syncToken).isSome)
    (agree : entity.lastUpdatedUtc < held.lastUpdatedUtc → tokenOf entity ≤ tokenOf held)
    (notBehind : tokenOf entity = tokenOf held → held.lastUpdatedUtc ≤ entity.lastUpdatedUtc)
    (fresh : (versionOf entity).isSkipped (some (versionOf held)) = false) :
    NotLater held entity := by
  unfold Version.isSkipped at fresh
  rw [Bool.or_eq_false_iff] at fresh
  have notOlder := fresh.2
  unfold Version.isOlderThan versionOf at notOlder
  obtain ⟨token, isToken⟩ := Option.isSome_iff_exists.mp numbered
  obtain ⟨other, heldToken⟩ := Option.isSome_iff_exists.mp heldNumbered
  simp only [isToken, heldToken, decide_eq_false_iff_not, not_lt] at notOlder
  have tokens : tokenOf held ≤ tokenOf entity := by
    simpa [tokenOf, isToken, heldToken] using notOlder
  refine ⟨tokens, ?_⟩
  by_contra earlier
  have same : tokenOf entity = tokenOf held :=
    le_antisymm (agree (not_le.mp earlier)) tokens
  exact earlier (notBehind same)

theorem Settled.receiveChanges (settled : Settled readers key store)
    (isKey : ∀ entity ∈ delivery.1, keyOf entity = key)
    (marked : ∀ entity ∈ delivery.1, entity.isDeleted = isTombstone entity.rawJson)
    (readable : ∀ entity ∈ freshOf store.held delivery.1, entity.isDeleted = false →
      Readable readers entity) :
    Settled readers key (receiveChanges readers delivery store) ∧
      (freshOf store.held delivery.1 = [] →
        (Mirror.receiveChanges readers delivery store).get? key = store.get? key) ∧
      ∀ last ∈ (freshOf store.held delivery.1).getLast?, ∃ held,
        (Mirror.receiveChanges readers delivery store).get? key = some held ∧
        versionOf held = versionOf last ∧ (last.isDeleted = false → held = last) := by
  have freshMem : ∀ entity ∈ freshOf store.held delivery.1, entity ∈ delivery.1 :=
    fun entity entityMem => (List.mem_filter.mp entityMem).1
  obtain ⟨after, counted, applies, settledAfter, holdsLast⟩ := settled.applyEntities
    (fun entity entityMem => isKey entity (freshMem entity entityMem))
    (fun entity entityMem => marked entity (freshMem entity entityMem))
    readable ⟨0, 0, 0, 0, 0⟩
  have writes : Mirror.receiveChanges readers delivery store = after.saveCursor delivery.2 := by
    unfold Mirror.receiveChanges Store.applyChanges Store.applyBatchIn
    have sameFresh : (delivery.1.filter fun entity => !store.holdsThisVersionOrNewer entity) =
        freshOf store.held delivery.1 := by
      simp only [Store.holdsThisVersionOrNewer_eq, freshOf]
    rw [sameFresh]
    dsimp only
    rw [applies]
    rfl
  have sameRecord : (after.saveCursor delivery.2).get? key = after.get? key := by
    cases delivery.2 <;> rfl
  have sameRow : (after.saveCursor delivery.2).rowFor key = after.rowFor key := by
    cases delivery.2 <;> rfl
  rw [writes]
  refine ⟨⟨?_, ?_⟩, ?_, ?_⟩
  · rw [sameRecord, sameRow]
    exact settledAfter.absent
  · rw [sameRow]
    intro entity found
    exact settledAfter.held entity (sameRecord.symm.trans found)
  · intro nothing
    rw [nothing] at applies
    cases applies
    exact sameRecord
  · rw [sameRecord]
    exact holdsLast

theorem Delivered.step (delivered : Delivered readers key received store)
    (consistent : Consistent key (received ++ delivery.1))
    (inOrder : InOrder readers key delivery store) :
    Delivered readers key (received ++ delivery.1) (receiveChanges readers delivery store) := by
  have inBatch : ∀ entity ∈ delivery.1, entity ∈ received ++ delivery.1 :=
    fun entity entityMem => List.mem_append_right _ entityMem
  obtain ⟨settled, sameIfNothing, holdsLast⟩ := delivered.settled.receiveChanges
    (fun entity entityMem => consistent.sameRecord entity (inBatch entity entityMem))
    (fun entity entityMem => consistent.marked entity (inBatch entity entityMem))
    inOrder.readable
  refine ⟨settled, fun isNil => ?_, fun someReceived => ?_⟩
  · obtain ⟨noneBefore, noneNow⟩ := List.append_eq_nil_iff.mp isNil
    rw [sameIfNothing (by rw [noneNow]; rfl)]
    exact delivered.nothing noneBefore
  · have skips : ∀ entity ∈ delivery.1, entity ∉ freshOf store.held delivery.1 →
        (versionOf entity).isSkipped ((store.get? key).map versionOf) = true := by
      intro entity entityMem notFresh
      have isKey := consistent.sameRecord entity (inBatch entity entityMem)
      by_contra isFresh
      refine notFresh (List.mem_filter.mpr ⟨entityMem, ?_⟩)
      unfold Store.held
      rw [isKey]
      simpa using isFresh
    rcases List.eq_nil_or_concat (freshOf store.held delivery.1) with nothing | ⟨front, last, isLast⟩
    · -- Every version was skipped beside the one that is held.
      have someBefore : received ≠ [] := by
        intro noneBefore
        rw [noneBefore, List.nil_append] at someReceived
        obtain ⟨entity, entityMem⟩ := List.exists_mem_of_ne_nil _ someReceived
        have skipped := skips entity entityMem (by rw [nothing]; exact List.not_mem_nil)
        rw [delivered.nothing noneBefore] at skipped
        cases skipped
      obtain ⟨latest, latestMem, isLatest, held, found, sameVersion, sameHeld, rows⟩ :=
        delivered.latest someBefore
      refine ⟨latest, List.mem_append_left _ latestMem, fun entity entityMem => ?_, held,
        (sameIfNothing nothing).trans found, sameVersion, sameHeld,
        (settled.held held ((sameIfNothing nothing).trans found)).1⟩
      rcases List.mem_append.mp entityMem with before | now
      · exact isLatest entity before
      · have skipped := skips entity now (by rw [nothing]; exact List.not_mem_nil)
        rw [found, Option.map_some, sameVersion] at skipped
        exact notLater_of_isSkipped (consistent.numbered entity entityMem)
          (consistent.agree latest (List.mem_append_left _ latestMem) entity entityMem) skipped
    · -- The last of the fresh versions is the latest one.
      rw [List.concat_eq_append] at isLast
      have lastFresh : last ∈ freshOf store.held delivery.1 := by
        rw [isLast]
        exact List.mem_append_right _ (List.mem_singleton_self _)
      have lastMem := (List.mem_filter.mp lastFresh).1
      have getsLast : last ∈ (freshOf store.held delivery.1).getLast? := by
        rw [isLast, List.getLast?_append]
        rfl
      obtain ⟨held, found, sameVersion, sameHeld⟩ := holdsLast last getsLast
      have freshNotLater := inOrder.latestLast last getsLast
      have lastIn := inBatch last lastMem
      -- What was held before is not later than a version that was not skipped.
      have heldNotLater : ∀ latest ∈ received, ∀ old, store.get? key = some old →
          versionOf old = versionOf latest → NotLater latest last := by
        intro latest latestMem old oldFound oldVersion
        have latestIn := List.mem_append_left delivery.1 latestMem
        have notSkipped := (List.mem_filter.mp lastFresh).2
        have isKey := consistent.sameRecord last lastIn
        unfold Store.held at notSkipped
        rw [isKey, oldFound, Option.map_some, oldVersion, Bool.not_eq_true'] at notSkipped
        refine notLater_of_not_isSkipped (consistent.numbered last lastIn)
          (consistent.numbered latest latestIn)
          (consistent.agree last lastIn latest latestIn) (fun same => ?_) notSkipped
        have sameOld : tokenOf last = tokenOf old := by
          unfold versionOf at oldVersion
          rw [Version.mk.injEq] at oldVersion
          rw [same, tokenOf, tokenOf, oldVersion.1]
        have times := inOrder.notBehind last getsLast old oldFound sameOld
        unfold versionOf at oldVersion
        rw [Version.mk.injEq] at oldVersion
        rw [← oldVersion.2.1]
        exact times
      refine ⟨last, lastIn, fun entity entityMem => ?_, held, found, sameVersion, sameHeld,
        (settled.held held found).1⟩
      rcases List.mem_append.mp entityMem with before | now
      · obtain ⟨latest, latestMem, isLatest, old, oldFound, oldVersion, -, -⟩ :=
          delivered.latest (List.ne_nil_of_mem before)
        exact (isLatest entity before).trans
          (heldNotLater latest latestMem old oldFound oldVersion)
      · by_cases isFresh : entity ∈ freshOf store.held delivery.1
        · exact freshNotLater entity isFresh
        · have skipped := skips entity now isFresh
          cases oldFound : store.get? key with
          | none =>
            rw [oldFound] at skipped
            cases skipped
          | some old =>
            have someBefore : received ≠ [] := by
              intro noneBefore
              rw [delivered.nothing noneBefore] at oldFound
              cases oldFound
            obtain ⟨latest, latestMem, -, again, againFound, oldVersion, -, -⟩ :=
              delivered.latest someBefore
            rw [oldFound] at againFound
            cases againFound
            rw [oldFound, Option.map_some, oldVersion] at skipped
            exact (notLater_of_isSkipped (consistent.numbered entity entityMem)
              (consistent.agree latest (List.mem_append_left _ latestMem) entity entityMem)
              skipped).trans (heldNotLater latest latestMem old oldFound oldVersion)

theorem Delivered.run {deliveries : List Delivery} (delivered : Delivered readers key received store)
    (consistent : Consistent key (received ++ deliveries.flatMap Prod.fst))
    (inOrder : EveryStep (receiveChanges readers) (InOrder readers key) store deliveries) :
    Delivered readers key (received ++ deliveries.flatMap Prod.fst)
      (runFrom (receiveChanges readers) store deliveries) := by
  induction deliveries generalizing received store with
  | nil =>
    rw [List.flatMap_nil, List.append_nil]
    exact delivered
  | cons delivery rest ih =>
    rw [List.flatMap_cons, ← List.append_assoc] at consistent ⊢
    have next := delivered.step
      (consistent.mono fun entity entityMem => List.mem_append_left _ entityMem) inOrder.1
    exact ih next consistent inOrder.2

/-- After every run of deliveries in order, the latest version received is
stored with its rows. -/
theorem holdsLatest_of_inOrder {deliveries : List Delivery} (unread : store.get? key = none)
    (noRow : store.rowFor key = none) (delivers : deliveries.flatMap Prod.fst ≠ [])
    (consistent : Consistent key (deliveries.flatMap Prod.fst))
    (inOrder : EveryStep (receiveChanges readers) (InOrder readers key) store deliveries) :
    HoldsLatest readers key (deliveries.flatMap Prod.fst)
      (runFrom (receiveChanges readers) store deliveries) := by
  have before : Delivered readers key [] store := by
    refine ⟨⟨fun _ => noRow, fun entity found => ?_⟩, fun _ => unread, fun someBefore => ?_⟩
    · rw [unread] at found
      cases found
    · exact (someBefore rfl).elim
  exact (before.run consistent inOrder).latest delivers

end Deliveries

/-! ### A customer renamed -/

namespace RenamedCustomer

/-- A version of one customer. -/
def version (syncToken displayName : String) (lastUpdatedUtc : Int) : EntityPayload where
  entityType := .customer
  qboId := "7"
  syncToken
  lastUpdatedUtc
  isDeleted := false
  rawJson := .object [("Id", .string "7"), ("DisplayName", .string displayName)]

def created : EntityPayload := version "0" "Pool Shop" 10

def renamed : EntityPayload := version "1" "The Pool Shop" 20

def key : RecordKey := (.customer, "7")

theorem consistent : Consistent key [created, renamed] := by
  refine ⟨by decide, by decide, by decide, fun first firstMem second secondMem tokens _ => ?_,
    fun entity entityMem => ?_⟩
  · simp only [List.mem_cons, List.not_mem_nil, or_false] at firstMem secondMem
    obtain rfl | rfl := firstMem <;> obtain rfl | rfl := secondMem
    · rfl
    · exact absurd tokens (by decide)
    · exact absurd tokens (by decide)
    · rfl
  · simp only [List.mem_cons, List.not_mem_nil, or_false] at entityMem
    obtain rfl | rfl := entityMem <;> rfl

def readers : TextReaders := plainLibrary.toTextReaders

theorem readable : Readable readers renamed := by
  change ([] : List Int).Nodup
  exact List.nodup_nil

def lateDeliveries : List Delivery :=
  [([renamed, renamed], none), ([created], some (.customer, ⟨some 30, none⟩))]

theorem lateDeliveries_inOrder :
    EveryStep (receiveChanges readers) (InOrder readers key) Store.empty lateDeliveries := by
  refine ⟨⟨?_, ?_, ?_⟩, ⟨?_, ?_, ?_⟩, trivial⟩
  · change ∀ last ∈ some renamed, ∀ entity ∈ [renamed, renamed], NotLater entity last
    rintro last ⟨⟩
    decide
  · change ∀ last ∈ some renamed, ∀ held, none = some held → _
    rintro last - held ⟨⟩
  · change ∀ entity ∈ [renamed, renamed], entity.isDeleted = false → Readable readers entity
    intro entity entityMem _
    simp only [List.mem_cons, List.not_mem_nil, or_false, or_self] at entityMem
    rw [entityMem]
    exact readable
  · change ∀ last ∈ none, _
    rintro last ⟨⟩
  · change ∀ last ∈ none, _
    rintro last ⟨⟩
  · change ∀ entity ∈ [], _
    rintro entity ⟨⟩

theorem late_version_skipped :
    HoldsLatest readers key (lateDeliveries.flatMap Prod.fst)
      (runFrom (receiveChanges readers) Store.empty lateDeliveries) :=
  holdsLatest_of_inOrder rfl rfl (List.cons_ne_nil _ _)
    (consistent.mono fun entity entityMem => by
      change entity ∈ [renamed, renamed, created] at entityMem
      simp only [List.mem_cons, List.not_mem_nil, or_false] at entityMem ⊢
      tauto)
    lateDeliveries_inOrder

/-- Both versions in one batch, the later one first. -/
theorem batch_rolled_back :
    Consistent key [renamed, created] ∧
      ¬HoldsLatest readers key [renamed, created]
        (runFrom (receiveChanges readers) Store.empty [([renamed, created], none)]) := by
  refine ⟨consistent.mono (by simp), ?_⟩
  rintro ⟨latest, latestMem, isLatest, held, found, sameVersion, -, -⟩
  have heldCreated : (runFrom (receiveChanges readers) Store.empty
      [([renamed, created], none)]).held key = some (versionOf created) := by
    decide +kernel
  unfold Store.held at heldCreated
  rw [found, Option.map_some, sameVersion] at heldCreated
  simp only [List.mem_cons, List.not_mem_nil, or_false] at latestMem
  obtain rfl | rfl := latestMem
  · exact absurd heldCreated (by decide)
  · exact absurd (isLatest renamed (.head _)) (by decide)

end RenamedCustomer

end Mirror

end QuickBooks
