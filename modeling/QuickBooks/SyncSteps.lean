import QuickBooks.DeliveredVersions
import QuickBooks.SyncDriver

/-!
# What a step of a sync can do

Everything that the driver writes is a version that the book of record had.  The
answer to each read writes its records, or those of them that the replica does
not hold, and with them the marks of the read.
-/

namespace QuickBooks

namespace Mirror

open ExceptPrograms TransitionRuns
open Outbox (EntityPayload)

section Pages

variable {α : Type} {items : List α} {start size : Nat} {item : α}

theorem drop_eq_page_append :
    items.drop start = (items.drop start).take size ++
      items.drop (start + ((items.drop start).take size).length) := by
  rw [← List.drop_drop, List.length_take]
  by_cases short : size ≤ (items.drop start).length
  · rw [min_eq_left short, List.take_append_drop]
  · have long : (items.drop start).length ≤ size := by omega
    rw [min_eq_right long, List.drop_length, List.append_nil, List.take_of_length_le long]

theorem mem_page_or_after (itemMem : item ∈ items) (notBefore : item ∉ items.take start) :
    item ∈ (items.drop start).take size ∨
      item ∈ items.drop (start + ((items.drop start).take size).length) := by
  rw [← List.take_append_drop start items] at itemMem
  rcases List.mem_append.mp itemMem with before | later
  · exact absurd before notBefore
  · rw [drop_eq_page_append] at later
    exact List.mem_append.mp later

theorem drop_of_short (short : ((items.drop start).take size).length < size) :
    items.drop (start + ((items.drop start).take size).length) = [] := by
  rw [List.length_take, List.length_drop] at *
  rw [List.drop_eq_nil_iff]
  omega

end Pages

namespace BookOfRecord

variable {book : BookOfRecord} {record other : EntityPayload} {position : Nat}

theorem mem_put :
    other ∈ book.put position record ↔
      other = record ∨ other ∈ book.records ∧ other.qboId ≠ record.qboId := by
  unfold put
  split_ifs with known
  · rw [List.mem_map]
    constructor
    · rintro ⟨existing, existingMem, rfl⟩
      split_ifs with same
      · exact .inl rfl
      · exact .inr ⟨existingMem, same⟩
    · obtain ⟨existing, existingMem, same⟩ := List.any_eq_true.mp known
      rw [decide_eq_true_eq] at same
      rintro (rfl | ⟨otherMem, different⟩)
      · exact ⟨existing, existingMem, if_pos same⟩
      · exact ⟨other, otherMem, if_neg different⟩
  · rw [List.mem_insertIdx (min_le_right _ _)]
    refine or_congr_right (iff_self_and.mpr fun otherMem same => known ?_)
    exact List.any_eq_true.mpr ⟨other, otherMem, decide_eq_true same⟩

theorem nodup_put (distinct : (book.records.map EntityPayload.qboId).Nodup) :
    ((book.put position record).map EntityPayload.qboId).Nodup := by
  unfold put
  split_ifs with known
  · have sameIds : (book.records.map fun existing =>
        if existing.qboId = record.qboId then record else existing).map EntityPayload.qboId =
          book.records.map EntityPayload.qboId := by
      rw [List.map_map]
      refine List.map_congr_left fun existing _ => ?_
      by_cases same : existing.qboId = record.qboId <;> simp [same]
    rw [sameIds]
    exact distinct
  · rw [((List.perm_insertIdx record book.records (min_le_right _ _)).map _).nodup_iff,
      List.map_cons, List.nodup_cons]
    refine ⟨fun isKnown => known ?_, distinct⟩
    obtain ⟨existing, existingMem, same⟩ := List.mem_map.mp isKnown
    exact List.any_eq_true.mpr ⟨existing, existingMem, decide_eq_true same⟩

@[simp]
theorem keyOf_feedEntry : keyOf (book.feedEntry record) = keyOf record := by
  unfold feedEntry
  split_ifs <;> rfl

theorem isDeleted_feedEntry : (book.feedEntry record).isDeleted = record.isDeleted := by
  unfold feedEntry
  split_ifs <;> rfl

theorem feedEntry_of_live (live : record.isDeleted = false) : book.feedEntry record = record := by
  unfold feedEntry
  rw [live]
  rfl

theorem tokenOf_feedEntry_le : tokenOf (book.feedEntry record) ≤ tokenOf record := by
  unfold feedEntry
  split_ifs
  · have zero : (parseU64 "0").getD 0 = 0 := by decide +kernel
    exact zero.le.trans (Nat.zero_le _)
  · exact le_rfl

end BookOfRecord

theorem mem_matching {book : BookOfRecord} {record : EntityPayload}
    {range : Option UpdatedRange} :
    record ∈ book.matching range ↔ record ∈ book.records ∧ record.isDeleted = false ∧
      (range.all fun range => range.contains record.lastUpdatedUtc) = true := by
  unfold BookOfRecord.matching
  rw [List.mem_filter, Bool.and_eq_true, Bool.not_eq_true']

section Writes

variable {options : SyncOptions} {readers : TextReaders} {entityType : EntityType}
  {store after : Store} {now : Instant} {page : ReadPage} {next : Activity}

/-- Where a sweep starts to read. -/
def sweepStart (options : SyncOptions) (entityType : EntityType) (store : Store)
    (now : Instant) : Nat :=
  ((store.checkpoints entityType).filter fun checkpoint =>
    now - checkpoint.startedAt < options.cdcMaxAge).elim 0 fun checkpoint =>
      checkpoint.nextStart - options.pageSize

theorem syncEntityType_cases (options : SyncOptions) (entityType : EntityType) (store : Store)
    (now : Instant) :
    syncEntityType options entityType store now = .idle ∨
      (∃ startedAt, syncEntityType options entityType store now =
        .sweeping now startedAt (sweepStart options entityType store now)) ∨
      ∃ changedSince, (store.cursors entityType).lastCdcCursor = some changedSince ∧
        syncEntityType options entityType store now =
          .polling now (store.cursors entityType) changedSince := by
  unfold syncEntityType
  split_ifs
  · exact .inl rfl
  · unfold planSync
    dsimp only
    split_ifs
    · exact .inr (.inl ⟨_, rfl⟩)
    · cases hasCursor : (store.cursors entityType).lastCdcCursor with
      | none => exact .inr (.inl ⟨_, rfl⟩)
      | some changedSince =>
        dsimp only
        split_ifs
        · exact .inr (.inl ⟨_, rfl⟩)
        · exact .inr (.inr ⟨changedSince, rfl, rfl⟩)

theorem sweepPage_ok {startedAt : Option Instant} {start : Nat}
    (writes : sweepPage options readers entityType store now startedAt start page =
      .ok (after, next)) :
    after.held = page.entities.foldl receive store.held ∧
      ((page.entities.length < options.pageSize ∧ next = .idle ∧
          after.cursors = Function.update store.cursors entityType
            ⟨some (startedAt.getD (page.serverTime.getD now)), some now⟩ ∧
          after.checkpoints = Function.update store.checkpoints entityType none) ∨
        (options.pageSize ≤ page.entities.length ∧
          next = .sweeping now (some (startedAt.getD (page.serverTime.getD now)))
            (start + page.entities.length) ∧
          after.cursors = store.cursors ∧
          after.checkpoints = Function.update store.checkpoints entityType
            (some ⟨start + page.entities.length,
              startedAt.getD (page.serverTime.getD now)⟩))) := by
  obtain ⟨⟨middle, report⟩, applies, done⟩ := bind_eq_ok_iff.mp writes
  obtain ⟨heldEq, cursorsEq, checkpointsEq⟩ := Store.applied_applySweepPage applies
  cases done
  refine ⟨heldEq, ?_⟩
  by_cases final : page.entities.length < options.pageSize
  · simp only [final, decide_true, if_true] at cursorsEq checkpointsEq ⊢
    exact .inl ⟨trivial, trivial, cursorsEq, checkpointsEq⟩
  · simp only [final, decide_false, Bool.false_eq_true, if_false] at cursorsEq checkpointsEq ⊢
    exact .inr ⟨not_lt.mp final, trivial, cursorsEq, checkpointsEq⟩

theorem backfillPage_ok {window : BackfillWindow} {lastFullSweep newestRead : Option Instant}
    {start : Nat}
    (writes : backfillPage options readers entityType store now window lastFullSweep start
      newestRead page = .ok (after, next)) :
    after.held = (freshOf store.held page.entities).foldl receive store.held ∧
      after.checkpoints = store.checkpoints ∧
      ((page.entities.length < options.pageSize ∧ next = .idle ∧
          after.cursors = Function.update store.cursors entityType
            ⟨some (cursorAfterRead window.cursor window.serverTime
              ((page.entities.map EntityPayload.lastUpdatedUtc ++
                newestRead.toList).max?).toList), lastFullSweep⟩) ∨
        (options.pageSize ≤ page.entities.length ∧ after.cursors = store.cursors ∧
          ∃ newest, next = .backfilling now window lastFullSweep
            (start + page.entities.length) newest)) := by
  obtain ⟨⟨middle, report⟩, applies, done⟩ := bind_eq_ok_iff.mp writes
  obtain ⟨heldEq, cursorsEq, checkpointsEq⟩ := Store.applied_applyChanges applies
  cases done
  refine ⟨heldEq, checkpointsEq, ?_⟩
  by_cases final : page.entities.length < options.pageSize
  · simp only [final, decide_true, if_true] at cursorsEq ⊢
    exact .inl ⟨trivial, trivial, cursorsEq⟩
  · simp only [final, decide_false, Bool.false_eq_true, if_false] at cursorsEq ⊢
    exact .inr ⟨not_lt.mp final, cursorsEq, _, rfl⟩

theorem pollAnswered_ok {cursor : SyncCursor} {changedSince : Instant}
    (writes : pollAnswered options readers entityType store now cursor changedSince page =
      .ok (after, next)) :
    (page.serverTime.any (fun serverTime => serverTime < changedSince) = true ∧
        after = store ∧ next = fullSweep options entityType store now) ∨
      (page.serverTime.any (fun serverTime => serverTime < changedSince) = false ∧
        ((page.entities.length < options.cdcResponseCap ∧ next = .idle ∧
            after.held = (freshOf store.held page.entities).foldl receive store.held ∧
            after.cursors = Function.update store.cursors entityType
              (cursor.advance .complete (cursorAfterRead changedSince page.serverTime
                (page.entities.map EntityPayload.lastUpdatedUtc))) ∧
            after.checkpoints = store.checkpoints) ∨
          (options.cdcResponseCap ≤ page.entities.length ∧ after = store ∧
            next = .backfilling now
              ⟨changedSince, changedSince - options.cdcOverlap, page.serverTime⟩
              (store.cursors entityType).lastFullSweep 0 none))) := by
  unfold pollAnswered at writes
  cases ahead : page.serverTime.any fun serverTime => decide (serverTime < changedSince) with
  | true =>
    rw [if_pos ahead] at writes
    cases writes
    exact .inl ⟨rfl, rfl, rfl⟩
  | false =>
    rw [if_neg (by rw [ahead]; exact Bool.false_ne_true)] at writes
    refine .inr ⟨rfl, ?_⟩
    unfold classifyResponseWithCap at writes
    by_cases capped : page.entities.length ≥ options.cdcResponseCap
    · rw [if_pos capped] at writes
      cases writes
      exact .inr ⟨capped, rfl, rfl⟩
    · rw [if_neg capped] at writes
      obtain ⟨⟨middle, report⟩, applies, done⟩ := bind_eq_ok_iff.mp writes
      obtain ⟨heldEq, cursorsEq, checkpointsEq⟩ := Store.applied_applyChanges applies
      cases done
      exact .inl ⟨not_le.mp capped, rfl, heldEq, cursorsEq, checkpointsEq⟩

theorem answered_held {activity : Activity}
    (writes : answered options readers entityType store activity page = .ok (after, next)) :
    ∃ written, after.held = written.foldl receive store.held ∧ written ⊆ page.entities := by
  have freshSubset : freshOf store.held page.entities ⊆ page.entities :=
    fun entity entityMem => (List.mem_filter.mp entityMem).1
  cases activity with
  | idle =>
    cases writes
    exact ⟨[], rfl, List.nil_subset _⟩
  | sweeping now startedAt start => exact ⟨_, (sweepPage_ok writes).1, List.Subset.refl _⟩
  | polling now cursor changedSince =>
    obtain ⟨-, rfl, -⟩ | ⟨-, ⟨-, -, heldEq, -, -⟩ | ⟨-, rfl, -⟩⟩ := pollAnswered_ok writes
    · exact ⟨[], rfl, List.nil_subset _⟩
    · exact ⟨_, heldEq, freshSubset⟩
    · exact ⟨[], rfl, List.nil_subset _⟩
  | backfilling now window lastFullSweep start newestRead =>
    exact ⟨_, (backfillPage_ok writes).1, freshSubset⟩

end Writes

/-! ### What the replica holds of the book of record -/

/-- The edits of a book of record: a record keeps its type, and its tokens are
numbers that do not go down. -/
def EditAllowed (entityType : EntityType) (book : BookOfRecord) : Edit → Prop
  | .put _ record => record.entityType = entityType ∧ (parseU64 record.syncToken).isSome ∧
      ∀ existing ∈ book.records, existing.qboId = record.qboId →
        tokenOf existing ≤ tokenOf record
  | .tick _ => True

def Version.token (version : Version) : Nat :=
  (parseU64 version.syncToken).getD 0

/-- The records have one type, numbers for tokens and ids of their own, and the
replica holds no version of a record that the book has not come to. -/
structure Follows (entityType : EntityType) (book : BookOfRecord) (held : Held) : Prop where
  typed : ∀ record ∈ book.records, record.entityType = entityType
  numbered : ∀ record ∈ book.records, (parseU64 record.syncToken).isSome
  distinct : (book.records.map EntityPayload.qboId).Nodup
  known : ∀ key version, key.1 = entityType → held key = some version →
    ∃ record ∈ book.records, keyOf record = key ∧ version.token ≤ tokenOf record

section Books

variable {entityType : EntityType} {book : BookOfRecord} {held : Held}
  {record other : EntityPayload} {request : ReadRequest} {written : List EntityPayload}

theorem Follows.eq_of_keyOf (follows : Follows entityType book held)
    (recordMem : record ∈ book.records) (otherMem : other ∈ book.records)
    (same : keyOf record = keyOf other) : record = other :=
  List.inj_on_of_nodup_map follows.distinct recordMem otherMem (congrArg Prod.snd same)

theorem Follows.edit (follows : Follows entityType book held) {change : Edit}
    (allowed : EditAllowed entityType book change) :
    Follows entityType (book.edit change) held := by
  cases change with
  | tick elapsed => exact { follows with }
  | put position record =>
    obtain ⟨typed, numbered, rises⟩ := allowed
    refine ⟨?_, ?_, BookOfRecord.nodup_put follows.distinct, ?_⟩
    · intro other otherMem
      obtain rfl | ⟨old, -⟩ := BookOfRecord.mem_put.mp otherMem
      · exact typed
      · exact follows.typed other old
    · intro other otherMem
      obtain rfl | ⟨old, -⟩ := BookOfRecord.mem_put.mp otherMem
      · exact numbered
      · exact follows.numbered other old
    · intro key version isType isHeld
      obtain ⟨known, knownMem, isKey, notAbove⟩ := follows.known key version isType isHeld
      by_cases same : known.qboId = record.qboId
      · refine ⟨record, BookOfRecord.mem_put.mpr (.inl rfl), ?_,
          notAbove.trans (rises known knownMem same)⟩
        rw [← isKey]
        exact Prod.ext (typed.trans (follows.typed known knownMem).symm) same.symm
      · exact ⟨known, BookOfRecord.mem_put.mpr (.inr ⟨knownMem, same⟩), isKey, notAbove⟩

/-- What is read is of the records, a deletion of the feed perhaps with a lower
token. -/
theorem exists_record_of_mem_answer (entryMem : record ∈ (book.answer request).entities) :
    ∃ source ∈ book.records, keyOf source = keyOf record ∧
      source.isDeleted = record.isDeleted ∧ tokenOf record ≤ tokenOf source ∧
      (record.isDeleted = false → record = source) := by
  cases request with
  | queryPage updated start size =>
    have matched := List.mem_of_mem_drop (List.mem_of_mem_take entryMem)
    exact ⟨record, (List.mem_filter.mp matched).1, rfl, rfl, le_rfl, fun _ => rfl⟩
  | cdcPage changedSince =>
    obtain ⟨source, sourceMem, rfl⟩ := List.mem_map.mp (List.mem_of_mem_take entryMem)
    refine ⟨source, (List.mem_filter.mp sourceMem).1, BookOfRecord.keyOf_feedEntry.symm,
      BookOfRecord.isDeleted_feedEntry.symm, BookOfRecord.tokenOf_feedEntry_le, fun live => ?_⟩
    rw [BookOfRecord.isDeleted_feedEntry] at live
    exact BookOfRecord.feedEntry_of_live live

theorem Follows.foldl_receive (follows : Follows entityType book held)
    (read : written ⊆ (book.answer request).entities) :
    Follows entityType book (written.foldl receive held) := by
  refine ⟨follows.typed, follows.numbered, follows.distinct, ?_⟩
  have known := follows.known
  clear follows
  induction written generalizing held with
  | nil => exact known
  | cons first rest ih =>
    refine ih (List.subset_of_cons_subset read) fun key version isType isHeld => ?_
    unfold receive at isHeld
    rw [Function.update_apply] at isHeld
    split_ifs at isHeld with here
    · cases isHeld
      obtain ⟨source, sourceMem, sameKey, -, notAbove, -⟩ :=
        exists_record_of_mem_answer (read (.head _))
      exact ⟨source, sourceMem, sameKey.trans here.symm, notAbove⟩
    · exact known key version isType isHeld

theorem Follows.not_isOlderThan (follows : Follows entityType book held)
    (recordMem : record ∈ book.records) {version : Version}
    (isHeld : held (keyOf record) = some version) :
    (versionOf record).isOlderThan version = false := by
  obtain ⟨known, knownMem, isKey, notAbove⟩ :=
    follows.known (keyOf record) version (follows.typed record recordMem) isHeld
  rw [follows.eq_of_keyOf knownMem recordMem isKey] at notAbove
  unfold Version.isOlderThan versionOf
  unfold Version.token tokenOf at notAbove
  dsimp only
  cases incoming : parseU64 record.syncToken with
  | none => rfl
  | some token =>
    cases heldToken : parseU64 version.syncToken with
    | none => rfl
    | some other =>
      rw [incoming, heldToken] at notAbove
      exact decide_eq_false (not_lt.mpr notAbove)

theorem held_foldl_receive (follows : Follows entityType book held)
    (read : written ⊆ (book.answer request).entities) (live : record.isDeleted = false)
    (recordMem : record ∈ book.records)
    (isRead : record ∈ written ∨ held (keyOf record) = some (versionOf record)) :
    written.foldl receive held (keyOf record) = some (versionOf record) := by
  have onlySelf : ∀ entry ∈ written, keyOf entry = keyOf record → entry = record := by
    intro entry entryMem same
    obtain ⟨source, sourceMem, sameKey, sameMark, -, isSource⟩ :=
      exists_record_of_mem_answer (read entryMem)
    have isRecord := follows.eq_of_keyOf sourceMem recordMem (sameKey.trans same)
    rw [isRecord] at sameMark isSource
    exact isSource (sameMark.symm.trans live)
  clear read follows
  induction written generalizing held with
  | nil => simpa using isRead
  | cons first rest ih =>
    rw [List.foldl_cons]
    refine ih ?_ fun entry entryMem => onlySelf entry (.tail _ entryMem)
    by_cases here : keyOf first = keyOf record
    · right
      unfold receive
      rw [onlySelf first (.head _) here, Function.update_self]
    · rcases isRead with isRead | isHeld
      · rcases List.mem_cons.mp isRead with rfl | later
        · exact absurd rfl here
        · exact .inl later
      · right
        unfold receive
        rw [Function.update_of_ne (Ne.symm here), isHeld]

end Books

end Mirror

end QuickBooks
