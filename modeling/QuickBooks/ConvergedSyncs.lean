import QuickBooks.SyncSteps

/-!
# What a sync converges to

Whichever way a type is synced, the replica should end with the live records of
the book of record.  The ways do not read the same: a query has no deleted
records, and the response that has them is discarded at the cap.  A sync that
completes converges exactly when it brings every record whose mark the replica
has wrong.
-/

namespace QuickBooks

namespace Mirror

open ExceptPrograms TransitionRuns
open Outbox (EntityPayload)

def HeldLive (held : Held) (key : RecordKey) : Prop :=
  ∃ version, held key = some version ∧ version.isDeleted = false

def SameLive (entityType : EntityType) (book : BookOfRecord) (held : Held) : Prop :=
  ∀ qboId, HeldLive held (entityType, qboId) ↔
    ∃ record ∈ book.records, record.qboId = qboId ∧ record.isDeleted = false

def MarkAgrees (held : Held) (record : EntityPayload) : Prop :=
  HeldLive held (keyOf record) ↔ record.isDeleted = false

section Paths

variable (options : SyncOptions) (readers : TextReaders) (entityType : EntityType)

/-- The way that a sync takes brings a record: a sweep the live ones behind its
start; a poll those that its response has, or at the cap those that the backfill
matches, and of either those that are not skipped. -/
def Brings (state : Syncing) (now : Instant) (record : EntityPayload) : Prop :=
  let swept := record ∈ (state.book.matching none).drop (sweepStart options entityType
    state.store now)
  match syncEntityType options entityType state.store now with
  | .sweeping _ _ _ => swept
  | .polling _ _ changedSince =>
    let since := changedSince - options.cdcOverlap
    if state.book.clock < changedSince then swept
    else if (state.book.cdcPage since).entities.length < options.cdcResponseCap then
      state.book.feedEntry record ∈ (state.book.cdcPage since).entities ∧
        (versionOf (state.book.feedEntry record)).isSkipped
          (state.store.held (keyOf record)) = false
    else
      record ∈ state.book.matching (some ⟨since, state.book.clock⟩) ∧
        (versionOf record).isSkipped (state.store.held (keyOf record)) = false
  | _ => False

def AnswerWritten (_ : SyncEvent) (state : Syncing) : Prop :=
  ∃ result, state.outcome options readers entityType = some (.ok result)

/-- A sync comes to its end with the book of record as it is. -/
structure Completes (state : Syncing) (now : Instant) (answers : Nat) (after : Syncing) : Prop where
  run : after = runFrom (step options readers entityType)
    (step options readers entityType (.sync now) state) (List.replicate answers .answer)
  written : EveryStep (step options readers entityType) (AnswerWritten options readers entityType)
    (step options readers entityType (.sync now) state) (List.replicate answers .answer)
  ended : after.activity = .idle

end Paths

section Writes

variable {entityType : EntityType} {book : BookOfRecord} {held : Held} {record : EntityPayload}
  {written : List EntityPayload}

def IsEntryOf (book : BookOfRecord) (entry : EntityPayload) : Prop :=
  ∃ source ∈ book.records, keyOf source = keyOf entry ∧ source.isDeleted = entry.isDeleted

/-- The replica ends with the live records of the book exactly when every record
whose mark it has wrong is written. -/
theorem sameLive_foldl_iff (follows : Follows entityType book held)
    (entries : ∀ entry ∈ written, IsEntryOf book entry)
    (distinct : (written.map keyOf).Nodup) :
    SameLive entityType book (written.foldl receive held) ↔
      ∀ record ∈ book.records, MarkAgrees held record ∨
        ∃ entry ∈ written, keyOf entry = keyOf record := by
  have marked : ∀ record ∈ book.records,
      (HeldLive (written.foldl receive held) (keyOf record) ↔ record.isDeleted = false) ↔
        MarkAgrees held record ∨ ∃ entry ∈ written, keyOf entry = keyOf record := by
    intro record recordMem
    by_cases isWritten : ∃ entry ∈ written, keyOf entry = keyOf record
    · refine iff_of_true ?_ (.inr isWritten)
      obtain ⟨entry, entryMem, sameKey⟩ := isWritten
      obtain ⟨source, sourceMem, sourceKey, sameMark⟩ := entries entry entryMem
      have isRecord := follows.eq_of_keyOf sourceMem recordMem (sourceKey.trans sameKey)
      rw [isRecord] at sameMark
      unfold HeldLive
      rw [← sameKey, foldl_receive_of_mem distinct entryMem]
      constructor
      · rintro ⟨version, isVersion, live⟩
        cases isVersion
        exact sameMark.trans live
      · exact fun live => ⟨versionOf entry, rfl, sameMark.symm.trans live⟩
    · have others : ∀ entry ∈ written, keyOf entry ≠ keyOf record :=
        fun entry entryMem same => isWritten ⟨entry, entryMem, same⟩
      unfold MarkAgrees HeldLive
      rw [foldl_receive_of_forall_ne others]
      exact ⟨.inl, fun agrees => agrees.resolve_right isWritten⟩
  have followsAfter : ∀ qboId version,
      written.foldl receive held (entityType, qboId) = some version →
        ∃ record ∈ book.records, keyOf record = (entityType, qboId) := by
    intro qboId version isHeld
    by_cases isWritten : ∃ entry ∈ written, keyOf entry = (entityType, qboId)
    · obtain ⟨entry, entryMem, isKey⟩ := isWritten
      obtain ⟨source, sourceMem, sourceKey, -⟩ := entries entry entryMem
      exact ⟨source, sourceMem, sourceKey.trans isKey⟩
    · rw [foldl_receive_of_forall_ne
        fun entry entryMem same => isWritten ⟨entry, entryMem, same⟩] at isHeld
      obtain ⟨known, knownMem, isKey, -⟩ := follows.known _ _ rfl isHeld
      exact ⟨known, knownMem, isKey⟩
  constructor
  · intro same record recordMem
    refine (marked record recordMem).mp ?_
    have isType := follows.typed record recordMem
    have sameHere := same record.qboId
    rw [← isType] at sameHere
    refine sameHere.trans ⟨?_, fun live => ⟨record, recordMem, rfl, live⟩⟩
    rintro ⟨other, otherMem, sameId, live⟩
    have isRecord := follows.eq_of_keyOf otherMem recordMem
      (Prod.ext ((follows.typed other otherMem).trans isType.symm) sameId)
    rw [← isRecord]
    exact live
  · intro agreesOrWritten qboId
    constructor
    · rintro ⟨version, isHeld, live⟩
      obtain ⟨record, recordMem, isKey⟩ := followsAfter qboId version isHeld
      have agrees := (marked record recordMem).mpr (agreesOrWritten record recordMem)
      rw [isKey] at agrees
      exact ⟨record, recordMem, congrArg Prod.snd isKey, agrees.mp ⟨version, isHeld, live⟩⟩
    · rintro ⟨record, recordMem, rfl, live⟩
      have agrees := (marked record recordMem).mpr (agreesOrWritten record recordMem)
      have isKey : keyOf record = (entityType, record.qboId) :=
        Prod.ext (follows.typed record recordMem) rfl
      rw [isKey] at agrees
      exact agrees.mpr live

theorem freshOf_congr {other : Held} {entities : List EntityPayload}
    (same : ∀ entity ∈ entities, held (keyOf entity) = other (keyOf entity)) :
    freshOf held entities = freshOf other entities :=
  List.filter_congr fun entity entityMem => by rw [same entity entityMem]

theorem isEntryOf_of_mem_matching {range : Option UpdatedRange}
    (recordMem : record ∈ book.matching range) : IsEntryOf book record :=
  ⟨record, (List.mem_filter.mp recordMem).1, rfl, rfl⟩

theorem nodup_keyOf_matching (follows : Follows entityType book held)
    (range : Option UpdatedRange) : ((book.matching range).map keyOf).Nodup := by
  refine List.Nodup.of_map Prod.snd ?_
  rw [List.map_map]
  exact follows.distinct.sublist (List.filter_sublist.map _)

end Writes

section Runs

variable {options : SyncOptions} {readers : TextReaders} {entityType : EntityType}
  {book : BookOfRecord} {store : Store} {state : Syncing} {now : Instant} {answers : Nat}

theorem eq_zero_of_idle (idle : state.activity = .idle)
    (written : EveryStep (step options readers entityType)
      (AnswerWritten options readers entityType) state (List.replicate answers .answer)) :
    answers = 0 := by
  cases answers with
  | zero => rfl
  | succ answers =>
    obtain ⟨⟨result, comes⟩, -⟩ := written
    unfold Syncing.outcome at comes
    rw [idle] at comes
    cases comes

theorem step_of_outcome {after : Store} {next : Activity}
    (comes : state.outcome options readers entityType = some (.ok (after, next))) :
    step options readers entityType .answer state =
      { state with store := after, activity := next } := by
  unfold step
  rw [comes]

theorem held_of_sweep {startedAt : Option Instant} {start : Nat}
    (written : EveryStep (step options readers entityType)
      (AnswerWritten options readers entityType)
      ⟨book, store, .sweeping now startedAt start⟩ (List.replicate answers .answer))
    (ended : (runFrom (step options readers entityType)
      ⟨book, store, .sweeping now startedAt start⟩
      (List.replicate answers .answer)).activity = .idle) :
    (runFrom (step options readers entityType) ⟨book, store, .sweeping now startedAt start⟩
        (List.replicate answers .answer)).store.held =
      ((book.matching none).drop start).foldl receive store.held := by
  induction answers generalizing store startedAt start with
  | zero => cases ended
  | succ answers ih =>
    rw [List.replicate_succ] at written ended ⊢
    obtain ⟨⟨⟨after, next⟩, comes⟩, rest⟩ := written
    rw [runFrom_cons, step_of_outcome comes] at ended ⊢
    rw [step_of_outcome comes] at rest
    obtain ⟨heldEq, ends⟩ := sweepPage_ok (Option.some_inj.mp comes)
    have split : (book.matching none).drop start =
        ((book.matching none).drop start).take options.pageSize ++
          (book.matching none).drop
            (start + (((book.matching none).drop start).take options.pageSize).length) :=
      drop_eq_page_append
    rw [split, List.foldl_append]
    change after.held = ((((book.matching none).drop start).take options.pageSize).foldl
      receive store.held) at heldEq
    rw [← heldEq]
    obtain ⟨short, rfl, -, -⟩ | ⟨-, rfl, -, -⟩ := ends
    · have none := eq_zero_of_idle rfl rest
      subst none
      rw [drop_of_short short]
      rfl
    · exact ih rest ended

theorem held_of_backfill {window : BackfillWindow} {lastFullSweep newestRead : Option Instant}
    {start : Nat} (distinct : ((book.matching (some (window.range now))).map keyOf).Nodup)
    (written : EveryStep (step options readers entityType)
      (AnswerWritten options readers entityType)
      ⟨book, store, .backfilling now window lastFullSweep start newestRead⟩
      (List.replicate answers .answer))
    (ended : (runFrom (step options readers entityType)
      ⟨book, store, .backfilling now window lastFullSweep start newestRead⟩
      (List.replicate answers .answer)).activity = .idle) :
    (runFrom (step options readers entityType)
        ⟨book, store, .backfilling now window lastFullSweep start newestRead⟩
        (List.replicate answers .answer)).store.held =
      (freshOf store.held ((book.matching (some (window.range now))).drop start)).foldl receive
        store.held := by
  induction answers generalizing store newestRead start with
  | zero => cases ended
  | succ answers ih =>
    rw [List.replicate_succ] at written ended ⊢
    obtain ⟨⟨⟨after, next⟩, comes⟩, rest⟩ := written
    rw [runFrom_cons, step_of_outcome comes] at ended ⊢
    rw [step_of_outcome comes] at rest
    obtain ⟨heldEq, -, ends⟩ := backfillPage_ok (Option.some_inj.mp comes)
    let matched := book.matching (some (window.range now))
    let page := (matched.drop start).take options.pageSize
    change after.held = (freshOf store.held page).foldl receive store.held at heldEq
    have split : matched.drop start = page ++ matched.drop (start + page.length) :=
      drop_eq_page_append
    -- What is fresh of the later pages is not changed by this one.
    have later : freshOf after.held (matched.drop (start + page.length)) =
        freshOf store.held (matched.drop (start + page.length)) := by
      refine freshOf_congr fun record recordMem => ?_
      rw [heldEq]
      refine foldl_receive_of_forall_ne fun entry entryMem same => ?_
      have keys := distinct.sublist ((List.drop_sublist start matched).map keyOf)
      rw [split, List.map_append] at keys
      refine List.disjoint_of_nodup_append keys ?_ (List.mem_map_of_mem recordMem)
      rw [← same]
      exact List.mem_map_of_mem (List.mem_filter.mp entryMem).1
    change _ = (freshOf store.held (matched.drop start)).foldl receive store.held
    rw [split, freshOf, List.filter_append, List.foldl_append]
    change _ = (freshOf store.held _).foldl receive
      ((freshOf store.held page).foldl receive store.held)
    rw [← heldEq, ← later]
    obtain ⟨short, rfl, -⟩ | ⟨-, -, newest, rfl⟩ := ends
    · have none := eq_zero_of_idle rfl rest
      subst none
      have nothing : matched.drop (start + page.length) = [] := drop_of_short short
      rw [nothing]
      rfl
    · exact ih rest ended

theorem exists_entry_iff {held : Held} {record : EntityPayload} {range : Option UpdatedRange}
    {start : Nat} (follows : Follows entityType book held) (recordMem : record ∈ book.records) :
    (∃ entry ∈ (book.matching range).drop start, keyOf entry = keyOf record) ↔
      record ∈ (book.matching range).drop start := by
  constructor
  · rintro ⟨entry, entryMem, sameKey⟩
    have inBook := (List.mem_filter.mp (List.mem_of_mem_drop entryMem)).1
    rw [← follows.eq_of_keyOf inBook recordMem sameKey]
    exact entryMem
  · exact fun isRead => ⟨record, isRead, rfl⟩

theorem sameLive_of_sweep (follows : Follows entityType book store.held) (start : Nat) :
    SameLive entityType book (((book.matching none).drop start).foldl receive store.held) ↔
      ∀ record ∈ book.records, MarkAgrees store.held record ∨
        record ∈ (book.matching none).drop start := by
  rw [sameLive_foldl_iff follows
    (fun entry entryMem => isEntryOf_of_mem_matching (List.mem_of_mem_drop entryMem))
    ((nodup_keyOf_matching follows none).sublist ((List.drop_sublist _ _).map _))]
  exact forall₂_congr fun record recordMem =>
    or_congr_right (exists_entry_iff follows recordMem)

theorem sameLive_of_backfill (follows : Follows entityType book store.held)
    (range : UpdatedRange) :
    SameLive entityType book
        ((freshOf store.held (book.matching (some range))).foldl receive store.held) ↔
      ∀ record ∈ book.records, MarkAgrees store.held record ∨
        (record ∈ book.matching (some range) ∧
          (versionOf record).isSkipped (store.held (keyOf record)) = false) := by
  have freshMem : ∀ entry, entry ∈ freshOf store.held (book.matching (some range)) ↔
      entry ∈ book.matching (some range) ∧
        (versionOf entry).isSkipped (store.held (keyOf entry)) = false := by
    intro entry
    unfold freshOf
    rw [List.mem_filter, Bool.not_eq_true']
  rw [sameLive_foldl_iff follows
    (fun entry entryMem => isEntryOf_of_mem_matching ((freshMem entry).mp entryMem).1)
    ((nodup_keyOf_matching follows _).sublist (List.filter_sublist.map _))]
  refine forall₂_congr fun record recordMem => or_congr_right ?_
  simp only [freshMem]
  constructor
  · rintro ⟨entry, ⟨isRead, fresh⟩, sameKey⟩
    have isRecord := follows.eq_of_keyOf (List.mem_filter.mp isRead).1 recordMem sameKey
    subst isRecord
    exact ⟨isRead, fresh⟩
  · exact fun isRead => ⟨record, isRead, rfl⟩

theorem sameLive_of_poll (follows : Follows entityType book store.held) (since : Instant) :
    SameLive entityType book
        ((freshOf store.held (book.cdcPage since).entities).foldl receive store.held) ↔
      ∀ record ∈ book.records, MarkAgrees store.held record ∨
        (book.feedEntry record ∈ (book.cdcPage since).entities ∧
          (versionOf (book.feedEntry record)).isSkipped
            (store.held (keyOf record)) = false) := by
  have sources : ∀ entry ∈ (book.cdcPage since).entities,
      ∃ source ∈ book.records, entry = book.feedEntry source := by
    intro entry entryMem
    obtain ⟨source, sourceMem, isEntry⟩ := List.mem_map.mp (List.mem_of_mem_take entryMem)
    exact ⟨source, (List.mem_filter.mp sourceMem).1, isEntry.symm⟩
  have distinct : ((book.cdcPage since).entities.map keyOf).Nodup := by
    have sameKeys : (book.changed since).map keyOf = (book.records.filter fun record =>
        decide (max since (book.clock - cdcLookback) ≤ record.lastUpdatedUtc)).map keyOf := by
      unfold BookOfRecord.changed
      rw [List.map_map]
      exact List.map_congr_left fun record _ => BookOfRecord.keyOf_feedEntry
    refine List.Nodup.sublist ((List.take_sublist _ _).map keyOf) ?_
    rw [sameKeys]
    refine List.Nodup.of_map Prod.snd ?_
    rw [List.map_map]
    exact follows.distinct.sublist (List.filter_sublist.map _)
  have freshMem : ∀ entry, entry ∈ freshOf store.held (book.cdcPage since).entities ↔
      entry ∈ (book.cdcPage since).entities ∧
        (versionOf entry).isSkipped (store.held (keyOf entry)) = false := by
    intro entry
    unfold freshOf
    rw [List.mem_filter, Bool.not_eq_true']
  have freshDistinct :
      ((freshOf store.held (book.cdcPage since).entities).map keyOf).Nodup :=
    distinct.sublist (List.filter_sublist.map _)
  have entries : ∀ entry ∈ freshOf store.held (book.cdcPage since).entities,
      IsEntryOf book entry := by
    intro entry entryMem
    obtain ⟨source, sourceMem, rfl⟩ := sources entry ((freshMem entry).mp entryMem).1
    exact ⟨source, sourceMem, BookOfRecord.keyOf_feedEntry.symm,
      BookOfRecord.isDeleted_feedEntry.symm⟩
  rw [sameLive_foldl_iff follows entries freshDistinct]
  refine forall₂_congr fun record recordMem => or_congr_right ?_
  simp only [freshMem]
  constructor
  · rintro ⟨entry, ⟨isRead, fresh⟩, sameKey⟩
    obtain ⟨source, sourceMem, rfl⟩ := sources entry isRead
    rw [BookOfRecord.keyOf_feedEntry] at sameKey fresh
    have isRecord := follows.eq_of_keyOf sourceMem recordMem sameKey
    subst isRecord
    exact ⟨isRead, fresh⟩
  · rintro ⟨isRead, fresh⟩
    refine ⟨book.feedEntry record, ⟨isRead, ?_⟩, BookOfRecord.keyOf_feedEntry⟩
    rw [BookOfRecord.keyOf_feedEntry]
    exact fresh

/-- A sync that completes while the book of record stays as it is leaves the live
records of the book exactly when it brings every record whose mark the replica
has wrong. -/
theorem sameLive_iff_brings {after : Syncing}
    (follows : Follows entityType state.book state.store.held) (idle : state.activity = .idle)
    (completes : Completes options readers entityType state now answers after) :
    SameLive entityType state.book after.store.held ↔
      ∀ record ∈ state.book.records, MarkAgrees state.store.held record ∨
        Brings options entityType state now record := by
  obtain ⟨book, store, activity⟩ := state
  change activity = .idle at idle
  subst idle
  obtain ⟨rfl, written, ended⟩ := completes
  change EveryStep _ _ (Syncing.mk book store (syncEntityType options entityType store now)) _
    at written
  change (runFrom _ (Syncing.mk book store (syncEntityType options entityType store now))
    _).activity = _ at ended
  change SameLive entityType book
    (runFrom _ (Syncing.mk book store (syncEntityType options entityType store now))
      _).store.held ↔ _
  unfold Brings
  dsimp only
  obtain begun | ⟨startedAt, begun⟩ | ⟨changedSince, -, begun⟩ :=
    syncEntityType_cases options entityType store now
  · rw [begun] at written ended ⊢
    have none := eq_zero_of_idle rfl written
    subst none
    dsimp only [List.replicate_zero, runFrom_nil]
    have nothing : ∀ entry ∈ ([] : List EntityPayload), IsEntryOf book entry := by
      intro entry entryMem
      cases entryMem
    have unchanged := sameLive_foldl_iff follows nothing List.nodup_nil
    simpa using unchanged
  · rw [begun] at written ended ⊢
    rw [held_of_sweep written ended]
    exact sameLive_of_sweep follows _
  · rw [begun] at written ended ⊢
    cases answers with
    | zero => cases ended
    | succ answers =>
      rw [List.replicate_succ] at written ended ⊢
      obtain ⟨⟨⟨polled, next⟩, comes⟩, rest⟩ := written
      rw [runFrom_cons, step_of_outcome comes] at ended ⊢
      rw [step_of_outcome comes] at rest
      obtain ⟨ahead, rfl, rfl⟩ | ⟨notAhead, polls⟩ :=
        pollAnswered_ok (Option.some_inj.mp comes)
      · have isAhead : book.clock < changedSince := of_decide_eq_true ahead
        simp only [if_pos isAhead]
        have sweptEq := held_of_sweep rest ended
        change (runFrom _ (Syncing.mk book polled (fullSweep options entityType polled now))
          _).store.held = _ at sweptEq
        rw [sweptEq]
        exact sameLive_of_sweep follows _
      · have isReached : ¬book.clock < changedSince := of_decide_eq_false notAhead
        simp only [if_neg isReached]
        obtain ⟨complete, rfl, heldEq, -, -⟩ | ⟨capped, rfl, rfl⟩ := polls
        · have none := eq_zero_of_idle rfl rest
          subst none
          have fits : (book.cdcPage (changedSince - options.cdcOverlap)).entities.length <
            options.cdcResponseCap := complete
          simp only [if_pos fits]
          change SameLive entityType book polled.held ↔ _
          rw [heldEq]
          exact sameLive_of_poll follows _
        · have reachesCap : ¬(book.cdcPage (changedSince - options.cdcOverlap)).entities.length <
            options.cdcResponseCap := not_lt.mpr capped
          simp only [if_neg reachesCap]
          have heldEq := held_of_backfill (nodup_keyOf_matching follows _) rest ended
          rw [List.drop_zero] at heldEq
          change SameLive entityType book _ ↔ _
          rw [heldEq]
          exact sameLive_of_backfill follows _

end Runs

/-! ### A customer deleted while two others change -/

namespace BusyFeed

def readers : TextReaders := plainLibrary.toTextReaders

def options (cdcResponseCap : Nat) : SyncOptions where
  pageSize := 1000
  cdcMaxAge := 25 * 86400
  cdcResponseCap
  uncoveredSweepInterval := 3600
  cdcOverlap := 300

def customer (qboId syncToken : String) (lastUpdatedUtc : Instant) (isDeleted : Bool) :
    EntityPayload where
  entityType := .customer
  qboId
  syncToken
  lastUpdatedUtc
  isDeleted
  rawJson := .object [("DisplayName", .string "Pool Shop")]

def book : BookOfRecord where
  records := [customer "1" "0" 10 false, customer "2" "0" 10 false, customer "3" "0" 10 false]
  clock := 1000
  statesToken := fun _ => true

/-- The replica after a sweep of the book. -/
def swept : Store :=
  match sweepPage (options 1000) readers .customer .empty 1000 none 0
      (book.queryPage none 0 1000) with
  | .ok (after, _) => after
  | .error _ => .empty

def history : List Edit :=
  [.put 0 (customer "1" "1" 1100 true), .put 1 (customer "2" "1" 1200 false),
    .put 2 (customer "3" "1" 1200 false), .tick 300]

def later : Syncing where
  book := history.foldl BookOfRecord.edit book
  store := swept
  activity := .idle

theorem held_swept : swept.held = book.records.foldl receive Store.empty.held := by
  have writes : sweepPage (options 1000) readers .customer .empty 1000 none 0
      (book.queryPage none 0 1000) = .ok (swept, .idle) :=
    rfl
  exact (sweepPage_ok writes).1

theorem follows_empty : Follows .customer book Store.empty.held where
  typed := by decide
  numbered := by decide +kernel
  distinct := by decide
  known := fun _ _ _ isHeld => by cases isHeld

theorem follows : Follows .customer later.book later.store.held := by
  have read : book.records ⊆ (book.answer (.queryPage none 0 1000)).entities :=
    List.Subset.refl _
  have kept := follows_empty.foldl_receive read
  rw [← held_swept] at kept
  have first : EditAllowed .customer book (.put 0 (customer "1" "1" 1100 true)) :=
    ⟨rfl, by decide +kernel, by decide +kernel⟩
  have second : EditAllowed .customer (book.edit (.put 0 (customer "1" "1" 1100 true)))
      (.put 1 (customer "2" "1" 1200 false)) :=
    ⟨rfl, by decide +kernel, by decide +kernel⟩
  have third : EditAllowed .customer ((book.edit (.put 0 (customer "1" "1" 1100 true))).edit
      (.put 1 (customer "2" "1" 1200 false))) (.put 2 (customer "3" "1" 1200 false)) :=
    ⟨rfl, by decide +kernel, by decide +kernel⟩
  have passes : EditAllowed .customer (((book.edit (.put 0 (customer "1" "1" 1100 true))).edit
      (.put 1 (customer "2" "1" 1200 false))).edit (.put 2 (customer "3" "1" 1200 false)))
      (.tick 300) :=
    trivial
  exact (((kept.edit first).edit second).edit third).edit passes

theorem sameLive_swept : SameLive .customer book swept.held := by
  have entries : ∀ entry ∈ book.records, IsEntryOf book entry :=
    fun entry entryMem => ⟨entry, entryMem, rfl, rfl⟩
  rw [held_swept, sameLive_foldl_iff follows_empty entries (by decide)]
  exact fun record recordMem => .inr ⟨record, recordMem, rfl⟩

/-- The state in which a sync with the response cap completes. -/
def synced (cdcResponseCap answers : Nat) : Syncing :=
  runFrom (step (options cdcResponseCap) readers .customer)
    (step (options cdcResponseCap) readers .customer (.sync 1300) later)
    (List.replicate answers .answer)

theorem completes_polled : Completes (options 1000) readers .customer later 1300 1
    (synced 1000 1) :=
  ⟨rfl, ⟨⟨_, rfl⟩, trivial⟩, rfl⟩

theorem completes_backfilled : Completes (options 2) readers .customer later 1300 2
    (synced 2 2) :=
  ⟨rfl, ⟨⟨_, rfl⟩, ⟨_, rfl⟩, trivial⟩, rfl⟩

/-- Below the cap the deletion is read. -/
theorem sameLive_polled :
    SameLive .customer later.book (synced 1000 1).store.held ↔
      ∀ record ∈ later.book.records, MarkAgrees later.store.held record ∨
        Brings (options 1000) .customer later 1300 record :=
  sameLive_iff_brings follows rfl completes_polled

/-- At the cap the response that has the deletion is discarded, and the backfill
reads the live records alone. -/
theorem not_sameLive_backfilled :
    SameLive .customer book swept.held ∧
      (swept.cursors .customer).lastCdcCursor = some book.clock ∧
      Completes (options 2) readers .customer later 1300 2 (synced 2 2) ∧
      ((synced 2 2).store.cursors .customer).lastCdcCursor = some later.book.clock ∧
      ¬SameLive .customer later.book (synced 2 2).store.held := by
  refine ⟨sameLive_swept, rfl, completes_backfilled, rfl, fun same => ?_⟩
  have heldLive : HeldLive (synced 2 2).store.held (.customer, "1") := ⟨_, rfl, rfl⟩
  obtain ⟨record, recordMem, isFirst, live⟩ := (same "1").mp heldLive
  have allOthers : ∀ record ∈ later.book.records, record.qboId = "1" →
      record.isDeleted = true := by
    decide +kernel
  rw [allOthers record recordMem isFirst] at live
  cases live

end BusyFeed

end Mirror

end QuickBooks
