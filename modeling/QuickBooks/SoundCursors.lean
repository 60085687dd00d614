import QuickBooks.PagedReads

/-!
# Cursors that pass nothing unread

A cursor says that every live record stamped before it, less the overlap, is held.
A sweep makes it of the clock at its first page, a poll and a backfill of the clock
at the poll.  The age that a cursor may have is counted by the local clock, so with
that clock behind a poll can ask further back than the change feed looks.
-/

namespace QuickBooks

namespace Mirror

open TransitionRuns
open Outbox (EntityPayload)

/-- Every live record stamped before a moment is owed or held at its version. -/
def Accounted (book : BookOfRecord) (held : Held) (owed : List EntityPayload)
    (bound : Instant) : Prop :=
  ∀ record ∈ book.records, record.isDeleted = false → record.lastUpdatedUtc < bound →
    record ∈ owed ∨ held (keyOf record) = some (versionOf record)

/-- Every live record stamped before the stored cursor, less the overlap, is held at
its version. -/
def CursorSound (options : SyncOptions) (entityType : EntityType) (state : Syncing) : Prop :=
  ∀ cursor, (state.store.cursors entityType).lastCdcCursor = some cursor →
    ∀ record ∈ state.book.records, record.isDeleted = false →
      record.lastUpdatedUtc < cursor - options.cdcOverlap →
        state.store.held (keyOf record) = some (versionOf record)

/-- An edit is stamped no earlier than the overlap before the clock. -/
def StampsInOverlap (options : SyncOptions) (event : SyncEvent) (watched : Watched) : Prop :=
  match event with
  | .edit (.put _ record) =>
    watched.state.book.clock - options.cdcOverlap ≤ record.lastUpdatedUtc
  | _ => True

/-- What a complete poll asks for and the change feed no longer looks back to is held. -/
def PollCovers (options : SyncOptions) (event : SyncEvent) (watched : Watched) : Prop :=
  match event, watched.state.activity with
  | .answer, .polling _ _ changedSince =>
    let book := watched.state.book
    let reachBack := changedSince - options.cdcOverlap
    (book.cdcPage reachBack).entities.length < options.cdcResponseCap →
      ∀ record ∈ book.records, record.isDeleted = false →
        reachBack ≤ record.lastUpdatedUtc → record.lastUpdatedUtc < book.clock - cdcLookback →
          watched.state.store.held (keyOf record) = some (versionOf record)
  | _, _ => True

section Accounts

variable {entityType : EntityType} {book : BookOfRecord} {held : Held}
  {owed : List EntityPayload} {bound : Instant} {record : EntityPayload}
  {written : List EntityPayload} {request : ReadRequest}

theorem accounted_ofBook : Accounted book held (Track.ofBook none book).owed bound :=
  fun _ recordMem live _ => .inl (mem_matching.mpr ⟨recordMem, live, rfl⟩)

theorem Accounted.put (accounted : Accounted book held owed bound) (position : Nat)
    (stamped : bound ≤ record.lastUpdatedUtc) :
    Accounted (book.edit (.put position record)) held
      (owed.filter fun other => other.qboId ≠ record.qboId) bound := by
  intro other otherMem live before
  obtain rfl | ⟨known, different⟩ := BookOfRecord.mem_put.mp otherMem
  · exact absurd before (not_lt.mpr stamped)
  · refine (accounted other known live before).imp_left fun isOwed => ?_
    exact List.mem_filter.mpr ⟨isOwed, by simpa using different⟩

theorem Accounted.paid (accounted : Accounted book held owed bound)
    (paid : ∀ record ∈ owed, held (keyOf record) = some (versionOf record)) :
    Accounted book held [] bound := by
  intro record recordMem live before
  rcases accounted record recordMem live before with isOwed | isHeld
  · exact .inr (paid record isOwed)
  · exact .inr isHeld

theorem accounted_window {window : UpdatedRange}
    (before : Accounted book held [] window.from) (within : bound ≤ window.to) :
    Accounted book held (Track.ofBook (some window) book).owed bound := by
  intro record recordMem live stamped
  by_cases early : record.lastUpdatedUtc < window.from
  · exact (before record recordMem live early).imp_left List.not_mem_nil.elim
  · left
    refine mem_matching.mpr ⟨recordMem, live, ?_⟩
    have inWindow : window.from ≤ record.lastUpdatedUtc ∧ record.lastUpdatedUtc < window.to :=
      ⟨not_lt.mp early, stamped.trans_le within⟩
    simpa [UpdatedRange.contains] using inWindow

theorem held_of_polled {options : SyncOptions} (follows : Follows entityType book held)
    (capped : options.cdcResponseCap ≤ cdcCap) {reachBack : Instant}
    (complete : (book.cdcPage reachBack).entities.length < options.cdcResponseCap)
    (recordMem : record ∈ book.records) (live : record.isDeleted = false)
    (asked : reachBack ≤ record.lastUpdatedUtc)
    (reached : book.clock - cdcLookback ≤ record.lastUpdatedUtc) :
    (freshOf held (book.cdcPage reachBack).entities).foldl receive held (keyOf record) =
      some (versionOf record) := by
  have isChanged : record ∈ book.changed reachBack :=
    List.mem_map.mpr ⟨record, List.mem_filter.mpr ⟨recordMem, decide_eq_true
      (max_le asked reached)⟩, BookOfRecord.feedEntry_of_live live⟩
  have whole : (book.cdcPage reachBack).entities = book.changed reachBack := by
    change (book.changed reachBack).take cdcCap = book.changed reachBack
    change ((book.changed reachBack).take cdcCap).length < options.cdcResponseCap at complete
    rw [List.length_take] at complete
    exact List.take_of_length_le (by omega)
  have answered : freshOf held (book.cdcPage reachBack).entities ⊆
      (book.answer (.cdcPage reachBack)).entities :=
    fun entry entryMem => (List.mem_filter.mp entryMem).1
  refine held_foldl_receive follows answered live recordMem ?_
  rw [whole]
  exact mem_freshOf_or_held follows isChanged recordMem

end Accounts

/-- A sweep that began at a moment accounts for what was stamped before it. -/
def SweptSince (options : SyncOptions) (watched : Watched) (begun : Instant) : Prop :=
  begun ≤ watched.state.book.clock ∧
    Accounted watched.state.book watched.state.store.held watched.sweep.owed
      (begun - options.cdcOverlap)

/-- What a read that is under way accounts for. -/
def ReadAccounts (options : SyncOptions) (entityType : EntityType) (watched : Watched) :
    Activity → Prop
  | .idle => True
  | .sweeping _ startedAt _ => ∀ begun, startedAt = some begun → SweptSince options watched begun
  | .polling _ _ changedSince =>
    (watched.state.store.cursors entityType).lastCdcCursor = some changedSince
  | .backfilling _ window _ start _ =>
    (watched.state.store.cursors entityType).lastCdcCursor = some window.cursor ∧
      window.from = window.cursor - options.cdcOverlap ∧
      ∃ serverTime, window.serverTime = some serverTime ∧ window.cursor ≤ serverTime ∧
        serverTime ≤ watched.state.book.clock ∧
        (start ≠ 0 → Accounted watched.state.book watched.state.store.held
          watched.backfill.owed (serverTime - options.cdcOverlap))

/-- What holds of a sync in every state: the cursor, the interrupted sweep and the
read under way each account for what is stamped before them. -/
structure Accounting (options : SyncOptions) (entityType : EntityType) (watched : Watched) :
    Prop where
  covering : Covering entityType watched
  cursor : ∀ cursor, (watched.state.store.cursors entityType).lastCdcCursor = some cursor →
    cursor ≤ watched.state.book.clock ∧
      Accounted watched.state.book watched.state.store.held [] (cursor - options.cdcOverlap)
  checkpoint : ∀ checkpoint, watched.state.store.checkpoints entityType = some checkpoint →
    SweptSince options watched checkpoint.startedAt
  reading : ReadAccounts options entityType watched watched.state.activity

section Steps

variable {options : SyncOptions} {readers : TextReaders} {entityType : EntityType}
  {watched : Watched} {event : SyncEvent} {after : Store} {next : Activity}

theorem syncEntityType_begins (options : SyncOptions) (entityType : EntityType) (store : Store)
    (now : Instant) :
    syncEntityType options entityType store now = .idle ∨
      syncEntityType options entityType store now = fullSweep options entityType store now ∨
      ∃ changedSince, (store.cursors entityType).lastCdcCursor = some changedSince ∧
        syncEntityType options entityType store now =
          .polling now (store.cursors entityType) changedSince := by
  unfold syncEntityType
  split_ifs
  · exact .inl rfl
  · unfold planSync
    dsimp only
    split_ifs
    · exact .inr (.inl rfl)
    · cases hasCursor : (store.cursors entityType).lastCdcCursor with
      | none => exact .inr (.inl rfl)
      | some changedSince =>
        dsimp only
        split_ifs
        · exact .inr (.inl rfl)
        · exact .inr (.inr ⟨changedSince, rfl, rfl⟩)

theorem readAccounts_fullSweep {now : Instant}
    (checkpoint : ∀ checkpoint, watched.state.store.checkpoints entityType = some checkpoint →
      SweptSince options watched checkpoint.startedAt) :
    ReadAccounts options entityType watched
      (fullSweep options entityType watched.state.store now) := by
  intro begun isBegun
  obtain ⟨kept, isKept, rfl⟩ := Option.map_eq_some_iff.mp isBegun
  exact checkpoint kept (Option.filter_eq_some_iff.mp isKept).1

theorem SweptSince.tick {begun : Instant} (swept : SweptSince options watched begun)
    (elapsed : Nat) :
    SweptSince options (watchStep options readers entityType (.edit (.tick elapsed)) watched)
      begun :=
  ⟨swept.1.trans (le_add_of_nonneg_right (Int.natCast_nonneg elapsed)), swept.2⟩

theorem ReadAccounts.tick {activity : Activity}
    (reading : ReadAccounts options entityType watched activity) (elapsed : Nat) :
    ReadAccounts options entityType
      (watchStep options readers entityType (.edit (.tick elapsed)) watched) activity := by
  cases activity with
  | idle => trivial
  | sweeping now startedAt start => exact fun begun isBegun => (reading begun isBegun).tick elapsed
  | polling now cursor changedSince => exact reading
  | backfilling now window lastFullSweep start newestRead =>
    obtain ⟨isCursor, isFrom, serverTime, isTime, inOrder, notAhead, accounted⟩ := reading
    exact ⟨isCursor, isFrom, serverTime, isTime, inOrder,
      notAhead.trans (le_add_of_nonneg_right (Int.natCast_nonneg elapsed)), accounted⟩

section Puts

variable {position : Nat} {record : EntityPayload}

theorem SweptSince.put {begun : Instant} (swept : SweptSince options watched begun)
    (stamped : StampsInOverlap options (.edit (.put position record)) watched) :
    SweptSince options
      (watchStep options readers entityType (.edit (.put position record)) watched) begun :=
  ⟨swept.1, swept.2.put position ((sub_le_sub_right swept.1 _).trans stamped)⟩

theorem ReadAccounts.put {activity : Activity}
    (reading : ReadAccounts options entityType watched activity)
    (stamped : StampsInOverlap options (.edit (.put position record)) watched) :
    ReadAccounts options entityType
      (watchStep options readers entityType (.edit (.put position record)) watched) activity := by
  cases activity with
  | idle => trivial
  | sweeping now startedAt start => exact fun begun isBegun => (reading begun isBegun).put stamped
  | polling now cursor changedSince => exact reading
  | backfilling now window lastFullSweep start newestRead =>
    obtain ⟨isCursor, isFrom, serverTime, isTime, inOrder, notAhead, accounted⟩ := reading
    exact ⟨isCursor, isFrom, serverTime, isTime, inOrder, notAhead, fun notFirst =>
      (accounted notFirst).put position ((sub_le_sub_right notAhead _).trans stamped)⟩

end Puts

theorem Accounting.edit (accounting : Accounting options entityType watched) {change : Edit}
    (readsOn : ReadsOn entityType (.edit change) watched)
    (stamped : StampsInOverlap options (.edit change) watched) :
    Accounting options entityType
      (watchStep options readers entityType (.edit change) watched) := by
  have covering : Covering entityType
      (watchStep options readers entityType (.edit change) watched) :=
    accounting.covering.watchStep readsOn
  cases change with
  | tick elapsed =>
    refine ⟨covering, ?_, ?_, accounting.reading.tick elapsed⟩
    · intro cursor isCursor
      obtain ⟨notAhead, accounted⟩ := accounting.cursor cursor isCursor
      exact ⟨notAhead.trans (le_add_of_nonneg_right (Int.natCast_nonneg elapsed)), accounted⟩
    · intro checkpoint kept
      exact (accounting.checkpoint checkpoint kept).tick elapsed
  | put position record =>
    refine ⟨covering, ?_, ?_, accounting.reading.put stamped⟩
    · intro cursor isCursor
      obtain ⟨notAhead, accounted⟩ := accounting.cursor cursor isCursor
      exact ⟨notAhead, accounted.put position ((sub_le_sub_right notAhead _).trans stamped)⟩
    · intro checkpoint kept
      exact (accounting.checkpoint checkpoint kept).put stamped

theorem Accounting.sync (accounting : Accounting options entityType watched) (now : Instant) :
    Accounting options entityType
      (watchStep options readers entityType (.sync now) watched) := by
  have covering : Covering entityType
      (watchStep options readers entityType (.sync now) watched) :=
    accounting.covering.watchStep trivial
  obtain ⟨⟨book, store, activity⟩, sweep, backfill⟩ := watched
  cases activity with
  | idle =>
    refine ⟨covering, accounting.cursor, accounting.checkpoint, ?_⟩
    change ReadAccounts options entityType _ (syncEntityType options entityType store now)
    obtain isIdle | sweeps | ⟨changedSince, isCursor, polls⟩ :=
      syncEntityType_begins options entityType store now
    · rw [isIdle]
      trivial
    · rw [sweeps]
      exact readAccounts_fullSweep accounting.checkpoint
    · rw [polls]
      exact isCursor
  | _ => exact ⟨covering, accounting.cursor, accounting.checkpoint, accounting.reading⟩

section Answers

theorem Accounting.sweepTrack (accounting : Accounting options entityType watched)
    {now : Instant} {startedAt : Option Instant} {start : Nat}
    (sweeps : watched.state.activity = .sweeping now startedAt start) :
    let begun := startedAt.getD watched.state.book.clock
    begun ≤ watched.state.book.clock ∧
      Accounted watched.state.book watched.state.store.held
        (watched.sweepTrack startedAt).owed (begun - options.cdcOverlap) := by
  have reading := accounting.reading
  rw [sweeps] at reading
  cases startedAt with
  | none => exact ⟨le_rfl, accounted_ofBook⟩
  | some begun => exact reading begun rfl

theorem Accounting.backfillTrack (accounting : Accounting options entityType watched)
    (overlap : 0 ≤ options.cdcOverlap) {now serverTime : Instant} {window : BackfillWindow}
    {lastFullSweep newestRead : Option Instant} {start : Nat}
    (backfills : watched.state.activity =
      .backfilling now window lastFullSweep start newestRead)
    (isTime : window.serverTime = some serverTime) :
    Accounted watched.state.book watched.state.store.held
      (watched.backfillTrack (window.range now) start).owed
      (serverTime - options.cdcOverlap) := by
  have reading := accounting.reading
  rw [backfills] at reading
  obtain ⟨isCursor, isFrom, known, isKnown, -, -, accounted⟩ := reading
  obtain rfl : known = serverTime := Option.some_injective _ (isKnown.symm.trans isTime)
  unfold Watched.backfillTrack
  split_ifs with first
  · refine accounted_window ?_ ?_
    · change Accounted _ _ [] window.from
      rw [isFrom]
      exact (accounting.cursor window.cursor isCursor).2
    · change known - options.cdcOverlap ≤ window.serverTime.getD now
      rw [isTime]
      exact sub_le_self known overlap
  · exact accounted first

theorem Accounting.held_answered (accounting : Accounting options entityType watched)
    {request : ReadRequest}
    (answers : answered options readers entityType watched.state.store watched.state.activity
      (watched.state.book.answer request) = .ok (after, next))
    {record : EntityPayload} (recordMem : record ∈ watched.state.book.records)
    (live : record.isDeleted = false)
    (isHeld : watched.state.store.held (keyOf record) = some (versionOf record)) :
    after.held (keyOf record) = some (versionOf record) := by
  obtain ⟨written, heldEq, read⟩ := answered_held answers
  rw [heldEq]
  exact held_foldl_receive accounting.covering.follows read live recordMem (.inr isHeld)

theorem Accounting.answered (accounting : Accounting options entityType watched)
    {request : ReadRequest}
    (answers : answered options readers entityType watched.state.store watched.state.activity
      (watched.state.book.answer request) = .ok (after, next))
    {owed : List EntityPayload} {bound : Instant}
    (accounted : Accounted watched.state.book watched.state.store.held owed bound) :
    Accounted watched.state.book after.held owed bound := by
  intro record recordMem live before
  exact (accounted record recordMem live before).imp_right
    (accounting.held_answered answers recordMem live)

theorem Accounting.sweepPage (accounting : Accounting options entityType watched)
    {now : Instant} {startedAt : Option Instant} {start : Nat}
    (sweeps : watched.state.activity = .sweeping now startedAt start)
    (writes : sweepPage options readers entityType watched.state.store now startedAt start
      (watched.state.book.queryPage none start options.pageSize) = .ok (after, next)) :
    let passed : Watched :=
      { watched with
        state := { watched.state with store := after, activity := next }
        sweep := (watched.sweepTrack startedAt).pass watched.state.book start options.pageSize }
    Covering entityType passed → (next = .idle → Paid passed.sweep after) →
      Accounting options entityType passed := by
  intro passed covering paid
  obtain ⟨notAhead, accounted⟩ := accounting.sweepTrack sweeps
  have answers : Mirror.answered options readers entityType watched.state.store
      watched.state.activity (watched.state.book.answer
        (.queryPage none start options.pageSize)) = .ok (after, next) := by
    rw [sweeps]
    exact writes
  have swept := accounting.answered answers accounted
  obtain ⟨-, ⟨-, rfl, cursorsEq, checkpointsEq⟩ | ⟨-, rfl, cursorsEq, checkpointsEq⟩⟩ :=
    sweepPage_ok writes
  · refine ⟨covering, ?_, ?_, trivial⟩
    · intro cursor isCursor
      change (after.cursors entityType).lastCdcCursor = some cursor at isCursor
      rw [cursorsEq, Function.update_self] at isCursor
      cases isCursor
      exact ⟨notAhead, swept.paid (paid rfl)⟩
    · intro checkpoint kept
      change after.checkpoints entityType = some checkpoint at kept
      rw [checkpointsEq, Function.update_self] at kept
      cases kept
  · refine ⟨covering, ?_, ?_, ?_⟩
    · intro cursor isCursor
      change (after.cursors entityType).lastCdcCursor = some cursor at isCursor
      rw [cursorsEq] at isCursor
      obtain ⟨notPast, held⟩ := accounting.cursor cursor isCursor
      exact ⟨notPast, accounting.answered answers held⟩
    · intro checkpoint kept
      change after.checkpoints entityType = some checkpoint at kept
      rw [checkpointsEq, Function.update_self] at kept
      cases kept
      exact ⟨notAhead, swept⟩
    · rintro begun ⟨⟩
      exact ⟨notAhead, swept⟩

/-- A poll moves the cursor to the clock of the book, and has read what is stamped
before that as far back as the feed looks. -/
theorem Accounting.pollAnswered (accounting : Accounting options entityType watched)
    (capped : options.cdcResponseCap ≤ cdcCap) {now changedSince : Instant} {cursor : SyncCursor}
    (polls : watched.state.activity = .polling now cursor changedSince)
    (covers : PollCovers options .answer watched)
    (writes : pollAnswered options readers entityType watched.state.store now cursor changedSince
      (watched.state.book.cdcPage (changedSince - options.cdcOverlap)) = .ok (after, next)) :
    let passed : Watched :=
      { watched with state := { watched.state with store := after, activity := next } }
    Covering entityType passed → Accounting options entityType passed := by
  intro passed covering
  have isCursor := accounting.reading
  rw [polls] at isCursor
  obtain ⟨notAhead, accounted⟩ := accounting.cursor changedSince isCursor
  have answers : Mirror.answered options readers entityType watched.state.store
      watched.state.activity (watched.state.book.answer
        (.cdcPage (changedSince - options.cdcOverlap))) = .ok (after, next) := by
    rw [polls]
    exact writes
  obtain ⟨-, rfl, rfl⟩ | ⟨inOrder, ⟨short, rfl, heldEq, cursorsEq, checkpointsEq⟩ |
    ⟨-, rfl, rfl⟩⟩ := pollAnswered_ok writes
  · exact ⟨covering, accounting.cursor, accounting.checkpoint,
      readAccounts_fullSweep accounting.checkpoint⟩
  · refine ⟨covering, ?_, ?_, trivial⟩
    · intro advanced isAdvanced
      change (after.cursors entityType).lastCdcCursor = some advanced at isAdvanced
      rw [cursorsEq, Function.update_self] at isAdvanced
      have toClock : advanced = watched.state.book.clock := by
        change some (max watched.state.book.clock changedSince) = some advanced at isAdvanced
        rw [max_eq_left notAhead] at isAdvanced
        exact (Option.some_injective _ isAdvanced).symm
      rw [toClock]
      refine ⟨le_rfl, fun record recordMem live _ => ?_⟩
      by_cases asked : changedSince - options.cdcOverlap ≤ record.lastUpdatedUtc
      · by_cases reached : watched.state.book.clock - cdcLookback ≤ record.lastUpdatedUtc
        · right
          change after.held _ = _
          rw [heldEq]
          exact held_of_polled accounting.covering.follows capped short recordMem live asked reached
        · simp only [PollCovers, polls] at covers
          exact .inr (accounting.held_answered answers recordMem live
            (covers short record recordMem live asked (not_le.mp reached)))
      · exact accounting.answered answers accounted record recordMem live (not_le.mp asked)
    · intro checkpoint kept
      change after.checkpoints entityType = some checkpoint at kept
      rw [checkpointsEq] at kept
      obtain ⟨notPast, swept⟩ := accounting.checkpoint checkpoint kept
      exact ⟨notPast, accounting.answered answers swept⟩
  · exact ⟨covering, accounting.cursor, accounting.checkpoint, isCursor, rfl,
      watched.state.book.clock, rfl, notAhead, le_rfl, fun notFirst => absurd rfl notFirst⟩

theorem Accounting.backfillPage (accounting : Accounting options entityType watched)
    (overlap : 0 ≤ options.cdcOverlap) {now : Instant} {window : BackfillWindow}
    {lastFullSweep newestRead : Option Instant} {start : Nat}
    (backfills : watched.state.activity =
      .backfilling now window lastFullSweep start newestRead)
    (writes : backfillPage options readers entityType watched.state.store now window
      lastFullSweep start newestRead (watched.state.book.queryPage (some (window.range now))
        start options.pageSize) = .ok (after, next)) :
    let passed : Watched :=
      { watched with
        state := { watched.state with store := after, activity := next }
        backfill := (watched.backfillTrack (window.range now) start).pass watched.state.book
          start options.pageSize }
    Covering entityType passed → (next = .idle → Paid passed.backfill after) →
      Accounting options entityType passed := by
  intro passed covering paid
  have reading := accounting.reading
  rw [backfills] at reading
  obtain ⟨isCursor, isFrom, serverTime, isTime, inOrder, notAhead, -⟩ := reading
  have answers : Mirror.answered options readers entityType watched.state.store
      watched.state.activity (watched.state.book.answer
        (.queryPage (some (window.range now)) start options.pageSize)) = .ok (after, next) := by
    rw [backfills]
    exact writes
  have read := accounting.answered answers (accounting.backfillTrack overlap backfills isTime)
  obtain ⟨-, checkpointsEq, ends⟩ := backfillPage_ok writes
  have checkpoint : ∀ checkpoint, after.checkpoints entityType = some checkpoint →
      SweptSince options passed checkpoint.startedAt := by
    intro checkpoint kept
    rw [checkpointsEq] at kept
    obtain ⟨notPast, swept⟩ := accounting.checkpoint checkpoint kept
    exact ⟨notPast, accounting.answered answers swept⟩
  obtain ⟨-, rfl, cursorsEq⟩ | ⟨-, cursorsEq, newest, rfl⟩ := ends
  · refine ⟨covering, ?_, checkpoint, trivial⟩
    intro cursor isAdvanced
    change (after.cursors entityType).lastCdcCursor = some cursor at isAdvanced
    rw [cursorsEq, Function.update_self, isTime] at isAdvanced
    have toTime : cursor = serverTime := by
      change some (max serverTime window.cursor) = some cursor at isAdvanced
      rw [max_eq_left inOrder] at isAdvanced
      exact (Option.some_injective _ isAdvanced).symm
    rw [toTime]
    exact ⟨notAhead, read.paid (paid rfl)⟩
  · refine ⟨covering, ?_, checkpoint, ?_⟩
    · intro cursor isKept
      change (after.cursors entityType).lastCdcCursor = some cursor at isKept
      rw [cursorsEq] at isKept
      obtain ⟨notPast, held⟩ := accounting.cursor cursor isKept
      exact ⟨notPast, accounting.answered answers held⟩
    · refine ⟨?_, isFrom, serverTime, isTime, inOrder, notAhead, fun _ => read⟩
      change (after.cursors entityType).lastCdcCursor = some window.cursor
      rw [cursorsEq]
      exact isCursor

theorem Accounting.answer (accounting : Accounting options entityType watched)
    (capped : options.cdcResponseCap ≤ cdcCap) (overlap : 0 ≤ options.cdcOverlap)
    (readsOn : ReadsOn entityType .answer watched)
    (covers : PollCovers options .answer watched) :
    Accounting options entityType (watchStep options readers entityType .answer watched) := by
  obtain ⟨covering, completes⟩ : Covering entityType
        (watchStep options readers entityType .answer watched) ∧
      CompletesPaid options readers entityType .answer watched :=
    accounting.covering.answer readsOn
  obtain ⟨wrote, request, after, next, requested, answers, stepped⟩ |
    ⟨failed, activity, stepped, isActivity⟩ :=
      step_answer options readers entityType watched
  · unfold watchStep at covering ⊢
    unfold CompletesPaid watchStep at completes
    cases activityEq : watched.state.activity with
    | idle =>
      rw [activityEq] at requested
      cases requested
    | sweeping now startedAt start =>
      simp only [activityEq, wrote, stepped, if_true] at covering completes ⊢
      rw [activityEq] at requested answers
      cases requested
      exact accounting.sweepPage activityEq answers covering (completes trivial)
    | polling now cursor changedSince =>
      simp only [activityEq, stepped] at covering ⊢
      rw [activityEq] at requested answers
      cases requested
      exact accounting.pollAnswered capped activityEq covers answers covering
    | backfilling now window lastFullSweep start newestRead =>
      simp only [activityEq, wrote, stepped, if_true] at covering completes ⊢
      rw [activityEq] at requested answers
      cases requested
      exact accounting.backfillPage overlap activityEq answers covering (completes trivial)
  · have watchEq : Mirror.watchStep options readers entityType .answer watched =
        { watched with state := { watched.state with activity } } := by
      unfold Mirror.watchStep
      rw [stepped]
      cases watched.state.activity <;> simp [failed]
    rw [watchEq] at covering ⊢
    refine ⟨covering, accounting.cursor, accounting.checkpoint, ?_⟩
    change ReadAccounts options entityType _ activity
    rcases isActivity with rfl | rfl
    · trivial
    · exact accounting.reading
end Answers

/-- The reads keep their place, the edits are stamped within the overlap, and a
complete poll asks for nothing unread that the feed no longer looks back to. -/
def ReadsCovered (options : SyncOptions) (entityType : EntityType) (event : SyncEvent)
    (watched : Watched) : Prop :=
  ReadsOn entityType event watched ∧ StampsInOverlap options event watched ∧
    PollCovers options event watched

theorem Accounting.watchStep (accounting : Accounting options entityType watched)
    (capped : options.cdcResponseCap ≤ cdcCap) (overlap : 0 ≤ options.cdcOverlap)
    (covered : ReadsCovered options entityType event watched) :
    Accounting options entityType
      (watchStep options readers entityType event watched) := by
  obtain ⟨readsOn, stamped, covers⟩ := covered
  cases event with
  | edit change => exact accounting.edit readsOn stamped
  | sync now => exact accounting.sync now
  | answer => exact accounting.answer capped overlap readsOn covers
  | interrupt =>
    have covering : Covering entityType
        (Mirror.watchStep options readers entityType .interrupt watched) :=
      accounting.covering.watchStep trivial
    exact ⟨covering, accounting.cursor, accounting.checkpoint, trivial⟩

theorem Accounting.cursorSound (accounting : Accounting options entityType watched) :
    CursorSound options entityType watched.state := by
  intro cursor isCursor record recordMem live before
  exact ((accounting.cursor cursor isCursor).2 record recordMem live before).resolve_left
    List.not_mem_nil

theorem accounting_ofState {state : Syncing}
    (follows : Follows entityType state.book state.store.held) (idle : state.activity = .idle)
    (noCursor : (state.store.cursors entityType).lastCdcCursor = none)
    (noCheckpoint : state.store.checkpoints entityType = none) :
    Accounting options entityType (.ofState state) := by
  refine ⟨covering_ofState follows idle, ?_, ?_, ?_⟩
  · intro cursor isCursor
    cases noCursor.symm.trans isCursor
  · intro checkpoint kept
    cases noCheckpoint.symm.trans kept
  · change ReadAccounts options entityType _ state.activity
    rw [idle]
    trivial

/-- In every run whose reads are covered, no live record stamped before the cursor
less the overlap is missing from the replica. -/
theorem cursorSound_of_readsCovered {state : Syncing} {events : List SyncEvent}
    (capped : options.cdcResponseCap ≤ cdcCap) (overlap : 0 ≤ options.cdcOverlap)
    (follows : Follows entityType state.book state.store.held) (idle : state.activity = .idle)
    (noCursor : (state.store.cursors entityType).lastCdcCursor = none)
    (noCheckpoint : state.store.checkpoints entityType = none)
    (covered : EveryStep (watchStep options readers entityType)
      (ReadsCovered options entityType) (.ofState state) events) :
    CursorSound options entityType
      (runFrom (watchStep options readers entityType) (.ofState state) events).state :=
  (invariant_of_everyStep (Accounting options entityType)
    (fun _ _ accounting => accounting.watchStep capped overlap)
    (accounting_ofState follows idle noCursor noCheckpoint) covered).cursorSound

end Steps

/-! ### A customer edited while the local clock is behind -/

namespace SlowClock

def day (number : Nat) : Instant :=
  number * 86400

def readers : TextReaders := plainLibrary.toTextReaders

def options : SyncOptions where
  pageSize := 2
  cdcMaxAge := 25 * 86400
  cdcResponseCap := 1000
  uncoveredSweepInterval := 3600
  cdcOverlap := 300

def customer (syncToken : String) (lastUpdatedUtc : Instant) : EntityPayload where
  entityType := .customer
  qboId := "1"
  syncToken
  lastUpdatedUtc
  isDeleted := false
  rawJson := .object [("DisplayName", .string "Pool Shop")]

def start : Syncing where
  book := ⟨[customer "0" (day 0)], day 1, fun _ => true⟩
  store := .empty
  activity := .idle

theorem follows : Follows .customer start.book start.store.held where
  typed := by decide
  numbered := by decide +kernel
  distinct := by decide
  known := fun _ _ _ isHeld => by cases isHeld

def editedAfterSweep : List SyncEvent :=
  [.sync (day 1), .answer, .edit (.tick 86400), .edit (.put 0 (customer "1" (day 2)))]

theorem editAllowed : EditAllowed .customer
    (runFrom (watchStep options readers .customer) (.ofState start)
      [.sync (day 1), .answer, .edit (.tick 86400)]).state.book
    (.put 0 (customer "1" (day 2))) := by
  refine ⟨rfl, by decide +kernel, ?_⟩
  intro existing existingMem _
  obtain rfl : existing = customer "0" (day 0) := List.mem_singleton.mp existingMem
  decide +kernel

def polledSoon : List SyncEvent :=
  editedAfterSweep ++ [.edit (.tick 86400), .sync (day 3), .answer]

theorem polledSoon_covered :
    EveryStep (watchStep options readers .customer) (ReadsCovered options .customer)
      (.ofState start) polledSoon := by
  refine ⟨⟨trivial, trivial, trivial⟩, ⟨?_, trivial, trivial⟩, ⟨trivial, trivial, trivial⟩,
    ⟨editAllowed, ?_, trivial⟩, ⟨trivial, trivial, trivial⟩, ⟨trivial, trivial, trivial⟩,
    ⟨trivial, trivial, ?_⟩, trivial⟩
  · exact fun _ recordMem => (by cases recordMem)
  · change day 2 - 300 ≤ day 2
    decide
  · intro _ record recordMem _ _ late
    obtain rfl : record = customer "1" (day 2) := List.mem_singleton.mp recordMem
    change day 2 < day 3 - cdcLookback at late
    exact absurd late (by decide)

theorem polledSoon_cursorSound :
    CursorSound options .customer
      (runFrom (watchStep options readers .customer) (.ofState start) polledSoon).state :=
  cursorSound_of_readsCovered (by decide) (by decide) follows rfl rfl rfl polledSoon_covered

/-- The customer is polled again 38 days after the edit, when the local clock has
counted 18. -/
def polledLate : List SyncEvent :=
  editedAfterSweep ++ [.edit (.tick (38 * 86400)), .sync (day 20), .answer]

/-- The poll asks back to the first day, the feed looks back to the tenth, and the
edit of the second is behind the cursor unread. -/
theorem polledLate_not_cursorSound :
    EveryStep (watchStep options readers .customer) (fun event watched =>
        ReadsOn .customer event watched ∧ StampsInOverlap options event watched)
        (.ofState start) polledLate ∧
      ¬CursorSound options .customer
        (runFrom (watchStep options readers .customer) (.ofState start) polledLate).state := by
  refine ⟨?_, ?_⟩
  · refine ⟨⟨trivial, trivial⟩, ⟨?_, trivial⟩, ⟨trivial, trivial⟩, ⟨editAllowed, ?_⟩,
      ⟨trivial, trivial⟩, ⟨trivial, trivial⟩, ⟨trivial, trivial⟩, trivial⟩
    · exact fun _ recordMem => (by cases recordMem)
    · change day 2 - 300 ≤ day 2
      decide
  · intro sound
    have isHeld := sound (day 40) rfl (customer "1" (day 2)) (.head _) rfl (by decide)
    have holdsOld : (runFrom (watchStep options readers .customer) (.ofState start)
        polledLate).state.store.held (.customer, "1") = some ⟨"0", day 0, false⟩ :=
      rfl
    exact absurd (holdsOld.symm.trans isHeld) (by decide)

end SlowClock

end Mirror

end QuickBooks
