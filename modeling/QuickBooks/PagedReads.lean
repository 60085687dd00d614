import QuickBooks.SyncSteps

/-!
# Paged reads of a changing book

A sweep and a backfill take their pages by position from records that may change
between two pages.  A read owes the records that it matched when it began and that
were not changed since.  Every one of them is still unread or held, as long as no
unread one has come to stand before the start of the next page.
-/

namespace QuickBooks

namespace Mirror

open ExceptPrograms TransitionRuns
open Outbox (EntityPayload)

/-- Of a paged read, the records that it owes, and the ids of those that stood
behind its last page. -/
structure Track where
  range : Option UpdatedRange
  owed : List EntityPayload
  unread : List String

namespace Track

/-- A read begins: it owes what it matches. -/
def ofBook (range : Option UpdatedRange) (book : BookOfRecord) : Track where
  range
  owed := book.matching range
  unread := (book.matching range).map EntityPayload.qboId

/-- A record that changes is no longer owed. -/
def without (track : Track) (qboId : String) : Track :=
  { track with
    owed := track.owed.filter fun record => record.qboId ≠ qboId
    unread := track.unread.filter fun other => other ≠ qboId }

/-- A page was written: what stands behind it is still unread. -/
def pass (track : Track) (book : BookOfRecord) (start size : Nat) : Track :=
  let returned := (book.queryPage track.range start size).entities.length
  let left := (book.matching track.range).drop (start + returned)
  { track with unread := track.unread.filter fun qboId =>
      qboId ∈ left.map EntityPayload.qboId }

def KeepsPlace (track : Track) (book : BookOfRecord) (start : Nat) : Prop :=
  ∀ record ∈ (book.matching track.range).take start, record.qboId ∉ track.unread

instance (track : Track) (book : BookOfRecord) (start : Nat) :
    Decidable (track.KeepsPlace book start) :=
  inferInstanceAs (Decidable (∀ record ∈ _, _))

end Track

/-- A sync with what its reads owe: the sweep under way or interrupted, and the
backfill under way. -/
structure Watched where
  state : Syncing
  sweep : Track
  backfill : Track

section Watch

variable (options : SyncOptions) (readers : TextReaders) (entityType : EntityType)

namespace Watched

def sweepTrack (watched : Watched) (startedAt : Option Instant) : Track :=
  if startedAt.isSome then watched.sweep else .ofBook none watched.state.book

def backfillTrack (watched : Watched) (range : UpdatedRange) (start : Nat) : Track :=
  if start = 0 then .ofBook (some range) watched.state.book else watched.backfill

/-- Whether the answer to the read under way is written. -/
def writes (watched : Watched) : Bool :=
  match watched.state.outcome options readers entityType with
  | some (.ok _) => true
  | _ => false

end Watched

/-- One event, and what becomes of what the reads owe. -/
def watchStep (event : SyncEvent) (watched : Watched) : Watched :=
  let state := step options readers entityType event watched.state
  match event, watched.state.activity with
  | .edit (.put _ record), _ =>
    { state
      sweep := watched.sweep.without record.qboId
      backfill := watched.backfill.without record.qboId }
  | .answer, .sweeping _ startedAt start =>
    if watched.writes options readers entityType then
      { watched with
        state
        sweep := (watched.sweepTrack startedAt).pass watched.state.book start options.pageSize }
    else { watched with state }
  | .answer, .backfilling now window _ start _ =>
    if watched.writes options readers entityType then
      { watched with
        state
        backfill := (watched.backfillTrack (window.range now) start).pass watched.state.book
          start options.pageSize }
    else { watched with state }
  | _, _ => { watched with state }

/-- The edits are those of a book of record, and no page is read past an unread
record that has come to stand before it. -/
def ReadsOn (event : SyncEvent) (watched : Watched) : Prop :=
  match event, watched.state.activity with
  | .edit change, _ => EditAllowed entityType watched.state.book change
  | .answer, .sweeping _ startedAt start =>
    (watched.sweepTrack startedAt).KeepsPlace watched.state.book start
  | .answer, .backfilling now window _ start _ =>
    (watched.backfillTrack (window.range now) start).KeepsPlace watched.state.book start
  | _, _ => True

def Paid (track : Track) (store : Store) : Prop :=
  ∀ record ∈ track.owed, store.held (keyOf record) = some (versionOf record)

/-- A read that completes with this event leaves held what it owes. -/
def CompletesPaid (event : SyncEvent) (watched : Watched) : Prop :=
  let after := watchStep options readers entityType event watched
  match event, watched.state.activity with
  | .answer, .sweeping _ _ _ =>
    watched.writes options readers entityType = true → after.state.activity = .idle →
      Paid after.sweep after.state.store
  | .answer, .backfilling _ _ _ _ _ =>
    watched.writes options readers entityType = true → after.state.activity = .idle →
      Paid after.backfill after.state.store
  | _, _ => True

end Watch

def Covered (book : BookOfRecord) (held : Held) (track : Track) : Prop :=
  ∀ record ∈ track.owed, record ∈ book.matching track.range ∧
    (record.qboId ∈ track.unread ∨ held (keyOf record) = some (versionOf record))

section Tracks

variable {entityType : EntityType} {book : BookOfRecord} {held : Held} {track : Track}
  {record : EntityPayload} {written : List EntityPayload} {request : ReadRequest}
  {start size : Nat}

theorem covered_ofBook (range : Option UpdatedRange) :
    Covered book held (.ofBook range book) :=
  fun _ recordMem => ⟨recordMem, .inl (List.mem_map_of_mem recordMem)⟩

theorem Covered.put (covered : Covered book held track) (position : Nat) :
    Covered (book.edit (.put position record)) held (track.without record.qboId) := by
  intro owed owedMem
  obtain ⟨owedMem, other⟩ := List.mem_filter.mp owedMem
  rw [decide_eq_true_eq] at other
  obtain ⟨matched, unreadOrHeld⟩ := covered owed owedMem
  rw [mem_matching] at matched
  refine ⟨mem_matching.mpr ⟨BookOfRecord.mem_put.mpr (.inr ⟨matched.1, other⟩), matched.2⟩, ?_⟩
  exact unreadOrHeld.imp_left fun unread => List.mem_filter.mpr ⟨unread, by simpa using other⟩

theorem Covered.tick (covered : Covered book held track) (elapsed : Nat) :
    Covered (book.edit (.tick elapsed)) held track :=
  covered

theorem Covered.foldl_receive (covered : Covered book held track)
    (follows : Follows entityType book held)
    (read : written ⊆ (book.answer request).entities) :
    Covered book (written.foldl receive held) track := by
  intro record recordMem
  obtain ⟨matched, unreadOrHeld⟩ := covered record recordMem
  obtain ⟨inBook, live, -⟩ := mem_matching.mp matched
  exact ⟨matched, unreadOrHeld.imp_right fun isHeld =>
    held_foldl_receive follows read live inBook (.inr isHeld)⟩

theorem Covered.pass (covered : Covered book held track)
    (follows : Follows entityType book held)
    (keepsPlace : track.KeepsPlace book start)
    (read : written ⊆ (book.queryPage track.range start size).entities)
    (writes : ∀ record ∈ (book.queryPage track.range start size).entities,
      record ∈ written ∨ held (keyOf record) = some (versionOf record)) :
    Covered book (written.foldl receive held) (track.pass book start size) := by
  intro record recordMem
  have readAnswer : written ⊆ (book.answer (.queryPage track.range start size)).entities := read
  obtain ⟨matched, unreadOrHeld⟩ := covered record recordMem
  obtain ⟨inBook, live, -⟩ := mem_matching.mp matched
  refine ⟨matched, ?_⟩
  rcases unreadOrHeld with unread | isHeld
  · have notBefore : record ∉ (book.matching track.range).take start :=
      fun before => keepsPlace record before unread
    have onPageOrLeft : record ∈ ((book.matching track.range).drop start).take size ∨
        record ∈ (book.matching track.range).drop
          (start + (((book.matching track.range).drop start).take size).length) :=
      mem_page_or_after matched notBefore
    rcases onPageOrLeft with onPage | left
    · exact .inr (held_foldl_receive follows readAnswer live inBook (writes record onPage))
    · exact .inl (List.mem_filter.mpr ⟨unread, decide_eq_true (List.mem_map_of_mem left)⟩)
  · exact .inr (held_foldl_receive follows readAnswer live inBook (.inr isHeld))

theorem Covered.paid (covered : Covered book held (track.pass book start size))
    (short : (book.queryPage track.range start size).entities.length < size) :
    ∀ record ∈ track.owed, held (keyOf record) = some (versionOf record) := by
  intro record recordMem
  refine (covered record recordMem).2.resolve_left fun unread => ?_
  have left := of_decide_eq_true (List.mem_filter.mp unread).2
  change record.qboId ∈ ((book.matching track.range).drop (start +
    (((book.matching track.range).drop start).take size).length)).map EntityPayload.qboId at left
  rw [drop_of_short short] at left
  cases left

theorem mem_freshOf_or_held (follows : Follows entityType book held)
    {entities : List EntityPayload} (recordMem : record ∈ entities)
    (inBook : record ∈ book.records) :
    record ∈ freshOf held entities ∨ held (keyOf record) = some (versionOf record) := by
  by_cases fresh : record ∈ freshOf held entities
  · exact .inl fresh
  · right
    have skipped : (versionOf record).isSkipped (held (keyOf record)) = true := by
      by_contra notSkipped
      exact fresh (List.mem_filter.mpr ⟨recordMem, by simpa using notSkipped⟩)
    cases isHeld : held (keyOf record) with
    | none =>
      rw [isHeld] at skipped
      cases skipped
    | some version =>
      rw [isHeld] at skipped
      dsimp only [Version.isSkipped] at skipped
      rw [follows.not_isOlderThan inBook isHeld, Bool.or_false,
        decide_eq_true_eq] at skipped
      rw [skipped]

end Tracks

section Runs

variable {options : SyncOptions} {readers : TextReaders} {entityType : EntityType}
  {watched : Watched} {event : SyncEvent}

/-- What holds of a sync in every state: what the reads owe is covered. -/
structure Covering (entityType : EntityType) (watched : Watched) : Prop where
  follows : Follows entityType watched.state.book watched.state.store.held
  sweep : Covered watched.state.book watched.state.store.held watched.sweep
  backfill : Covered watched.state.book watched.state.store.held watched.backfill
  sweepRange : watched.sweep.range = none
  backfillRange : ∀ now window lastFullSweep start newestRead,
    watched.state.activity = .backfilling now window lastFullSweep start newestRead →
      start ≠ 0 → watched.backfill.range = some (window.range now)

theorem Covering.sweepTrack (covering : Covering entityType watched)
    (startedAt : Option Instant) :
    Covered watched.state.book watched.state.store.held (watched.sweepTrack startedAt) ∧
      (watched.sweepTrack startedAt).range = none := by
  unfold Watched.sweepTrack
  split_ifs
  · exact ⟨covering.sweep, covering.sweepRange⟩
  · exact ⟨covered_ofBook none, rfl⟩

theorem Covering.backfillTrack (covering : Covering entityType watched) {now : Instant}
    {window : BackfillWindow} {lastFullSweep newestRead : Option Instant} {start : Nat}
    (backfills : watched.state.activity =
      .backfilling now window lastFullSweep start newestRead) :
    Covered watched.state.book watched.state.store.held
        (watched.backfillTrack (window.range now) start) ∧
      (watched.backfillTrack (window.range now) start).range = some (window.range now) := by
  unfold Watched.backfillTrack
  split_ifs with first
  · exact ⟨covered_ofBook _, rfl⟩
  · exact ⟨covering.backfill,
      covering.backfillRange now window lastFullSweep start newestRead backfills first⟩

theorem step_answer (options : SyncOptions) (readers : TextReaders) (entityType : EntityType)
    (watched : Watched) :
    (watched.writes options readers entityType = true ∧ ∃ request after next,
        watched.state.activity.request? options = some request ∧
        answered options readers entityType watched.state.store watched.state.activity
          (watched.state.book.answer request) = .ok (after, next) ∧
        step options readers entityType .answer watched.state =
          { watched.state with store := after, activity := next }) ∨
      (watched.writes options readers entityType = false ∧ ∃ activity,
        step options readers entityType .answer watched.state =
          { watched.state with activity } ∧
        (activity = .idle ∨ activity = watched.state.activity)) := by
  unfold Watched.writes step
  cases comes : watched.state.outcome options readers entityType with
  | none => exact .inr ⟨rfl, _, rfl, .inr rfl⟩
  | some result =>
    obtain ⟨request, requested, answers⟩ := Option.map_eq_some_iff.mp comes
    cases result with
    | error refusal => exact .inr ⟨rfl, .idle, rfl, .inl rfl⟩
    | ok result => exact .inl ⟨rfl, request, result.1, result.2, requested, answers, rfl⟩

section Answers

variable {after : Store} {next : Activity} {request : ReadRequest}

theorem Covering.answered (covering : Covering entityType watched)
    (answers : answered options readers entityType watched.state.store watched.state.activity
      (watched.state.book.answer request) = .ok (after, next)) {track : Track}
    (covered : Covered watched.state.book watched.state.store.held track) :
    Follows entityType watched.state.book after.held ∧
      Covered watched.state.book after.held track := by
  obtain ⟨written, heldEq, read⟩ := answered_held answers
  rw [heldEq]
  exact ⟨covering.follows.foldl_receive read, covered.foldl_receive covering.follows read⟩

theorem Covering.sweepPage (covering : Covering entityType watched) {now : Instant}
    {startedAt : Option Instant} {start : Nat}
    (keepsPlace : (watched.sweepTrack startedAt).KeepsPlace watched.state.book start)
    (writes : sweepPage options readers entityType watched.state.store now startedAt start
      (watched.state.book.queryPage none start options.pageSize) = .ok (after, next)) :
    let track := (watched.sweepTrack startedAt).pass watched.state.book start options.pageSize
    Covered watched.state.book after.held track ∧ (next = .idle → Paid track after) ∧
      ∀ now window lastFullSweep start newestRead,
        next ≠ .backfilling now window lastFullSweep start newestRead := by
  obtain ⟨covered, isRange⟩ := covering.sweepTrack startedAt
  obtain ⟨heldEq, ends⟩ := sweepPage_ok writes
  have passed : Covered watched.state.book after.held
      ((watched.sweepTrack startedAt).pass watched.state.book start options.pageSize) := by
    rw [heldEq]
    refine covered.pass covering.follows keepsPlace ?_ ?_
    · rw [isRange]
      exact List.Subset.refl _
    · rw [isRange]
      exact fun record recordMem => .inl recordMem
  refine ⟨passed, fun isIdle => ?_, ?_⟩
  · obtain ⟨short, -, -, -⟩ | ⟨-, isNext, -, -⟩ := ends
    · refine passed.paid ?_
      rw [isRange]
      exact short
    · rw [isNext] at isIdle
      cases isIdle
  · rintro _ _ _ _ _ rfl
    obtain ⟨-, isNext, -, -⟩ | ⟨-, isNext, -, -⟩ := ends
    · cases isNext
    · cases isNext

theorem Covering.backfillPage (covering : Covering entityType watched) {now : Instant}
    {window : BackfillWindow} {lastFullSweep newestRead : Option Instant} {start : Nat}
    (backfills : watched.state.activity =
      .backfilling now window lastFullSweep start newestRead)
    (keepsPlace : (watched.backfillTrack (window.range now) start).KeepsPlace
      watched.state.book start)
    (writes : backfillPage options readers entityType watched.state.store now window
      lastFullSweep start newestRead (watched.state.book.queryPage (some (window.range now))
        start options.pageSize) = .ok (after, next)) :
    let track := (watched.backfillTrack (window.range now) start).pass watched.state.book start
      options.pageSize
    Covered watched.state.book after.held track ∧ (next = .idle → Paid track after) ∧
      ∀ later otherWindow last laterStart newest,
        next = .backfilling later otherWindow last laterStart newest →
          track.range = some (otherWindow.range later) := by
  obtain ⟨covered, isRange⟩ := covering.backfillTrack backfills
  obtain ⟨heldEq, -, ends⟩ := backfillPage_ok writes
  have inBook : ∀ record ∈ (watched.state.book.queryPage (some (window.range now)) start
      options.pageSize).entities, record ∈ watched.state.book.records := by
    intro record recordMem
    exact (mem_matching.mp (List.mem_of_mem_drop (List.mem_of_mem_take recordMem))).1
  have passed : Covered watched.state.book after.held
      ((watched.backfillTrack (window.range now) start).pass watched.state.book start
        options.pageSize) := by
    rw [heldEq]
    refine covered.pass covering.follows keepsPlace ?_ ?_
    · rw [isRange]
      exact fun record recordMem => (List.mem_filter.mp recordMem).1
    · rw [isRange]
      exact fun record recordMem =>
        mem_freshOf_or_held covering.follows recordMem (inBook record recordMem)
  refine ⟨passed, fun isIdle => ?_, ?_⟩
  · obtain ⟨short, -, -⟩ | ⟨-, -, newest, isNext⟩ := ends
    · refine passed.paid ?_
      rw [isRange]
      exact short
    · rw [isNext] at isIdle
      cases isIdle
  · rintro _ _ _ _ _ rfl
    obtain ⟨-, isNext, -⟩ | ⟨-, -, newest, isNext⟩ := ends
    · cases isNext
    · cases isNext
      exact isRange

end Answers

theorem Covering.answer (covering : Covering entityType watched)
    (readsOn : ReadsOn entityType .answer watched) :
    Covering entityType (watchStep options readers entityType .answer watched) ∧
      CompletesPaid options readers entityType .answer watched := by
  obtain ⟨wrote, request, after, next, requested, answers, stepped⟩ |
    ⟨failed, activity, stepped, isActivity⟩ :=
      step_answer options readers entityType watched
  · have kept : ∀ {track : Track},
        Covered watched.state.book watched.state.store.held track →
          Follows entityType watched.state.book after.held ∧
            Covered watched.state.book after.held track :=
      fun covered => covering.answered answers covered
    have follows := (kept covering.sweep).1
    cases activityEq : watched.state.activity with
    | idle =>
      rw [activityEq] at requested
      cases requested
    | sweeping now startedAt start =>
      rw [activityEq] at requested answers
      cases requested
      simp only [ReadsOn, activityEq] at readsOn
      have watchEq : Mirror.watchStep options readers entityType .answer watched =
          { watched with
            state := { watched.state with store := after, activity := next }
            sweep := (watched.sweepTrack startedAt).pass watched.state.book start
              options.pageSize } := by
        simp only [Mirror.watchStep, activityEq, wrote, stepped, if_true]
      obtain ⟨passed, paid, neverBackfills⟩ := covering.sweepPage readsOn answers
      simp only [CompletesPaid, activityEq, watchEq]
      refine ⟨⟨follows, passed, (kept covering.backfill).2, (covering.sweepTrack startedAt).2,
        ?_⟩, fun _ isIdle => paid isIdle⟩
      intro later window last laterStart newest backfills
      exact absurd backfills (neverBackfills later window last laterStart newest)
    | polling now cursor changedSince =>
      rw [activityEq] at requested answers
      cases requested
      have watchEq : Mirror.watchStep options readers entityType .answer watched =
          { watched with state := { watched.state with store := after, activity := next } } := by
        simp only [Mirror.watchStep, activityEq, stepped]
      simp only [CompletesPaid, activityEq, watchEq]
      refine ⟨⟨follows, (kept covering.sweep).2, (kept covering.backfill).2,
        covering.sweepRange, ?_⟩, trivial⟩
      rintro later window last start newest rfl notFirst
      obtain ⟨-, -, isNext⟩ | ⟨-, ⟨-, isNext, -⟩ | ⟨-, -, isNext⟩⟩ := pollAnswered_ok answers
      · cases isNext
      · cases isNext
      · cases isNext
        exact absurd rfl notFirst
    | backfilling now window lastFullSweep start newestRead =>
      have answersPage := answers
      have requestedPage := requested
      rw [activityEq] at requestedPage answersPage
      cases requestedPage
      simp only [ReadsOn, activityEq] at readsOn
      have watchEq : Mirror.watchStep options readers entityType .answer watched =
          { watched with
            state := { watched.state with store := after, activity := next }
            backfill := (watched.backfillTrack (window.range now) start).pass
              watched.state.book start options.pageSize } := by
        simp only [Mirror.watchStep, activityEq, wrote, stepped, if_true]
      obtain ⟨passed, paid, sameRange⟩ :=
        covering.backfillPage activityEq readsOn answersPage
      simp only [CompletesPaid, activityEq, watchEq]
      refine ⟨⟨follows, (kept covering.sweep).2, passed, covering.sweepRange, ?_⟩,
        fun _ isIdle => paid isIdle⟩
      intro later otherWindow last laterStart newest backfills _
      exact sameRange later otherWindow last laterStart newest backfills
  · have watchEq : Mirror.watchStep options readers entityType .answer watched =
        { watched with state := { watched.state with activity } } := by
      unfold Mirror.watchStep
      rw [stepped]
      cases watched.state.activity <;> simp [failed]
    refine ⟨?_, ?_⟩
    · rw [watchEq]
      refine ⟨covering.follows, covering.sweep, covering.backfill, covering.sweepRange, ?_⟩
      intro later window last start newest backfills
      change activity = _ at backfills
      rcases isActivity with rfl | rfl
      · cases backfills
      · exact covering.backfillRange later window last start newest backfills
    · unfold CompletesPaid
      cases watched.state.activity <;> simp [failed]

theorem Covering.watchStep (covering : Covering entityType watched)
    (readsOn : ReadsOn entityType event watched) :
    Covering entityType (watchStep options readers entityType event watched) := by
  cases event with
  | edit change =>
    have follows := covering.follows.edit readsOn
    cases change with
    | put position record =>
      exact ⟨follows, covering.sweep.put position, covering.backfill.put position,
        covering.sweepRange, covering.backfillRange⟩
    | tick elapsed =>
      exact ⟨follows, covering.sweep.tick elapsed, covering.backfill.tick elapsed,
        covering.sweepRange, covering.backfillRange⟩
  | sync now =>
    obtain ⟨⟨book, store, activity⟩, sweep, backfill⟩ := watched
    cases activity with
    | idle =>
      refine ⟨covering.follows, covering.sweep, covering.backfill, covering.sweepRange, ?_⟩
      intro _ _ _ _ _ backfills
      change syncEntityType options entityType store now = _ at backfills
      obtain isIdle | ⟨_, sweeps⟩ | ⟨_, -, polls⟩ :=
        syncEntityType_cases options entityType store now
      · rw [isIdle] at backfills
        cases backfills
      · rw [sweeps] at backfills
        cases backfills
      · rw [polls] at backfills
        cases backfills
    | _ => exact covering
  | answer => exact (covering.answer readsOn).1
  | interrupt =>
    refine ⟨covering.follows, covering.sweep, covering.backfill, covering.sweepRange, ?_⟩
    rintro _ _ _ _ _ ⟨⟩

/-- A sync whose reads owe nothing yet. -/
def Watched.ofState (state : Syncing) : Watched where
  state
  sweep := ⟨none, [], []⟩
  backfill := ⟨none, [], []⟩

theorem covering_ofState {state : Syncing}
    (follows : Follows entityType state.book state.store.held) (idle : state.activity = .idle) :
    Covering entityType (.ofState state) := by
  refine ⟨follows, fun _ recordMem => (by cases recordMem),
    fun _ recordMem => (by cases recordMem), rfl, ?_⟩
  intro now window lastFullSweep start newestRead backfills
  rw [Watched.ofState, idle] at backfills
  cases backfills

/-- In every run that reads past no unread record, every read that completes
leaves held what was live in its window when it began and was not changed since. -/
theorem completedReads_paid {state : Syncing} {events : List SyncEvent}
    (follows : Follows entityType state.book state.store.held) (idle : state.activity = .idle)
    (readsOn : EveryStep (Mirror.watchStep options readers entityType) (ReadsOn entityType)
      (.ofState state) events) :
    EveryStep (Mirror.watchStep options readers entityType)
      (CompletesPaid options readers entityType) (.ofState state) events := by
  refine EveryStep.of_invariant (Covering entityType)
    (fun _ _ covering readsOn => covering.watchStep readsOn) ?_
    (covering_ofState follows idle) readsOn
  intro watched event covering readsOn
  cases event with
  | answer => exact (covering.answer readsOn).2
  | _ => trivial

end Runs

/-! ### A sweep of four customers in pages of two -/

namespace FourCustomers

def readers : TextReaders := plainLibrary.toTextReaders

def options : SyncOptions where
  pageSize := 2
  cdcMaxAge := 25 * 86400
  cdcResponseCap := 1000
  uncoveredSweepInterval := 3600
  cdcOverlap := 300

def customer (qboId syncToken : String) (isDeleted : Bool) : EntityPayload where
  entityType := .customer
  qboId
  syncToken
  lastUpdatedUtc := 10
  isDeleted
  rawJson := .object [("DisplayName", .string "Pool Shop")]

def start : Syncing where
  book := ⟨[customer "1" "0" false, customer "2" "0" false, customer "3" "0" false,
    customer "4" "0" false], 100, fun _ => true⟩
  store := .empty
  activity := .idle

theorem follows : Follows .customer start.book start.store.held where
  typed := by decide
  numbered := by decide +kernel
  distinct := by decide
  known := fun _ _ _ isHeld => by cases isHeld

def changedBetween : List SyncEvent :=
  [.sync 100, .answer, .edit (.put 0 (customer "1" "1" false)), .answer, .answer]

theorem changedBetween_readsOn :
    EveryStep (watchStep options readers .customer) (ReadsOn .customer) (.ofState start)
      changedBetween := by
  refine ⟨trivial, ?_, ?_, ?_, ?_, trivial⟩
  · exact fun _ recordMem => (by cases recordMem)
  · change EditAllowed .customer start.book (.put 0 (customer "1" "1" false))
    refine ⟨rfl, ?_, ?_⟩
    · decide +kernel
    · decide +kernel
  · change ∀ record ∈ [customer "1" "1" false, customer "2" "0" false],
      record.qboId ∉ ["3", "4"]
    decide
  · change ∀ record ∈ [customer "1" "1" false, customer "2" "0" false, customer "3" "0" false,
      customer "4" "0" false], record.qboId ∉ []
    decide

/-- The sweep pays for the three customers that were not changed. -/
theorem changedBetween_paid :
    EveryStep (watchStep options readers .customer) (CompletesPaid options readers .customer)
      (.ofState start) changedBetween :=
  completedReads_paid follows rfl changedBetween_readsOn

def deletedBetween : List SyncEvent :=
  [.sync 100, .answer, .edit (.put 0 (customer "1" "1" true)), .answer]

/-- The third customer comes to stand before the second page and is not read. -/
theorem deletedBetween_unpaid :
    EditAllowed .customer start.book (.put 0 (customer "1" "1" true)) ∧
      ¬EveryStep (watchStep options readers .customer) (CompletesPaid options readers .customer)
        (.ofState start) deletedBetween := by
  refine ⟨⟨rfl, by decide +kernel, by decide +kernel⟩, ?_⟩
  rintro ⟨-, -, -, completes, -⟩
  have paid := completes rfl rfl
  have held := paid (customer "3" "0" false) (.tail _ (.head _))
  have notHeld : (runFrom (watchStep options readers .customer) (.ofState start)
      deletedBetween).state.store.held (.customer, "3") = none :=
    rfl
  exact absurd (notHeld.symm.trans held) (by simp)

end FourCustomers

end Mirror

end QuickBooks
