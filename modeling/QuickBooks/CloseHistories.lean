import QuickBooks.ClosedPeriods

/-!
# The close history and the lock

Each close and each reopening writes one row of the close history, which says
where the lock was and where it went.  The row of a close takes the closed
period for the new lock, and the row of a reopening takes the reopened period
for the old one.  Both are right exactly when the operation moves the lock
itself: a close that is not before the lock, the reopening of the newest closed
period.
-/

namespace QuickBooks

open KeyedTables TransactionPrograms TransitionRuns
open Ledger

/-- Follow the rows of a close history from a lock; each has to start where the
one before it ended. -/
def replayLock : Option Date → List CloseHistoryRow → Option (Option Date)
  | lock, [] => some lock
  | lock, row :: rows =>
    if row.movedFrom = lock then replayLock row.movedTo rows else none

theorem replayLock_append {lock middle : Option Date} {first second : List CloseHistoryRow}
    (follows : replayLock lock first = some middle) :
    replayLock lock (first ++ second) = replayLock middle second := by
  induction first generalizing lock with
  | nil =>
    rw [replayLock, Option.some.injEq] at follows
    rw [List.nil_append, follows]
  | cons row rows ih =>
    rw [replayLock] at follows
    split_ifs at follows with starts
    rw [List.cons_append, replayLock, if_pos starts]
    exact ih follows

namespace Ledger

section Lock

variable {ledger : Ledger} {periodEnd : Date} {actor note : String}

theorem lockedThrough_recordClose_iff {snapshotId : Nat} :
    (ledger.recordClose periodEnd actor note snapshotId).lockedThrough = some periodEnd ↔
      ∀ locked, ledger.lockedThrough = some locked → locked ≤ periodEnd := by
  rw [lockedThrough_eq_some_iff]
  constructor
  · rintro ⟨-, newest⟩ locked isLocked
    obtain ⟨⟨period, periodMem, closed, rfl⟩, -⟩ := lockedThrough_eq_some_iff.mp isLocked
    by_cases same : period.periodEnd = periodEnd
    · exact same.le
    · exact newest period (mem_upsert_of_ne _ _ _ periodMem same) closed
  · intro notPast
    refine ⟨⟨_, mem_upsert_row _ _ _, rfl, rfl⟩, ?_⟩
    intro period periodMem closed
    rcases mem_upsert _ _ _ periodMem with new | ⟨old, -⟩
    · exact (congrArg Period.periodEnd new).le
    · cases locked : ledger.lockedThrough with
      | none =>
        have isOpen : ledger.IsOpen period.periodEnd := by
          intro last isLast
          rw [locked] at isLast
          cases isLast
        exact absurd ⟨period, old, closed, le_rfl⟩ (isOpen_iff.mp isOpen)
      | some last =>
        have newest := (lockedThrough_eq_some_iff.mp locked).2 period old closed
        exact newest.trans (notPast last locked)

theorem execute_reopenPeriod :
    execute (reopenPeriod periodEnd actor note) ledger =
      if ∃ period ∈ ledger.periods, period.periodEnd = periodEnd ∧ period.isClosed = true then
        (.ok (), ledger.recordReopen periodEnd actor note)
      else (.error .notFound, ledger) := by
  unfold reopenPeriod
  rw [execute_bind_ok _ (execute_get ledger)]
  by_cases closed : ∃ period ∈ ledger.periods,
      period.periodEnd = periodEnd ∧ period.isClosed = true
  · rw [if_pos (by simpa using closed), if_pos closed]
    rfl
  · rw [if_neg (by simpa using closed), if_neg closed]
    rfl

end Lock

def SamePeriods (before after : Ledger) : Prop :=
  after.periods = before.periods ∧ after.closeHistory = before.closeHistory

theorem SamePeriods.lockedThrough {before after : Ledger} (same : SamePeriods before after) :
    after.lockedThrough = before.lockedThrough := by
  unfold Ledger.lockedThrough
  rw [same.1]

theorem Write.samePeriods {kind : WriteKind} {before after : Ledger}
    (write : Write kind before after) (notClose : kind ≠ .close)
    (notReopen : kind ≠ .reopen) : SamePeriods before after := by
  cases write with
  | version | derivedEntry | suppliedEntry | liveReversal | strayReversal | snapshot =>
    exact ⟨rfl, rfl⟩
  | masterData change => rw [change.sameBooks]; exact ⟨rfl, rfl⟩
  | close => exact absurd rfl notClose
  | reopen => exact absurd rfl notReopen

end Ledger

namespace Operation

theorem close_notMem_kinds {operation : Operation} {ledger : Ledger}
    (notClose : ∀ periodEnd actor note, operation ≠ .closePeriod periodEnd actor note) :
    .close ∉ operation.kinds ledger := by
  cases operation with
  | postEntry entry =>
    simp only [kinds, rawEntryKind, Set.mem_singleton_iff]
    split_ifs <;> simp
  | reverseEntry entryId on =>
    rintro ⟨entry, -, kindEq⟩
    revert kindEq
    unfold rawReversalKind
    split_ifs <;> simp
  | closePeriod periodEnd actor note => exact absurd rfl (notClose periodEnd actor note)
  | _ => simp [kinds, documentWrites, openingWrites]

theorem samePeriods {operation : Operation} {ledger : Ledger} (wellFormed : ledger.WellFormed)
    (notClose : ∀ periodEnd actor note, operation ≠ .closePeriod periodEnd actor note)
    (notReopen : ∀ periodEnd actor note, operation ≠ .reopenPeriod periodEnd actor note) :
    SamePeriods ledger (operation.run ledger) := by
  apply (operation.evolves ledger).keeps wellFormed (SamePeriods ledger) ?_ ⟨rfl, rfl⟩
  intro kind kindMem earlier later _ write same
  have step := write.samePeriods
    (fun isClose => close_notMem_kinds notClose (isClose ▸ kindMem))
    (fun isReopen => reopen_notMem_kinds notReopen (isReopen ▸ kindMem))
  exact ⟨step.1.trans same.1, step.2.trans same.2⟩

/-- The rows that an operation adds to the close history say from where to
where it moved the lock. -/
def TellsMove (operation : Operation) (ledger : Ledger) : Prop :=
  ∃ rows, (operation.run ledger).closeHistory = ledger.closeHistory ++ rows ∧
    ∀ row ∈ rows, row.movedFrom = ledger.lockedThrough ∧
      row.movedTo = (operation.run ledger).lockedThrough

/-- A close is not before the lock, and a reopening is of the period that the
lock is at. -/
def MovesLock : Operation → Ledger → Prop
  | closePeriod periodEnd _ _, ledger =>
    (∃ sheet, trialBalance ledger periodEnd = .ok sheet) →
      ∀ locked, ledger.lockedThrough = some locked → locked ≤ periodEnd
  | reopenPeriod periodEnd _ _, ledger =>
    (∃ period ∈ ledger.periods, period.periodEnd = periodEnd ∧ period.isClosed = true) →
      ledger.lockedThrough = some periodEnd
  | _, _ => True

/-- What an operation does to the close history and the lock. -/
inductive HistoryStep (operation : Operation) (ledger : Ledger) : Prop
  | untouched (same : SamePeriods ledger (operation.run ledger))
      (allowed : operation.MovesLock ledger)
  | moved (row : CloseHistoryRow)
      (adds : (operation.run ledger).closeHistory = ledger.closeHistory ++ [row])
      (tells_iff : row.movedFrom = ledger.lockedThrough ∧
        row.movedTo = (operation.run ledger).lockedThrough ↔ operation.MovesLock ledger)

theorem historyStep {ledger : Ledger} (wellFormed : ledger.WellFormed)
    (operation : Operation) : operation.HistoryStep ledger := by
  cases operation with
  | closePeriod periodEnd actor note =>
    cases balances : trialBalance ledger periodEnd with
    | error failure =>
      have unchanged : run (.closePeriod periodEnd actor note) ledger = ledger := by
        rw [run, execute_closePeriod, balances]
      refine .untouched (by rw [unchanged]; exact ⟨rfl, rfl⟩) ?_
      rintro ⟨sheet, found⟩
      rw [balances] at found
      cases found
    | ok sheet =>
      have closed : run (.closePeriod periodEnd actor note) ledger =
          (ledger.recordSnapshot periodEnd sheet).recordClose periodEnd actor note
            ledger.snapshots.length := by
        rw [run, execute_closePeriod, balances]
      refine .moved ⟨nextCloseHistorySeq ledger, actor, ledger.lockedThrough,
        some periodEnd, false, note⟩ (by rw [closed]; rfl) ?_
      have moves : ((ledger.recordSnapshot periodEnd sheet).recordClose periodEnd actor
            note ledger.snapshots.length).lockedThrough = some periodEnd ↔
          ∀ locked, ledger.lockedThrough = some locked → locked ≤ periodEnd :=
        lockedThrough_recordClose_iff
      rw [closed]
      constructor
      · rintro ⟨-, movedTo⟩ -
        exact moves.mp movedTo.symm
      · intro allowed
        exact ⟨rfl, (moves.mpr (allowed ⟨sheet, balances⟩)).symm⟩
  | reopenPeriod periodEnd actor note =>
    by_cases closed : ∃ period ∈ ledger.periods,
        period.periodEnd = periodEnd ∧ period.isClosed = true
    · have reopened : run (.reopenPeriod periodEnd actor note) ledger =
          ledger.recordReopen periodEnd actor note := by
        rw [run, execute_reopenPeriod, if_pos closed]
      refine .moved ⟨nextCloseHistorySeq ledger, actor, some periodEnd,
        (ledger.recordReopen periodEnd actor note).lockedThrough, true, note⟩
        (by rw [reopened]; rfl) ?_
      rw [reopened]
      constructor
      · rintro ⟨movedFrom, -⟩ -
        exact movedFrom.symm
      · intro allowed
        exact ⟨(allowed closed).symm, rfl⟩
    · have refused : run (.reopenPeriod periodEnd actor note) ledger = ledger := by
        rw [run, execute_reopenPeriod, if_neg closed]
      exact .untouched (by rw [refused]; exact ⟨rfl, rfl⟩) fun found => absurd found closed
  | _ => exact .untouched (samePeriods wellFormed (by simp) (by simp)) trivial

theorem tellsMove_iff {ledger : Ledger} (wellFormed : ledger.WellFormed)
    (operation : Operation) : operation.TellsMove ledger ↔ operation.MovesLock ledger := by
  cases operation.historyStep wellFormed with
  | untouched same allowed =>
    refine ⟨fun _ => allowed, fun _ => ⟨[], ?_, fun _ rowMem => by cases rowMem⟩⟩
    rw [same.2, List.append_nil]
  | moved row adds tells_iff =>
    rw [← tells_iff]
    constructor
    · rintro ⟨rows, addsRows, tells⟩
      rw [adds, List.append_cancel_left_eq] at addsRows
      exact tells row (addsRows ▸ List.mem_singleton_self row)
    · intro tells
      refine ⟨[row], adds, fun added addedMem => ?_⟩
      rw [List.mem_singleton.mp addedMem]
      exact tells

theorem replayLock_run {ledger : Ledger} (wellFormed : ledger.WellFormed)
    {operation : Operation} (tells : operation.TellsMove ledger)
    (chained : replayLock none ledger.closeHistory = some ledger.lockedThrough) :
    replayLock none (operation.run ledger).closeHistory =
      some (operation.run ledger).lockedThrough := by
  cases operation.historyStep wellFormed with
  | untouched same _ => rw [same.2, same.lockedThrough, chained]
  | moved row adds _ =>
    obtain ⟨rows, addsRows, tells⟩ := tells
    rw [adds, List.append_cancel_left_eq] at addsRows
    obtain ⟨movedFrom, movedTo⟩ := tells row (addsRows ▸ List.mem_singleton_self row)
    rw [adds, replayLock_append chained, replayLock, if_pos movedFrom, replayLock, movedTo]

end Operation

/-- The operations of a new book's run all tell how they move the lock, and the
history replays to the lock, exactly when each moves the lock itself. -/
theorem closeHistory_chains_iff (company : String) (operations : List Operation) :
    EveryStep Operation.run Operation.TellsMove (createCompany company) operations ∧
        replayLock none ((createCompany company).after operations).closeHistory =
          some ((createCompany company).after operations).lockedThrough ↔
      EveryStep Operation.run Operation.MovesLock (createCompany company) operations := by
  have start : (createCompany company).WellFormed := .createCompany company
  have tells_iff : EveryStep Operation.run Operation.TellsMove (createCompany company)
        operations ↔
      EveryStep Operation.run Operation.MovesLock (createCompany company) operations :=
    everyStep_congr_of_invariant Ledger.WellFormed
      (fun state operation holds => (operation.evolves state).wellFormed holds)
      (fun _ operation holds => operation.tellsMove_iff holds) start operations
  rw [← tells_iff]
  refine ⟨fun both => both.1, fun tells => ⟨tells, ?_⟩⟩
  have both := invariant_of_everyStep
    (fun state => state.WellFormed ∧
      replayLock none state.closeHistory = some state.lockedThrough)
    (fun state operation holds tellsHere =>
      ⟨(operation.evolves state).wellFormed holds.1,
        operation.replayLock_run holds.1 tellsHere holds.2⟩)
    ⟨start, rfl⟩ tells
  exact both.2

/-- A close of February, then of January, and the reopening of January. -/
def closedOutOfOrder : List Operation :=
  [.closePeriod ⟨2027, 2, 28, Eq.refl true⟩ "accountant" "",
    .closePeriod ⟨2027, 1, 31, Eq.refl true⟩ "accountant" "",
    .reopenPeriod ⟨2027, 1, 31, Eq.refl true⟩ "accountant" ""]

/-- The lock stays at the end of February throughout, and the rows say that it
went back to January and on from there. -/
theorem closeHistory_of_closedOutOfOrder :
    ((createCompany "aquamentor").after (closedOutOfOrder.take 2)).lockedThrough =
        some ⟨2027, 2, 28, Eq.refl true⟩ ∧
      ((createCompany "aquamentor").after closedOutOfOrder).lockedThrough =
        some ⟨2027, 2, 28, Eq.refl true⟩ ∧
      (((createCompany "aquamentor").after closedOutOfOrder).closeHistory.map
          fun row => (row.movedFrom, row.movedTo)) =
        [(none, some ⟨2027, 2, 28, Eq.refl true⟩),
          (some ⟨2027, 2, 28, Eq.refl true⟩, some ⟨2027, 1, 31, Eq.refl true⟩),
          (some ⟨2027, 1, 31, Eq.refl true⟩, some ⟨2027, 2, 28, Eq.refl true⟩)] ∧
      replayLock none ((createCompany "aquamentor").after
          (closedOutOfOrder.take 2)).closeHistory ≠
        some ((createCompany "aquamentor").after (closedOutOfOrder.take 2)).lockedThrough := by
  decide +kernel

end QuickBooks
