import QuickBooks.BalanceSheetEquation
import QuickBooks.TrialBalanceSums

/-!
# Closed periods do not change

While a period is closed nothing is posted up to its last day.  So the amounts
of the trial balance at that day stay what they were when the period was
closed, which is what its snapshot keeps.  Only the list of accounts, with
their names and references, can still change.
-/

namespace QuickBooks

open ExceptPrograms KeyedTables KeyedTotals TransactionPrograms TransitionRuns

namespace Ledger

def Locks (ledger : Ledger) (day : Date) : Prop :=
  ∃ period ∈ ledger.periods, period.isClosed = true ∧ day ≤ period.periodEnd

section Lock

variable {ledger : Ledger} {day : Date}

theorem lockedThrough_eq_some_iff {locked : Date} :
    ledger.lockedThrough = some locked ↔
      (∃ period ∈ ledger.periods, period.isClosed = true ∧ period.periodEnd = locked) ∧
        ∀ period ∈ ledger.periods, period.isClosed = true → period.periodEnd ≤ locked := by
  unfold lockedThrough
  rw [List.max?_eq_some_iff, List.mem_map]
  simp only [List.mem_filter, and_assoc, List.mem_map, forall_exists_index, and_imp]
  constructor
  · rintro ⟨isEnd, newest⟩
    exact ⟨isEnd, fun period periodMem closed => newest _ period periodMem closed rfl⟩
  · rintro ⟨isEnd, newest⟩
    refine ⟨isEnd, ?_⟩
    rintro _ period periodMem closed rfl
    exact newest period periodMem closed

theorem isOpen_iff : ledger.IsOpen day ↔ ¬ledger.Locks day := by
  unfold IsOpen Locks
  constructor
  · rintro afterLock ⟨period, periodMem, closed, reaches⟩
    cases locked : ledger.lockedThrough with
    | none =>
      unfold lockedThrough at locked
      rw [List.max?_eq_none_iff, List.map_eq_nil_iff, List.filter_eq_nil_iff] at locked
      exact locked period periodMem closed
    | some last =>
      have isLast := (lockedThrough_eq_some_iff.mp locked).2 period periodMem closed
      exact absurd (reaches.trans isLast) (not_le.mpr (afterLock last locked))
  · intro unreached last locked
    obtain ⟨⟨period, periodMem, closed, rfl⟩, -⟩ := lockedThrough_eq_some_iff.mp locked
    by_contra notAfter
    exact unreached ⟨period, periodMem, closed, not_lt.mp notAfter⟩

theorem Locks.mono {earlier : Date} (locks : ledger.Locks day) (before : earlier ≤ day) :
    ledger.Locks earlier := by
  obtain ⟨period, periodMem, closed, reaches⟩ := locks
  exact ⟨period, periodMem, closed, before.trans reaches⟩

end Lock

section Writes

variable {kind : WriteKind} {before after : Ledger} {day : Date}

theorem lines_recordEntry (ledger : Ledger) (entry : JournalEntry) :
    (ledger.recordEntry entry).lines =
      ledger.lines ++ (stored entry).lines.map fun line => (stored entry, line) := by
  unfold lines recordEntry
  rw [List.flatMap_append, List.flatMap_singleton]

theorem Write.total_lines (write : Write kind before after) (locks : before.Locks day)
    (selects : JournalEntry × JournalLine → Prop) [DecidablePred selects]
    (through : ∀ posted, selects posted → posted.1.entryDate ≤ day)
    (amount : JournalEntry × JournalLine → Int) :
    total selects amount after.lines = total selects amount before.lines := by
  have entry_case : ∀ entry : JournalEntry, before.Accepts entry →
      total selects amount (before.recordEntry entry).lines =
        total selects amount before.lines := by
    intro entry accepted
    have later : total selects amount
        ((stored entry).lines.map fun line => (stored entry, line)) = 0 := by
      apply total_eq_zero
      intro posted postedMem selected
      obtain ⟨line, -, rfl⟩ := List.mem_map.mp postedMem
      have dated := through (stored entry, line) selected
      exact absurd (locks.mono dated) (isOpen_iff.mp accepted.dateOpen)
    rw [lines_recordEntry, total_append, later, add_zero]
  have journal_case : after.journal = before.journal →
      total selects amount after.lines = total selects amount before.lines := by
    intro same
    unfold lines
    rw [same]
  cases write with
  | version | snapshot | close | reopen => exact journal_case rfl
  | derivedEntry ctx saved posts accepted => exact entry_case _ accepted
  | suppliedEntry original accepted => exact entry_case _ accepted
  | liveReversal live reverses accepted => exact entry_case _ accepted
  | strayReversal reverses accepted => exact entry_case _ accepted
  | masterData change =>
    apply journal_case
    rw [change.sameBooks]

theorem Write.locks (write : Write kind before after) (notReopen : kind ≠ .reopen)
    (locks : before.Locks day) : after.Locks day := by
  cases write with
  | version | derivedEntry | suppliedEntry | liveReversal | strayReversal | snapshot =>
    exact locks
  | masterData change =>
    unfold Locks
    rw [change.sameBooks]
    exact locks
  | close periodEnd actor note balances =>
    obtain ⟨period, periodMem, closed, reaches⟩ := locks
    by_cases same : period.periodEnd = periodEnd
    · exact ⟨_, mem_upsert_row _ _ _, rfl, same ▸ reaches⟩
    · exact ⟨period, mem_upsert_of_ne _ _ _ periodMem same, closed, reaches⟩
  | reopen => exact absurd rfl notReopen

/-- The snapshot of every closed period shows what is posted through its last
day. -/
def SnapshotsHold (ledger : Ledger) : Prop :=
  ∀ period ∈ ledger.periods, period.isClosed = true →
    ∃ snapshot ∈ ledger.snapshots, snapshot.snapshotId = period.tbSnapshotId ∧
      snapshot.asOf = period.periodEnd ∧
      ∀ account, ShowsThrough ledger period.periodEnd account
        (amountsIn snapshot.rows account)

theorem Write.showsThrough (write : Write kind before after) (locks : before.Locks day)
    {account : AccountId} {amounts : Money × Money × Money}
    (shows : ShowsThrough before day account amounts) :
    ShowsThrough after day account amounts := by
  have sameSum : ∀ amount : JournalLine → Money,
      sumThrough amount day account after = sumThrough amount day account before :=
    fun amount => write.total_lines locks _ (fun _ selected => selected.1) _
  exact ⟨shows.debit.trans (sameSum _).symm, shows.credit.trans (sameSum _).symm,
    shows.balance.trans (by rw [sameSum, sameSum])⟩

theorem Write.snapshotsHold (write : Write kind before after)
    (wellFormed : before.WellFormed) (hold : before.SnapshotsHold) :
    after.SnapshotsHold := by
  -- a period that was closed before keeps its snapshot
  have kept : ∀ period ∈ before.periods, period.isClosed = true →
      before.snapshots ⊆ after.snapshots →
      ∃ snapshot ∈ after.snapshots, snapshot.snapshotId = period.tbSnapshotId ∧
        snapshot.asOf = period.periodEnd ∧
        ∀ account, ShowsThrough after period.periodEnd account
          (amountsIn snapshot.rows account) := by
    intro period periodMem closed included
    obtain ⟨snapshot, snapshotMem, sameId, sameDay, shows⟩ := hold period periodMem closed
    have locks : before.Locks period.periodEnd := ⟨period, periodMem, closed, le_rfl⟩
    exact ⟨snapshot, included snapshotMem, sameId, sameDay,
      fun account => write.showsThrough locks (shows account)⟩
  intro period periodMem closed
  cases write with
  | version | derivedEntry | suppliedEntry | liveReversal | strayReversal =>
    exact kept period periodMem closed fun _ snapshotMem => snapshotMem
  | masterData change =>
    rw [change.sameBooks] at periodMem
    apply kept period periodMem closed
    rw [change.sameBooks]
    exact fun _ snapshotMem => snapshotMem
  | snapshot balances =>
    exact kept period periodMem closed fun _ => List.mem_append_left _
  | close periodEnd actor note balances =>
    rcases mem_upsert _ _ _ periodMem with new | ⟨old, -⟩
    · subst new
      refine ⟨_, List.mem_append_right _ (List.mem_singleton_self _), rfl, rfl, ?_⟩
      intro account
      have shows := wellFormed.showsThrough balances account
      exact ⟨shows.debit, shows.credit, shows.balance⟩
    · exact kept period old closed fun _ => List.mem_append_left _
  | reopen ledger periodEnd actor note =>
    obtain ⟨earlier, earlierMem, periodEq⟩ := List.mem_map.mp periodMem
    split_ifs at periodEq with same
    · rw [← periodEq] at closed
      exact absurd closed Bool.false_ne_true
    · rw [← periodEq] at closed ⊢
      exact kept earlier earlierMem closed fun _ snapshotMem => snapshotMem

end Writes

end Ledger

/-- Two trial balances agree in their totals and in the amounts of every
account, or both are refused. -/
def SameAmounts : Except LedgerError TrialBalance → Except LedgerError TrialBalance → Prop
  | .ok first, .ok second =>
    first.totalDebits = second.totalDebits ∧ first.totalCredits = second.totalCredits ∧
      ∀ account, first.amounts account = second.amounts account
  | .error _, .error _ => True
  | _, _ => False

open Ledger Operation

theorem sameAmounts_of_sums {before after : Ledger} {day : Date}
    (beforeWellFormed : before.WellFormed) (afterWellFormed : after.WellFormed)
    (sameSums : ∀ amount account,
      sumThrough amount day account after = sumThrough amount day account before)
    (sameTotals : ∀ amount, totalThrough amount day after = totalThrough amount day before) :
    SameAmounts (trialBalance before day) (trialBalance after day) := by
  have beforeSucceeds := beforeWellFormed.trialBalance_succeeds_iff day
  have afterSucceeds := afterWellFormed.trialBalance_succeeds_iff day
  rw [sameTotals, ← beforeSucceeds] at afterSucceeds
  cases first : trialBalance before day with
  | error failure =>
    cases second : trialBalance after day with
    | error failure => trivial
    | ok sheet =>
      obtain ⟨other, found⟩ := afterSucceeds.mp ⟨sheet, second⟩
      rw [first] at found
      cases found
  | ok sheet =>
    obtain ⟨later, second⟩ := afterSucceeds.mpr ⟨sheet, first⟩
    rw [second]
    obtain ⟨debits, credits⟩ := beforeWellFormed.trialBalance_totals first
    obtain ⟨laterDebits, laterCredits⟩ := afterWellFormed.trialBalance_totals second
    rw [sameTotals] at laterDebits laterCredits
    refine ⟨Money.ext (debits.trans laterDebits.symm),
      Money.ext (credits.trans laterCredits.symm), ?_⟩
    intro account
    have shows := beforeWellFormed.showsThrough first account
    have laterShows := afterWellFormed.showsThrough second account
    refine shows.unique ⟨laterShows.debit.trans (sameSums _ _),
      laterShows.credit.trans (sameSums _ _), ?_⟩
    rw [laterShows.balance, sameSums, sameSums]

section Runs

theorem Operation.reopen_notMem_kinds {operation : Operation} {ledger : Ledger}
    (notReopen : ∀ periodEnd actor note, operation ≠ .reopenPeriod periodEnd actor note) :
    .reopen ∉ operation.kinds ledger := by
  cases operation with
  | postEntry entry =>
    simp only [kinds, rawEntryKind, Set.mem_singleton_iff]
    split_ifs <;> simp
  | reverseEntry entryId on =>
    rintro ⟨entry, -, kindEq⟩
    revert kindEq
    unfold rawReversalKind
    split_ifs <;> simp
  | reopenPeriod periodEnd actor note => exact absurd rfl (notReopen periodEnd actor note)
  | _ => simp [kinds, documentWrites, openingWrites]

theorem total_lines_after {ledger : Ledger} {operations : List Operation} {day : Date}
    (wellFormed : ledger.WellFormed) (locks : ledger.Locks day)
    (noReopen : ∀ operation ∈ operations, ∀ periodEnd actor note,
      operation ≠ .reopenPeriod periodEnd actor note)
    (selects : JournalEntry × JournalLine → Prop) [DecidablePred selects]
    (through : ∀ posted, selects posted → posted.1.entryDate ≤ day)
    (amount : JournalEntry × JournalLine → Int) :
    total selects amount (ledger.after operations).lines =
      total selects amount ledger.lines := by
  have permits : EveryStep Operation.run
      (fun operation state => operation.kinds state ⊆ {kind | kind ≠ .reopen})
      ledger operations := by
    apply everyStep_of_forall
    intro operation operationMem state kind kindMem isReopen
    rw [isReopen] at kindMem
    exact Operation.reopen_notMem_kinds (noReopen operation operationMem) kindMem
  have both := after_keeps wellFormed _ permits
    (fun state => state.Locks day ∧
      total selects amount state.lines = total selects amount ledger.lines)
    (by
      rintro kind notReopen earlier later - write ⟨stillLocks, same⟩
      exact ⟨write.locks notReopen stillLocks,
        (write.total_lines stillLocks selects through amount).trans same⟩)
    ⟨locks, rfl⟩
  exact both.2

theorem Reachable.snapshotsHold {ledger : Ledger} (reachable : Reachable ledger) :
    ledger.SnapshotsHold := by
  obtain ⟨company, operations, rfl⟩ := reachable
  apply after_keeps (WellFormed.createCompany company) Set.univ
  · exact everyStep_of_forall fun _ _ _ => Set.subset_univ _
  · intro kind _ earlier later wellFormed write hold
    exact write.snapshotsHold wellFormed hold
  · exact fun _ periodMem => nomatch periodMem

/-- Through a run without reopening, the trial balance at a closed day keeps the
amounts of every account and the totals, and they are those of the snapshot
stored when the period ending on that day was closed. -/
theorem trialBalance_of_closed_day {ledger : Ledger} {operations : List Operation}
    {lastClosed day : Date} (reachable : Reachable ledger)
    (locked : ledger.lockedThrough = some lastClosed) (closed : day ≤ lastClosed)
    (noReopen : ∀ operation ∈ operations, ∀ periodEnd actor note,
      operation ≠ .reopenPeriod periodEnd actor note) :
    SameAmounts (trialBalance ledger day) (trialBalance (ledger.after operations) day) ∧
      ∀ period ∈ ledger.periods, period.isClosed = true → period.periodEnd = day →
        ∃ snapshot ∈ ledger.snapshots, snapshot.snapshotId = period.tbSnapshotId ∧
          snapshot.asOf = day ∧
          ∀ sheet, trialBalance (ledger.after operations) day = .ok sheet →
            ∀ account, sheet.amounts account = amountsIn snapshot.rows account := by
  have wellFormed := reachable.wellFormed
  have afterWellFormed : (ledger.after operations).WellFormed := after_wellFormed wellFormed
  have locks : ledger.Locks day := by
    obtain ⟨⟨period, periodMem, isClosed, rfl⟩, -⟩ := lockedThrough_eq_some_iff.mp locked
    exact ⟨period, periodMem, isClosed, closed⟩
  have sameSums : ∀ amount account, sumThrough amount day account (ledger.after operations) =
      sumThrough amount day account ledger :=
    fun amount account => total_lines_after wellFormed locks noReopen _
      (fun _ selected => selected.1) _
  refine ⟨sameAmounts_of_sums wellFormed afterWellFormed sameSums fun amount =>
    total_lines_after wellFormed locks noReopen _ (fun _ selected => selected) _, ?_⟩
  rintro period periodMem isClosed rfl
  obtain ⟨snapshot, snapshotMem, sameId, sameDay, shows⟩ :=
    reachable.snapshotsHold period periodMem isClosed
  refine ⟨snapshot, snapshotMem, sameId, sameDay, ?_⟩
  intro sheet computed account
  have laterShows := afterWellFormed.showsThrough computed account
  apply laterShows.unique
  exact ⟨(shows account).debit.trans (sameSums _ _).symm,
    (shows account).credit.trans (sameSums _ _).symm,
    (shows account).balance.trans (by rw [sameSums, sameSums])⟩

end Runs

/-- A book of which the first year is closed. -/
def closedBook : Ledger :=
  (createCompany "aquamentor").after
    [.saveAndPostDocument saleOf2026 [] "bookkeeper",
      .closePeriod ⟨2026, 12, 31, Eq.refl true⟩ "accountant" "year end"]

theorem closedBook_reachable : Reachable closedBook :=
  ⟨_, _, rfl⟩

def newCheckingAccount : Operation :=
  .addAccount "1105" "Savings" .asset false none false

theorem trialBalance_rows_change :
    Reachable closedBook ∧
      closedBook.lockedThrough = some ⟨2026, 12, 31, Eq.refl true⟩ ∧
      ∃ earlier later,
        trialBalance closedBook ⟨2026, 12, 31, Eq.refl true⟩ = .ok earlier ∧
        trialBalance (closedBook.after [newCheckingAccount]) ⟨2026, 12, 31, Eq.refl true⟩ =
          .ok later ∧
        earlier.rows ≠ later.rows := by
  refine ⟨closedBook_reachable, by decide +kernel, ?_⟩
  obtain ⟨earlier, earlierEq, earlierRows⟩ := exists_ok_of_map_toOption
    (show (trialBalance closedBook ⟨2026, 12, 31, Eq.refl true⟩).toOption.map
      (fun sheet => sheet.rows.length) = some 43 by decide +kernel)
  obtain ⟨later, laterEq, laterRows⟩ := exists_ok_of_map_toOption
    (show (trialBalance (closedBook.after [newCheckingAccount])
        ⟨2026, 12, 31, Eq.refl true⟩).toOption.map
      (fun sheet => sheet.rows.length) = some 44 by decide +kernel)
  refine ⟨earlier, later, earlierEq, laterEq, ?_⟩
  intro sameRows
  rw [sameRows, laterRows] at earlierRows
  omega

theorem trialBalance_of_closed_day_newAccount :
    SameAmounts (trialBalance closedBook ⟨2026, 12, 31, Eq.refl true⟩)
        (trialBalance (closedBook.after [newCheckingAccount]) ⟨2026, 12, 31, Eq.refl true⟩) ∧
      ∀ period ∈ closedBook.periods, period.isClosed = true →
        period.periodEnd = ⟨2026, 12, 31, Eq.refl true⟩ →
        ∃ snapshot ∈ closedBook.snapshots, snapshot.snapshotId = period.tbSnapshotId ∧
          snapshot.asOf = ⟨2026, 12, 31, Eq.refl true⟩ ∧
          ∀ sheet, trialBalance (closedBook.after [newCheckingAccount])
              ⟨2026, 12, 31, Eq.refl true⟩ = .ok sheet →
            ∀ account, sheet.amounts account = amountsIn snapshot.rows account :=
  trialBalance_of_closed_day closedBook_reachable (by decide +kernel) le_rfl
    (by simp [newCheckingAccount])

/-- The trial balance of any day can be computed exactly when its debits add up to an amount,
and then its totals agree and it shows every account with what was posted to it. -/
theorem trialBalance_balances {ledger : Ledger} (reachable : Reachable ledger) (asOf : Date) :
    ((∃ sheet, trialBalance ledger asOf = .ok sheet) ↔
      totalThrough JournalLine.debit asOf ledger ≤ 9223372036854775807) ∧
    ∀ sheet, trialBalance ledger asOf = .ok sheet → sheet.totalDebits = sheet.totalCredits ∧
      ∀ account, ShowsThrough ledger asOf account (sheet.amounts account) := by
  have wellFormed := reachable.wellFormed
  refine ⟨wellFormed.trialBalance_succeeds_iff asOf, fun sheet computed =>
    ⟨Money.ext ?_, fun account => wellFormed.showsThrough computed account⟩⟩
  obtain ⟨debits, credits⟩ := wellFormed.trialBalance_totals computed
  rw [debits, credits, wellFormed.totalThrough_credit]

theorem trialBalance_balances_saleOf2026 :
    ∃ sheet, trialBalance ledgerOf2026 ⟨2026, 12, 31, Eq.refl true⟩ = .ok sheet :=
  (trialBalance_balances ledgerOf2026_reachable _).1.mpr (by decide +kernel)

end QuickBooks
