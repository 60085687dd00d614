import QuickBooks.LedgerReports

/-!
# Closing and reopening periods

Closing a period takes a snapshot of the trial balance at its last day and
marks the period closed; the book is then locked through the newest closed
period.  Reopening marks a closed period open again and is always recorded.
-/

namespace QuickBooks

open KeyedTables TransactionPrograms

def nextCloseHistorySeq (ledger : Ledger) : Nat :=
  (ledger.closeHistory.map CloseHistoryRow.seq).foldr max 0 + 1

namespace TrialBalanceRow

def toSnapshot (row : TrialBalanceRow) : SnapshotRow :=
  ⟨row.accountId, row.number, row.name, row.debit, row.credit, row.balance⟩

end TrialBalanceRow

/-- The ledger with a trial balance stored. -/
def Ledger.recordSnapshot (ledger : Ledger) (asOf : Date) (sheet : TrialBalance) :
    Ledger :=
  { ledger with
    snapshots := ledger.snapshots ++
      [⟨ledger.snapshots.length, asOf, sheet.rows.map TrialBalanceRow.toSnapshot⟩] }

/-- Store the trial balance at a date and return the snapshot's id. -/
def snapshotTrialBalance (asOf : Date) : LedgerProgram Nat := do
  let ledger ← get
  let sheet ← MonadExcept.ofExcept (trialBalance ledger asOf)
  modify fun ledger => ledger.recordSnapshot asOf sheet
  return ledger.snapshots.length

/-- The ledger with the period closed and the close recorded. -/
def Ledger.recordClose (ledger : Ledger) (periodEnd : Date) (actor note : String)
    (snapshotId : Nat) : Ledger :=
  { ledger with
    periods := upsert Period.periodEnd ⟨periodEnd, true, actor, snapshotId⟩
      ledger.periods
    closeHistory := ledger.closeHistory ++
      [⟨nextCloseHistorySeq ledger, actor, ledger.lockedThrough, some periodEnd,
        false, note⟩] }

/-- The ledger with the period open and the reopening recorded. -/
def Ledger.recordReopen (ledger : Ledger) (periodEnd : Date) (actor note : String) :
    Ledger :=
  let periods := ledger.periods.map fun period =>
    if period.periodEnd = periodEnd then { period with isClosed := false } else period
  { ledger with
    periods
    closeHistory := ledger.closeHistory ++
      [⟨nextCloseHistorySeq ledger, actor, some periodEnd,
        { ledger with periods }.lockedThrough, true, note⟩] }

def closePeriod (periodEnd : Date) (actor note : String) : LedgerProgram Unit := do
  let snapshotId ← snapshotTrialBalance periodEnd
  modify fun ledger => ledger.recordClose periodEnd actor note snapshotId

def reopenPeriod (periodEnd : Date) (actor note : String) : LedgerProgram Unit := do
  let ledger ← get
  if ledger.periods.any fun period => period.periodEnd = periodEnd ∧ period.isClosed then
    modify fun ledger => ledger.recordReopen periodEnd actor note
  else throw .notFound

end QuickBooks
