import QuickBooks.DocumentNets

/-!
# What the ledger never loses

No operation changes or removes a journal entry, a version of a document, a command, a
snapshot or a row of the close history, and no account or class disappears.
-/

namespace QuickBooks

open Ledger

structure RecordsKept (before after : Ledger) : Prop where
  journal : before.journal <+: after.journal
  versions : before.documentVersions <+: after.documentVersions
  oplog : before.oplog <+: after.oplog
  snapshots : before.snapshots <+: after.snapshots
  closeHistory : before.closeHistory <+: after.closeHistory
  accounts : ∀ row ∈ before.accounts, ∃ kept ∈ after.accounts, kept.accountId = row.accountId
  classes : ∀ row ∈ before.classes, ∃ kept ∈ after.classes, kept.classId = row.classId

theorem RecordsKept.trans {first second third : Ledger} (earlier : RecordsKept first second)
    (later : RecordsKept second third) : RecordsKept first third where
  journal := earlier.journal.trans later.journal
  versions := earlier.versions.trans later.versions
  oplog := earlier.oplog.trans later.oplog
  snapshots := earlier.snapshots.trans later.snapshots
  closeHistory := earlier.closeHistory.trans later.closeHistory
  accounts row rowMem := by
    obtain ⟨middle, middleMem, same⟩ := earlier.accounts row rowMem
    obtain ⟨last, lastMem, sameLater⟩ := later.accounts middle middleMem
    exact ⟨last, lastMem, sameLater.trans same⟩
  classes row rowMem := by
    obtain ⟨middle, middleMem, same⟩ := earlier.classes row rowMem
    obtain ⟨last, lastMem, sameLater⟩ := later.classes middle middleMem
    exact ⟨last, lastMem, sameLater.trans same⟩

theorem Ledger.Write.recordsKept {kind : WriteKind} {before after : Ledger}
    (write : Write kind before after) : RecordsKept before after := by
  have journal := write.journal_prefix
  cases write with
  | masterData change =>
    constructor
    case accounts => exact change.accountsKept
    case classes => exact change.classesKept
    all_goals rewrite [change.sameBooks]; exact List.prefix_rfl
  | _ =>
    constructor
    case accounts => exact fun row rowMem => ⟨row, rowMem, rfl⟩
    case classes => exact fun row rowMem => ⟨row, rowMem, rfl⟩
    all_goals first | exact journal | exact List.prefix_rfl | exact List.prefix_append _ _

/-- In every run of operations, each succeeding or failing, all records are kept. -/
theorem records_kept {ledger : Ledger} (reachable : Reachable ledger)
    (operations : List Operation) : RecordsKept ledger (ledger.after operations) := by
  obtain ⟨company, earlier, rfl⟩ := reachable
  apply after_keeps (after_wellFormed (.createCompany company)) Set.univ _
    (RecordsKept ((createCompany company).after earlier))
  · intro kind _ before after _ write kept
    exact kept.trans write.recordsKept
  · exact ⟨List.prefix_rfl, List.prefix_rfl, List.prefix_rfl, List.prefix_rfl, List.prefix_rfl,
      fun row rowMem => ⟨row, rowMem, rfl⟩, fun row rowMem => ⟨row, rowMem, rfl⟩⟩
  · exact TransitionRuns.everyStep_of_forall fun _ _ _ => Set.subset_univ _

theorem records_kept_closing :
    RecordsKept ((createCompany "aquamentor").after
        [.closePeriod ⟨2026, 6, 30, Eq.refl true⟩ "owner" ""])
      (((createCompany "aquamentor").after
        [.closePeriod ⟨2026, 6, 30, Eq.refl true⟩ "owner" ""]).after
          [.reopenPeriod ⟨2026, 6, 30, Eq.refl true⟩ "owner" ""]) :=
  records_kept ⟨_, _, rfl⟩ _

end QuickBooks
