import QuickBooks.PeriodGate

/-!
# Well-formed ledgers

The invariant of the store: the keys of its tables are distinct, every stored
entry is balanced and passes the class rule, the next entry id is fresh, and
the versions of a document number from one without gaps.  Each of the store's records keeps it.
-/

/-!
## What the statements of the store do

One equation for each statement and one condition, `Ledger.Accepts`, for the
gate of `postEntry`.  Later files use these and never unfold a statement: a
save adds a version that becomes the document's newest, and posting either
appends the entry or leaves the ledger as it was.
-/

namespace QuickBooks

open ExceptPrograms TransactionPrograms

namespace Ledger

section Gate

variable (ledger : Ledger)

def IsOpen (date : Date) : Prop :=
  ∀ locked, ledger.lockedThrough = some locked → locked < date

/-- What posting asks of an entry. -/
structure Accepts (entry : JournalEntry) : Prop where
  dateOpen : ledger.IsOpen entry.entryDate
  balanced : entry.isBalanced = true
  classRule : ∀ line ∈ entry.lines, ledger.checkClassRule line = .ok ()
  versionSaved : ∃ row ∈ ledger.documentVersions,
    row.documentId = entry.sourceId ∧ row.version = entry.sourceVersion
  numbered : (entry.lines.map JournalLine.lineNo).Nodup

theorem checkOpen_eq_ok_iff {date : Date} :
    ledger.checkOpen date = .ok () ↔ ledger.IsOpen date := by
  unfold checkOpen IsOpen
  cases ledger.lockedThrough with
  | none => simp [pure_eq_ok_iff]
  | some locked => simp

theorem checkEntry_eq_ok_iff {entry : JournalEntry} :
    ledger.checkEntry entry = .ok () ↔ ledger.Accepts entry := by
  unfold checkEntry
  simp only [check_bind_eq_ok_iff, ensure_eq_ok_iff, checkOpen_eq_ok_iff,
    forM_eq_ok_iff, List.any_eq_true, decide_eq_true_eq]
  constructor
  · rintro ⟨dateOpen, balanced, classRule, versionSaved, numbered⟩
    exact ⟨dateOpen, balanced, classRule, versionSaved, numbered⟩
  · rintro ⟨dateOpen, balanced, classRule, versionSaved, numbered⟩
    exact ⟨dateOpen, balanced, classRule, versionSaved, numbered⟩

end Gate

section Versions

variable (ledger : Ledger) (doc : LedgerDocument) (command : CommandMeta)

theorem version_le_previousVersion {row : DocumentVersion}
    (rowMem : row ∈ ledger.documentVersions) :
    row.version ≤ ledger.previousVersion row.documentId := by
  have versionMem : row.version ∈
      (ledger.versionsOf row.documentId).map DocumentVersion.version :=
    List.mem_map_of_mem (by simpa [versionsOf] using rowMem)
  unfold previousVersion
  generalize (ledger.versionsOf row.documentId).map DocumentVersion.version = versions
    at versionMem
  induction versions with
  | nil => simp at versionMem
  | cons version versions ih =>
    rw [List.foldr_cons]
    rcases List.mem_cons.mp versionMem with here | later
    · omega
    · have bound := ih later
      omega

theorem versionsOf_recordVersion (documentId : String) :
    (ledger.recordVersion doc command).versionsOf documentId =
      ledger.versionsOf documentId ++
        (if doc.documentId = documentId then
          [⟨doc.documentId, ledger.previousVersion doc.documentId + 1, doc,
            ledger.oplog.length⟩]
        else []) := by
  unfold versionsOf recordVersion
  rw [List.filter_append]
  by_cases same : doc.documentId = documentId <;> simp [same]

theorem versionsOf_recordVersion_other {documentId : String}
    (other : doc.documentId ≠ documentId) :
    (ledger.recordVersion doc command).versionsOf documentId =
      ledger.versionsOf documentId := by
  rw [versionsOf_recordVersion, if_neg other, List.append_nil]

theorem previousVersion_recordVersion :
    (ledger.recordVersion doc command).previousVersion doc.documentId =
      ledger.previousVersion doc.documentId + 1 := by
  have foldr_max : ∀ (versions : List Nat) (start : Nat),
      versions.foldr max start = max (versions.foldr max 0) start := by
    intro versions start
    induction versions with
    | nil => simp
    | cons version versions ih =>
      rw [List.foldr_cons, List.foldr_cons, ih]
      omega
  unfold previousVersion
  rw [versionsOf_recordVersion, if_pos rfl, List.map_append, List.foldr_append,
    foldr_max]
  unfold previousVersion
  simp

theorem previousVersion_recordVersion_other {documentId : String}
    (other : doc.documentId ≠ documentId) :
    (ledger.recordVersion doc command).previousVersion documentId =
      ledger.previousVersion documentId := by
  unfold previousVersion
  rw [versionsOf_recordVersion_other ledger doc command other]

theorem documentAt_recordVersion_of_some {documentId : String} {version : Nat}
    {saved : LedgerDocument}
    (found : ledger.documentAt documentId version = some saved) :
    (ledger.recordVersion doc command).documentAt documentId version = some saved := by
  unfold documentAt recordVersion at *
  rw [Option.map_eq_some_iff] at found ⊢
  obtain ⟨row, rowFound, rowDocument⟩ := found
  exact ⟨row, by rw [List.find?_append, rowFound, Option.some_or], rowDocument⟩

theorem documentAt_recordVersion_other {documentId : String} {version : Nat}
    (other : doc.documentId ≠ documentId) :
    (ledger.recordVersion doc command).documentAt documentId version =
      ledger.documentAt documentId version := by
  unfold documentAt recordVersion
  simp [List.find?_append, other]

theorem documentAt_recordVersion_new :
    (ledger.recordVersion doc command).documentAt doc.documentId
      (ledger.previousVersion doc.documentId + 1) = some doc := by
  have noneBefore : ledger.documentVersions.find? (fun row =>
      decide (row.documentId = doc.documentId ∧
        row.version = ledger.previousVersion doc.documentId + 1)) = none := by
    rw [List.find?_eq_none]
    intro row rowMem isSame
    obtain ⟨sameId, sameVersion⟩ := of_decide_eq_true isSame
    have bound := ledger.version_le_previousVersion rowMem
    rw [sameId] at bound
    omega
  unfold documentAt recordVersion
  rw [List.find?_append, noneBefore]
  simp

theorem latestDocumentPayload_recordVersion :
    (ledger.recordVersion doc command).latestDocumentPayload doc.documentId =
      some doc := by
  unfold latestDocumentPayload
  rw [previousVersion_recordVersion]
  exact documentAt_recordVersion_new ledger doc command

theorem latestDocumentPayload_recordVersion_other {documentId : String}
    (other : doc.documentId ≠ documentId) :
    (ledger.recordVersion doc command).latestDocumentPayload documentId =
      ledger.latestDocumentPayload documentId := by
  unfold latestDocumentPayload
  rw [previousVersion_recordVersion_other ledger doc command other,
    documentAt_recordVersion_other ledger doc command other]

end Versions

end Ledger

open Ledger

section Statements

variable (ledger : Ledger)

@[simp]
theorem execute_saveDocument (doc : LedgerDocument) (command : CommandMeta) :
    execute (saveDocument doc command) ledger =
      (.ok (ledger.previousVersion doc.documentId + 1),
        ledger.recordVersion doc command) :=
  rfl

theorem execute_postEntry_of_accepts {ledger : Ledger} {entry : JournalEntry}
    (accepted : ledger.Accepts entry) :
    execute (postEntry entry) ledger =
      (.ok ledger.nextEntryId, ledger.recordEntry entry) := by
  have passes : execute (MonadExcept.ofExcept (ledger.checkEntry entry) :
      LedgerProgram Unit) ledger = (.ok (), ledger) := by
    rw [execute_ofExcept, (ledger.checkEntry_eq_ok_iff).mpr accepted]
  unfold postEntry
  rw [execute_bind_ok _ (execute_get ledger), execute_bind_ok _ passes]
  rfl

theorem execute_postEntry_of_not_accepts {ledger : Ledger} {entry : JournalEntry}
    (refused : ¬ ledger.Accepts entry) :
    ∃ failure, execute (postEntry entry) ledger = (.error failure, ledger) := by
  rw [← ledger.checkEntry_eq_ok_iff] at refused
  cases outcome : ledger.checkEntry entry with
  | ok value => exact absurd outcome refused
  | error failure =>
    refine ⟨failure, ?_⟩
    unfold postEntry
    rw [execute_bind_ok _ (execute_get ledger),
      execute_bind_error ledger (by rw [execute_ofExcept, outcome])]

theorem execute_postEntry_eq_ok_iff {ledger : Ledger} {entry : JournalEntry}
    {entryId : Nat} {after : Ledger} :
    execute (postEntry entry) ledger = (.ok entryId, after) ↔
      ledger.Accepts entry ∧ entryId = ledger.nextEntryId ∧
        after = ledger.recordEntry entry := by
  by_cases accepted : ledger.Accepts entry
  · rw [execute_postEntry_of_accepts accepted]
    simp [accepted, eq_comm]
  · obtain ⟨failure, refuses⟩ := execute_postEntry_of_not_accepts accepted
    rw [refuses]
    simp [accepted]

theorem execute_reverseEntry_of_some {ledger : Ledger} {entryId : Nat} {on : Date}
    {original : JournalEntry} (found : ledger.entry? entryId = some original) :
    execute (reverseEntry entryId on) ledger =
      execute (postEntry (original.reversed on entryId)) ledger := by
  unfold reverseEntry
  rw [execute_bind_ok _ (execute_get ledger), found]

theorem execute_reverseEntry_of_none {ledger : Ledger} {entryId : Nat} {on : Date}
    (missing : ledger.entry? entryId = none) :
    execute (reverseEntry entryId on) ledger = (.error .notFound, ledger) := by
  unfold reverseEntry
  rw [execute_bind_ok _ (execute_get ledger), missing]
  rfl

end Statements

end QuickBooks

namespace QuickBooks

open ExceptPrograms KeyedTables TransactionPrograms

namespace Ledger

structure WellFormed (ledger : Ledger) : Prop where
  accountIds : (ledger.accounts.map Account.accountId).Nodup
  accountNumbers : ∀ account ∈ ledger.accounts,
    account.number = account.accountId.number
  entryIds : (ledger.journal.map PostedEntry.entryId).Nodup
  entryIds_lt : ∀ posted ∈ ledger.journal, posted.entryId < ledger.nextEntryId
  balanced : ∀ posted ∈ ledger.journal, posted.entry.isBalanced = true
  numbered : ∀ posted ∈ ledger.journal,
    (posted.entry.lines.map JournalLine.lineNo).Nodup
  classRule : ∀ posted ∈ ledger.journal, ∀ line ∈ posted.entry.lines,
    ledger.checkClassRule line = .ok ()
  versionSaved : ∀ posted ∈ ledger.journal, ∃ row ∈ ledger.documentVersions,
    row.documentId = posted.entry.sourceId ∧
      row.version = posted.entry.sourceVersion
  reversals_lt : ∀ posted ∈ ledger.journal, ∀ reversed,
    posted.entry.reversalOf = some reversed → reversed < ledger.nextEntryId
  versionNumbers : ∀ documentId,
    (ledger.versionsOf documentId).map DocumentVersion.version =
      List.range' 1 (ledger.documentVersionCount documentId)
  versionDocuments : ∀ row ∈ ledger.documentVersions,
    row.document.documentId = row.documentId
  versionCommands : ∀ row ∈ ledger.documentVersions,
    row.commandId < ledger.oplog.length
  commandIds : ledger.oplog.map OplogRow.commandId = List.range ledger.oplog.length
  periodEnds : (ledger.periods.map Period.periodEnd).Nodup
  snapshotIds : ledger.snapshots.map Snapshot.snapshotId =
    List.range ledger.snapshots.length

section ClassRule

variable {ledger : Ledger}

theorem accountRow_eq_some {account : AccountId} {row : Account}
    (found : ledger.accountRow account = some row) :
    row ∈ ledger.accounts ∧ row.accountId = account := by
  unfold accountRow at found
  exact ⟨List.mem_of_find?_eq_some found, by simpa using List.find?_some found⟩

theorem accountRow_isSome {row : Account} (rowMem : row ∈ ledger.accounts) :
    ∃ found, ledger.accountRow row.accountId = some found := by
  unfold accountRow
  rw [← Option.isSome_iff_exists, List.find?_isSome]
  exact ⟨row, rowMem, by simp⟩

theorem needsClass_eq {account : Account}
    (number : account.number = account.accountId.number) :
    needsClass account = requiresClass account.accountId := by
  unfold needsClass requiresClass
  exact number ▸ rfl

theorem checkClassRule_eq_ok_iff
    (numbers : ∀ account ∈ ledger.accounts, account.number = account.accountId.number)
    {line : JournalLine} :
    ledger.checkClassRule line = .ok () ↔
      (∃ row ∈ ledger.accounts, row.accountId = line.account) ∧
        match line.class with
        | none => requiresClass line.account = false
        | some «class» => (∃ row ∈ ledger.classes, row.classId = «class») ∧
            requiresClass line.account = true := by
  unfold checkClassRule
  cases found : ledger.accountRow line.account with
  | none =>
    have missing : ¬ ∃ row ∈ ledger.accounts, row.accountId = line.account := by
      rintro ⟨row, rowMem, sameId⟩
      obtain ⟨_, foundToo⟩ := accountRow_isSome rowMem
      rw [sameId, found] at foundToo
      simp at foundToo
    simp [missing]
  | some account =>
    obtain ⟨accountMem, sameId⟩ := accountRow_eq_some found
    have needs := needsClass_eq (numbers account accountMem)
    rw [sameId] at needs
    have present : ∃ row ∈ ledger.accounts, row.accountId = line.account :=
      ⟨account, accountMem, sameId⟩
    cases line.class with
    | none => simp [present, needs]
    | some «class» => simp [present, needs, check_bind_eq_ok_iff, classExists]

end ClassRule

theorem stored_lines_perm (entry : JournalEntry) :
    (stored entry).lines.Perm entry.lines :=
  List.perm_insertionSort _ _

def SideFollows (account : Account) : Prop :=
  account.normalBalance = normalBalanceOf account.classification account.isContra

/-- A change of accounts, classes, contacts, items or number sequences that
loses no account and no class. -/
structure MasterDataChange (before after : Ledger) : Prop where
  accountIds : (before.accounts.map Account.accountId).Nodup →
    (after.accounts.map Account.accountId).Nodup
  accountNumbers : (∀ row ∈ before.accounts, row.number = row.accountId.number) →
    ∀ row ∈ after.accounts, row.number = row.accountId.number
  accountsKept : ∀ row ∈ before.accounts, ∃ kept ∈ after.accounts,
    kept.accountId = row.accountId
  classesKept : ∀ row ∈ before.classes, ∃ kept ∈ after.classes,
    kept.classId = row.classId
  sidesKept : (∀ row ∈ before.accounts, SideFollows row) →
    ∀ row ∈ after.accounts, SideFollows row
  sameBooks : after = { before with
    accounts := after.accounts
    classes := after.classes
    contacts := after.contacts
    items := after.items
    docSequences := after.docSequences }

namespace WellFormed

variable {ledger : Ledger}

theorem previousVersion_eq_count (wellFormed : ledger.WellFormed)
    (documentId : String) :
    ledger.previousVersion documentId = ledger.documentVersionCount documentId := by
  have foldr_range : ∀ count start : Nat,
      (List.range' start (count + 1)).foldr max 0 = start + count := by
    intro count
    induction count with
    | zero => simp
    | succ count ih =>
      intro start
      rw [List.range'_succ, List.foldr_cons, ih]
      omega
  unfold previousVersion
  rw [wellFormed.versionNumbers]
  cases ledger.documentVersionCount documentId with
  | zero => rfl
  | succ count =>
    rw [foldr_range]
    omega

theorem recordVersion (wellFormed : ledger.WellFormed) (doc : LedgerDocument)
    (command : CommandMeta) : (ledger.recordVersion doc command).WellFormed := by
  have savedStill : ∀ {documentId : String} {version : Nat},
      (∃ row ∈ ledger.documentVersions,
        row.documentId = documentId ∧ row.version = version) →
      ∃ row ∈ (ledger.recordVersion doc command).documentVersions,
        row.documentId = documentId ∧ row.version = version := by
    rintro documentId version ⟨row, rowMem, sameRow⟩
    exact ⟨row, List.mem_append_left _ rowMem, sameRow⟩
  refine { wellFormed with
    versionSaved := fun posted postedMem =>
      savedStill (wellFormed.versionSaved posted postedMem)
    versionNumbers := ?_
    versionDocuments := ?_
    versionCommands := ?_
    commandIds := ?_ }
  · intro documentId
    unfold documentVersionCount
    rw [versionsOf_recordVersion]
    split_ifs with same
    · have numbers := wellFormed.versionNumbers documentId
      have newest := wellFormed.previousVersion_eq_count documentId
      rw [List.map_append, numbers, List.length_append, List.length_singleton,
        List.map_singleton, same, newest, List.range'_concat, one_mul, add_comm 1]
      rfl
    · simpa [documentVersionCount] using wellFormed.versionNumbers documentId
  · intro row rowMem
    rcases List.mem_append.mp rowMem with old | new
    · exact wellFormed.versionDocuments row old
    · rw [List.mem_singleton.mp new]
  · intro row rowMem
    change row.commandId < (ledger.oplog ++ [_]).length
    rw [List.length_append, List.length_singleton]
    rcases List.mem_append.mp rowMem with old | new
    · have bound := wellFormed.versionCommands row old
      omega
    · rw [List.mem_singleton.mp new]
      exact Nat.lt_succ_self _
  · change (ledger.oplog ++ [_]).map _ = List.range (ledger.oplog ++ [_]).length
    rw [List.map_append, wellFormed.commandIds, List.length_append,
      List.length_singleton, List.range_succ]
    rfl

theorem recordEntry (wellFormed : ledger.WellFormed) {entry : JournalEntry}
    (accepted : ledger.Accepts entry) : (ledger.recordEntry entry).WellFormed := by
  have linesPerm := stored_lines_perm entry
  refine { wellFormed with
    entryIds := ?_
    entryIds_lt := ?_
    balanced := ?_
    numbered := ?_
    classRule := ?_
    versionSaved := ?_
    reversals_lt := ?_ }
  · change ((ledger.journal ++ [_]).map _).Nodup
    rw [List.map_append, List.map_singleton]
    apply List.Nodup.append wellFormed.entryIds (List.nodup_singleton _)
    intro entryId entryIdMem isNew
    obtain ⟨posted, postedMem, rfl⟩ := List.mem_map.mp entryIdMem
    have bound := wellFormed.entryIds_lt posted postedMem
    rw [List.mem_singleton.mp isNew] at bound
    exact lt_irrefl _ bound
  · intro posted postedMem
    change posted.entryId < max ledger.nextEntryId (entry.reversalOf.getD 0) + 1
    rcases List.mem_append.mp postedMem with old | new
    · have bound := wellFormed.entryIds_lt posted old
      omega
    · rw [List.mem_singleton.mp new]
      exact Nat.lt_succ_of_le (le_max_left _ _)
  · intro posted postedMem
    rcases List.mem_append.mp postedMem with old | new
    · exact wellFormed.balanced posted old
    · rw [List.mem_singleton.mp new]
      exact JournalEntry.isBalanced_of_perm linesPerm.symm accepted.balanced
  · intro posted postedMem
    rcases List.mem_append.mp postedMem with old | new
    · exact wellFormed.numbered posted old
    · rw [List.mem_singleton.mp new]
      exact (linesPerm.map _).nodup_iff.mpr accepted.numbered
  · intro posted postedMem line lineMem
    rcases List.mem_append.mp postedMem with old | new
    · exact wellFormed.classRule posted old line lineMem
    · rw [List.mem_singleton.mp new] at lineMem
      exact accepted.classRule line (linesPerm.mem_iff.mp lineMem)
  · intro posted postedMem
    rcases List.mem_append.mp postedMem with old | new
    · exact wellFormed.versionSaved posted old
    · rw [List.mem_singleton.mp new]
      exact accepted.versionSaved
  · intro posted postedMem reversed isReversal
    change reversed < max ledger.nextEntryId (entry.reversalOf.getD 0) + 1
    rcases List.mem_append.mp postedMem with old | new
    · have bound := wellFormed.reversals_lt posted old reversed isReversal
      omega
    · rw [List.mem_singleton.mp new] at isReversal
      change entry.reversalOf = some reversed at isReversal
      rw [isReversal, Option.getD_some]
      exact Nat.lt_succ_of_le (le_max_right _ _)

theorem masterDataChange (wellFormed : ledger.WellFormed) {after : Ledger}
    (change : MasterDataChange ledger after) : after.WellFormed := by
  have accountNumbers := change.accountNumbers wellFormed.accountNumbers
  have classRule : ∀ line, ledger.checkClassRule line = .ok () →
      after.checkClassRule line = .ok () := by
    intro line passes
    rw [checkClassRule_eq_ok_iff wellFormed.accountNumbers] at passes
    rw [checkClassRule_eq_ok_iff accountNumbers]
    obtain ⟨⟨row, rowMem, sameAccount⟩, takes⟩ := passes
    obtain ⟨kept, keptMem, sameId⟩ := change.accountsKept row rowMem
    refine ⟨⟨kept, keptMem, sameId.trans sameAccount⟩, ?_⟩
    cases classEq : line.class with
    | none => simpa [classEq] using takes
    | some «class» =>
      simp only [classEq] at takes
      obtain ⟨⟨existing, existingMem, sameClass⟩, takesClass⟩ := takes
      obtain ⟨keptClass, keptClassMem, sameClassId⟩ :=
        change.classesKept existing existingMem
      exact ⟨⟨keptClass, keptClassMem, sameClassId.trans sameClass⟩, takesClass⟩
  have accountIds := change.accountIds wellFormed.accountIds
  rw [change.sameBooks] at accountNumbers classRule accountIds ⊢
  exact { wellFormed with
    accountIds
    accountNumbers
    classRule := fun posted postedMem line lineMem =>
      classRule line (wellFormed.classRule posted postedMem line lineMem) }

theorem recordSnapshot (wellFormed : ledger.WellFormed) (asOf : Date)
    (sheet : TrialBalance) : (ledger.recordSnapshot asOf sheet).WellFormed := by
  refine { wellFormed with snapshotIds := ?_ }
  change (ledger.snapshots ++ [_]).map _ = List.range (ledger.snapshots ++ [_]).length
  rw [List.map_append, wellFormed.snapshotIds, List.length_append,
    List.length_singleton, List.range_succ]
  rfl

theorem recordClose (wellFormed : ledger.WellFormed) (periodEnd : Date)
    (actor note : String) (snapshotId : Nat) :
    (ledger.recordClose periodEnd actor note snapshotId).WellFormed :=
  { wellFormed with periodEnds := nodup_upsert wellFormed.periodEnds }

theorem recordReopen (wellFormed : ledger.WellFormed) (periodEnd : Date)
    (actor note : String) : (ledger.recordReopen periodEnd actor note).WellFormed := by
  have sameEnds : ((ledger.periods.map fun period =>
      if period.periodEnd = periodEnd then { period with isClosed := false }
      else period).map Period.periodEnd) = ledger.periods.map Period.periodEnd := by
    rw [List.map_map]
    apply List.map_congr_left
    intro period _
    change (if period.periodEnd = periodEnd then { period with isClosed := false }
      else period).periodEnd = period.periodEnd
    split_ifs <;> rfl
  exact { wellFormed with periodEnds := sameEnds ▸ wellFormed.periodEnds }

theorem createCompany (company : String) : (createCompany company).WellFormed where
  accountIds := by
    have numbers := Chart.seedChart_banded.1
    change ((Chart.seedChart.map seededAccount).map Account.accountId).Nodup
    rw [List.map_map]
    apply List.Nodup.of_map AccountId.number
    rwa [List.map_map]
  accountNumbers := by
    intro account accountMem
    obtain ⟨seed, _, rfl⟩ := List.mem_map.mp accountMem
    rfl
  entryIds := List.nodup_nil
  entryIds_lt := fun _ postedMem => nomatch postedMem
  balanced := fun _ postedMem => nomatch postedMem
  numbered := fun _ postedMem => nomatch postedMem
  classRule := fun _ postedMem => nomatch postedMem
  versionSaved := fun _ postedMem => nomatch postedMem
  reversals_lt := fun _ postedMem => nomatch postedMem
  versionNumbers := fun _ => rfl
  versionDocuments := fun _ rowMem => nomatch rowMem
  versionCommands := fun _ rowMem => nomatch rowMem
  commandIds := rfl
  periodEnds := List.nodup_nil
  snapshotIds := rfl

end WellFormed

end Ledger

end QuickBooks
