import QuickBooks.BankHistories
import QuickBooks.ExportedIds

/-!
# Statements that are imported again

Importing a file again adds nothing, and the files of overlapping runs of days
hold each transaction once, exactly when a line carries the id of an earlier one
just where it is the same transaction.  A file without ids of its own is given
ids that do, unless two descriptions of one day and amount have the same hash.
-/

/-!
## The lines that an account holds

A statement adds to its account the lines whose ids the account does not hold,
and nothing that is done with the bank's book takes a line away or changes what
it says.
-/

namespace QuickBooks

open DecimalNumbers ExceptPrograms RepeatedItems TransactionPrograms TransitionRuns

namespace Bank

def BankLineRow.parsed (row : BankLineRow) : ParsedLine :=
  ⟨row.postedOn, row.amount, row.description, row.externalId⟩

def BankBook.heldLines (book : BankBook) (account : AccountId) : List ParsedLine :=
  (book.lines.filter fun row => row.accountId = account).map BankLineRow.parsed

abbrev idsOf (lines : List ParsedLine) : List String :=
  lines.filterMap ParsedLine.externalId

section Imports

variable {book : BankBook} {account : AccountId}

theorem isHeld_iff {parsed : ParsedLine} :
    (parsed.externalId.isSome && book.lines.any fun row =>
        row.accountId = account ∧ row.externalId = parsed.externalId) = true ↔
      Repeats ParsedLine.externalId (idsOf (book.heldLines account)) parsed := by
  unfold Repeats BankBook.heldLines
  rw [Bool.and_eq_true, List.any_eq_true]
  constructor
  · rintro ⟨hasId, row, rowMem, same⟩
    rw [decide_eq_true_eq] at same
    obtain ⟨externalId, isId⟩ := Option.isSome_iff_exists.mp hasId
    refine ⟨externalId, List.mem_filterMap.mpr ⟨row.parsed, ?_, same.2.trans isId⟩, isId⟩
    exact List.mem_map_of_mem (List.mem_filter.mpr ⟨rowMem, by simpa using same.1⟩)
  · rintro ⟨externalId, idMem, isId⟩
    obtain ⟨line, lineMem, lineId⟩ := List.mem_filterMap.mp idMem
    obtain ⟨row, rowMem, rfl⟩ := List.mem_map.mp lineMem
    rw [List.mem_filter, decide_eq_true_eq] at rowMem
    refine ⟨by rw [isId]; rfl, row, rowMem.1, ?_⟩
    rw [decide_eq_true_eq]
    exact ⟨rowMem.2, Eq.trans lineId isId.symm⟩

theorem heldLines_insertBankLines (statementId : ℕ) (lines : List ParsedLine)
    (report : StatementImportReport) :
    (execute (insertBankLines statementId account lines report) book).2.heldLines account =
      book.heldLines account ++
        takeNew ParsedLine.externalId (idsOf (book.heldLines account)) lines := by
  induction lines generalizing book report with
  | nil => exact (List.append_nil _).symm
  | cons parsed rest ih =>
    by_cases held : Repeats ParsedLine.externalId (idsOf (book.heldLines account)) parsed
    · have skips : execute (insertBankLineIfNew statementId account parsed) book =
          (.ok false, book) := by
        unfold insertBankLineIfNew
        rw [execute_bind_ok _ (execute_get book), if_pos (isHeld_iff.mpr held)]
        rfl
      rw [insertBankLines, execute_bind_ok _ skips, ih, takeNew_cons_of_repeats held]
    · obtain ⟨row, isParsed, onAccount, inserts⟩ : ∃ row : BankLineRow,
          row.parsed = parsed ∧ row.accountId = account ∧
            execute (insertBankLineIfNew statementId account parsed) book =
              (.ok true, { book with lines := book.lines ++ [row] }) := by
        unfold insertBankLineIfNew
        rw [execute_bind_ok _ (execute_get book), if_neg fun isHeld =>
          held (isHeld_iff.mp isHeld)]
        exact ⟨_, rfl, rfl, rfl⟩
      have holds : ({ book with lines := book.lines ++ [row] } : BankBook).heldLines account =
          book.heldLines account ++ [parsed] := by
        simp [BankBook.heldLines, onAccount, isParsed]
      have ids : idsOf [parsed] = parsed.externalId.toList := by
        cases isId : parsed.externalId <;> simp [idsOf, isId]
      rw [insertBankLines, execute_bind_ok _ inserts, ih, takeNew_cons_of_not_repeats held,
        holds, idsOf, List.filterMap_append, ← idsOf, ← idsOf, ids, List.append_assoc,
        List.singleton_append]

theorem heldLines_importStatement (isAccount : (book.ledger.accountRow account).isSome)
    (statement : NewStatement) :
    (execute (importStatement account statement) book).2.heldLines account =
      book.heldLines account ++
        takeNew ParsedLine.externalId (idsOf (book.heldLines account)) statement.lines := by
  unfold importStatement
  rw [execute_bind, execute_createBankStatement, if_pos isAccount]
  exact heldLines_insertBankLines _ _ _

theorem ledger_insertBankLines (statementId : ℕ) (lines : List ParsedLine)
    (report : StatementImportReport) :
    (execute (insertBankLines statementId account lines report) book).2.ledger = book.ledger := by
  induction lines generalizing book report with
  | nil => rfl
  | cons parsed rest ih =>
    obtain ⟨wasInserted, after, inserts, sameLedger⟩ : ∃ wasInserted after,
        execute (insertBankLineIfNew statementId account parsed) book =
          (.ok wasInserted, after) ∧ after.ledger = book.ledger := by
      unfold insertBankLineIfNew
      rw [execute_bind_ok _ (execute_get book)]
      split_ifs
      · exact ⟨_, _, rfl, rfl⟩
      · exact ⟨_, _, rfl, rfl⟩
    rw [insertBankLines, execute_bind_ok _ inserts, ih, sameLedger]

theorem ledger_importStatement (statement : NewStatement) :
    (execute (importStatement account statement) book).2.ledger = book.ledger := by
  unfold importStatement
  rw [execute_bind, execute_createBankStatement]
  split_ifs
  · exact ledger_insertBankLines _ _ _
  · rfl

end Imports

section Runs

variable {divide : Decimal → Decimal → Decimal} {book : BankBook} {account : AccountId}

theorem heldLines_withMatch (lineId : ℕ) (kind : MatchKind) (claim : Option (ℕ × Int)) :
    (book.withMatch lineId kind claim).heldLines account = book.heldLines account := by
  unfold BankBook.heldLines BankBook.withMatch
  dsimp only
  induction book.lines with
  | nil => rfl
  | cons row rows ih =>
    have unchanged : ∀ row : BankLineRow,
        (if row.lineId = lineId then row.withMatch kind claim else row).accountId =
            row.accountId ∧
          (if row.lineId = lineId then row.withMatch kind claim else row).parsed =
            row.parsed := by
      intro row
      split_ifs <;> exact ⟨rfl, rfl⟩
    rw [List.map_cons]
    by_cases onAccount : row.accountId = account
    · rw [List.filter_cons_of_pos (by rw [(unchanged row).1]; simpa using onAccount),
        List.filter_cons_of_pos (by simpa using onAccount), List.map_cons, List.map_cons, ih,
        (unchanged row).2]
    · rw [List.filter_cons_of_neg (by rw [(unchanged row).1]; simpa using onAccount),
        List.filter_cons_of_neg (by simpa using onAccount), ih]

theorem BankWrite.heldLines_prefix {before after : BankBook} (write : BankWrite before after) :
    before.heldLines account <+: after.heldLines account := by
  cases write with
  | ledger | statement | close => exact List.prefix_rfl
  | line =>
    unfold BankBook.heldLines
    rw [List.filter_append, List.map_append]
    exact List.prefix_append _ _
  | claim =>
    rw [BankBook.withClaim]
    exact (heldLines_withMatch _ _ _).symm ▸ List.prefix_rfl
  | propose => rw [heldLines_withMatch]

theorem heldLines_after (wellFormed : book.WellFormed) (actions : List BankAction) :
    book.heldLines account <+: (book.after divide actions).heldLines account :=
  (book.after_keeps divide wellFormed actions
    (fun later => book.heldLines account <+: later.heldLines account)
    (fun _ _ _ write holds => holds.trans write.heldLines_prefix) List.prefix_rfl).2

end Runs

end Bank

end QuickBooks

namespace QuickBooks

open DecimalNumbers ExceptPrograms RepeatedItems TransactionPrograms TransitionRuns

namespace Bank

def BankBook.importing (readers : ExportReaders) (account : AccountId) (book : BankBook)
    (file : BankExport) (header : StatementHeader) : BankBook :=
  (execute (runBankImport readers account file header) book).2

abbrev BankBook.Holds (book : BankBook) (account : AccountId) (line : ParsedLine) : Prop :=
  Repeats ParsedLine.externalId (idsOf (book.heldLines account)) line

/-- The days from one date to another. -/
structure DayRun where
  start : Date
  finish : Date

def DayRun.Contains (run : DayRun) (date : Date) : Prop :=
  run.start ≤ date ∧ date ≤ run.finish

instance (run : DayRun) (date : Date) : Decidable (run.Contains date) :=
  inferInstanceAs (Decidable (_ ∧ _))

def Covers (history : List OccurrenceKey) (run : DayRun) (lines : List ParsedLine) : Prop :=
  (lines.map ParsedLine.key).Perm
    (history.filter fun transaction => run.Contains transaction.1)

instance (history : List OccurrenceKey) (run : DayRun) (lines : List ParsedLine) :
    Decidable (Covers history run lines) :=
  inferInstanceAs (Decidable (List.Perm _ _))

/-- Importing the first file again, whenever it is, adds nothing; its first import
adds each of its lines that the account did not hold; and the second file adds
each of its lines that the account did not hold, of days that the first file
does not cover. -/
structure ImportsExactlyOnce (readers : ExportReaders)
    (divide : Decimal → Decimal → Decimal) (account : AccountId) (book : BankBook)
    (first second : BankExport) (firstLines secondLines : List ParsedLine)
    (firstRun : DayRun) : Prop where
  again : ∀ header between laterHeader,
    let later := (book.importing readers account first header).after divide between
    (later.importing readers account first laterHeader).heldLines account =
      later.heldLines account
  whole : ∀ header, (book.importing readers account first header).heldLines account =
    book.heldLines account ++ firstLines.filter fun line => ¬ book.Holds account line
  overlap : ∀ header laterHeader,
    let later := book.importing readers account first header
    (later.importing readers account second laterHeader).heldLines account =
      later.heldLines account ++ secondLines.filter fun line =>
        ¬ (book.Holds account line ∨ firstRun.Contains line.postedOn)

/-- Every line of the first file carries an id.  Within it, a line repeats an
earlier id only where the account held it; a line of the second file does so
exactly where the account held it or the first file covers its day. -/
structure Identified (known : List String) (firstRun : DayRun)
    (firstLines secondLines : List ParsedLine) : Prop where
  carried : ∀ line ∈ firstLines, line.externalId.isSome
  distinct : ∀ index (inLines : index < firstLines.length),
    Repeats ParsedLine.externalId (known ++ idsOf (firstLines.take index)) firstLines[index] ↔
      Repeats ParsedLine.externalId known firstLines[index]
  shared : ∀ index (inLines : index < secondLines.length),
    Repeats ParsedLine.externalId
        (known ++ idsOf firstLines ++ idsOf (secondLines.take index)) secondLines[index] ↔
      Repeats ParsedLine.externalId known secondLines[index] ∨
        firstRun.Contains secondLines[index].postedOn

/-- The hash tells apart the descriptions of each day and amount. -/
def HashesApart (readers : ExportReaders) (transactions : List OccurrenceKey) : Prop :=
  ∀ first ∈ transactions, ∀ second ∈ transactions,
    first.1 = second.1 → first.2.1 = second.2.1 →
      readers.hashStr first.2.2 = readers.hashStr second.2.2 → first.2.2 = second.2.2

def BankExport.HasNoIds : BankExport → Prop
  | csv profile _ => profile.externalIdCol = none
  | ofx _ => False

section Importing

variable {readers : ExportReaders} {divide : Decimal → Decimal → Decimal}
  {account : AccountId} {book : BankBook} {file : BankExport} {lines : List ParsedLine}

theorem importing_eq (reads : file.read readers = .ok lines) (header : StatementHeader) :
    book.importing readers account file header =
      (BankAction.importStatement account (header.statement lines)).run divide book := by
  unfold BankBook.importing runBankImport
  rw [reads, execute_bind_ok _ (by rw [execute_ofExcept]; rfl), execute_refusingWith]
  rfl

theorem heldLines_importing (isAccount : (book.ledger.accountRow account).isSome)
    (reads : file.read readers = .ok lines) (header : StatementHeader) :
    (book.importing readers account file header).heldLines account =
      book.heldLines account ++
        takeNew ParsedLine.externalId (idsOf (book.heldLines account)) lines := by
  rw [@importing_eq readers (fun first _ => first) account book file lines reads]
  exact heldLines_importStatement isAccount _

theorem ledger_importing (reads : file.read readers = .ok lines) (header : StatementHeader) :
    (book.importing readers account file header).ledger = book.ledger := by
  rw [@importing_eq readers (fun first _ => first) account book file lines reads]
  exact ledger_importStatement _

theorem heldLines_importing_of_not (isNot : ¬ (book.ledger.accountRow account).isSome)
    (reads : file.read readers = .ok lines) (header : StatementHeader) :
    (book.importing readers account file header).heldLines account =
      book.heldLines account := by
  rw [@importing_eq readers (fun first _ => first) account book file lines reads,
    BankAction.run]
  unfold importStatement
  rw [execute_bind, execute_createBankStatement, if_neg isNot]

theorem repeats_importing_iff (isAccount : (book.ledger.accountRow account).isSome)
    (reads : file.read readers = .ok lines) (header : StatementHeader) (later : List String)
    (line : ParsedLine) :
    Repeats ParsedLine.externalId
        (idsOf ((book.importing readers account file header).heldLines account) ++ later) line ↔
      Repeats ParsedLine.externalId
        (idsOf (book.heldLines account) ++ idsOf lines ++ later) line := by
  have sameIds : ∀ name, name ∈ idsOf ((book.importing readers account file header).heldLines
      account) ↔ name ∈ idsOf (book.heldLines account) ++ idsOf lines := by
    intro name
    rw [heldLines_importing isAccount reads, idsOf, List.filterMap_append]
    exact mem_keys_takeNew
  unfold Repeats
  constructor
  · rintro ⟨name, nameMem, isId⟩
    rw [List.mem_append, sameIds, ← List.mem_append] at nameMem
    exact ⟨name, nameMem, isId⟩
  · rintro ⟨name, nameMem, isId⟩
    rw [List.mem_append, ← sameIds, ← List.mem_append] at nameMem
    exact ⟨name, nameMem, isId⟩

end Importing

section Condition

variable {readers : ExportReaders} {divide : Decimal → Decimal → Decimal}
  {account : AccountId} {book : BankBook} {first second : BankExport}
  {firstLines secondLines : List ParsedLine} {firstRun : DayRun}

theorem again_iff (wellFormed : book.WellFormed)
    (isAccount : (book.ledger.accountRow account).isSome)
    (reads : first.read readers = .ok firstLines) :
    (∀ header between laterHeader,
      let later := (book.importing readers account first header).after divide between
      (later.importing readers account first laterHeader).heldLines account =
        later.heldLines account) ↔
      ∀ line ∈ firstLines, line.externalId.isSome := by
  constructor
  · intro again line lineMem
    have header : StatementHeader := ⟨Date.last, Date.last, .zero, .zero⟩
    have nothing := again header [] header
    change ((book.importing readers account first header).importing readers account first
      header).heldLines account = _ at nothing
    rw [heldLines_importing (by rw [ledger_importing reads]; exact isAccount) reads] at nothing
    obtain ⟨name, -, isId⟩ :=
      takeNew_eq_nil_iff.mp (List.append_right_eq_self.mp nothing) line lineMem
    rw [isId]
    rfl
  · intro carried header between laterHeader later
    by_cases isLater : (later.ledger.accountRow account).isSome
    · rw [heldLines_importing isLater reads, List.append_right_eq_self, takeNew_eq_nil_iff]
      intro line lineMem
      obtain ⟨name, isId⟩ := Option.isSome_iff_exists.mp (carried line lineMem)
      refine ⟨name, ?_, isId⟩
      have imported : (book.importing readers account first header).WellFormed := by
        rw [@importing_eq readers divide account book first firstLines reads]
        exact (book.after_keeps divide wellFormed
          [.importStatement account (header.statement firstLines)] (fun _ => True)
          (fun _ _ _ _ _ => trivial) trivial).1
      have held : name ∈ idsOf ((book.importing readers account first header).heldLines
          account) := by
        rw [heldLines_importing isAccount reads, idsOf, List.filterMap_append]
        rw [mem_keys_takeNew]
        exact List.mem_append_right _ (List.mem_filterMap.mpr ⟨line, lineMem, isId⟩)
      exact ((heldLines_after imported between).sublist.filterMap _).subset held
    · exact heldLines_importing_of_not isLater reads laterHeader

theorem whole_iff (isAccount : (book.ledger.accountRow account).isSome)
    (reads : first.read readers = .ok firstLines) (header : StatementHeader) :
    (book.importing readers account first header).heldLines account =
        book.heldLines account ++ firstLines.filter (fun line => ¬ book.Holds account line) ↔
      ∀ index (inLines : index < firstLines.length),
        (Repeats ParsedLine.externalId
            (idsOf (book.heldLines account) ++ idsOf (firstLines.take index))
            firstLines[index] ↔ book.Holds account firstLines[index]) := by
  rw [heldLines_importing isAccount reads, List.append_cancel_left_eq, takeNew_eq_filter_iff]
  refine forall₂_congr fun index inLines => ?_
  rw [not_iff_not]
  exact Iff.comm

theorem overlap_iff (isAccount : (book.ledger.accountRow account).isSome)
    (reads : first.read readers = .ok firstLines)
    (readsSecond : second.read readers = .ok secondLines) (header laterHeader : StatementHeader) :
    ((book.importing readers account first header).importing readers account second
        laterHeader).heldLines account =
        (book.importing readers account first header).heldLines account ++
          secondLines.filter (fun line =>
            ¬ (book.Holds account line ∨ firstRun.Contains line.postedOn)) ↔
      ∀ index (inLines : index < secondLines.length),
        (Repeats ParsedLine.externalId
            (idsOf (book.heldLines account) ++ idsOf firstLines ++
              idsOf (secondLines.take index)) secondLines[index] ↔
          book.Holds account secondLines[index] ∨
            firstRun.Contains secondLines[index].postedOn) := by
  rw [heldLines_importing (by rw [ledger_importing reads]; exact isAccount) readsSecond,
    List.append_cancel_left_eq, takeNew_eq_filter_iff]
  refine forall₂_congr fun index inLines => ?_
  rw [not_iff_not, repeats_importing_iff isAccount reads]
  exact Iff.comm

theorem importsExactlyOnce_iff (wellFormed : book.WellFormed)
    (isAccount : (book.ledger.accountRow account).isSome)
    (reads : first.read readers = .ok firstLines)
    (readsSecond : second.read readers = .ok secondLines) :
    ImportsExactlyOnce readers divide account book first second firstLines secondLines firstRun ↔
      Identified (idsOf (book.heldLines account)) firstRun firstLines secondLines := by
  have header : StatementHeader := ⟨Date.last, Date.last, .zero, .zero⟩
  constructor
  · rintro ⟨again, whole, overlap⟩
    exact ⟨(again_iff wellFormed isAccount reads).mp again,
      (whole_iff isAccount reads header).mp (whole header),
      (overlap_iff isAccount reads readsSecond header header).mp (overlap header header)⟩
  · rintro ⟨carried, distinct, shared⟩
    exact ⟨(again_iff wellFormed isAccount reads).mpr carried,
      fun header => (whole_iff isAccount reads header).mpr distinct,
      fun header laterHeader =>
        (overlap_iff isAccount reads readsSecond header laterHeader).mpr shared⟩

end Condition

section History

variable {history : List OccurrenceKey} {run firstRun secondRun : DayRun}
  {lines firstLines secondLines : List ParsedLine}

theorem Covers.contains (covers : Covers history run lines) {transaction : OccurrenceKey}
    (shown : transaction ∈ lines.map ParsedLine.key) : run.Contains transaction.1 := by
  have inRun := (List.Perm.mem_iff covers).mp shown
  rw [List.mem_filter, decide_eq_true_eq] at inRun
  exact inRun.2

theorem Covers.count_eq (covers : Covers history run lines) {transaction : OccurrenceKey}
    (inRun : run.Contains transaction.1) :
    (lines.map ParsedLine.key).count transaction = history.count transaction := by
  rw [List.Perm.count_eq covers]
  exact List.count_filter (by simpa using inRun)

theorem perm_of_covers (firstCovers : Covers history firstRun firstLines)
    (secondCovers : Covers history secondRun secondLines) :
    ((firstLines ++ secondLines.filter fun line =>
        ¬ firstRun.Contains line.postedOn).map ParsedLine.key).Perm
      (history.filter fun transaction =>
        firstRun.Contains transaction.1 ∨ secondRun.Contains transaction.1) := by
  have others : (secondLines.filter fun line => ¬ firstRun.Contains line.postedOn).map
      ParsedLine.key = (secondLines.map ParsedLine.key).filter fun transaction =>
        ¬ firstRun.Contains transaction.1 := by
    rw [List.filter_map]
    rfl
  rw [List.map_append, others]
  refine (firstCovers.append (secondCovers.filter _)).trans ?_
  refine List.Perm.trans ?_ (List.filter_append_perm
    (fun transaction : OccurrenceKey => decide (firstRun.Contains transaction.1)) _)
  rw [List.filter_filter, List.filter_filter, List.filter_filter]
  apply List.Perm.of_eq
  congr 1 <;> apply List.filter_congr <;> intro transaction _ <;>
    by_cases inFirst : firstRun.Contains transaction.1 <;>
      by_cases inSecond : secondRun.Contains transaction.1 <;> simp [inFirst, inSecond]

end History

section MadeUp

variable {readers : ExportReaders} {lines firstLines secondLines : List ParsedLine}
  {known : List String} {history : List OccurrenceKey} {firstRun secondRun : DayRun}

theorem idsOf_synthesized (synthesized : Synthesized readers lines) :
    idsOf lines = (ranked (lines.map ParsedLine.key)).map fun row =>
      syntheticId readers row.1 row.2 := by
  have ids := congrArg (List.filterMap Prod.snd) synthesized
  rw [List.filterMap_map, List.filterMap_map] at ids
  exact Eq.trans ids (congrFun List.filterMap_eq_map _)

theorem externalId_synthesized (synthesized : Synthesized readers lines) {line : ParsedLine}
    (lineMem : line ∈ lines) :
    ∃ rank < (lines.map ParsedLine.key).count line.key,
      line.externalId = some (syntheticId readers line.key rank) := by
  have pairMem : (line.key, line.externalId) ∈
      lines.map fun line => (line.key, line.externalId) := List.mem_map_of_mem lineMem
  rw [synthesized, List.mem_map] at pairMem
  obtain ⟨⟨key, rank⟩, rowMem, isPair⟩ := pairMem
  rw [Prod.mk.injEq] at isPair
  obtain ⟨rfl, isId⟩ := isPair
  exact ⟨rank, mem_ranked.mp rowMem, isId.symm⟩

theorem mem_idsOf_synthesized (synthesized : Synthesized readers lines) {name : String} :
    name ∈ idsOf lines ↔ ∃ key rank, rank < (lines.map ParsedLine.key).count key ∧
      name = syntheticId readers key rank := by
  rw [idsOf_synthesized synthesized, List.mem_map]
  constructor
  · rintro ⟨⟨key, rank⟩, rowMem, rfl⟩
    exact ⟨key, rank, mem_ranked.mp rowMem, rfl⟩
  · rintro ⟨key, rank, below, rfl⟩
    exact ⟨(key, rank), mem_ranked.mpr below, rfl⟩

theorem nodup_idsOf_iff (synthesized : Synthesized readers lines) :
    (idsOf lines).Nodup ↔ HashesApart readers (lines.map ParsedLine.key) := by
  rw [idsOf_synthesized synthesized, List.nodup_map_iff_inj_on nodup_ranked]
  constructor
  · intro injective first firstMem second secondMem sameDate sameAmount sameHash
    have firstRow := mem_ranked.mpr (List.count_pos_iff.mpr firstMem)
    have secondRow := mem_ranked.mpr (List.count_pos_iff.mpr secondMem)
    have sameRow := injective _ firstRow _ secondRow
      (syntheticId_eq_iff.mpr ⟨sameDate, sameAmount, sameHash, rfl⟩)
    exact congrArg (fun row => row.1.2.2) sameRow
  · rintro apart ⟨first, firstRank⟩ firstRow ⟨second, secondRank⟩ secondRow same
    have shown : ∀ {key rank}, (key, rank) ∈ ranked (lines.map ParsedLine.key) →
        key ∈ lines.map ParsedLine.key := by
      intro key rank rowMem
      have below := mem_ranked.mp rowMem
      exact List.count_pos_iff.mp (by omega)
    obtain ⟨sameDate, sameAmount, sameHash, sameRank⟩ := syntheticId_eq_iff.mp same
    have sameDescription := apart first (shown firstRow) second (shown secondRow) sameDate
      sameAmount sameHash
    exact Prod.ext (Prod.ext sameDate (Prod.ext sameAmount sameDescription)) sameRank

theorem exists_first_line (synthesized : Synthesized readers lines)
    {transaction : OccurrenceKey} (shown : transaction ∈ lines.map ParsedLine.key) :
    ∃ index, ∃ inLines : index < lines.length, lines[index].key = transaction ∧
      lines[index].externalId = some (syntheticId readers transaction 0) := by
  have pairMem : (transaction, some (syntheticId readers transaction 0)) ∈
      lines.map fun line => (line.key, line.externalId) := by
    rw [synthesized, List.mem_map]
    exact ⟨(transaction, 0), mem_ranked.mpr (List.count_pos_iff.mpr shown), rfl⟩
  obtain ⟨line, lineMem, isPair⟩ := List.mem_map.mp pairMem
  obtain ⟨index, inLines, rfl⟩ := List.mem_iff_getElem.mp lineMem
  exact ⟨index, inLines, congrArg Prod.fst isPair, congrArg Prod.snd isPair⟩

theorem Identified.contains_of_same_id
    (identified : Identified known firstRun firstLines secondLines)
    (unheld : ∀ line ∈ secondLines, ¬ Repeats ParsedLine.externalId known line)
    {earlier later : ℕ} {name : String} (inLines : later < secondLines.length)
    (before : earlier < later) (isEarlier : secondLines[earlier].externalId = some name)
    (isLater : secondLines[later].externalId = some name) :
    firstRun.Contains secondLines[later].postedOn := by
  have taken : secondLines[earlier] ∈ secondLines.take later :=
    List.mem_take_iff_getElem.mpr ⟨earlier, by omega, rfl⟩
  refine ((identified.shared later inLines).mp ⟨name, ?_, isLater⟩).resolve_left
    (unheld _ (List.getElem_mem inLines))
  exact List.mem_append_right _ (List.mem_filterMap.mpr ⟨_, taken, isEarlier⟩)

theorem hashesApart_of_identified (firstSynthesized : Synthesized readers firstLines)
    (secondSynthesized : Synthesized readers secondLines)
    (firstCovers : Covers history firstRun firstLines)
    (secondCovers : Covers history secondRun secondLines)
    (unheld : ∀ line ∈ firstLines ++ secondLines, ¬ Repeats ParsedLine.externalId known line)
    (identified : Identified known firstRun firstLines secondLines) :
    HashesApart readers ((firstLines ++ secondLines).map ParsedLine.key) := by
  have firstApart : HashesApart readers (firstLines.map ParsedLine.key) := by
    have isNew : ∀ index (inLines : index < firstLines.length), ¬ Repeats
        ParsedLine.externalId (known ++ idsOf (firstLines.take index)) firstLines[index] := by
      intro index inLines repeats
      exact unheld _ (List.mem_append_left _ (List.getElem_mem inLines))
        ((identified.distinct index inLines).mp repeats)
    exact (nodup_idsOf_iff firstSynthesized).mp (forall_not_repeats_iff.mp isNew).1
  have inFirst : ∀ {transaction : OccurrenceKey},
      transaction ∈ (firstLines ++ secondLines).map ParsedLine.key →
        firstRun.Contains transaction.1 → transaction ∈ firstLines.map ParsedLine.key := by
    intro transaction shown inRun
    rw [List.map_append, List.mem_append] at shown
    rcases shown with here | there
    · exact here
    · rw [← List.count_pos_iff, firstCovers.count_eq inRun,
        ← secondCovers.count_eq (secondCovers.contains there), List.count_pos_iff]
      exact there
  have inSecond : ∀ {transaction : OccurrenceKey},
      transaction ∈ (firstLines ++ secondLines).map ParsedLine.key →
        ¬ firstRun.Contains transaction.1 → transaction ∈ secondLines.map ParsedLine.key := by
    intro transaction shown outside
    rw [List.map_append, List.mem_append] at shown
    exact shown.resolve_left fun here => outside (firstCovers.contains here)
  intro first firstMem second secondMem sameDate sameAmount sameHash
  by_cases inRun : firstRun.Contains first.1
  · exact firstApart first (inFirst firstMem inRun) second
      (inFirst secondMem (sameDate ▸ inRun)) sameDate sameAmount sameHash
  · have unheldSecond : ∀ line ∈ secondLines, ¬ Repeats ParsedLine.externalId known line :=
      fun line lineMem => unheld line (List.mem_append_right _ lineMem)
    obtain ⟨firstIndex, firstIn, firstKey, firstId⟩ :=
      exists_first_line secondSynthesized (inSecond firstMem inRun)
    obtain ⟨secondIndex, secondIn, secondKey, secondId⟩ :=
      exists_first_line secondSynthesized (inSecond secondMem (sameDate ▸ inRun))
    rw [← syntheticId_eq_iff.mpr ⟨sameDate, sameAmount, sameHash, rfl⟩] at secondId
    -- Outside the first file's days no later line of the second repeats an id.
    rcases lt_trichotomy firstIndex secondIndex with before | rfl | after
    · have inDays := identified.contains_of_same_id unheldSecond secondIn before firstId secondId
      rw [show secondLines[secondIndex].postedOn = second.1 from congrArg Prod.fst secondKey,
        ← sameDate] at inDays
      exact absurd inDays inRun
    · rw [← firstKey, ← secondKey]
    · have inDays := identified.contains_of_same_id unheldSecond firstIn after secondId firstId
      rw [show secondLines[firstIndex].postedOn = first.1 from congrArg Prod.fst firstKey]
        at inDays
      exact absurd inDays inRun

theorem identified_of_hashesApart (firstSynthesized : Synthesized readers firstLines)
    (secondSynthesized : Synthesized readers secondLines)
    (firstCovers : Covers history firstRun firstLines)
    (secondCovers : Covers history secondRun secondLines)
    (unheld : ∀ line ∈ firstLines ++ secondLines, ¬ Repeats ParsedLine.externalId known line)
    (apart : HashesApart readers ((firstLines ++ secondLines).map ParsedLine.key)) :
    Identified known firstRun firstLines secondLines := by
  have apartOn : ∀ {lines}, lines.map ParsedLine.key ⊆
      (firstLines ++ secondLines).map ParsedLine.key → Synthesized readers lines →
        (idsOf lines).Nodup := by
    intro lines within synthesized
    rw [nodup_idsOf_iff synthesized]
    exact fun first firstMem second secondMem =>
      apart first (within firstMem) second (within secondMem)
  have withinLeft : firstLines.map ParsedLine.key ⊆
      (firstLines ++ secondLines).map ParsedLine.key := by
    rw [List.map_append]
    exact List.subset_append_left _ _
  have withinRight : secondLines.map ParsedLine.key ⊆
      (firstLines ++ secondLines).map ParsedLine.key := by
    rw [List.map_append]
    exact List.subset_append_right _ _
  have unknown : ∀ {lines}, (∀ line ∈ lines, ¬ Repeats ParsedLine.externalId known line) →
      ∀ name ∈ idsOf lines, name ∉ known := by
    intro lines unheld name nameMem isKnown
    obtain ⟨line, lineMem, isId⟩ := List.mem_filterMap.mp nameMem
    exact unheld line lineMem ⟨name, isKnown, isId⟩
  have unheldFirst : ∀ line ∈ firstLines, ¬ Repeats ParsedLine.externalId known line :=
    fun line lineMem => unheld line (List.mem_append_left _ lineMem)
  have unheldSecond : ∀ line ∈ secondLines, ¬ Repeats ParsedLine.externalId known line :=
    fun line lineMem => unheld line (List.mem_append_right _ lineMem)
  refine ⟨?_, ?_, ?_⟩
  · intro line lineMem
    obtain ⟨rank, -, isId⟩ := externalId_synthesized firstSynthesized lineMem
    rw [isId]
    rfl
  · intro index inLines
    have isNew := forall_not_repeats_iff.mpr
      ⟨apartOn withinLeft firstSynthesized, unknown unheldFirst⟩ index inLines
    exact ⟨fun repeats => absurd repeats isNew,
      fun repeats => absurd repeats (unheldFirst _ (List.getElem_mem inLines))⟩
  · intro index inLines
    have lineMem : secondLines[index] ∈ secondLines := List.getElem_mem inLines
    have inSecondRun := secondCovers.contains (List.mem_map_of_mem lineMem)
    constructor
    · rintro ⟨name, nameMem, isId⟩
      refine .inr ?_
      rcases List.mem_append.mp nameMem with before | earlier
      · rcases List.mem_append.mp before with isKnown | inFirst
        · exact absurd ⟨name, isKnown, isId⟩ (unheldSecond _ lineMem)
        · obtain ⟨key, rank, below, rfl⟩ := (mem_idsOf_synthesized firstSynthesized).mp inFirst
          obtain ⟨otherRank, -, isOther⟩ := externalId_synthesized secondSynthesized lineMem
          rw [isId] at isOther
          have sameDate := (syntheticId_eq_iff.mp (Option.some.inj isOther)).1
          have inRun := firstCovers.contains (List.count_pos_iff.mp (by omega) :
            key ∈ firstLines.map ParsedLine.key)
          rw [sameDate] at inRun
          exact inRun
      · have isNew := forall_not_repeats_iff.mpr
          ⟨apartOn withinRight secondSynthesized, unknown unheldSecond⟩ index inLines
        exact absurd ⟨name, List.mem_append_right _ earlier, isId⟩ isNew
    · rintro (isKnown | inRun)
      · exact absurd isKnown (unheldSecond _ lineMem)
      · obtain ⟨rank, below, isId⟩ := externalId_synthesized secondSynthesized lineMem
        refine ⟨_, List.mem_append_left _ (List.mem_append_right _ ?_), isId⟩
        rw [mem_idsOf_synthesized firstSynthesized]
        have inFirstRun : firstRun.Contains secondLines[index].key.1 := inRun
        refine ⟨secondLines[index].key, rank, ?_, rfl⟩
        rw [firstCovers.count_eq inFirstRun, ← secondCovers.count_eq inSecondRun]
        exact below

end MadeUp

section Main

variable {readers : ExportReaders} {divide : Decimal → Decimal → Decimal}
  {account : AccountId} {book : BankBook} {first second : BankExport}
  {firstLines secondLines : List ParsedLine} {history : List OccurrenceKey}
  {firstRun secondRun : DayRun}

theorem BankExport.HasNoIds.synthesized (noIds : first.HasNoIds)
    (reads : first.read readers = .ok firstLines) : Synthesized readers firstLines := by
  cases first with
  | csv profile text => exact synthesized_of_parseCsv noIds reads
  | ofx text => cases noIds

theorem ImportsExactlyOnce.perm (once : ImportsExactlyOnce readers divide account book first
      second firstLines secondLines firstRun)
    (unheld : ∀ line ∈ firstLines ++ secondLines, ¬ book.Holds account line)
    (firstCovers : Covers history firstRun firstLines)
    (secondCovers : Covers history secondRun secondLines) (header laterHeader : StatementHeader) :
    ∃ added, ((book.importing readers account first header).importing readers account second
        laterHeader).heldLines account = book.heldLines account ++ added ∧
      (added.map ParsedLine.key).Perm (history.filter fun transaction =>
        firstRun.Contains transaction.1 ∨ secondRun.Contains transaction.1) := by
  refine ⟨_, ?_, perm_of_covers firstCovers secondCovers⟩
  rw [once.overlap, once.whole, List.append_assoc]
  congr 2
  · rw [List.filter_eq_self]
    intro line lineMem
    simpa using unheld line (List.mem_append_left _ lineMem)
  · apply List.filter_congr
    intro line lineMem
    have isNew := unheld line (List.mem_append_right _ lineMem)
    simp [isNew]

end Main

/-- In every book, files are imported exactly once when their ids tell their
transactions apart; made-up ids do unless hashes are equal. -/
theorem statement_imports_exactly_once_iff (readers : ExportReaders)
    (divide : Decimal → Decimal → Decimal) (company : String) (actions : List BankAction)
    (account : AccountId) (first second : BankExport)
    (firstLines secondLines : List ParsedLine) (history : List OccurrenceKey)
    (firstRun secondRun : DayRun) :
    let book := (BankBook.createCompany company).after divide actions
    (book.ledger.accountRow account).isSome → first.read readers = .ok firstLines →
      second.read readers = .ok secondLines → Covers history firstRun firstLines →
      Covers history secondRun secondLines →
        (ImportsExactlyOnce readers divide account book first second firstLines secondLines
            firstRun ↔
          Identified (idsOf (book.heldLines account)) firstRun firstLines secondLines) ∧
        ((∀ line ∈ firstLines ++ secondLines, ¬ book.Holds account line) →
          (ImportsExactlyOnce readers divide account book first second firstLines secondLines
              firstRun → ∀ header laterHeader, ∃ added,
            ((book.importing readers account first header).importing readers account second
              laterHeader).heldLines account = book.heldLines account ++ added ∧
            (added.map ParsedLine.key).Perm (history.filter fun transaction =>
              firstRun.Contains transaction.1 ∨ secondRun.Contains transaction.1)) ∧
          (first.HasNoIds → second.HasNoIds →
            (ImportsExactlyOnce readers divide account book first second firstLines secondLines
                firstRun ↔
              HashesApart readers ((firstLines ++ secondLines).map ParsedLine.key)))) := by
  intro book isAccount reads readsSecond firstCovers secondCovers
  have wellFormed : book.WellFormed :=
    (BankBook.after_keeps divide (.createCompany company) actions (fun _ => True)
      (fun _ _ _ _ _ => trivial) trivial).1
  have exactly : ImportsExactlyOnce readers divide account book first second firstLines
      secondLines firstRun ↔
        Identified (idsOf (book.heldLines account)) firstRun firstLines secondLines :=
    importsExactlyOnce_iff wellFormed isAccount reads readsSecond
  refine ⟨exactly, fun unheld => ⟨fun once => once.perm unheld firstCovers secondCovers, ?_⟩⟩
  intro noIds noIdsSecond
  have firstSynthesized := noIds.synthesized reads
  have secondSynthesized := noIdsSecond.synthesized readsSecond
  rw [exactly]
  exact ⟨hashesApart_of_identified firstSynthesized secondSynthesized firstCovers secondCovers
      unheld,
    identified_of_hashesApart firstSynthesized secondSynthesized firstCovers secondCovers
      unheld⟩

/-- The texts of three days in August and of one amount. -/
def augustReaders : ExportReaders where
  readDate _ text :=
    if text = "2026-08-01" then some ⟨2026, 8, 1, Eq.refl true⟩
    else if text = "2026-08-02" then some ⟨2026, 8, 2, Eq.refl true⟩
    else if text = "2026-08-03" then some ⟨2026, 8, 3, Eq.refl true⟩
    else none
  readDecimal text := if text = "-10.00" then some (.ofParts (-1000) 2) else none
  subtract? _ _ := none
  hashStr _ := 0
  quoted text := "\"" ++ text ++ "\""

def vendorLine (day : ℕ) (valid : isValidDay 2026 8 day = true) (externalId : Option String) :
    ParsedLine :=
  ⟨⟨2026, 8, day, valid⟩, .fromMinor (-1000), "Vendor A", externalId⟩

def augustExport (rows : String) : BankExport :=
  .csv .generic ("date,description,amount,external_id\n" ++ rows)

def augustHeader : StatementHeader where
  periodStart := ⟨2026, 8, 1, Eq.refl true⟩
  periodEnd := ⟨2026, 8, 31, Eq.refl true⟩
  openingBalance := .zero
  closingBalance := .zero

/-- A line whose id is empty is added by each import of its file. -/
theorem line_without_id_imports_twice :
    (((BankBook.createCompany "aquamentor").after (fun first _ => first) []).ledger.accountRow
        (acct Chart.checking)).isSome ∧
    (augustExport "2026-08-01,Vendor A,-10.00,\n").read augustReaders =
        .ok [vendorLine 1 (by decide) none] ∧
      Covers [(⟨2026, 8, 1, Eq.refl true⟩, -1000, "Vendor A")]
        ⟨⟨2026, 8, 1, Eq.refl true⟩, ⟨2026, 8, 1, Eq.refl true⟩⟩ [vendorLine 1 (by decide) none] ∧
      ¬ ImportsExactlyOnce augustReaders (fun first _ => first) (acct Chart.checking)
        ((BankBook.createCompany "aquamentor").after (fun first _ => first) [])
        (augustExport "2026-08-01,Vendor A,-10.00,\n")
        (augustExport "2026-08-01,Vendor A,-10.00,\n") [vendorLine 1 (by decide) none]
        [vendorLine 1 (by decide) none]
        ⟨⟨2026, 8, 1, Eq.refl true⟩, ⟨2026, 8, 1, Eq.refl true⟩⟩ := by
  refine ⟨by decide +kernel, by decide +kernel, by decide +kernel, fun once => ?_⟩
  exact absurd (congrArg List.length (once.again augustHeader [] augustHeader))
    (by decide +kernel)

/-- Two files that share a day, each line with its own id. -/
theorem august_imports_exactly_once :
    ImportsExactlyOnce augustReaders (fun first _ => first) (acct Chart.checking)
      ((BankBook.createCompany "aquamentor").after (fun first _ => first) [])
      (augustExport "2026-08-01,Vendor A,-10.00,ext-1\n2026-08-02,Vendor A,-10.00,ext-2\n")
      (augustExport "2026-08-02,Vendor A,-10.00,ext-2\n2026-08-03,Vendor A,-10.00,ext-3\n")
      [vendorLine 1 (by decide) (some "ext-1"), vendorLine 2 (by decide) (some "ext-2")]
      [vendorLine 2 (by decide) (some "ext-2"), vendorLine 3 (by decide) (some "ext-3")]
      ⟨⟨2026, 8, 1, Eq.refl true⟩, ⟨2026, 8, 2, Eq.refl true⟩⟩ :=
  (statement_imports_exactly_once_iff augustReaders (fun first _ => first) "aquamentor" []
    (acct Chart.checking) _ _ _ _
    [(⟨2026, 8, 1, Eq.refl true⟩, -1000, "Vendor A"), (⟨2026, 8, 2, Eq.refl true⟩, -1000, "Vendor A"),
      (⟨2026, 8, 3, Eq.refl true⟩, -1000, "Vendor A")]
    ⟨⟨2026, 8, 1, Eq.refl true⟩, ⟨2026, 8, 2, Eq.refl true⟩⟩
    ⟨⟨2026, 8, 2, Eq.refl true⟩, ⟨2026, 8, 3, Eq.refl true⟩⟩
    (by decide +kernel) (by decide +kernel) (by decide +kernel) (by decide +kernel)
    (by decide +kernel)).1.mpr
    ⟨by decide +kernel, by decide +kernel, by decide +kernel⟩

end Bank

end QuickBooks
