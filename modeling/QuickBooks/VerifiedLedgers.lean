import QuickBooks.CloseHistories
import QuickBooks.DocumentNets

/-!
# The sweep over a book that the operations built

Each check of the sweep asks for something that every write keeps: the
invariant of the store, the side of an account, the digit that the number of an
account starts with, and the order of the clock.  So the sweep finds nothing
fatal in a book that the operations alone have written.
-/

/-!
## The invariants sweep

The book with the instants at which its entries were posted and its periods
closed, and the sweep that recomputes from plain reads what the store's
constraints already claim.  Every check but the last is fatal.
-/

namespace QuickBooks

open ExceptPrograms KeyedTables TransactionPrograms TransitionRuns

/-- A book with the instants of its postings and closings, as the database
orders them. -/
structure StampedBook (τ : Type) where
  ledger : Ledger
  postedAt : List (ℕ × τ)
  closedAt : List (Date × τ)

/-- An operation and the instant it is given. -/
structure BookCommand (τ : Type) where
  operation : Operation
  now : τ

namespace BookCommand

variable {τ : Type}

/-- The period that a command closes, when it does. -/
def closes (command : BookCommand τ) (ledger : Ledger) : Option Date :=
  match command.operation with
  | .closePeriod periodEnd actor note =>
    if (execute (closePeriod periodEnd actor note) ledger).1.toOption.isSome then
      some periodEnd
    else none
  | _ => none

/-- Every entry that the command posts and the period that it closes take its
instant. -/
def run (command : BookCommand τ) (book : StampedBook τ) : StampedBook τ :=
  let after := command.operation.run book.ledger
  { ledger := after
    postedAt := book.postedAt ++
      (after.journal.drop book.ledger.journal.length).map fun posted =>
        (posted.entryId, command.now)
    closedAt :=
      match command.closes book.ledger with
      | none => book.closedAt
      | some periodEnd => upsert Prod.fst (periodEnd, command.now) book.closedAt }

end BookCommand

namespace StampedBook

variable {τ : Type}

def createCompany (company : String) : StampedBook τ :=
  ⟨Ledger.createCompany company, [], []⟩

def after (book : StampedBook τ) (commands : List (BookCommand τ)) : StampedBook τ :=
  runFrom BookCommand.run book commands

end StampedBook

inductive Severity where
  | fatal
  | reported
deriving DecidableEq

structure Finding where
  check : String
  severity : Severity
  detail : String
deriving DecidableEq

structure VerifyReport where
  findings : List Finding
deriving DecidableEq

def VerifyReport.isOk (report : VerifyReport) : Bool :=
  !report.findings.any fun finding => finding.severity = .fatal

def maxListed : ℕ :=
  20

def findingIfAny (check : String) (severity : Severity) (ids : List String) :
    Option Finding :=
  if ids.isEmpty then none
  else
    let detail :=
      if maxListed < ids.length then
        String.intercalate ", " (ids.take maxListed) ++ " (+" ++
          toString (ids.length - maxListed) ++ " more)"
      else String.intercalate ", " ids
    some ⟨check, severity, detail⟩

def sumMinor (amounts : List Int) : Except LedgerError Money :=
  orRefuse (.sqlite "integer overflow") (Money.ofMinor? amounts.sum)

def debitSum (lines : List JournalLine) : Except LedgerError Money :=
  sumMinor (lines.map fun line => line.debit.minor)

def creditSum (lines : List JournalLine) : Except LedgerError Money :=
  sumMinor (lines.map fun line => line.credit.minor)

namespace Ledger

variable (ledger : Ledger)

def lineRows : List (ℕ × JournalLine) :=
  ledger.journal.flatMap fun posted =>
    posted.entry.lines.map fun line => (posted.entryId, line)

def lineId (row : ℕ × JournalLine) : String :=
  toString row.1 ++ ":" ++ toString row.2.lineNo

/-- The entry's id when its sides differ; an entry without lines is not among
the joined rows. -/
def imbalance (posted : PostedEntry) : Except LedgerError (Option String) :=
  if posted.entry.lines.isEmpty then return none
  else do
    let debits ← debitSum posted.entry.lines
    let credits ← creditSum posted.entry.lines
    return if debits = credits then none else some (toString posted.entryId)

def checkEntriesBalance : Except LedgerError (Option Finding) := do
  let offenders ← ledger.journal.mapM imbalance
  return findingIfAny "every posted entry balances" .fatal (offenders.filterMap id)

def checkLinesHaveEntries : Option Finding :=
  findingIfAny "no journal line without an entry" .fatal
    ((ledger.lineRows.filter fun row =>
      !ledger.journal.any fun posted => posted.entryId = row.1).map lineId)

def checkEntriesHaveDocumentVersions : Option Finding :=
  findingIfAny "no entry without a document version" .fatal
    ((ledger.journal.filter fun posted =>
      !ledger.documentVersions.any fun row =>
        row.documentId = posted.entry.sourceId ∧
          row.version = posted.entry.sourceVersion).map
      fun posted => toString posted.entryId)

def checkTbDebitsEqualCredits : Except LedgerError (Option Finding) := do
  let debits ← debitSum (ledger.lineRows.map Prod.snd)
  let credits ← creditSum (ledger.lineRows.map Prod.snd)
  return if debits = credits then none
    else some ⟨"trial balance debits equal credits", .fatal,
      "debits " ++ toString debits.minor ++ " <> credits " ++ toString credits.minor ++
        " (minor units)"⟩

def checkIncomeCogsExpenseLinesHaveClass : Option Finding :=
  findingIfAny "no income/COGS/expense line without a class" .fatal
    ((ledger.lineRows.filter fun row =>
      (ledger.accountRow row.2.account).any (fun account =>
        account.classification.isProfitAndLoss) && row.2.class.isNone).map lineId)

def checkNormalBalanceConsistency : Option Finding :=
  findingIfAny "normal_balance consistent with classification and is_contra" .fatal
    ((ledger.listAccounts.filter fun account =>
      decide (normalBalanceOf account.classification account.isContra ≠
        account.normalBalance)).map fun account => account.accountId.number)

/-- The account's number and name when it is flagged and carries a balance. -/
def flaggedBalance (account : Account) : Except LedgerError (Option String) :=
  if !account.needsMapping then return none
  else do
    let lines := (ledger.lineRows.map Prod.snd).filter fun line =>
      line.account = account.accountId
    let debits ← debitSum lines
    let credits ← creditSum lines
    return if debits.minor - credits.minor = 0 then none
      else some (account.number ++ " " ++ account.name)

def checkNeedsMappingBalances : Except LedgerError (Option Finding) := do
  let offenders ← ledger.accounts.mapM ledger.flaggedBalance
  return findingIfAny "needs_mapping account with a non-zero balance" .reported
    (offenders.filterMap id)

end Ledger

section Stamps

variable {τ : Type} [LinearOrder τ]

/-- Whether an entry was posted later than a period that holds its date was
closed. -/
def StampedBook.postedAfterClose (book : StampedBook τ) (posted : PostedEntry)
    (period : Period) : Bool :=
  period.isClosed && decide (posted.entry.entryDate ≤ period.periodEnd) &&
    book.postedAt.any fun stamp => stamp.1 = posted.entryId &&
      book.closedAt.any fun close => close.1 = period.periodEnd && decide (close.2 < stamp.2)

def StampedBook.checkNoPostingAfterClose (book : StampedBook τ) : Option Finding :=
  findingIfAny "no posted entry dated inside a closed period, posted after the close" .fatal
    (book.ledger.journal.flatMap fun posted =>
      (book.ledger.periods.filter (book.postedAfterClose posted)).map fun _ =>
        toString posted.entryId)

/-- The full sweep over every posted entry and every account. -/
def verify (book : StampedBook τ) : Except LedgerError VerifyReport := do
  let ledger := book.ledger
  let balance ← ledger.checkEntriesBalance
  let totals ← ledger.checkTbDebitsEqualCredits
  let flagged ← ledger.checkNeedsMappingBalances
  return ⟨[balance, ledger.checkLinesHaveEntries, ledger.checkEntriesHaveDocumentVersions,
    totals, ledger.checkIncomeCogsExpenseLinesHaveClass, book.checkNoPostingAfterClose,
    ledger.checkNormalBalanceConsistency, flagged].filterMap id⟩

end Stamps

end QuickBooks

namespace QuickBooks

open ExceptPrograms KeyedTables TransactionPrograms TransitionRuns
open Ledger

namespace Classification

/-- The digits that the account numbers of a classification start with. -/
def bandDigits : Classification → List Char
  | asset => ['1']
  | liability => ['2']
  | equity => ['3']
  | income => ['4']
  | cogs => ['5']
  | expense => ['6', '7']

end Classification

def Account.InBand (account : Account) : Prop :=
  ∃ digit ∈ account.classification.bandDigits, account.number.toList.head? = some digit

instance (account : Account) : Decidable account.InBand :=
  @List.decidableBEx Char (fun digit => account.number.toList.head? = some digit)
    (fun _ => inferInstance) account.classification.bandDigits

/-- Every account that an operation creates or reclassifies is in its band. -/
def Operation.CreatesInBand (operation : Operation) (ledger : Ledger) : Prop :=
  ∀ account ∈ (operation.run ledger).accounts,
    (∃ earlier ∈ ledger.accounts, earlier.number = account.number ∧
      earlier.classification = account.classification) ∨ account.InBand

instance (operation : Operation) (ledger : Ledger) :
    Decidable (operation.CreatesInBand ledger) :=
  inferInstanceAs (Decidable (∀ account ∈ (operation.run ledger).accounts,
    (∃ earlier ∈ ledger.accounts, earlier.number = account.number ∧
      earlier.classification = account.classification) ∨ account.InBand))

namespace Account

variable {account : Account}

theorem InBand.congr {other : Account} (sameNumber : account.number = other.number)
    (sameClassification : account.classification = other.classification)
    (inBand : account.InBand) : other.InBand := by
  unfold InBand at inBand ⊢
  rw [← sameNumber, ← sameClassification]
  exact inBand

theorem seeded_inBand {seed : AccountSeed} (seedMem : seed ∈ Chart.seedChart) :
    (seededAccount seed).InBand := by
  have banded := Chart.seedChart_banded.2 seed seedMem
  unfold InBand
  change ∃ digit ∈ seed.classification.bandDigits, seed.number.toList.head? = some digit
  rw [banded]
  cases seed.classification with
  | expense =>
    by_cases interest : seed.number = Chart.interestExpense
    · exact ⟨'7', by simp [Classification.bandDigits], if_pos interest⟩
    · exact ⟨'6', by simp [Classification.bandDigits], if_neg interest⟩
  | _ => exact ⟨_, List.mem_singleton_self _, rfl⟩

theorem InBand.requiresClass (inBand : account.InBand)
    (number : account.number = account.accountId.number)
    (profitAndLoss : account.classification.isProfitAndLoss = true) :
    requiresClass account.accountId = true := by
  obtain ⟨digit, digitMem, starts⟩ := inBand
  unfold QuickBooks.requiresClass
  rw [← number, starts]
  cases classification : account.classification with
  | asset | liability | equity =>
    rw [classification] at profitAndLoss
    exact absurd profitAndLoss (by decide)
  | income | cogs =>
    rw [classification, Classification.bandDigits, List.mem_singleton] at digitMem
    rw [digitMem]
    rfl
  | expense =>
    rw [classification, Classification.bandDigits] at digitMem
    rcases List.mem_pair.mp digitMem with six | seven
    · rw [six]
      rfl
    · rw [seven]
      rfl

end Account

section Accounts

variable {kind : WriteKind} {before after : Ledger}

theorem Ledger.Write.sidesFollow (write : Write kind before after)
    (follow : ∀ account ∈ before.accounts, SideFollows account) :
    ∀ account ∈ after.accounts, SideFollows account := by
  cases write with
  | version | derivedEntry | suppliedEntry | liveReversal | strayReversal | snapshot
  | close | reopen => exact follow
  | masterData change => exact change.sidesKept follow

end Accounts

section Periods

variable {permitted : Set WriteKind} {before after : Ledger}

/-- Writes that close no period leave no closed period that was not closed at
the start, and date what they post after every closed one. -/
structure PostsAfterCloses (before after : Ledger) : Prop where
  stillClosed : ∀ period ∈ after.periods, period.isClosed = true → period ∈ before.periods
  datedAfter : ∀ posted ∈ after.journal, posted ∉ before.journal →
    ¬after.Locks posted.entry.entryDate

theorem PostsAfterCloses.recordEntry {ledger : Ledger} {entry : JournalEntry}
    (holds : PostsAfterCloses before ledger) (accepted : ledger.Accepts entry) :
    PostsAfterCloses before (ledger.recordEntry entry) := by
  refine ⟨holds.stillClosed, fun posted postedMem isNew => ?_⟩
  rcases mem_journal_recordEntry.mp postedMem with old | new
  · exact holds.datedAfter posted old isNew
  · rw [new]
    exact isOpen_iff.mp accepted.dateOpen

theorem mem_periods_recordReopen {ledger : Ledger} {periodEnd : Date} {actor note : String}
    {period : Period} (periodMem : period ∈ (ledger.recordReopen periodEnd actor note).periods)
    (closed : period.isClosed = true) : period ∈ ledger.periods := by
  obtain ⟨earlier, earlierMem, rfl⟩ := List.mem_map.mp periodMem
  by_cases reopened : earlier.periodEnd = periodEnd
  · rw [if_pos reopened] at closed
    exact absurd closed Bool.false_ne_true
  · rw [if_neg reopened]
    exact earlierMem

theorem Ledger.Evolves.postsAfterCloses (evolves : Evolves permitted before after)
    (wellFormed : before.WellFormed) (noClose : .close ∉ permitted) :
    PostsAfterCloses before after := by
  apply evolves.keeps wellFormed (PostsAfterCloses before) ?_
  · exact ⟨fun _ periodMem _ => periodMem, fun posted old isNew => absurd old isNew⟩
  intro kind allowed earlier later _ write holds
  cases write with
  | version | snapshot => exact ⟨holds.stillClosed, holds.datedAfter⟩
  | derivedEntry ctx saved posts accepted => exact holds.recordEntry accepted
  | suppliedEntry original accepted => exact holds.recordEntry accepted
  | liveReversal live reverses accepted => exact holds.recordEntry accepted
  | strayReversal reverses accepted => exact holds.recordEntry accepted
  | masterData change =>
    rw [change.sameBooks]
    exact ⟨holds.stillClosed, holds.datedAfter⟩
  | close => exact absurd allowed noClose
  | reopen periodEnd actor note =>
    constructor
    · intro period periodMem closed
      exact holds.stillClosed period (mem_periods_recordReopen periodMem closed) closed
    · intro posted postedMem isNew locks
      obtain ⟨period, periodMem, closed, reaches⟩ := locks
      exact holds.datedAfter posted postedMem isNew
        ⟨period, mem_periods_recordReopen periodMem closed, closed, reaches⟩

end Periods

section Stamps

variable {τ : Type} [LinearOrder τ]

omit [LinearOrder τ] in
theorem BookCommand.closes_cases (command : BookCommand τ) {ledger : Ledger}
    (wellFormed : ledger.WellFormed) :
    (∃ periodEnd, command.closes ledger = some periodEnd ∧
        (command.operation.run ledger).journal = ledger.journal ∧
        ∀ period ∈ (command.operation.run ledger).periods, period.periodEnd ≠ periodEnd →
          period ∈ ledger.periods) ∨
      command.closes ledger = none ∧
        PostsAfterCloses ledger (command.operation.run ledger) := by
  obtain ⟨operation, now⟩ := command
  by_cases isClose : ∃ periodEnd actor note, operation = .closePeriod periodEnd actor note
  · obtain ⟨periodEnd, actor, note, rfl⟩ := isClose
    have outcome : execute (closePeriod periodEnd actor note) ledger = _ :=
      execute_closePeriod
    unfold closes Operation.run
    cases balances : trialBalance ledger periodEnd with
    | ok sheet =>
      rw [balances] at outcome
      simp only [outcome]
      refine .inl ⟨periodEnd, rfl, rfl, fun period periodMem other => ?_⟩
      rcases mem_upsert _ _ _ periodMem with new | ⟨old, -⟩
      · exact absurd (congrArg Period.periodEnd new) other
      · exact old
    | error failure =>
      rw [balances] at outcome
      simp only [outcome]
      exact .inr ⟨rfl, ⟨fun _ periodMem _ => periodMem,
        fun posted old isNew => absurd old isNew⟩⟩
  · push Not at isClose
    refine .inr ⟨?_, (operation.evolves ledger).postsAfterCloses wellFormed
      (Operation.close_notMem_kinds isClose)⟩
    unfold closes
    cases operation with
    | closePeriod periodEnd actor note => exact absurd rfl (isClose periodEnd actor note)
    | _ => rfl

/-- The invariant of a book that the operations alone have written. -/
structure StampedBook.Kept (book : StampedBook τ) : Prop where
  wellFormed : book.ledger.WellFormed
  sides : ∀ account ∈ book.ledger.accounts, SideFollows account
  inBand : ∀ account ∈ book.ledger.accounts, account.InBand
  stampIds : ∀ stamp ∈ book.postedAt, ∃ posted ∈ book.ledger.journal,
    posted.entryId = stamp.1
  postedFirst : ∀ posted ∈ book.ledger.journal, ∀ period ∈ book.ledger.periods,
    period.isClosed = true → posted.entry.entryDate ≤ period.periodEnd →
    ∀ stamp ∈ book.postedAt, stamp.1 = posted.entryId →
    ∀ close ∈ book.closedAt, close.1 = period.periodEnd → stamp.2 ≤ close.2

theorem StampedBook.Kept.createCompany (company : String) :
    (StampedBook.createCompany company : StampedBook τ).Kept where
  wellFormed := .createCompany company
  sides := by
    intro account accountMem
    obtain ⟨seed, -, rfl⟩ := List.mem_map.mp accountMem
    rfl
  inBand := by
    intro account accountMem
    obtain ⟨seed, seedMem, rfl⟩ := List.mem_map.mp accountMem
    exact Account.seeded_inBand seedMem
  stampIds := fun _ stampMem => nomatch stampMem
  postedFirst := fun _ postedMem => nomatch postedMem

theorem StampedBook.Kept.command {book : StampedBook τ} (kept : book.Kept)
    {command : BookCommand τ} (notBefore : ∀ stamp ∈ book.postedAt, stamp.2 ≤ command.now)
    (inBand : command.operation.CreatesInBand book.ledger) : (command.run book).Kept := by
  have evolves := command.operation.evolves book.ledger
  have grows := evolves.journal_prefix kept.wellFormed
  have afterWellFormed := evolves.wellFormed kept.wellFormed
  obtain ⟨posted, journalEq⟩ := grows
  have stamped : (command.run book).postedAt = book.postedAt ++
      posted.map fun entry => (entry.entryId, command.now) := by
    change book.postedAt ++ ((command.operation.run book.ledger).journal.drop
      book.ledger.journal.length).map _ = _
    rw [← journalEq, List.drop_left]
  have distinct := afterWellFormed.entryIds
  rw [← journalEq, List.map_append, List.nodup_append] at distinct
  constructor
  · exact afterWellFormed
  · exact evolves.keeps kept.wellFormed _
      (fun kind _ earlier later _ write follow => write.sidesFollow follow) kept.sides
  · intro account accountMem
    rcases inBand account accountMem with ⟨earlier, earlierMem, sameNumber, same⟩ | created
    · exact (kept.inBand earlier earlierMem).congr sameNumber same
    · exact created
  · intro stamp stampMem
    change ∃ entry ∈ (command.operation.run book.ledger).journal, entry.entryId = stamp.1
    rw [stamped] at stampMem
    rw [← journalEq]
    rcases List.mem_append.mp stampMem with old | new
    · obtain ⟨entry, entryMem, sameId⟩ := kept.stampIds stamp old
      exact ⟨entry, List.mem_append_left _ entryMem, sameId⟩
    · obtain ⟨entry, entryMem, rfl⟩ := List.mem_map.mp new
      exact ⟨entry, List.mem_append_right _ entryMem, rfl⟩
  · intro entry entryMem period periodMem closed reaches stamp stampMem sameId close closeMem
      samePeriod
    rw [stamped] at stampMem
    rcases command.closes_cases kept.wellFormed with
      ⟨periodEnd, closes, sameJournal, otherPeriods⟩ | ⟨closesNone, datedAfter⟩
    · have nothingNew : posted = [] := by
        have sameLength := congrArg List.length (journalEq.trans sameJournal)
        simpa using sameLength
      have closedEq : (command.run book).closedAt =
          upsert Prod.fst (periodEnd, command.now) book.closedAt := by
        unfold BookCommand.run
        rw [closes]
      rw [nothingNew, List.map_nil, List.append_nil] at stampMem
      rw [closedEq] at closeMem
      rcases mem_upsert _ _ _ closeMem with new | ⟨old, otherEnd⟩
      · rw [new]
        exact notBefore stamp stampMem
      · have other : period.periodEnd ≠ periodEnd := by
          rw [← samePeriod]
          exact otherEnd
        have oldEntry : entry ∈ book.ledger.journal := by
          rw [← sameJournal]
          exact entryMem
        exact kept.postedFirst entry oldEntry period (otherPeriods period periodMem other)
          closed reaches stamp stampMem sameId close old samePeriod
    · have closedEq : (command.run book).closedAt = book.closedAt := by
        unfold BookCommand.run
        rw [closesNone]
      rw [closedEq] at closeMem
      by_cases old : entry ∈ book.ledger.journal
      · rcases List.mem_append.mp stampMem with oldStamp | newStamp
        · exact kept.postedFirst entry old period
            (datedAfter.stillClosed period periodMem closed) closed reaches stamp oldStamp
            sameId close closeMem samePeriod
        · obtain ⟨new, newMem, rfl⟩ := List.mem_map.mp newStamp
          exact absurd sameId.symm (distinct.2.2 _ (List.mem_map_of_mem old) _
            (List.mem_map_of_mem newMem))
      · exact absurd ⟨period, periodMem, closed, reaches⟩
          (datedAfter.datedAfter entry entryMem old)

theorem StampedBook.Kept.after {book : StampedBook τ} (kept : book.Kept)
    {commands : List (BookCommand τ)}
    (ordered : (commands.map BookCommand.now).Pairwise (· ≤ ·))
    (notBefore : ∀ command ∈ commands, ∀ stamp ∈ book.postedAt, stamp.2 ≤ command.now)
    (inBand : EveryStep BookCommand.run
      (fun command state => command.operation.CreatesInBand state.ledger) book commands) :
    (book.after commands).Kept := by
  induction commands generalizing book with
  | nil => exact kept
  | cons command commands ih =>
    rw [List.map_cons, List.pairwise_cons] at ordered
    have runs := kept.command (notBefore command List.mem_cons_self) inBand.1
    refine ih runs ordered.2 ?_ inBand.2
    intro later laterMem stamp stampMem
    rcases List.mem_append.mp stampMem with old | new
    · exact notBefore later (List.mem_cons_of_mem _ laterMem) stamp old
    · obtain ⟨entry, -, rfl⟩ := List.mem_map.mp new
      exact ordered.1 _ (List.mem_map_of_mem laterMem)

end Stamps

section Findings

@[simp]
theorem findingIfAny_nil (check : String) (severity : Severity) :
    findingIfAny check severity [] = none :=
  rfl

theorem severity_of_findingIfAny {check : String} {severity : Severity} {ids : List String}
    {finding : Finding} (found : findingIfAny check severity ids = some finding) :
    finding.severity = severity := by
  unfold findingIfAny at found
  split_ifs at found
  all_goals
    rw [Option.some.injEq] at found
    rw [← found]

theorem sumMinor_eq_ok_iff {amounts : List Int} {total : Money} :
    sumMinor amounts = .ok total ↔ total.minor = amounts.sum := by
  unfold sumMinor
  rw [orRefuse_eq_ok_iff, Money.ofMinor?_eq_some_iff]

theorem exists_sumMinor {amounts : List Int} (nonneg : ∀ amount ∈ amounts, 0 ≤ amount)
    (fits : amounts.sum ≤ 9223372036854775807) : ∃ total, sumMinor amounts = .ok total := by
  have sumNonneg : 0 ≤ amounts.sum := List.sum_nonneg nonneg
  exact ⟨.fromMinor amounts.sum (decide_eq_true (by omega)), sumMinor_eq_ok_iff.mpr rfl⟩

end Findings

namespace Ledger

def totalDebits (ledger : Ledger) : Int :=
  (ledger.lineRows.map fun row => row.2.debit.minor).sum

section Checks

variable {ledger : Ledger}

theorem mem_lineRows {row : ℕ × JournalLine} :
    row ∈ ledger.lineRows ↔
      ∃ posted ∈ ledger.journal, posted.entryId = row.1 ∧ row.2 ∈ posted.entry.lines := by
  unfold lineRows
  rw [List.mem_flatMap]
  constructor
  · rintro ⟨posted, postedMem, rowMem⟩
    obtain ⟨line, lineMem, rfl⟩ := List.mem_map.mp rowMem
    exact ⟨posted, postedMem, rfl, lineMem⟩
  · rintro ⟨posted, postedMem, sameId, lineMem⟩
    refine ⟨posted, postedMem, List.mem_map.mpr ⟨row.2, lineMem, ?_⟩⟩
    rw [sameId]

theorem sum_lineRows (amount : JournalLine → Int) :
    (ledger.lineRows.map fun row => amount row.2).sum =
      (ledger.journal.map fun posted => (posted.entry.lines.map amount).sum).sum := by
  unfold lineRows
  induction ledger.journal with
  | nil => rfl
  | cons posted rest ih =>
    rw [List.flatMap_cons, List.map_append, List.sum_append, ih, List.map_cons,
      List.sum_cons, List.map_map]
    rfl

theorem WellFormed.lineRow_nonneg (wellFormed : ledger.WellFormed) {row : ℕ × JournalLine}
    (rowMem : row ∈ ledger.lineRows) : 0 ≤ row.2.debit.minor ∧ 0 ≤ row.2.credit.minor := by
  obtain ⟨posted, postedMem, -, lineMem⟩ := mem_lineRows.mp rowMem
  obtain ⟨-, sides, -⟩ := JournalEntry.isBalanced_spec (wellFormed.balanced posted postedMem)
  exact JournalEntry.nonneg_of_sideOk (sides row.2 lineMem)

theorem WellFormed.sum_credits (wellFormed : ledger.WellFormed) :
    (ledger.lineRows.map fun row => row.2.credit.minor).sum = ledger.totalDebits := by
  unfold totalDebits
  rw [sum_lineRows fun line => line.credit.minor, sum_lineRows fun line => line.debit.minor]
  apply congrArg List.sum
  apply List.map_congr_left
  intro posted postedMem
  exact (JournalEntry.isBalanced_spec (wellFormed.balanced posted postedMem)).2.2.symm

theorem imbalance_of_isBalanced {posted : PostedEntry}
    (balanced : posted.entry.isBalanced = true) : imbalance posted = .ok none := by
  obtain ⟨nonempty, sides, sameTotal, fits⟩ := JournalEntry.isBalanced_iff.mp balanced
  have nonneg := fun line lineMem => JournalEntry.nonneg_of_sideOk (sides line lineMem)
  obtain ⟨debits, debitsEq⟩ : ∃ total, debitSum posted.entry.lines = .ok total := by
    apply exists_sumMinor _ fits
    intro amount amountMem
    obtain ⟨line, lineMem, rfl⟩ := List.mem_map.mp amountMem
    exact (nonneg line lineMem).1
  obtain ⟨credits, creditsEq⟩ : ∃ total, creditSum posted.entry.lines = .ok total := by
    rw [sameTotal] at fits
    apply exists_sumMinor _ fits
    intro amount amountMem
    obtain ⟨line, lineMem, rfl⟩ := List.mem_map.mp amountMem
    exact (nonneg line lineMem).2
  have same : debits = credits := by
    apply Money.ext
    rw [sumMinor_eq_ok_iff.mp debitsEq, sumMinor_eq_ok_iff.mp creditsEq, sameTotal]
  unfold imbalance
  rw [if_neg (by simpa using nonempty), debitsEq, creditsEq, same]
  simp [bind, Except.bind, pure, Except.pure]

theorem WellFormed.checkEntriesBalance_eq (wellFormed : ledger.WellFormed) :
    ledger.checkEntriesBalance = .ok none := by
  have all : ∀ posted ∈ ledger.journal, ∃ offender, imbalance posted = .ok offender :=
    fun posted postedMem =>
      ⟨none, imbalance_of_isBalanced (wellFormed.balanced posted postedMem)⟩
  obtain ⟨offenders, runs⟩ := exists_mapM_ok all
  have noOffender : offenders.filterMap id = [] := by
    rw [List.filterMap_eq_nil_iff]
    intro offender offenderMem
    obtain ⟨posted, postedMem, found⟩ := exists_of_mem_mapM runs offenderMem
    rw [imbalance_of_isBalanced (wellFormed.balanced posted postedMem)] at found
    exact (Except.ok.inj found).symm
  unfold checkEntriesBalance
  rw [runs]
  change Except.ok (findingIfAny _ _ (offenders.filterMap id)) = _
  rw [noOffender]
  rfl

theorem checkLinesHaveEntries_eq : ledger.checkLinesHaveEntries = none := by
  have noOffender : (ledger.lineRows.filter fun row =>
      !ledger.journal.any fun posted => posted.entryId = row.1) = [] := by
    rw [List.filter_eq_nil_iff]
    intro row rowMem
    obtain ⟨posted, postedMem, sameId, -⟩ := mem_lineRows.mp rowMem
    simp only [Bool.not_eq_true', Bool.not_eq_false, List.any_eq_true, decide_eq_true_eq]
    exact ⟨posted, postedMem, sameId⟩
  unfold checkLinesHaveEntries
  rw [noOffender]
  rfl

theorem WellFormed.checkEntriesHaveDocumentVersions_eq (wellFormed : ledger.WellFormed) :
    ledger.checkEntriesHaveDocumentVersions = none := by
  have noOffender : (ledger.journal.filter fun posted =>
      !ledger.documentVersions.any fun row =>
        row.documentId = posted.entry.sourceId ∧
          row.version = posted.entry.sourceVersion) = [] := by
    rw [List.filter_eq_nil_iff]
    intro posted postedMem
    obtain ⟨row, rowMem, saved⟩ := wellFormed.versionSaved posted postedMem
    simp only [Bool.not_eq_true', Bool.not_eq_false, List.any_eq_true, decide_eq_true_eq]
    exact ⟨row, rowMem, saved⟩
  unfold checkEntriesHaveDocumentVersions
  rw [noOffender]
  rfl

theorem WellFormed.checkIncomeCogsExpenseLinesHaveClass_eq (wellFormed : ledger.WellFormed)
    (inBand : ∀ account ∈ ledger.accounts, account.InBand) :
    ledger.checkIncomeCogsExpenseLinesHaveClass = none := by
  have noOffender : (ledger.lineRows.filter fun row =>
      (ledger.accountRow row.2.account).any (fun account =>
        account.classification.isProfitAndLoss) && row.2.class.isNone) = [] := by
    rw [List.filter_eq_nil_iff]
    intro row rowMem offends
    rw [Bool.and_eq_true, Option.any_eq_true] at offends
    obtain ⟨⟨account, found, profitAndLoss⟩, noClass⟩ := offends
    obtain ⟨accountMem, sameId⟩ := accountRow_eq_some found
    obtain ⟨posted, postedMem, -, lineMem⟩ := mem_lineRows.mp rowMem
    have passes := (checkClassRule_eq_ok_iff wellFormed.accountNumbers).mp
      (wellFormed.classRule posted postedMem row.2 lineMem)
    have needs := (inBand account accountMem).requiresClass
      (wellFormed.accountNumbers account accountMem) profitAndLoss
    rw [Option.isNone_iff_eq_none.mp noClass] at passes
    have spared : requiresClass row.2.account = false := passes.2
    rw [← sameId, needs] at spared
    exact absurd spared (by decide)
  unfold checkIncomeCogsExpenseLinesHaveClass
  rw [noOffender]
  rfl

theorem checkNormalBalanceConsistency_eq
    (follow : ∀ account ∈ ledger.accounts, SideFollows account) :
    ledger.checkNormalBalanceConsistency = none := by
  have noOffender : (ledger.listAccounts.filter fun account =>
      decide (normalBalanceOf account.classification account.isContra ≠
        account.normalBalance)) = [] := by
    rw [List.filter_eq_nil_iff]
    intro account accountMem offends
    exact of_decide_eq_true offends (follow account (mem_listAccounts.mp accountMem)).symm
  unfold checkNormalBalanceConsistency
  rw [noOffender]
  rfl

theorem WellFormed.checkTbDebitsEqualCredits_eq_ok (wellFormed : ledger.WellFormed)
    {finding : Option Finding} (found : ledger.checkTbDebitsEqualCredits = .ok finding) :
    finding = none ∧ ledger.totalDebits ≤ 9223372036854775807 := by
  unfold checkTbDebitsEqualCredits debitSum creditSum at found
  simp only [bind_eq_ok_iff, pure_eq_ok_iff, sumMinor_eq_ok_iff, List.map_map] at found
  obtain ⟨debits, debitsEq, credits, creditsEq, rfl⟩ := found
  have same : debits = credits := by
    apply Money.ext
    rw [debitsEq, creditsEq]
    exact wellFormed.sum_credits.symm
  constructor
  · rw [if_pos same]
  · exact debitsEq.symm.le.trans debits.cents.le_upper

theorem WellFormed.exists_checkTbDebitsEqualCredits (wellFormed : ledger.WellFormed)
    (fits : ledger.totalDebits ≤ 9223372036854775807) :
    ∃ finding, ledger.checkTbDebitsEqualCredits = .ok finding := by
  obtain ⟨debits, debitsEq⟩ : ∃ total,
      debitSum (ledger.lineRows.map Prod.snd) = .ok total := by
    unfold debitSum
    rw [List.map_map]
    apply exists_sumMinor _ fits
    intro amount amountMem
    obtain ⟨row, rowMem, rfl⟩ := List.mem_map.mp amountMem
    exact (wellFormed.lineRow_nonneg rowMem).1
  obtain ⟨credits, creditsEq⟩ : ∃ total,
      creditSum (ledger.lineRows.map Prod.snd) = .ok total := by
    rw [← wellFormed.sum_credits] at fits
    unfold creditSum
    rw [List.map_map]
    apply exists_sumMinor _ fits
    intro amount amountMem
    obtain ⟨row, rowMem, rfl⟩ := List.mem_map.mp amountMem
    exact (wellFormed.lineRow_nonneg rowMem).2
  unfold checkTbDebitsEqualCredits
  rw [debitsEq, creditsEq]
  exact ⟨_, rfl⟩

theorem WellFormed.exists_flaggedBalance (wellFormed : ledger.WellFormed)
    (fits : ledger.totalDebits ≤ 9223372036854775807) (account : Account) :
    ∃ offender, ledger.flaggedBalance account = .ok offender := by
  have selected : ∀ amount : JournalLine → Int,
      (∀ row ∈ ledger.lineRows, 0 ≤ amount row.2) →
      (ledger.lineRows.map fun row => amount row.2).sum ≤ 9223372036854775807 →
      ∃ total, sumMinor (((ledger.lineRows.map Prod.snd).filter fun line =>
        line.account = account.accountId).map amount) = .ok total := by
    intro amount nonneg allFit
    have nonnegLines : ∀ minor ∈ (ledger.lineRows.map Prod.snd).map amount, 0 ≤ minor := by
      intro minor minorMem
      rw [List.map_map] at minorMem
      obtain ⟨row, rowMem, rfl⟩ := List.mem_map.mp minorMem
      exact nonneg row rowMem
    have some_lines : (((ledger.lineRows.map Prod.snd).filter fun line =>
        line.account = account.accountId).map amount).Sublist
        ((ledger.lineRows.map Prod.snd).map amount) := List.filter_sublist.map amount
    apply exists_sumMinor
    · intro minor minorMem
      exact nonnegLines minor (some_lines.subset minorMem)
    · refine (some_lines.sum_le_sum nonnegLines).trans ?_
      rw [List.map_map]
      exact allFit
  obtain ⟨debits, debitsEq⟩ := selected (fun line => line.debit.minor)
    (fun row rowMem => (wellFormed.lineRow_nonneg rowMem).1) fits
  obtain ⟨credits, creditsEq⟩ := selected (fun line => line.credit.minor)
    (fun row rowMem => (wellFormed.lineRow_nonneg rowMem).2)
    (wellFormed.sum_credits.le.trans fits)
  unfold flaggedBalance
  by_cases flagged : account.needsMapping = true
  · rw [if_neg (by simpa using flagged)]
    simp only [debitSum, creditSum, debitsEq, creditsEq]
    exact ⟨_, rfl⟩
  · rw [if_pos (by simpa using flagged)]
    exact ⟨_, rfl⟩

theorem WellFormed.exists_checkNeedsMappingBalances (wellFormed : ledger.WellFormed)
    (fits : ledger.totalDebits ≤ 9223372036854775807) :
    ∃ finding, ledger.checkNeedsMappingBalances = .ok finding := by
  obtain ⟨offenders, runs⟩ : ∃ offenders,
      ledger.accounts.mapM ledger.flaggedBalance = .ok offenders :=
    exists_mapM_ok fun account _ => wellFormed.exists_flaggedBalance fits account
  unfold checkNeedsMappingBalances
  rw [runs]
  exact ⟨_, rfl⟩

theorem severity_of_checkNeedsMappingBalances {finding : Finding}
    (found : ledger.checkNeedsMappingBalances = .ok (some finding)) :
    finding.severity = .reported := by
  unfold checkNeedsMappingBalances at found
  simp only [bind_eq_ok_iff, pure_eq_ok_iff] at found
  obtain ⟨offenders, -, flagged⟩ := found
  exact severity_of_findingIfAny flagged

end Checks

end Ledger

section Sweep

variable {τ : Type} [LinearOrder τ]

theorem StampedBook.Kept.checkNoPostingAfterClose_eq {book : StampedBook τ}
    (kept : book.Kept) : book.checkNoPostingAfterClose = none := by
  have noOffender : (book.ledger.journal.flatMap fun posted =>
      (book.ledger.periods.filter (book.postedAfterClose posted)).map fun _ =>
        toString posted.entryId) = [] := by
    rw [List.flatMap_eq_nil_iff]
    intro posted postedMem
    rw [List.map_eq_nil_iff, List.filter_eq_nil_iff]
    intro period periodMem offends
    unfold postedAfterClose at offends
    simp only [Bool.and_eq_true, decide_eq_true_eq, List.any_eq_true] at offends
    obtain ⟨⟨closed, reaches⟩, stamp, stampMem, sameId, close, closeMem, samePeriod, later⟩ :=
      offends
    exact absurd later (not_lt.mpr (kept.postedFirst posted postedMem period periodMem closed
      reaches stamp stampMem sameId close closeMem samePeriod))
  unfold checkNoPostingAfterClose
  rw [noOffender]
  rfl

theorem StampedBook.Kept.verify_eq_ok_iff {book : StampedBook τ} (kept : book.Kept)
    {report : VerifyReport} :
    verify book = .ok report ↔
      book.ledger.totalDebits ≤ 9223372036854775807 ∧
        ∃ flagged, book.ledger.checkNeedsMappingBalances = .ok flagged ∧
          report = ⟨flagged.toList⟩ := by
  have wellFormed := kept.wellFormed
  have reads : ∀ flagged : Option Finding,
      [none, none, none, none, none, none, none, flagged].filterMap id = flagged.toList := by
    intro flagged
    cases flagged <;> rfl
  unfold verify
  dsimp only
  rw [wellFormed.checkEntriesBalance_eq, checkLinesHaveEntries_eq,
    wellFormed.checkEntriesHaveDocumentVersions_eq,
    wellFormed.checkIncomeCogsExpenseLinesHaveClass_eq kept.inBand,
    kept.checkNoPostingAfterClose_eq, checkNormalBalanceConsistency_eq kept.sides]
  simp only [bind_eq_ok_iff, pure_eq_ok_iff, Except.ok.injEq, exists_eq_left']
  constructor
  · rintro ⟨totals, totalsEq, flagged, flaggedEq, rfl⟩
    obtain ⟨rfl, fits⟩ := wellFormed.checkTbDebitsEqualCredits_eq_ok totalsEq
    exact ⟨fits, flagged, flaggedEq, congrArg VerifyReport.mk (reads flagged)⟩
  · rintro ⟨fits, flagged, flaggedEq, rfl⟩
    obtain ⟨totals, totalsEq⟩ := wellFormed.exists_checkTbDebitsEqualCredits fits
    obtain ⟨rfl, -⟩ := wellFormed.checkTbDebitsEqualCredits_eq_ok totalsEq
    exact ⟨none, totalsEq, flagged, flaggedEq, (congrArg VerifyReport.mk (reads flagged)).symm⟩

/-- Whatever operations built a book under a clock that never goes back, with
every account created in its band, the sweep finds nothing fatal in it; it fails
only when the debits of the whole book exceed an amount. -/
theorem verify_isOk (company : String) (commands : List (BookCommand τ))
    (ordered : (commands.map BookCommand.now).Pairwise (· ≤ ·))
    (inBand : EveryStep BookCommand.run
      (fun command state => command.operation.CreatesInBand state.ledger)
      (StampedBook.createCompany company) commands) :
    let book := (StampedBook.createCompany company).after commands
    ((∃ report, verify book = .ok report) ↔
        book.ledger.totalDebits ≤ 9223372036854775807) ∧
      ∀ report, verify book = .ok report → report.isOk = true := by
  intro book
  have kept : book.Kept := (StampedBook.Kept.createCompany company).after ordered
    (fun _ _ _ stampMem => nomatch stampMem) inBand
  refine ⟨⟨?_, fun fits => ?_⟩, fun report runs => ?_⟩
  · rintro ⟨report, runs⟩
    exact (kept.verify_eq_ok_iff.mp runs).1
  · obtain ⟨flagged, flaggedEq⟩ := kept.wellFormed.exists_checkNeedsMappingBalances fits
    exact ⟨_, kept.verify_eq_ok_iff.mpr ⟨fits, flagged, flaggedEq, rfl⟩⟩
  · obtain ⟨-, flagged, flaggedEq, rfl⟩ := kept.verify_eq_ok_iff.mp runs
    unfold VerifyReport.isOk
    cases flagged with
    | none => rfl
    | some finding =>
      have reported := severity_of_checkNeedsMappingBalances flaggedEq
      simp [reported]

end Sweep

def firstYearCommands : List (BookCommand ℕ) :=
  [⟨newCheckingAccount, 1⟩, ⟨.saveAndPostDocument saleOf2026 [] "bookkeeper", 1⟩,
    ⟨.closePeriod ⟨2026, 12, 31, Eq.refl true⟩ "accountant" "year end", 2⟩]

theorem verify_firstYear :
    ∃ report, verify ((StampedBook.createCompany "aquamentor").after firstYearCommands) =
        .ok report ∧ report.isOk = true := by
  have inBand : EveryStep BookCommand.run
      (fun command state => command.operation.CreatesInBand state.ledger)
      (StampedBook.createCompany "aquamentor") firstYearCommands := by
    refine ⟨?_, ?_, ?_, trivial⟩
    all_goals decide +kernel
  obtain ⟨succeeds, isOk⟩ := verify_isOk "aquamentor" firstYearCommands (by decide) inBand
  obtain ⟨report, runs⟩ := succeeds.mpr (by decide +kernel)
  exact ⟨report, runs, isOk report runs⟩

end QuickBooks
