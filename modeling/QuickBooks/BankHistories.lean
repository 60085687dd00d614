import QuickBooks.BankReconciliation
import QuickBooks.DocumentNets

/-!
# What the bank's operations write

Every operation of the bank, as a history of single writes: the ledger evolves,
a statement or a line is new, an open line claims a journal line that is not
cleared, an open line becomes a proposal, a statement that balances is closed.
The invariant of the bank's book says which journal line every resolved line
has claimed.
-/

namespace QuickBooks

open DecimalNumbers ExceptPrograms TransactionPrograms TransitionRuns

namespace Bank

def BankLineRow.claim (line : BankLineRow) : Option (ℕ × Int) :=
  line.matchedEntryId.bind fun entryId =>
    line.matchedLineNo.map fun lineNo => (entryId, lineNo)

/-- The line with its match set. -/
def BankLineRow.withMatch (line : BankLineRow) (kind : MatchKind)
    (claim : Option (ℕ × Int)) : BankLineRow :=
  { line with
    matchKind := some kind
    matchedEntryId := claim.map Prod.fst
    matchedLineNo := claim.map Prod.snd }

/-- Why a bank line may claim a line of a posted entry. -/
inductive Clears (line : BankLineRow) (posted : PostedEntry) (row : JournalLine) :
    MatchKind → Prop
  | exact (ofKind : posted.entry.sourceType ∈ exactMatchSourceKinds)
      (moneyIn : 0 ≤ line.amount.minor → row.debit.minor = line.amount.minor)
      (moneyOut : line.amount.minor < 0 → row.credit.minor = -line.amount.minor) :
      Clears line posted row .exact
  | settlement (ofKind : posted.entry.sourceType ∈ settlementSourceKinds)
      (moneyIn : 0 ≤ line.amount.minor) (debits : row.debit.minor ≠ 0) {credits : Money}
      (credited : clearingCredits posted.entry = some credits)
      (covered : line.amount.minor ≤ credits.minor) :
      Clears line posted row .settlement
  | manual (nets : row.net = |line.amount.minor|)
      (ofLine : posted.entry.sourceId = "bankline-" ++ toString line.lineId) :
      Clears line posted row .manual

namespace BankBook

variable (book : BankBook)

def IsOpen (statementId : ℕ) : Prop :=
  ∃ statement ∈ book.statements, statement.statementId = statementId ∧
    statement.isClosed = false

/-- The book with the match of one line set. -/
def withMatch (lineId : ℕ) (kind : MatchKind) (claim : Option (ℕ × Int)) : BankBook :=
  { book with
    lines := book.lines.map fun line =>
      if line.lineId = lineId then line.withMatch kind claim else line }

def withClaim (lineId : ℕ) (kind : MatchKind) (claim : ℕ × Int) : BankBook :=
  { book.withMatch lineId kind (some claim) with cleared := claim :: book.cleared }

def withClosed (statementId : ℕ) : BankBook :=
  { book with
    statements := book.statements.map fun statement =>
      if statement.statementId = statementId then { statement with isClosed := true }
      else statement }

def linesOf (statementId : ℕ) : List BankLineRow :=
  book.lines.filter fun line => line.statementId = statementId

/-- The opening balance and the resolved lines of the statement make its
closing balance, and its other lines add up to nothing. -/
def Balances (statement : BankStatementRow) : Prop :=
  statement.openingBalance.minor +
      (((book.linesOf statement.statementId).filter isResolved).map
        fun line => line.amount.minor).sum = statement.closingBalance.minor ∧
    (((book.linesOf statement.statementId).filter fun line => !isResolved line).map
      fun line => line.amount.minor).sum = 0

/-- The journal line that a bank line has claimed. -/
structure Cleared (line : BankLineRow) (posted : PostedEntry) (row : JournalLine) :
    Prop where
  postedMem : posted ∈ book.ledger.journal
  rowMem : row ∈ posted.entry.lines
  claimed : line.claim = some (posted.entryId, row.lineNo)
  stamped : (posted.entryId, row.lineNo) ∈ book.cleared
  onAccount : row.account = line.accountId
  clears : ∃ kind, line.matchKind = some kind ∧ Clears line posted row kind

structure WellFormed : Prop where
  ledger : book.ledger.WellFormed
  statementIds : book.statements.map BankStatementRow.statementId =
    List.range book.statements.length
  lineIds : book.lines.map BankLineRow.lineId = List.range book.lines.length
  lineStatements : ∀ line ∈ book.lines, ∃ statement ∈ book.statements,
    statement.statementId = line.statementId
  stampedPosted : ∀ key ∈ book.cleared, ∃ posted ∈ book.ledger.journal,
    posted.entryId = key.1
  unresolved : ∀ line ∈ book.lines, isResolved line = false → line.claim = none
  resolved : ∀ line ∈ book.lines, isResolved line = true →
    ∃ posted row, book.Cleared line posted row
  exclusive : ∀ first ∈ book.lines, ∀ second ∈ book.lines, ∀ key,
    first.claim = some key → second.claim = some key → first = second
  closedBalance : ∀ statement ∈ book.statements, statement.isClosed = true →
    book.Balances statement

end BankBook

/-- One write of the bank's book. -/
inductive BankWrite : BankBook → BankBook → Prop
  | ledger {book : BankBook} {after : Ledger}
      (history : Ledger.Evolves Set.univ book.ledger after) :
      BankWrite book { book with ledger := after }
  | statement (book : BankBook) {statement : BankStatementRow}
      (fresh : statement.statementId = book.statements.length)
      (isOpen : statement.isClosed = false) :
      BankWrite book { book with statements := book.statements ++ [statement] }
  | line {book : BankBook} {line : BankLineRow} (fresh : line.lineId = book.lines.length)
      (unmatched : line.matchKind = none ∧ line.claim = none)
      (isOpen : book.IsOpen line.statementId) :
      BankWrite book { book with lines := book.lines ++ [line] }
  | claim {book : BankBook} {line : BankLineRow} (lineMem : line ∈ book.lines)
      (unresolved : isResolved line = false) (isOpen : book.IsOpen line.statementId)
      {posted : PostedEntry} (postedMem : posted ∈ book.ledger.journal)
      {row : JournalLine} (rowMem : row ∈ posted.entry.lines)
      (unstamped : (posted.entryId, row.lineNo) ∉ book.cleared)
      (onAccount : row.account = line.accountId) {kind : MatchKind}
      (clears : Clears line posted row kind) :
      BankWrite book (book.withClaim line.lineId kind (posted.entryId, row.lineNo))
  | propose {book : BankBook} {line : BankLineRow} (lineMem : line ∈ book.lines)
      (unresolved : isResolved line = false) (isOpen : book.IsOpen line.statementId) :
      BankWrite book (book.withMatch line.lineId .proposed none)
  | close {book : BankBook} {statement : BankStatementRow}
      (statementMem : statement ∈ book.statements) (isOpen : statement.isClosed = false)
      (balances : book.Balances statement) :
      BankWrite book (book.withClosed statement.statementId)

namespace Clears

variable {line : BankLineRow} {posted : PostedEntry} {row : JournalLine} {kind : MatchKind}

theorem withMatch (clears : Clears line posted row kind) (newKind : MatchKind)
    (claim : Option (ℕ × Int)) : Clears (line.withMatch newKind claim) posted row kind := by
  cases clears with
  | exact ofKind moneyIn moneyOut => exact .exact ofKind moneyIn moneyOut
  | settlement ofKind moneyIn debits credited covered =>
    exact .settlement ofKind moneyIn debits credited covered
  | manual nets ofLine => exact .manual nets ofLine

theorem resolves (clears : Clears line posted row kind) (claim : Option (ℕ × Int)) :
    isResolved (line.withMatch kind claim) = true := by
  cases clears <;> rfl

end Clears

@[simp]
theorem BankLineRow.claim_withMatch (line : BankLineRow) (kind : MatchKind)
    (claim : Option (ℕ × Int)) : (line.withMatch kind claim).claim = claim := by
  cases claim <;> rfl

namespace BankBook

variable {book : BankBook}

theorem mem_lines_withMatch {lineId : ℕ} {kind : MatchKind} {claim : Option (ℕ × Int)}
    {line : BankLineRow} (lineMem : line ∈ (book.withMatch lineId kind claim).lines) :
    (∃ old ∈ book.lines, old.lineId = lineId ∧ line = old.withMatch kind claim) ∨
      line ∈ book.lines ∧ line.lineId ≠ lineId := by
  obtain ⟨old, oldMem, rfl⟩ := List.mem_map.mp lineMem
  by_cases matched : old.lineId = lineId
  · rw [if_pos matched]
    exact .inl ⟨old, oldMem, matched, rfl⟩
  · rw [if_neg matched]
    exact .inr ⟨oldMem, matched⟩

theorem map_lineId_withMatch (lineId : ℕ) (kind : MatchKind) (claim : Option (ℕ × Int)) :
    (book.withMatch lineId kind claim).lines.map BankLineRow.lineId =
      book.lines.map BankLineRow.lineId := by
  unfold withMatch
  rw [List.map_map]
  apply List.map_congr_left
  intro line _
  simp only [Function.comp_apply]
  split_ifs <;> rfl

theorem mem_withMatch_of_ne {lineId : ℕ} (kind : MatchKind) (claim : Option (ℕ × Int))
    {other : BankLineRow} (otherMem : other ∈ book.lines) (differs : other.lineId ≠ lineId) :
    other ∈ (book.withMatch lineId kind claim).lines :=
  List.mem_map.mpr ⟨other, otherMem, if_neg differs⟩

namespace WellFormed

theorem line_eq (wellFormed : book.WellFormed) {first second : BankLineRow}
    (firstMem : first ∈ book.lines) (secondMem : second ∈ book.lines)
    (sameId : first.lineId = second.lineId) : first = second := by
  have distinct : (book.lines.map BankLineRow.lineId).Nodup := by
    rw [wellFormed.lineIds]
    exact List.nodup_range
  exact List.inj_on_of_nodup_map distinct firstMem secondMem sameId

theorem statement_eq (wellFormed : book.WellFormed) {first second : BankStatementRow}
    (firstMem : first ∈ book.statements) (secondMem : second ∈ book.statements)
    (sameId : first.statementId = second.statementId) : first = second := by
  have distinct : (book.statements.map BankStatementRow.statementId).Nodup := by
    rw [wellFormed.statementIds]
    exact List.nodup_range
  exact List.inj_on_of_nodup_map distinct firstMem secondMem sameId

theorem ne_of_isOpen (wellFormed : book.WellFormed) {statement : BankStatementRow}
    (statementMem : statement ∈ book.statements) (closed : statement.isClosed = true)
    {statementId : ℕ} (isOpen : book.IsOpen statementId) :
    statementId ≠ statement.statementId := by
  intro sameId
  obtain ⟨other, otherMem, otherId, otherOpen⟩ := isOpen
  rw [wellFormed.statement_eq otherMem statementMem (otherId.trans sameId), closed]
    at otherOpen
  exact absurd otherOpen (by decide)

theorem linesOf_withMatch (wellFormed : book.WellFormed) {line : BankLineRow}
    (lineMem : line ∈ book.lines) (kind : MatchKind) (claim : Option (ℕ × Int))
    {statementId : ℕ} (other : line.statementId ≠ statementId) :
    (book.withMatch line.lineId kind claim).linesOf statementId =
      book.linesOf statementId := by
  unfold linesOf withMatch
  rw [List.filter_map]
  have keeps : ∀ row ∈ book.lines, ((fun row : BankLineRow =>
      decide (row.statementId = statementId)) ∘ fun row =>
        if row.lineId = line.lineId then row.withMatch kind claim else row) row =
      decide (row.statementId = statementId) := by
    intro row _
    simp only [Function.comp_apply]
    split_ifs <;> rfl
  rw [List.filter_congr keeps]
  refine (List.map_congr_left ?_).trans (List.map_id _)
  intro row rowMem
  obtain ⟨rowMem, inStatement⟩ := List.mem_filter.mp rowMem
  apply if_neg
  intro sameId
  rw [wellFormed.line_eq rowMem lineMem sameId] at inStatement
  exact other (of_decide_eq_true inStatement)

end WellFormed

theorem Balances.congr {after : BankBook} {statement : BankStatementRow}
    (sameLines : after.linesOf statement.statementId = book.linesOf statement.statementId)
    (balances : book.Balances statement) : after.Balances statement := by
  unfold Balances
  rw [sameLines]
  exact balances

end BankBook

namespace BankBook.Cleared

variable {book : BankBook} {line : BankLineRow} {posted : PostedEntry} {row : JournalLine}

theorem ofLedger (cleared : book.Cleared line posted row) {later : Ledger}
    (grows : book.ledger.journal <+: later.journal) :
    { book with ledger := later }.Cleared line posted row :=
  { cleared with postedMem := grows.subset cleared.postedMem }

theorem ofStamped (cleared : book.Cleared line posted row) {after : BankBook}
    (sameLedger : after.ledger = book.ledger)
    (stamps : ∀ key ∈ book.cleared, key ∈ after.cleared) : after.Cleared line posted row where
  postedMem := sameLedger ▸ cleared.postedMem
  rowMem := cleared.rowMem
  claimed := cleared.claimed
  stamped := stamps _ cleared.stamped
  onAccount := cleared.onAccount
  clears := cleared.clears

end BankBook.Cleared

namespace BankWrite

variable {before after : BankBook}

theorem keepsClosed (write : BankWrite before after) (wellFormed : before.WellFormed)
    {statement : BankStatementRow} (statementMem : statement ∈ before.statements)
    (closed : statement.isClosed = true) :
    statement ∈ after.statements ∧
      after.linesOf statement.statementId = before.linesOf statement.statementId := by
  cases write with
  | ledger history => exact ⟨statementMem, rfl⟩
  | statement fresh isOpen => exact ⟨List.mem_append_left _ statementMem, rfl⟩
  | line fresh unmatched isOpen =>
    refine ⟨statementMem, ?_⟩
    have differs := wellFormed.ne_of_isOpen statementMem closed isOpen
    unfold BankBook.linesOf
    rw [List.filter_append, List.filter_singleton, decide_eq_false differs]
    exact List.append_nil _
  | claim lineMem unresolved isOpen postedMem rowMem unstamped onAccount clears =>
    exact ⟨statementMem, wellFormed.linesOf_withMatch lineMem _ _
      (wellFormed.ne_of_isOpen statementMem closed isOpen)⟩
  | propose lineMem unresolved isOpen =>
    exact ⟨statementMem, wellFormed.linesOf_withMatch lineMem _ _
      (wellFormed.ne_of_isOpen statementMem closed isOpen)⟩
  | @close statement' openMem isOpen balances =>
    refine ⟨List.mem_map.mpr ⟨statement, statementMem, if_neg ?_⟩, rfl⟩
    intro sameId
    exact wellFormed.ne_of_isOpen statementMem closed
      ⟨statement', openMem, rfl, isOpen⟩ sameId.symm

/-- Setting the match of an unresolved line keeps the invariant when a resolving
match claims a journal line that no line has claimed. -/
theorem withMatch_wellFormed {book : BankBook} (wellFormed : book.WellFormed)
    {line : BankLineRow} (lineMem : line ∈ book.lines) (isOpen : book.IsOpen line.statementId)
    (kind : MatchKind) (claim : Option (ℕ × Int)) {stamps : List (ℕ × Int)}
    (stampsKept : ∀ key ∈ book.cleared, key ∈ stamps)
    (stampedPosted : ∀ key ∈ stamps, ∃ posted ∈ book.ledger.journal, posted.entryId = key.1)
    (unclaimed : ∀ key, claim = some key → key ∉ book.cleared)
    (unresolved : isResolved (line.withMatch kind claim) = false → claim = none)
    (resolved : isResolved (line.withMatch kind claim) = true → ∃ posted row,
      { book.withMatch line.lineId kind claim with cleared := stamps }.Cleared
        (line.withMatch kind claim) posted row) :
    { book.withMatch line.lineId kind claim with cleared := stamps }.WellFormed := by
  have fromOld : ∀ {row}, row ∈ (book.withMatch line.lineId kind claim).lines →
      row = line.withMatch kind claim ∨ row ∈ book.lines := by
    intro row rowMem
    rcases BankBook.mem_lines_withMatch rowMem with ⟨old, oldMem, sameId, rfl⟩ | ⟨old, -⟩
    · rw [wellFormed.line_eq oldMem lineMem sameId]
      exact .inl rfl
    · exact .inr old
  have stampedOld : ∀ row ∈ book.lines, ∀ key, row.claim = some key → key ∈ book.cleared := by
    intro row rowMem key claimed
    cases resolves : isResolved row with
    | false =>
      rw [wellFormed.unresolved row rowMem resolves] at claimed
      cases claimed
    | true =>
      obtain ⟨posted, entryRow, cleared⟩ := wellFormed.resolved row rowMem resolves
      rw [cleared.claimed, Option.some.injEq] at claimed
      rw [← claimed]
      exact cleared.stamped
  constructor
  · exact wellFormed.ledger
  · exact wellFormed.statementIds
  · change (book.withMatch line.lineId kind claim).lines.map BankLineRow.lineId =
      List.range (book.withMatch line.lineId kind claim).lines.length
    have sameLength : (book.withMatch line.lineId kind claim).lines.length =
        book.lines.length := List.length_map _
    rw [BankBook.map_lineId_withMatch, sameLength, wellFormed.lineIds]
  · intro row rowMem
    rcases fromOld rowMem with rfl | old
    · exact wellFormed.lineStatements line lineMem
    · exact wellFormed.lineStatements row old
  · exact stampedPosted
  · intro row rowMem isUnresolved
    rcases fromOld rowMem with rfl | old
    · rw [BankLineRow.claim_withMatch]
      exact unresolved isUnresolved
    · exact wellFormed.unresolved row old isUnresolved
  · intro row rowMem isResolved
    rcases fromOld rowMem with rfl | old
    · exact resolved isResolved
    · obtain ⟨posted, entryRow, cleared⟩ := wellFormed.resolved row old isResolved
      exact ⟨posted, entryRow, cleared.ofStamped rfl stampsKept⟩
  · intro first firstMem second secondMem key firstClaim secondClaim
    rcases fromOld firstMem with rfl | firstOld <;> rcases fromOld secondMem with rfl | secondOld
    · rfl
    · rw [BankLineRow.claim_withMatch] at firstClaim
      exact absurd (stampedOld second secondOld key secondClaim) (unclaimed key firstClaim)
    · rw [BankLineRow.claim_withMatch] at secondClaim
      exact absurd (stampedOld first firstOld key firstClaim) (unclaimed key secondClaim)
    · exact wellFormed.exclusive first firstOld second secondOld key firstClaim secondClaim
  · intro statement statementMem closed
    apply (wellFormed.closedBalance statement statementMem closed).congr
    exact wellFormed.linesOf_withMatch lineMem kind claim
      (wellFormed.ne_of_isOpen statementMem closed isOpen)

theorem wellFormed (write : BankWrite before after) (holds : before.WellFormed) :
    after.WellFormed := by
  have keeps : ∀ statement ∈ before.statements, statement.isClosed = true →
      after.linesOf statement.statementId = before.linesOf statement.statementId :=
    fun _ statementMem closed => (write.keepsClosed holds statementMem closed).2
  cases write with
  | @ledger later history =>
    have grows := history.journal_prefix holds.ledger
    refine { holds with
      ledger := history.wellFormed holds.ledger
      stampedPosted := fun key keyMem => ?_
      resolved := fun line lineMem isResolved => ?_
      closedBalance := fun statement statementMem closed =>
        (holds.closedBalance statement statementMem closed).congr rfl }
    · obtain ⟨posted, postedMem, sameId⟩ := holds.stampedPosted key keyMem
      exact ⟨posted, grows.subset postedMem, sameId⟩
    · obtain ⟨posted, row, cleared⟩ := holds.resolved line lineMem isResolved
      exact ⟨posted, row, cleared.ofLedger grows⟩
  | @statement statement fresh isOpen =>
    refine { holds with
      statementIds := ?_
      lineStatements := fun line lineMem => ?_
      resolved := fun line lineMem isResolved => ?_
      closedBalance := fun other otherMem closed => ?_ }
    · rw [List.map_append, holds.statementIds, List.length_append, List.length_singleton,
        List.range_succ, List.map_singleton, fresh]
    · obtain ⟨other, otherMem, sameId⟩ := holds.lineStatements line lineMem
      exact ⟨other, List.mem_append_left _ otherMem, sameId⟩
    · obtain ⟨posted, row, cleared⟩ := holds.resolved line lineMem isResolved
      exact ⟨posted, row, cleared.ofStamped rfl fun _ keyMem => keyMem⟩
    · rcases List.mem_append.mp otherMem with old | new
      · exact (holds.closedBalance other old closed).congr rfl
      · rw [List.mem_singleton.mp new, isOpen] at closed
        cases closed
  | @line line fresh unmatched isOpen =>
    have newUnresolved : isResolved line = false := by
      unfold isResolved
      rw [unmatched.1]
    refine { holds with
      lineIds := ?_
      lineStatements := fun row rowMem => ?_
      unresolved := fun row rowMem isUnresolved => ?_
      resolved := fun row rowMem isResolved => ?_
      exclusive := fun first firstMem second secondMem key firstClaim secondClaim => ?_
      closedBalance := fun statement statementMem closed =>
        (holds.closedBalance statement statementMem closed).congr
          (keeps statement statementMem closed) }
    · rw [List.map_append, holds.lineIds, List.length_append, List.length_singleton,
        List.range_succ, List.map_singleton, fresh]
    · rcases List.mem_append.mp rowMem with old | new
      · exact holds.lineStatements row old
      · obtain ⟨statement, statementMem, sameId, -⟩ := isOpen
        rw [List.mem_singleton.mp new]
        exact ⟨statement, statementMem, sameId⟩
    · rcases List.mem_append.mp rowMem with old | new
      · exact holds.unresolved row old isUnresolved
      · rw [List.mem_singleton.mp new]
        exact unmatched.2
    · rcases List.mem_append.mp rowMem with old | new
      · obtain ⟨posted, entryRow, cleared⟩ := holds.resolved row old isResolved
        exact ⟨posted, entryRow, cleared.ofStamped rfl fun _ keyMem => keyMem⟩
      · rw [List.mem_singleton.mp new, newUnresolved] at isResolved
        cases isResolved
    · rcases List.mem_append.mp firstMem with firstOld | firstNew
      · rcases List.mem_append.mp secondMem with secondOld | secondNew
        · exact holds.exclusive first firstOld second secondOld key firstClaim secondClaim
        · rw [List.mem_singleton.mp secondNew, unmatched.2] at secondClaim
          cases secondClaim
      · rw [List.mem_singleton.mp firstNew, unmatched.2] at firstClaim
        cases firstClaim
  | @claim line lineMem unresolved isOpen posted postedMem row rowMem unstamped onAccount kind
      clears =>
      apply withMatch_wellFormed holds lineMem isOpen
      · exact fun key keyMem => List.mem_cons_of_mem _ keyMem
      · intro key keyMem
        rcases List.mem_cons.mp keyMem with rfl | old
        · exact ⟨posted, postedMem, rfl⟩
        · exact holds.stampedPosted key old
      · intro key isKey
        rw [Option.some.injEq] at isKey
        rw [← isKey]
        exact unstamped
      · intro isUnresolved
        rw [clears.resolves] at isUnresolved
        cases isUnresolved
      · intro _
        exact ⟨posted, row, postedMem, rowMem, BankLineRow.claim_withMatch _ _ _,
          List.mem_cons_self, onAccount, kind, rfl, clears.withMatch _ _⟩
  | @propose line lineMem unresolved isOpen =>
    apply withMatch_wellFormed holds lineMem isOpen
    · exact fun _ keyMem => keyMem
    · exact holds.stampedPosted
    · exact fun key isKey => nomatch isKey
    · exact fun _ => rfl
    · exact fun isResolved => nomatch isResolved
  | @close statement statementMem isOpen balances =>
    refine { holds with
      statementIds := ?_
      lineStatements := fun line lineMem => ?_
      resolved := fun line lineMem isResolved => ?_
      closedBalance := fun other otherMem closed => ?_ }
    · unfold BankBook.withClosed
      rw [List.map_map, List.length_map, ← holds.statementIds]
      apply List.map_congr_left
      intro other _
      simp only [Function.comp_apply]
      split_ifs <;> rfl
    · obtain ⟨other, otherMem, sameId⟩ := holds.lineStatements line lineMem
      refine ⟨_, List.mem_map_of_mem otherMem, ?_⟩
      split_ifs <;> exact sameId
    · obtain ⟨posted, row, cleared⟩ := holds.resolved line lineMem isResolved
      exact ⟨posted, row, cleared.ofStamped rfl fun _ keyMem => keyMem⟩
    · obtain ⟨old, oldMem, rfl⟩ := List.mem_map.mp otherMem
      by_cases same : old.statementId = statement.statementId
      · rw [if_pos same, holds.statement_eq oldMem statementMem same]
        exact balances
      · rw [if_neg same] at closed ⊢
        exact (holds.closedBalance old oldMem closed).congr rfl

end BankWrite

abbrev BankBook.Evolves : BankBook → BankBook → Prop :=
  LabelledHistories.Evolves (fun _ : Unit => BankWrite) BankBook.WellFormed Set.univ

theorem BankBook.Evolves.of_write {before after : BankBook}
    (write : before.WellFormed → BankWrite before after) : before.Evolves after :=
  LabelledHistories.Evolves.of_step (Set.mem_univ ()) fun wellFormed =>
    ⟨write wellFormed, (write wellFormed).wellFormed wellFormed⟩

section Candidates

variable {book : BankBook} {line : BankLineRow} {rules : MatchRules}

theorem mem_unclearedLinesMatching {side : Side} {amount : Money}
    {candidate : PostedEntry × JournalLine} :
    candidate ∈ unclearedLinesMatching book line side amount rules ↔
      (candidate.1 ∈ book.ledger.journal ∧ candidate.2 ∈ candidate.1.entry.lines) ∧
        candidate.2.account = line.accountId ∧ sideAmount side candidate.2 = amount ∧
        (candidate.1.entryId, candidate.2.lineNo) ∉ book.cleared ∧
        inWindow line rules candidate.1 = true ∧
        candidate.1.entry.sourceType ∈ exactMatchSourceKinds := by
  obtain ⟨posted, row⟩ := candidate
  unfold unclearedLinesMatching BankBook.isLineCleared
  rw [List.mem_insertionSort, List.mem_flatMap]
  simp only [List.mem_map, List.mem_filter, decide_eq_true_eq, decide_eq_false_iff_not,
    Prod.mk.injEq]
  constructor
  · rintro ⟨posted', postedMem, row', ⟨rowMem, meets⟩, rfl, rfl⟩
    exact ⟨⟨postedMem, rowMem⟩, meets⟩
  · rintro ⟨⟨postedMem, rowMem⟩, meets⟩
    exact ⟨posted, postedMem, row, ⟨rowMem, meets⟩, rfl, rfl⟩

theorem mem_of_nearest {candidates : List (PostedEntry × JournalLine)}
    {candidate : PostedEntry × JournalLine} (found : nearest line candidates = some candidate) :
    candidate ∈ candidates := by
  unfold nearest at found
  have first := List.mem_of_head? found
  rwa [List.mem_insertionSort] at first

theorem mem_clearingEntries {candidate : PostedEntry × Money}
    (candidateMem : candidate ∈ clearingEntries book line rules) :
    candidate.1 ∈ book.ledger.journal ∧
      candidate.1.entry.sourceType ∈ settlementSourceKinds ∧
      clearingCredits candidate.1.entry = some candidate.2 := by
  obtain ⟨posted, postedMem, isCandidate⟩ := List.mem_filterMap.mp candidateMem
  rw [List.mem_insertionSort, List.mem_filter, decide_eq_true_eq] at postedMem
  obtain ⟨credits, credited, rfl⟩ := Option.map_eq_some_iff.mp isCandidate
  exact ⟨postedMem.1, postedMem.2.2, credited⟩

theorem firstClearable_eq_some {entries : List (PostedEntry × Money)} {posted : PostedEntry}
    {gross : Money} {leg : JournalLine}
    (found : firstClearable book line entries = some (posted, gross, leg)) :
    (posted, gross) ∈ entries ∧ leg ∈ posted.entry.lines ∧ leg.account = line.accountId ∧
      leg.debit.minor ≠ 0 ∧ (posted.entryId, leg.lineNo) ∉ book.cleared := by
  obtain ⟨candidate, candidateMem, isLeg⟩ := List.exists_of_findSome?_eq_some found
  obtain ⟨row, isUncleared, isCandidate⟩ := Option.map_eq_some_iff.mp isLeg
  simp only [Prod.mk.injEq] at isCandidate
  obtain ⟨rfl, rfl, rfl⟩ := isCandidate
  unfold unclearedBankLeg at isUncleared
  obtain ⟨isFirst, unstamped⟩ := Option.filter_eq_some_iff.mp isUncleared
  have rowMem := List.mem_of_find?_eq_some isFirst
  have meets := List.find?_some isFirst
  simp only [decide_eq_true_eq] at meets
  refine ⟨candidateMem, rowMem, meets.1, ?_, ?_⟩
  · intro isZero
    rw [Money.isZero_iff.mpr isZero] at meets
    exact absurd meets.2 (by decide)
  · simpa [BankBook.isLineCleared] using unstamped

theorem minor_of_amountAbs {amount : Money} (absolute : amountAbs line = .ok amount) :
    amount.minor = |line.amount.minor| := by
  unfold amountAbs at absolute
  split_ifs at absolute with negative
  · rw [Money.isNegative_iff] at negative
    rw [mapError_eq_ok_iff, Money.checkedNeg_eq_ok_iff] at absolute
    rw [absolute, abs_of_neg negative]
  · rw [Money.isNegative_iff, not_lt] at negative
    rw [Except.ok.injEq] at absolute
    rw [← absolute, abs_of_nonneg negative]

end Candidates

section Statements

variable {book : BankBook} {α : Type}

theorem execute_viaLedger (program : LedgerProgram α) :
    execute (viaLedger program) book =
      ((execute program book.ledger).1.mapError .ledger,
        { book with ledger := (execute program book.ledger).2 }) :=
  rfl

theorem execute_setBankLineMatch {line : BankLineRow} (lineMem : line ∈ book.lines)
    (kind : MatchKind) (claim : Option (ℕ × Int)) :
    execute (setBankLineMatch line.lineId kind (claim.map Prod.fst) (claim.map Prod.snd))
        book = (.ok (), book.withMatch line.lineId kind claim) := by
  have present : (book.lines.any fun row => row.lineId = line.lineId) = true := by
    rw [List.any_eq_true]
    exact ⟨line, lineMem, decide_eq_true rfl⟩
  unfold setBankLineMatch
  rw [execute_bind_ok _ (execute_get book), present]
  rfl

theorem execute_clearJournalLine {posted : PostedEntry}
    (postedMem : posted ∈ book.ledger.journal) {row : JournalLine}
    (rowMem : row ∈ posted.entry.lines) :
    execute (clearJournalLine posted.entryId row.lineNo) book =
      (.ok (), { book with cleared := (posted.entryId, row.lineNo) :: book.cleared }) := by
  have present : book.hasJournalLine posted.entryId row.lineNo = true := by
    unfold BankBook.hasJournalLine
    rw [List.any_eq_true]
    refine ⟨posted, postedMem, ?_⟩
    simp only [List.any_eq_true, decide_eq_true_eq]
    exact ⟨trivial, row, rowMem, rfl⟩
  unfold clearJournalLine
  rw [execute_bind_ok _ (execute_get book), present]
  rfl

theorem execute_claim {line : BankLineRow} (lineMem : line ∈ book.lines)
    {posted : PostedEntry} (postedMem : posted ∈ book.ledger.journal) {row : JournalLine}
    (rowMem : row ∈ posted.entry.lines) (kind : MatchKind) (next : Unit → BankProgram α) :
    execute (clearJournalLine posted.entryId row.lineNo >>= fun _ =>
        setBankLineMatch line.lineId kind (some posted.entryId) (some row.lineNo) >>= next)
      book =
      execute (next ()) (book.withClaim line.lineId kind (posted.entryId, row.lineNo)) := by
  rw [execute_bind_ok _ (execute_clearJournalLine postedMem rowMem)]
  have stillListed : line ∈ BankBook.lines
      { book with cleared := (posted.entryId, row.lineNo) :: book.cleared } := lineMem
  exact execute_bind_ok _ (execute_setBankLineMatch stillListed kind
    (some (posted.entryId, row.lineNo)))

end Statements

/-- What the matching of one line does: a history of writes that leaves the
statements and the other lines alone. -/
structure Settling (lineId : ℕ) (before after : BankBook) : Prop where
  evolves : before.Evolves after
  statements : after.statements = before.statements
  others : ∀ other ∈ before.lines, other.lineId ≠ lineId → other ∈ after.lines

namespace Settling

variable {lineId : ℕ} {first second third : BankBook}

theorem refl (book : BankBook) : Settling lineId book book :=
  ⟨refl_of _ book, rfl, fun _ otherMem _ => otherMem⟩

theorem trans (earlier : Settling lineId first second)
    (later : Settling lineId second third) : Settling lineId first third :=
  ⟨trans_of _ earlier.evolves later.evolves, later.statements.trans earlier.statements,
    fun other otherMem differs =>
      later.others other (earlier.others other otherMem differs) differs⟩

theorem ofLedger {book : BankBook} {later : Ledger}
    (history : Ledger.Evolves Set.univ book.ledger later) :
    Settling lineId book { book with ledger := later } :=
  ⟨.of_write fun _ => .ledger history, rfl, fun _ otherMem _ => otherMem⟩

theorem viaLedger {book : BankBook} {α : Type} {program : LedgerProgram α}
    (respects : Respects (Ledger.Evolves Set.univ) program) :
    Settling lineId book (execute (Bank.viaLedger program) book).2 := by
  rw [execute_viaLedger]
  exact ofLedger (respects book.ledger)

end Settling

section Matching

variable {book : BankBook} {line : BankLineRow} {rules : MatchRules}
  {divide : Decimal → Decimal → Decimal}

theorem settling_claim (lineMem : line ∈ book.lines) (unresolved : isResolved line = false)
    (isOpen : book.IsOpen line.statementId) {posted : PostedEntry}
    (postedMem : posted ∈ book.ledger.journal) {row : JournalLine}
    (rowMem : row ∈ posted.entry.lines)
    (unstamped : (posted.entryId, row.lineNo) ∉ book.cleared)
    (onAccount : row.account = line.accountId) {kind : MatchKind}
    (clears : Clears line posted row kind) :
    Settling line.lineId book
      (book.withClaim line.lineId kind (posted.entryId, row.lineNo)) where
  evolves := .of_write fun _ =>
    .claim lineMem unresolved isOpen postedMem rowMem unstamped onAccount clears
  statements := rfl
  others := fun _ otherMem differs => BankBook.mem_withMatch_of_ne _ _ otherMem differs

theorem settling_propose (lineMem : line ∈ book.lines) (unresolved : isResolved line = false)
    (isOpen : book.IsOpen line.statementId) :
    Settling line.lineId book (book.withMatch line.lineId .proposed none) where
  evolves := .of_write fun _ => .propose lineMem unresolved isOpen
  statements := rfl
  others := fun _ otherMem differs => BankBook.mem_withMatch_of_ne _ _ otherMem differs

theorem proposing_settles (lineMem : line ∈ book.lines) (unresolved : isResolved line = false)
    (isOpen : book.IsOpen line.statementId) (report : MatchReport) :
    Settling line.lineId book (execute (setBankLineMatch line.lineId .proposed none none >>=
      fun _ => (pure report : BankProgram MatchReport)) book).2 := by
  have sets : execute (setBankLineMatch line.lineId .proposed none none) book =
      (.ok (), book.withMatch line.lineId .proposed none) :=
    execute_setBankLineMatch lineMem .proposed none
  rw [execute_bind_ok _ sets]
  exact settling_propose lineMem unresolved isOpen

theorem trying_settles {lineId : ℕ} {attempted : BankProgram Bool} {α : Type} {found : α}
    {otherwise : BankProgram α}
    (settles : Settling lineId book (execute attempted book).2 ∧
      ((execute attempted book).1 = .ok false → (execute attempted book).2 = book))
    (next : Settling lineId book (execute otherwise book).2) :
    Settling lineId book (execute (attempted >>= fun matched =>
      if matched = true then pure found else otherwise) book).2 := by
  rw [execute_bind]
  rcases outcome : execute attempted book with ⟨result, after⟩
  rw [outcome] at settles
  cases result with
  | error failure => exact settles.1
  | ok matched =>
    cases matched with
    | true => exact settles.1
    | false =>
      have unchanged : after = book := settles.2 rfl
      rw [unchanged]
      exact next

theorem trySettlementMatch_settles {amount : Money} (lineMem : line ∈ book.lines)
    (unresolved : isResolved line = false) (isOpen : book.IsOpen line.statementId)
    (moneyIn : 0 ≤ line.amount.minor) (absolute : amountAbs line = .ok amount) :
    Settling line.lineId book (execute (trySettlementMatch line amount rules) book).2 ∧
      ((execute (trySettlementMatch line amount rules) book).1 = .ok false →
        (execute (trySettlementMatch line amount rules) book).2 = book) := by
  have amountEq := minor_of_amountAbs absolute
  rw [abs_of_nonneg moneyIn] at amountEq
  unfold trySettlementMatch
  rw [execute_bind_ok _ (execute_get book)]
  dsimp only
  cases found : firstClearable book line
      ((clearingEntries book line rules).filter fun candidate => candidate.2 = amount) with
  | none => exact ⟨.refl book, fun _ => rfl⟩
  | some candidate =>
    obtain ⟨posted, gross, leg⟩ := candidate
    obtain ⟨candidateMem, legMem, onAccount, debits, unstamped⟩ :=
      firstClearable_eq_some found
    obtain ⟨candidateMem, sameAmount⟩ := List.mem_filter.mp candidateMem
    obtain ⟨postedMem, ofKind, credited⟩ := mem_clearingEntries candidateMem
    have covered : line.amount.minor ≤ gross.minor := by
      have isAmount : gross = amount := of_decide_eq_true sameAmount
      rw [isAmount, amountEq]
    dsimp only
    rw [execute_claim lineMem postedMem legMem]
    exact ⟨settling_claim lineMem unresolved isOpen postedMem legMem unstamped onAccount
      (.settlement ofKind moneyIn debits credited covered), fun isFalse => nomatch isFalse⟩

theorem postSettlementFeeAdjustment_settles (lineId : ℕ) (bankAccount : AccountId) (fee : Money)
    (feeClass : ClassId) (postedOn : Date) (settlementEntryId : ℕ) :
    Settling lineId book (execute (postSettlementFeeAdjustment bankAccount fee feeClass
      postedOn settlementEntryId) book).2 := by
  unfold postSettlementFeeAdjustment
  cases fee.checkedNeg.mapError BankError.money with
  | error failure => exact .refl book
  | ok negatedFee =>
    exact .viaLedger (saveThenPostEntry_respects (Set.subset_univ _))

theorem trySettlementFeeMatch_settles {amount : Money} (lineMem : line ∈ book.lines)
    (unresolved : isResolved line = false) (isOpen : book.IsOpen line.statementId)
    (moneyIn : 0 ≤ line.amount.minor) (absolute : amountAbs line = .ok amount) :
    Settling line.lineId book
        (execute (trySettlementFeeMatch divide line amount rules) book).2 ∧
      ((execute (trySettlementFeeMatch divide line amount rules) book).1 = .ok false →
        (execute (trySettlementFeeMatch divide line amount rules) book).2 = book) := by
  have amountEq := minor_of_amountAbs absolute
  rw [abs_of_nonneg moneyIn] at amountEq
  unfold trySettlementFeeMatch
  split_ifs
  · exact ⟨.refl book, fun _ => rfl⟩
  rw [execute_bind_ok _ (execute_get book)]
  dsimp only
  cases found : firstClearable book line
      ((clearingEntries book line rules).filter fun candidate =>
        decide (amount.minor ≤ candidate.2.minor) &&
          (feeRatio divide candidate.2 amount).any fun ratio =>
            ratio.atMost rules.maxFeeRatio) with
  | none => exact ⟨.refl book, fun _ => rfl⟩
  | some candidate =>
    obtain ⟨posted, gross, leg⟩ := candidate
    obtain ⟨candidateMem, legMem, onAccount, debits, unstamped⟩ :=
      firstClearable_eq_some found
    obtain ⟨candidateMem, exceeds⟩ := List.mem_filter.mp candidateMem
    obtain ⟨postedMem, ofKind, credited⟩ := mem_clearingEntries candidateMem
    rw [Bool.and_eq_true, decide_eq_true_eq, amountEq] at exceeds
    dsimp only
    cases fee : (gross.checkedSub amount).mapError BankError.money with
    | error failure =>
      exact ⟨.refl book, fun isFalse => nomatch isFalse⟩
    | ok shortfall =>
      rw [execute_bind_ok _ (by rw [execute_ofExcept])]
      rw [execute_claim lineMem postedMem legMem]
      have claims := settling_claim lineMem unresolved isOpen postedMem legMem unstamped
        onAccount (.settlement ofKind moneyIn debits credited exceeds.1)
      have posts : Settling line.lineId
          (book.withClaim line.lineId .settlement (posted.entryId, leg.lineNo)) _ :=
        postSettlementFeeAdjustment_settles line.lineId line.accountId shortfall
          rules.feeClass line.postedOn posted.entryId
      constructor
      · rw [execute_bind_state _ fun _ _ => rfl]
        exact claims.trans posts
      · intro isFalse
        rw [execute_bind] at isFalse
        split at isFalse <;> cases isFalse

theorem matchOneLine_settles (lineMem : line ∈ book.lines)
    (unresolved : isResolved line = false) (isOpen : book.IsOpen line.statementId)
    (report : MatchReport) :
    Settling line.lineId book (execute (matchOneLine divide line rules report) book).2 := by
  unfold matchOneLine
  cases absolute : amountAbs line with
  | error failure => exact .refl book
  | ok amount =>
    rw [execute_bind_ok _ (by rw [execute_ofExcept]),
      execute_bind_ok _ (execute_get book)]
    dsimp only
    have amountEq := minor_of_amountAbs absolute
    cases found : nearest line (unclearedLinesMatching book line
        (if (!line.amount.isNegative) = true then Side.debit else Side.credit) amount
        rules) with
    | some candidate =>
      obtain ⟨posted, row⟩ := candidate
      obtain ⟨⟨postedMem, rowMem⟩, onAccount, sameAmount, unstamped, -, ofKind⟩ :=
        mem_unclearedLinesMatching.mp (mem_of_nearest found)
      dsimp only at postedMem rowMem onAccount sameAmount unstamped ofKind ⊢
      rw [execute_claim lineMem postedMem rowMem]
      apply settling_claim lineMem unresolved isOpen postedMem rowMem unstamped onAccount
      apply Clears.exact ofKind
      · intro moneyIn
        have positive : line.amount.isNegative = false := by
          simpa [Money.isNegative] using moneyIn
        rw [positive] at sameAmount
        rw [← abs_of_nonneg moneyIn, ← amountEq, ← sameAmount]
        rfl
      · intro moneyOut
        have negative : line.amount.isNegative = true := Money.isNegative_iff.mpr moneyOut
        rw [negative] at sameAmount
        rw [← abs_of_neg moneyOut, ← amountEq, ← sameAmount]
        rfl
    | none =>
      dsimp only
      cases negative : line.amount.isNegative with
      | true =>
        exact proposing_settles lineMem unresolved isOpen _
      | false =>
        have moneyIn : 0 ≤ line.amount.minor := by
          simpa [Money.isNegative] using negative
        apply trying_settles
          (trySettlementMatch_settles lineMem unresolved isOpen moneyIn absolute)
        apply trying_settles
          (trySettlementFeeMatch_settles lineMem unresolved isOpen moneyIn absolute)
        exact proposing_settles lineMem unresolved isOpen _

theorem matchLines_evolves {lines : List BankLineRow}
    (distinct : (lines.map BankLineRow.lineId).Nodup) (listed : ∀ row ∈ lines, row ∈ book.lines)
    (isOpen : ∀ row ∈ lines, book.IsOpen row.statementId) (report : MatchReport) :
    book.Evolves (execute (matchLines divide rules lines report) book).2 := by
  induction lines generalizing book report with
  | nil => exact refl_of _ book
  | cons row rest ih =>
    rw [List.map_cons, List.nodup_cons] at distinct
    rw [matchLines]
    split_ifs with matched
    · exact ih distinct.2 (fun other otherMem => listed other (List.mem_cons_of_mem _ otherMem))
        (fun other otherMem => isOpen other (List.mem_cons_of_mem _ otherMem)) report
    · have unresolved : isResolved row = false := by
        unfold isResolved
        rw [Option.not_isSome_iff_eq_none.mp matched]
      have settles : Settling row.lineId book
          (execute (matchOneLine divide row rules report) book).2 :=
        matchOneLine_settles (listed row List.mem_cons_self) unresolved
          (isOpen row List.mem_cons_self) report
      apply Respects.bind_from settles.evolves
      intro later middle outcome
      rw [outcome] at settles
      apply ih distinct.2
      · intro other otherMem
        apply settles.others other (listed other (List.mem_cons_of_mem _ otherMem))
        intro sameId
        exact distinct.1 (sameId ▸ List.mem_map_of_mem otherMem)
      · intro other otherMem
        unfold BankBook.IsOpen
        rw [settles.statements]
        exact isOpen other (List.mem_cons_of_mem _ otherMem)

end Matching

section Operations

variable {book : BankBook} {divide : Decimal → Decimal → Decimal}

theorem bankStatement_eq_ok {statementId : ℕ} {statement : BankStatementRow}
    (found : book.bankStatement statementId = .ok statement) :
    statement ∈ book.statements ∧ statement.statementId = statementId := by
  unfold BankBook.bankStatement at found
  rw [orRefuse_eq_ok_iff] at found
  exact ⟨List.mem_of_find?_eq_some found, by simpa using List.find?_some found⟩

theorem bankLine_eq_ok {lineId : ℕ} {line : BankLineRow}
    (found : book.bankLine lineId = .ok line) : line ∈ book.lines ∧ line.lineId = lineId := by
  unfold BankBook.bankLine at found
  rw [orRefuse_eq_ok_iff] at found
  exact ⟨List.mem_of_find?_eq_some found, by simpa using List.find?_some found⟩

theorem mem_listBankLines {statementId : ℕ} {line : BankLineRow} :
    line ∈ book.listBankLines statementId ↔
      line ∈ book.lines ∧ line.statementId = statementId := by
  unfold BankBook.listBankLines
  rw [List.mem_insertionSort, List.mem_filter, decide_eq_true_eq]

theorem listBankLines_perm (statementId : ℕ) :
    (book.listBankLines statementId).Perm (book.linesOf statementId) :=
  List.perm_insertionSort _ _

theorem BankBook.WellFormed.listBankLines_nodup (wellFormed : book.WellFormed)
    (statementId : ℕ) :
    ((book.listBankLines statementId).map BankLineRow.lineId).Nodup := by
  have distinct : (book.lines.map BankLineRow.lineId).Nodup := by
    rw [wellFormed.lineIds]
    exact List.nodup_range
  rw [((listBankLines_perm statementId).map _).nodup_iff]
  exact distinct.sublist (List.filter_sublist.map _)

theorem matchStatement_respects (statementId : ℕ) (rules : MatchRules) :
    Respects BankBook.Evolves (matchStatement divide statementId rules) := by
  apply Respects.get_bind
  intro book wellFormed
  suffices history : book.Evolves _ from history wellFormed
  cases found : book.bankStatement statementId with
  | error failure => exact refl_of _ book
  | ok statement =>
    obtain ⟨statementMem, sameId⟩ := bankStatement_eq_ok found
    rw [execute_bind_ok _ (by rw [execute_ofExcept]; rfl)]
    split_ifs with closed
    · exact refl_of _ book
    · apply matchLines_evolves (wellFormed.listBankLines_nodup statementId)
      · exact fun row rowMem => (mem_listBankLines.mp rowMem).1
      · intro row rowMem
        rw [(mem_listBankLines.mp rowMem).2]
        exact ⟨statement, statementMem, sameId, by simpa using closed⟩

theorem insertBankLines_evolves {statementId : ℕ} {account : AccountId}
    (lines : List ParsedLine) (isOpen : book.IsOpen statementId)
    (report : StatementImportReport) :
    book.Evolves (execute (insertBankLines statementId account lines report) book).2 := by
  induction lines generalizing book report with
  | nil => exact refl_of _ book
  | cons parsed rest ih =>
    have inserts : book.Evolves
        (execute (insertBankLineIfNew statementId account parsed) book).2 ∧
        (execute (insertBankLineIfNew statementId account parsed) book).2.statements =
          book.statements := by
      unfold insertBankLineIfNew
      rw [execute_bind_ok _ (execute_get book)]
      split_ifs
      · exact ⟨refl_of _ book, rfl⟩
      · exact ⟨.of_write fun _ => .line rfl ⟨rfl, rfl⟩ isOpen, rfl⟩
    rw [insertBankLines]
    apply Respects.bind_from inserts.1
    intro wasInserted middle outcome
    rw [outcome] at inserts
    apply ih
    unfold BankBook.IsOpen
    rw [inserts.2]
    exact isOpen

/-- The row that a new statement starts as. -/
def newStatementRow (statementId : ℕ) (account : AccountId) (statement : NewStatement) :
    BankStatementRow :=
  ⟨statementId, account, statement.periodStart, statement.periodEnd,
    statement.openingBalance, statement.closingBalance, false⟩

theorem execute_createBankStatement (account : AccountId) (statement : NewStatement) :
    execute (createBankStatement account statement) book =
      if (book.ledger.accountRow account).isSome then
        (.ok book.statements.length, { book with
          statements := book.statements ++
            [newStatementRow book.statements.length account statement] })
      else (.error (.ledger (.sqlite "FOREIGN KEY constraint failed")), book) := by
  unfold createBankStatement
  rw [execute_bind_ok _ (execute_get book)]
  cases (book.ledger.accountRow account).isSome <;> rfl

theorem importStatement_respects (account : AccountId) (statement : NewStatement) :
    Respects BankBook.Evolves (importStatement account statement) := by
  intro book
  unfold importStatement
  rw [execute_bind, execute_createBankStatement]
  split_ifs with known
  · have creates : BankWrite book { book with statements := book.statements ++
        [newStatementRow book.statements.length account statement] } :=
      .statement book rfl rfl
    apply trans_of BankBook.Evolves (.of_write fun _ => creates)
    apply insertBankLines_evolves
    exact ⟨_, List.mem_append_right _ List.mem_cons_self, rfl, rfl⟩
  · exact refl_of _ book

theorem mergeLegs_debit_credit {bank account : AccountId} {amount : Money}
    {«class» : Option ClassId} {lines : List JournalLine} (notNegative : amount.isNegative = false)
    (merges : mergeLegs [debit bank amount none none, credit account amount «class» none] =
      .ok lines) (nonempty : lines ≠ []) :
    ∃ rest, lines = journalLineOf 1 (debit bank amount none none) :: rest := by
  cases isZero : amount.isZero with
  | true =>
    simp [mergeLegs, mergeLeg, debit, credit, isZero, numberLegs, bind, Except.bind, pure,
      Except.pure] at merges
    exact absurd merges nonempty
  | false =>
    simp [mergeLegs, mergeLeg, mergeInto, mergesWith, normalizeLeg, debit, credit, isZero,
      notNegative, numberLegs, bind, Except.bind, pure, Except.pure] at merges
    exact ⟨_, merges.symm⟩

theorem post_proposalDocument {line : BankLineRow} {amount : Money} {account : AccountId}
    {«class» : Option ClassId} {version : ℕ} {entry : JournalEntry}
    (nonneg : 0 ≤ amount.minor)
    (posts : post (proposalDocument line amount account «class») version {} =
      .ok (.entry entry)) :
    ∃ rest, entry.lines =
      journalLineOf 1 (debit line.accountId amount none none) :: rest := by
  obtain ⟨legs, lines, derivation⟩ := post_eq_entry posts
  have bankIs : ((proposalDocument line amount account «class»).depositTo <|>
      (proposalDocument line amount account «class»).payFrom).getD
        ({} : PostingContext).config.defaultBankAccount = line.accountId := by
    unfold proposalDocument
    cases line.amount.isNegative <;> rfl
  have builds : postBankLine (proposalDocument line amount account «class») {} = .ok legs :=
    derivation.builds
  have notNegative : amount.isNegative = false := by
    simpa [Money.isNegative] using nonneg
  unfold postBankLine at builds
  simp only [bind_eq_ok_iff, bankIs] at builds
  obtain ⟨docLine, first, named, isNamed, lineClass, classed, builds⟩ := builds
  have isLine : DocLine.amount docLine = amount := by
    rw [← Option.some.inj (orRefuse_eq_ok_iff.mp first)]
  rw [isLine, notNegative, if_neg Bool.false_ne_true, pure_eq_ok_iff] at builds
  have merges := derivation.merges
  rw [← builds] at merges
  rw [derivation.entryEq]
  exact mergeLegs_debit_credit notNegative merges derivation.nonempty

theorem confirming_evolves {line : BankLineRow} (wellFormed : book.WellFormed)
    (lineMem : line ∈ book.lines) (unresolved : isResolved line = false)
    (isOpen : book.IsOpen line.statementId) {amount : Money}
    (absolute : amountAbs line = .ok amount) {account : AccountId} {«class» : Option ClassId}
    {command : CommandMeta} {entry : JournalEntry}
    (posts : post (proposalDocument line amount account «class»)
      (book.ledger.previousVersion ("bankline-" ++ toString line.lineId) + 1) {} =
        .ok (.entry entry))
    {bankRow : JournalLine}
    (found : entry.lines.find? (fun row => row.account = line.accountId) = some bankRow) :
    let saved : BankBook := { book with
      ledger := book.ledger.recordVersion (proposalDocument line amount account «class»)
        command }
    book.Evolves (execute (viaLedger (postEntry entry) >>= fun entryId =>
      clearJournalLine entryId bankRow.lineNo >>= fun _ =>
        setBankLineMatch line.lineId .manual (some entryId) (some bankRow.lineNo) >>=
          fun _ => pure entryId) saved).2 := by
  intro saved
  have saves : Ledger.Evolves Set.univ book.ledger saved.ledger :=
    Ledger.recordVersion_evolves (Set.mem_univ _)
  have posting : Ledger.Evolves Set.univ saved.ledger
      (execute (postEntry entry) saved.ledger).2 :=
    Ledger.postDerived_evolves posts (Set.mem_univ _)
  have amountEq := minor_of_amountAbs absolute
  obtain ⟨rest, linesEq⟩ := post_proposalDocument (amountEq ▸ abs_nonneg _) posts
  have isFirst : bankRow = journalLineOf 1 (debit line.accountId amount none none) := by
    rw [linesEq, List.find?_cons_of_pos (by exact decide_eq_true rfl)] at found
    exact (Option.some.inj found).symm
  rw [execute_bind, execute_viaLedger]
  by_cases accepted : saved.ledger.Accepts entry
  · rw [execute_postEntry_of_accepts accepted] at posting ⊢
    let posted : PostedEntry := ⟨saved.ledger.nextEntryId, Ledger.stored entry⟩
    let after : BankBook := { book with ledger := saved.ledger.recordEntry entry }
    have reaches : book.Evolves after :=
      .of_write fun _ => .ledger (Ledger.Evolves.trans saves posting)
    have postedMem : posted ∈ after.ledger.journal :=
      Ledger.mem_journal_recordEntry.mpr (.inr rfl)
    have rowMem : bankRow ∈ posted.entry.lines := by
      rw [(Ledger.stored_lines_perm entry).mem_iff, linesEq, isFirst]
      exact List.mem_cons_self
    have unstamped : (posted.entryId, bankRow.lineNo) ∉ after.cleared := by
      intro stamped
      obtain ⟨earlier, earlierMem, sameId⟩ := wellFormed.stampedPosted _ stamped
      have issued := wellFormed.ledger.entryIds_lt earlier earlierMem
      rw [sameId] at issued
      exact lt_irrefl _ issued
    have clears : Clears line posted bankRow .manual := by
      apply Clears.manual
      · rw [isFirst, net_journalLineOf, net_debit, amountEq]
      · exact (post_entry_source posts).1
    have stillListed : line ∈ after.lines := lineMem
    have stillOpen : after.IsOpen line.statementId := isOpen
    have onAccount : bankRow.account = line.accountId := by
      rw [isFirst]
      rfl
    have claims : BankWrite after
        (after.withClaim line.lineId .manual (posted.entryId, bankRow.lineNo)) :=
      .claim stillListed unresolved stillOpen postedMem rowMem unstamped onAccount clears
    have runs := execute_claim stillListed postedMem rowMem .manual
      fun _ => (pure posted.entryId : BankProgram ℕ)
    change book.Evolves (execute (clearJournalLine posted.entryId bankRow.lineNo >>= fun _ =>
      setBankLineMatch line.lineId .manual (some posted.entryId) (some bankRow.lineNo) >>=
        fun _ => pure posted.entryId) after).2
    rw [runs]
    exact trans_of BankBook.Evolves reaches (.of_write fun _ => claims)
  · obtain ⟨failure, refuses⟩ := execute_postEntry_of_not_accepts accepted
    rw [refuses]
    exact .of_write fun _ => .ledger saves

theorem confirmProposal_respects (lineId : ℕ) (account : AccountId)
    («class» : Option ClassId) :
    Respects BankBook.Evolves (confirmProposal lineId account «class») := by
  apply Respects.get_bind
  intro book wellFormed
  suffices history : book.Evolves _ from history wellFormed
  cases foundLine : book.bankLine lineId with
  | error failure => exact refl_of _ book
  | ok line =>
  obtain ⟨lineMem, rfl⟩ := bankLine_eq_ok foundLine
  rw [execute_bind_ok _ (by rw [execute_ofExcept]; rfl)]
  by_cases proposed : line.matchKind = some .proposed
  case neg =>
    rw [decide_eq_false proposed]
    exact refl_of _ book
  rw [decide_eq_true proposed, execute_bind_ok _ (by rw [execute_ofExcept]; rfl)]
  cases foundStatement : book.bankStatement line.statementId with
  | error failure => exact refl_of _ book
  | ok statement =>
  obtain ⟨statementMem, sameId⟩ := bankStatement_eq_ok foundStatement
  rw [execute_bind_ok _ (by rw [execute_ofExcept]; rfl)]
  cases closed : statement.isClosed with
  | true => exact refl_of _ book
  | false =>
  rw [execute_bind_ok _ (by rw [execute_ofExcept]; rfl)]
  cases absolute : amountAbs line with
  | error failure => exact refl_of _ book
  | ok amount =>
  rw [execute_bind_ok _ (by rw [execute_ofExcept])]
  have saves : execute (viaLedger (saveDocument (proposalDocument line amount account «class»)
      ⟨"dan", "confirm_bank_proposal"⟩)) book =
        (.ok (book.ledger.previousVersion ("bankline-" ++ toString line.lineId) + 1),
          { book with
            ledger := book.ledger.recordVersion
              (proposalDocument line amount account «class»)
              ⟨"dan", "confirm_bank_proposal"⟩ }) :=
    rfl
  have saved : book.Evolves { book with
      ledger := book.ledger.recordVersion (proposalDocument line amount account «class»)
        ⟨"dan", "confirm_bank_proposal"⟩ } :=
    .of_write fun _ => .ledger (Ledger.recordVersion_evolves (Set.mem_univ _))
  dsimp only
  rw [execute_bind_ok _ saves]
  cases posts : post (proposalDocument line amount account «class»)
      (book.ledger.previousVersion ("bankline-" ++ toString line.lineId) + 1) {} with
  | error failure => exact saved
  | ok posting =>
  cases posting with
  | nonPosting => exact saved
  | entry entry =>
  cases found : entry.lines.find? fun row => row.account = line.accountId with
  | none =>
    rw [execute_bind_ok _ (by rw [execute_ofExcept]; rfl)]
    dsimp only
    rw [found]
    exact saved
  | some bankRow =>
    have unresolved : isResolved line = false := by
      unfold isResolved
      rw [proposed]
    rw [execute_bind_ok _ (by rw [execute_ofExcept]; rfl)]
    dsimp only
    rw [found, execute_bind_ok _ (by rw [execute_ofExcept]; rfl)]
    exact confirming_evolves wellFormed lineMem unresolved
      ⟨statement, statementMem, sameId, closed⟩ absolute posts found

theorem minor_checkedSum_listed {statementId : ℕ} {selects : BankLineRow → Bool} {sum : Money}
    (sums : Money.checkedSum (((book.listBankLines statementId).filter selects).map
      BankLineRow.amount) = .ok sum) :
    sum.minor = (((book.linesOf statementId).filter selects).map
      fun line => line.amount.minor).sum := by
  have listed : (book.listBankLines statementId).Perm (book.linesOf statementId) :=
    listBankLines_perm statementId
  have rearranged := (listed.filter selects).map fun line => line.amount.minor
  rw [Money.minor_checkedSum sums, List.map_map, ← rearranged.sum_eq]
  rfl

theorem closeStatement_cases (statementId : ℕ) :
    (∃ failure, execute (closeStatement statementId) book = (.error failure, book)) ∨
      ∃ statement ∈ book.statements, statement.statementId = statementId ∧
        (statement.isClosed = true ∧
            execute (closeStatement statementId) book = (.ok (), book) ∨
          statement.isClosed = false ∧ book.Balances statement ∧
            execute (closeStatement statementId) book =
              (.ok (), book.withClosed statementId)) := by
  unfold closeStatement
  rw [execute_bind_ok _ (execute_get book)]
  cases found : book.bankStatement statementId with
  | error failure => exact .inl ⟨_, rfl⟩
  | ok statement =>
  obtain ⟨statementMem, sameId⟩ := bankStatement_eq_ok found
  rw [execute_bind_ok _ (by rw [execute_ofExcept]; rfl)]
  cases closed : statement.isClosed with
  | true => exact .inr ⟨statement, statementMem, sameId, .inl ⟨closed, rfl⟩⟩
  | false =>
  simp only [List.partition_eq_filter_filter]
  rw [if_neg Bool.false_ne_true]
  cases matched : Money.checkedSum (((book.listBankLines statementId).filter isResolved).map
      BankLineRow.amount) with
  | error failure => exact .inl ⟨_, rfl⟩
  | ok matchedSum =>
  rw [execute_bind_ok _ (by rw [execute_ofExcept]; rfl)]
  cases unmatched : Money.checkedSum (((book.listBankLines statementId).filter
      (not ∘ isResolved)).map BankLineRow.amount) with
  | error failure => exact .inl ⟨_, rfl⟩
  | ok unmatchedSum =>
  rw [execute_bind_ok _ (by rw [execute_ofExcept]; rfl)]
  cases expected : statement.openingBalance.checkedAdd matchedSum with
  | error failure => exact .inl ⟨_, rfl⟩
  | ok expectedClosing =>
  rw [execute_bind_ok _ (by rw [execute_ofExcept]; rfl)]
  split_ifs with differs
  · left
    cases statement.closingBalance.checkedSub expectedClosing <;> exact ⟨_, rfl⟩
  · rw [not_or, not_not, Bool.not_eq_false, Money.isZero_iff] at differs
    refine .inr ⟨statement, statementMem, sameId, .inr ⟨closed, ⟨?_, ?_⟩, ?_⟩⟩
    · rw [sameId, ← minor_checkedSum_listed matched, ← Money.checkedAdd_eq_ok_iff.mp expected,
        differs.1]
    · rw [sameId, ← differs.2, minor_checkedSum_listed unmatched]
      rfl
    · have present : (book.statements.any fun row => row.statementId = statementId) = true := by
        rw [List.any_eq_true]
        exact ⟨statement, statementMem, decide_eq_true sameId⟩
      unfold closeBankStatement
      rw [execute_bind_ok _ (execute_get book), present]
      rfl

theorem closeStatement_respects (statementId : ℕ) :
    Respects BankBook.Evolves (closeStatement statementId) := by
  intro book
  have cases : _ ∨ ∃ statement ∈ book.statements, _ := closeStatement_cases statementId
  rcases cases with ⟨failure, refuses⟩ |
    ⟨statement, statementMem, sameId, ⟨-, unchanged⟩ | ⟨isOpen, balances, closes⟩⟩
  · rw [refuses]
    exact refl_of _ book
  · rw [unchanged]
    exact refl_of _ book
  · rw [closes, ← sameId]
    exact .of_write fun _ => .close statementMem isOpen balances

theorem BankAction.evolves (action : BankAction) (book : BankBook) :
    book.Evolves (action.run divide book) := by
  cases action with
  | ledger operation =>
    have history : Ledger.Evolves Set.univ book.ledger (operation.run book.ledger) :=
      (operation.evolves book.ledger).mono (Set.subset_univ _)
    exact .of_write fun _ => .ledger history
  | importStatement account statement => exact importStatement_respects account statement book
  | matchStatement statementId rules => exact matchStatement_respects statementId rules book
  | confirmProposal lineId account «class» =>
    exact confirmProposal_respects lineId account «class» book
  | closeStatement statementId => exact closeStatement_respects statementId book

theorem BankBook.WellFormed.createCompany (company : String) :
    (BankBook.createCompany company).WellFormed where
  ledger := .createCompany company
  statementIds := rfl
  lineIds := rfl
  lineStatements := fun _ lineMem => nomatch lineMem
  stampedPosted := fun _ keyMem => nomatch keyMem
  unresolved := fun _ lineMem => nomatch lineMem
  resolved := fun _ lineMem => nomatch lineMem
  exclusive := fun _ firstMem => nomatch firstMem
  closedBalance := fun _ statementMem => nomatch statementMem

variable (divide) in
theorem BankBook.after_keeps (wellFormed : book.WellFormed) (actions : List BankAction)
    (invariant : BankBook → Prop)
    (kept : ∀ earlier later, earlier.WellFormed → BankWrite earlier later →
      invariant earlier → invariant later)
    (holds : invariant book) :
    (book.after divide actions).WellFormed ∧ invariant (book.after divide actions) := by
  apply invariant_of_run (fun state => state.WellFormed ∧ invariant state) _ ⟨wellFormed, holds⟩
  rintro state action ⟨stateWellFormed, stateHolds⟩
  have evolves : state.Evolves (action.run divide state) := action.evolves state
  exact ⟨(evolves stateWellFormed).2,
    LabelledHistories.Evolves.invariant (fun _ _ _ write => write.wellFormed) evolves
      stateWellFormed invariant (fun _ _ earlier later => kept earlier later) stateHolds⟩

end Operations

end Bank

end QuickBooks
