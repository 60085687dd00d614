import QuickBooks.BankHistories

/-!
# Reconciled bank statements

No journal line is cleared for two bank lines, and a closed statement stays as
it is.  A resolved line has cleared a journal line on the bank's account.  Its
amount is that of the bank line when it was matched exactly, or confirmed for
money in; a settlement's leg carries what the settlement recorded.  A closed
statement's resolved lines make its closing balance, the others add up to
nothing.
-/

namespace QuickBooks

open DecimalNumbers ExceptPrograms KeyedTables TransactionPrograms TransitionRuns

namespace Bank

section Supplies

def feeQuotient (_fee _gross : Decimal) : Decimal :=
  .ofParts 25 3

def september (opening closing : Money) (lines : List ParsedLine) : NewStatement where
  periodStart := ⟨2026, 9, 1, Eq.refl true⟩
  periodEnd := ⟨2026, 9, 30, Eq.refl true⟩
  openingBalance := opening
  closingBalance := closing
  lines

def suppliesPurchase : LedgerDocument where
  documentId := "purch-1"
  kind := .purchase
  txnDate := ⟨2026, 9, 4, Eq.refl true⟩
  lines := [{
    lineNo := 1
    kind := .account
    amount := .fromMinor 5000
    «class» := some ⟨"foam"⟩
    account := some (acct Chart.shopSupplies) }]
  payFrom := some (acct Chart.checking)

/-- A purchase and the statement that it clears on. -/
def suppliesActions : List BankAction :=
  [.ledger (.saveAndPostDocument suppliesPurchase [] "bookkeeper"),
    .importStatement (acct Chart.checking) (september (.fromMinor 100000) (.fromMinor 95000)
      [⟨⟨2026, 9, 5, Eq.refl true⟩, .fromMinor (-5000), "SHOP SUPPLIES CO", none⟩]),
    .matchStatement 0 {}]

def suppliesBook : BankBook :=
  (BankBook.createCompany "aquamentor").after feeQuotient suppliesActions

end Supplies

section Exclusive

variable (divide : Decimal → Decimal → Decimal)

/-- Over any run, two bank lines claim different journal lines, all of them
stamped as cleared, and a closed statement and its lines are the same after
whatever comes later. -/
theorem claims_exclusive_and_closed_unchanged (company : String)
    (actions later : List BankAction) :
    let book := (BankBook.createCompany company).after divide actions
    (∀ first ∈ book.lines, ∀ second ∈ book.lines, ∀ entryId lineNo,
        first.claim = some (entryId, lineNo) → second.claim = some (entryId, lineNo) →
        first = second ∧ book.isLineCleared entryId lineNo = true) ∧
      ∀ statement ∈ book.statements, statement.isClosed = true →
        statement ∈ (book.after divide later).statements ∧
          (book.after divide later).linesOf statement.statementId =
            book.linesOf statement.statementId := by
  intro book
  have wellFormed : book.WellFormed :=
    (BankBook.after_keeps divide (.createCompany company) actions (fun _ => True)
      (fun _ _ _ _ _ => trivial) trivial).1
  constructor
  · intro first firstMem second secondMem entryId lineNo firstClaim secondClaim
    refine ⟨wellFormed.exclusive first firstMem second secondMem _ firstClaim secondClaim, ?_⟩
    cases resolves : isResolved first with
    | false =>
      rw [wellFormed.unresolved first firstMem resolves] at firstClaim
      cases firstClaim
    | true =>
      obtain ⟨posted, row, cleared⟩ := wellFormed.resolved first firstMem resolves
      rw [cleared.claimed, Option.some.injEq] at firstClaim
      have stamped := cleared.stamped
      rw [firstClaim] at stamped
      exact decide_eq_true stamped
  · intro statement statementMem closed
    have kept := BankBook.after_keeps divide wellFormed later
      (fun state => statement ∈ state.statements ∧
        state.linesOf statement.statementId = book.linesOf statement.statementId)
      (by
        rintro earlier following earlierWellFormed write ⟨earlierMem, sameLines⟩
        obtain ⟨followingMem, stillSame⟩ :=
          write.keepsClosed earlierWellFormed earlierMem closed
        exact ⟨followingMem, stillSame.trans sameLines⟩)
      ⟨statementMem, rfl⟩
    exact kept.2

def closedBook : BankBook :=
  (BankBook.createCompany "aquamentor").after feeQuotient
    (suppliesActions ++ [.closeStatement 0])

def laterActions : List BankAction :=
  [.importStatement (acct Chart.checking) (september (.fromMinor 0) (.fromMinor 0) []),
    .matchStatement 0 {}, .confirmProposal 0 (acct Chart.shopSupplies) (some ⟨"foam"⟩)]

theorem closedBook_unchanged :
    (∃ line ∈ closedBook.lines, ∃ entryId lineNo, line.claim = some (entryId, lineNo) ∧
        closedBook.isLineCleared entryId lineNo = true) ∧
      ∃ statement ∈ closedBook.statements, statement.isClosed = true ∧
        statement ∈ (closedBook.after feeQuotient laterActions).statements ∧
        (closedBook.after feeQuotient laterActions).linesOf statement.statementId =
          closedBook.linesOf statement.statementId := by
  obtain ⟨exclusive, unchanged⟩ := claims_exclusive_and_closed_unchanged feeQuotient
    "aquamentor" (suppliesActions ++ [.closeStatement 0]) laterActions
  constructor
  · obtain ⟨line, lineMem, claims⟩ : ∃ line ∈ closedBook.lines, line.claim = some (0, 2) := by
      decide +kernel
    exact ⟨line, lineMem, 0, 2, claims, (exclusive line lineMem line lineMem 0 2 claims claims).2⟩
  · obtain ⟨statement, statementMem, closed⟩ : ∃ statement ∈ closedBook.statements,
        statement.isClosed = true := by
      decide +kernel
    exact ⟨statement, statementMem, closed, unchanged statement statementMem closed⟩

end Exclusive

namespace BankBook

variable (book : BankBook)

/-- The journal line that a bank line has cleared. -/
def clearedRow (line : BankLineRow) : Option JournalLine :=
  line.claim.bind fun key =>
    (book.ledger.journal.find? fun posted => posted.entryId = key.1).bind fun posted =>
      posted.entry.lines.find? fun row => row.lineNo = key.2

def clearedNet (line : BankLineRow) : Int :=
  ((book.clearedRow line).map JournalLine.net).getD 0

variable {book}

theorem WellFormed.clearedRow_eq (wellFormed : book.WellFormed) {line : BankLineRow}
    {posted : PostedEntry} {row : JournalLine} (cleared : book.Cleared line posted row) :
    book.clearedRow line = some row := by
  unfold clearedRow
  rw [cleared.claimed, Option.bind_some,
    find?_eq_some_of_nodup wellFormed.ledger.entryIds cleared.postedMem, Option.bind_some]
  exact find?_eq_some_of_nodup
    (wellFormed.ledger.numbered posted cleared.postedMem) cleared.rowMem

end BankBook

section Amounts

variable {line : BankLineRow} {posted : PostedEntry} {row : JournalLine}

theorem net_of_exact (side : JournalEntry.sideOk row = true)
    (clears : Clears line posted row .exact) (nonzero : line.amount.minor ≠ 0) :
    row.net = line.amount.minor := by
  rw [JournalEntry.sideOk_iff] at side
  cases clears with
  | exact ofKind moneyIn moneyOut =>
    unfold JournalLine.net
    rcases lt_or_ge line.amount.minor 0 with out | into
    · have credits := moneyOut out
      omega
    · have debits := moneyIn into
      omega

theorem net_of_manual (clears : Clears line posted row .manual) :
    row.net = |line.amount.minor| := by
  cases clears with
  | manual nets ofLine => exact nets

theorem of_settlement (side : JournalEntry.sideOk row = true)
    (clears : Clears line posted row .settlement) :
    0 ≤ line.amount.minor ∧ posted.entry.sourceType ∈ settlementSourceKinds ∧ 0 < row.net ∧
      ∃ credits, clearingCredits posted.entry = some credits ∧
        line.amount.minor ≤ credits.minor := by
  rw [JournalEntry.sideOk_iff] at side
  cases clears with
  | @settlement ofKind moneyIn debits credits credited covered =>
    refine ⟨moneyIn, ofKind, ?_, credits, credited, covered⟩
    unfold JournalLine.net
    omega

end Amounts

section Reconciled

variable (divide : Decimal → Decimal → Decimal)

/-- What the sum of the cleared journal lines of a balanced statement is when
each carries the amount of its bank line. -/
theorem BankBook.Balances.cleared {book : BankBook} {statement : BankStatementRow}
    (balances : book.Balances statement)
    (carried : ∀ line ∈ book.linesOf statement.statementId, isResolved line = true →
      book.clearedNet line = line.amount.minor) :
    (((book.linesOf statement.statementId).filter isResolved).map book.clearedNet).sum =
      statement.closingBalance.minor - statement.openingBalance.minor := by
  have sameAmounts : ((book.linesOf statement.statementId).filter isResolved).map
      book.clearedNet = ((book.linesOf statement.statementId).filter isResolved).map
        fun line => line.amount.minor := by
    apply List.map_congr_left
    intro line lineMem
    obtain ⟨inStatement, resolves⟩ := List.mem_filter.mp lineMem
    exact carried line inStatement resolves
  rw [sameAmounts, ← balances.1]
  omega

/-- What a resolved line has cleared, and what a statement that is closed
balances, in every book that the actions lead to. -/
theorem reconciliation_holds (company : String) (actions : List BankAction) :
    let book := (BankBook.createCompany company).after divide actions
    (∀ line ∈ book.lines, isResolved line = true →
      ∃ posted ∈ book.ledger.journal, ∃ row ∈ posted.entry.lines,
        line.claim = some (posted.entryId, row.lineNo) ∧
        book.isLineCleared posted.entryId row.lineNo = true ∧
        book.clearedNet line = row.net ∧ row.account = line.accountId ∧
        (line.matchKind = some .exact → line.amount.minor ≠ 0 →
          row.net = line.amount.minor) ∧
        (line.matchKind = some .manual → 0 ≤ line.amount.minor →
          row.net = line.amount.minor) ∧
        (line.matchKind = some .settlement → 0 ≤ line.amount.minor ∧
          posted.entry.sourceType ∈ settlementSourceKinds ∧ 0 < row.net ∧
          ∃ credits, clearingCredits posted.entry = some credits ∧
            line.amount.minor ≤ credits.minor)) ∧
      ∀ statementId after, execute (closeStatement statementId) book = (.ok (), after) →
        ∃ statement ∈ after.statements, statement.statementId = statementId ∧
          statement.isClosed = true ∧ after.Balances statement ∧
          ((∀ line ∈ after.linesOf statementId, isResolved line = true →
              after.clearedNet line = line.amount.minor) →
            (((after.linesOf statementId).filter isResolved).map after.clearedNet).sum =
              statement.closingBalance.minor - statement.openingBalance.minor) := by
  intro book
  have wellFormed : book.WellFormed :=
    (BankBook.after_keeps divide (.createCompany company) actions (fun _ => True)
      (fun _ _ _ _ _ => trivial) trivial).1
  constructor
  · intro line lineMem resolves
    obtain ⟨posted, row, cleared⟩ := wellFormed.resolved line lineMem resolves
    obtain ⟨kind, isKind, clears⟩ := cleared.clears
    have side : JournalEntry.sideOk row = true :=
      (JournalEntry.isBalanced_spec
        (wellFormed.ledger.balanced posted cleared.postedMem)).2.1 row cleared.rowMem
    have isNet : book.clearedNet line = row.net := by
      unfold BankBook.clearedNet
      rw [wellFormed.clearedRow_eq cleared]
      rfl
    refine ⟨posted, cleared.postedMem, row, cleared.rowMem, cleared.claimed,
      decide_eq_true cleared.stamped, isNet, cleared.onAccount, ?_, ?_, ?_⟩
    · intro isExact nonzero
      rw [isKind, Option.some.injEq] at isExact
      rw [isExact] at clears
      exact net_of_exact side clears nonzero
    · intro isManual moneyIn
      rw [isKind, Option.some.injEq] at isManual
      rw [isManual] at clears
      exact (net_of_manual clears).trans (abs_of_nonneg moneyIn)
    · intro isSettlement
      rw [isKind, Option.some.injEq] at isSettlement
      rw [isSettlement] at clears
      exact of_settlement side clears
  · intro statementId after closes
    have afterWellFormed : after.WellFormed := by
      have history := (closeStatement_respects statementId book wellFormed).2
      rwa [closes] at history
    obtain ⟨statement, statementMem, sameId, closed⟩ : ∃ statement ∈ after.statements,
        statement.statementId = statementId ∧ statement.isClosed = true := by
      have cases : _ ∨ ∃ statement ∈ book.statements, _ := closeStatement_cases statementId
      rcases cases with ⟨failure, refuses⟩ |
        ⟨statement, statementMem, sameId, ⟨closed, unchanged⟩ | ⟨isOpen, -, closesNow⟩⟩
      · rw [refuses] at closes
        cases closes
      · rw [unchanged] at closes
        cases closes
        exact ⟨statement, statementMem, sameId, closed⟩
      · rw [closesNow] at closes
        cases closes
        refine ⟨{ statement with isClosed := true },
          List.mem_map.mpr ⟨statement, statementMem, if_pos sameId⟩, sameId, rfl⟩
    have balances := afterWellFormed.closedBalance statement statementMem closed
    refine ⟨statement, statementMem, sameId, closed, balances, fun carried => ?_⟩
    rw [← sameId] at carried ⊢
    exact balances.cleared carried

theorem reconciliation_holds_supplies :
    (∃ line ∈ suppliesBook.lines, ∃ posted ∈ suppliesBook.ledger.journal,
        ∃ row ∈ posted.entry.lines, line.claim = some (posted.entryId, row.lineNo) ∧
          row.net = line.amount.minor) ∧
      ∃ after, execute (closeStatement 0) suppliesBook = (.ok (), after) ∧
        ∃ statement ∈ after.statements, statement.statementId = 0 ∧
          (((after.linesOf 0).filter isResolved).map after.clearedNet).sum =
            statement.closingBalance.minor - statement.openingBalance.minor := by
  obtain ⟨lines, closes⟩ := reconciliation_holds feeQuotient "aquamentor" suppliesActions
  constructor
  · obtain ⟨line, lineMem, resolves, isExact, nonzero⟩ : ∃ line ∈ suppliesBook.lines,
        isResolved line = true ∧ line.matchKind = some .exact ∧ line.amount.minor ≠ 0 := by
      decide +kernel
    obtain ⟨posted, postedMem, row, rowMem, claimed, -, -, -, exactly, -⟩ :=
      lines line lineMem resolves
    exact ⟨line, lineMem, posted, postedMem, row, rowMem, claimed, exactly isExact nonzero⟩
  · have runs : execute (closeStatement 0) suppliesBook =
        (.ok (), (execute (closeStatement 0) suppliesBook).2) :=
      Prod.ext (by decide +kernel) rfl
    obtain ⟨statement, statementMem, sameId, -, -, balances⟩ := closes 0 _ runs
    exact ⟨_, runs, statement, statementMem, sameId, balances (by decide +kernel)⟩

end Reconciled

section Books

def batchSettlement : LedgerDocument where
  documentId := "settle-1"
  kind := .settlement
  txnDate := ⟨2026, 9, 3, Eq.refl true⟩
  lines := [{
    lineNo := 1
    kind := .account
    amount := .fromMinor 10000
    account := some (acct Chart.authnetClearing) }]
  depositTo := some (acct Chart.checking)

/-- A settlement that was paid out less a fee. -/
def feeBook : BankBook :=
  (BankBook.createCompany "aquamentor").after feeQuotient
    [.ledger (.saveAndPostDocument batchSettlement [] "bookkeeper"),
      .importStatement (acct Chart.checking) (september (.fromMinor 0) (.fromMinor 9750)
        [⟨⟨2026, 9, 3, Eq.refl true⟩, .fromMinor 9750, "AUTHORIZE.NET", none⟩]),
      .matchStatement 0 {}]

/-- Two lines that cancel out and were never matched. -/
def offsettingBook : BankBook :=
  (BankBook.createCompany "aquamentor").after feeQuotient
    [.importStatement (acct Chart.checking) (september (.fromMinor 0) (.fromMinor 0)
      [⟨⟨2026, 9, 3, Eq.refl true⟩, .fromMinor 5000, "IN", none⟩,
        ⟨⟨2026, 9, 4, Eq.refl true⟩, .fromMinor (-5000), "OUT", none⟩])]

/-- The settlement's leg carries what the settlement recorded, not what the bank
paid out, and a statement closes over lines that cancel out unresolved. -/
theorem reconciliation_inexact :
    (∃ line ∈ feeBook.lines, isResolved line = true ∧
        feeBook.clearedNet line ≠ line.amount.minor) ∧
      ∃ after, execute (closeStatement 0) offsettingBook = (.ok (), after) ∧
        ∃ line ∈ after.linesOf 0, isResolved line = false := by
  refine ⟨by decide +kernel, (execute (closeStatement 0) offsettingBook).2, ?_, ?_⟩
  · exact Prod.ext (by decide +kernel) rfl
  · decide +kernel

end Books

end Bank

end QuickBooks
