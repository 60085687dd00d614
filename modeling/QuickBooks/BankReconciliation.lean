import QuickBooks.AccountMapping
import QuickBooks.LedgerOperations

/-!
# Bank statements

A statement line never posts by itself.  Matching looks for a posted journal
line to clear, for a settlement that the line pays out, or for a settlement
that it pays out less a fee, and otherwise only proposes an account; a person
confirms a proposal, which posts it.  A statement closes when its balances
agree with its resolved lines.  The statements of an operation are committed one
by one.
-/

namespace QuickBooks

open DecimalNumbers ExceptPrograms TransactionPrograms TransitionRuns

namespace Bank

/-- A parser's output for one transaction.  Money in is positive, money out
negative. -/
structure ParsedLine where
  postedOn : Date
  amount : Money
  description : String
  externalId : Option String
deriving DecidableEq

structure NewStatement where
  periodStart : Date
  periodEnd : Date
  openingBalance : Money
  closingBalance : Money
  lines : List ParsedLine
deriving DecidableEq

structure MatchRules where
  dateWindowDays : Int := 3
  maxFeeRatio : Decimal := .ofParts 4 2
  feeClass : ClassId := ⟨"drop"⟩
deriving DecidableEq

inductive MatchKind where
  | exact
  | settlement
  | proposed
  | manual
deriving DecidableEq

structure BankLineRow where
  lineId : ℕ
  statementId : ℕ
  accountId : AccountId
  postedOn : Date
  amount : Money
  description : String
  externalId : Option String
  matchedEntryId : Option ℕ := none
  matchedLineNo : Option Int := none
  matchKind : Option MatchKind := none
deriving DecidableEq

structure BankStatementRow where
  statementId : ℕ
  accountId : AccountId
  periodStart : Date
  periodEnd : Date
  openingBalance : Money
  closingBalance : Money
  isClosed : Bool
deriving DecidableEq

inductive ProposalKind where
  | expense
  | deposit
deriving DecidableEq

structure Proposal where
  lineId : ℕ
  kind : ProposalKind
  suggestedAccount : AccountId
  reason : String
deriving DecidableEq

structure MatchReport where
  exact : ℕ := 0
  settlement : ℕ := 0
  settlementFee : ℕ := 0
  proposals : List Proposal := []
deriving DecidableEq

structure StatementImportReport where
  statementId : ℕ
  inserted : ℕ
  skippedDuplicate : ℕ
deriving DecidableEq

inductive BankError where
  | ledger (failure : LedgerError)
  | statementDoesNotClose (difference : Money) (unmatched : ℕ)
  | statementClosed (statementId : ℕ)
  | notAProposal (lineId : ℕ)
deriving DecidableEq

namespace BankError

def money (failure : MoneyError) : BankError :=
  .ledger (.money failure)

end BankError

/-- The ledger with the journal lines that carry a clearing stamp, named by
entry and line number, and the bank's statements and lines. -/
structure BankBook where
  ledger : Ledger
  cleared : List (ℕ × Int)
  statements : List BankStatementRow
  lines : List BankLineRow

namespace BankBook

def createCompany (company : String) : BankBook where
  ledger := .createCompany company
  cleared := []
  statements := []
  lines := []

variable (book : BankBook)

def bankStatement (statementId : ℕ) : Except LedgerError BankStatementRow :=
  orRefuse .notFound (book.statements.find? fun row => row.statementId = statementId)

def bankLine (lineId : ℕ) : Except LedgerError BankLineRow :=
  orRefuse .notFound (book.lines.find? fun row => row.lineId = lineId)

/-- The lines of a statement by date and then by id. -/
def listBankLines (statementId : ℕ) : List BankLineRow :=
  (book.lines.filter fun row => row.statementId = statementId).insertionSort
    fun first second => first.postedOn < second.postedOn ∨
      (first.postedOn = second.postedOn ∧ first.lineId ≤ second.lineId)

def isLineCleared (entryId : ℕ) (lineNo : Int) : Bool :=
  (entryId, lineNo) ∈ book.cleared

def hasJournalLine (entryId : ℕ) (lineNo : Int) : Bool :=
  book.ledger.journal.any fun posted => posted.entryId = entryId ∧
    posted.entry.lines.any fun line => line.lineNo = lineNo

end BankBook

abbrev BankProgram :=
  Program BankBook BankError

section Store

def viaLedger {α : Type} (program : LedgerProgram α) : BankProgram α :=
  refusingWith .ledger
    (onPart BankBook.ledger (fun ledger book => { book with ledger }) program)

def createBankStatement (account : AccountId) (statement : NewStatement) :
    BankProgram ℕ := do
  let book ← get
  let statementId := book.statements.length
  MonadExcept.ofExcept (ensure (book.ledger.accountRow account).isSome
    (BankError.ledger (.sqlite "FOREIGN KEY constraint failed")))
  modify fun book => { book with
    statements := book.statements ++ [⟨statementId, account, statement.periodStart,
      statement.periodEnd, statement.openingBalance, statement.closingBalance, false⟩] }
  return statementId

/-- Insert a line unless the account already has one with its external id. -/
def insertBankLineIfNew (statementId : ℕ) (account : AccountId) (parsed : ParsedLine) :
    BankProgram Bool := do
  let book ← get
  if parsed.externalId.isSome && book.lines.any fun row =>
      row.accountId = account ∧ row.externalId = parsed.externalId then
    return false
  else do
    modify fun book => { book with
      lines := book.lines ++ [{
        lineId := book.lines.length
        statementId
        accountId := account
        postedOn := parsed.postedOn
        amount := parsed.amount
        description := parsed.description
        externalId := parsed.externalId }] }
    return true

def setBankLineMatch (lineId : ℕ) (kind : MatchKind) (entryId : Option ℕ)
    (lineNo : Option Int) : BankProgram Unit := do
  let book ← get
  MonadExcept.ofExcept (ensure (book.lines.any fun row => row.lineId = lineId)
    (BankError.ledger .notFound))
  modify fun book => { book with
    lines := book.lines.map fun row =>
      if row.lineId = lineId then
        { row with matchKind := some kind, matchedEntryId := entryId, matchedLineNo := lineNo }
      else row }

/-- The one permitted update of a posted line. -/
def clearJournalLine (entryId : ℕ) (lineNo : Int) : BankProgram Unit := do
  let book ← get
  MonadExcept.ofExcept (ensure (book.hasJournalLine entryId lineNo)
    (BankError.ledger .notFound))
  modify fun book => { book with cleared := (entryId, lineNo) :: book.cleared }

def closeBankStatement (statementId : ℕ) : BankProgram Unit := do
  let book ← get
  MonadExcept.ofExcept (ensure (book.statements.any fun row => row.statementId = statementId)
    (BankError.ledger .notFound))
  modify fun book => { book with
    statements := book.statements.map fun row =>
      if row.statementId = statementId then { row with isClosed := true } else row }

end Store

section Candidates

def exactMatchSourceKinds : List DocKind :=
  [.payment, .deposit, .billPayment, .purchase]

def settlementSourceKinds : List DocKind :=
  [.settlement, .deposit]

def daysBetween (first second : Date) : Int :=
  (second.dayNumber : Int) - first.dayNumber

def inWindow (line : BankLineRow) (rules : MatchRules) (posted : PostedEntry) : Bool :=
  (daysBetween line.postedOn posted.entry.entryDate).natAbs ≤ rules.dateWindowDays

/-- What a journal line has on a side. -/
def sideAmount (side : Side) (line : JournalLine) : Money :=
  match side with
  | .debit => line.debit
  | .credit => line.credit

/-- The uncleared journal lines on the account with the amount on the side, by
date, entry and line number. -/
def unclearedLinesMatching (book : BankBook) (line : BankLineRow) (side : Side)
    (amount : Money) (rules : MatchRules) : List (PostedEntry × JournalLine) :=
  (book.ledger.journal.flatMap fun posted =>
    (posted.entry.lines.filter fun row =>
      row.account = line.accountId ∧ sideAmount side row = amount ∧
        book.isLineCleared posted.entryId row.lineNo = false ∧
        inWindow line rules posted = true ∧
        posted.entry.sourceType ∈ exactMatchSourceKinds).map
      fun row => (posted, row)).insertionSort
    fun first second => first.1.entry.entryDate < second.1.entry.entryDate ∨
      (first.1.entry.entryDate = second.1.entry.entryDate ∧
        (first.1.entryId < second.1.entryId ∨
          (first.1.entryId = second.1.entryId ∧ first.2.lineNo ≤ second.2.lineNo)))

/-- The candidate nearest in time, the first of those equally near. -/
def nearest (line : BankLineRow) (candidates : List (PostedEntry × JournalLine)) :
    Option (PostedEntry × JournalLine) :=
  (candidates.insertionSort fun first second =>
    (daysBetween line.postedOn first.1.entry.entryDate).natAbs ≤
      (daysBetween line.postedOn second.1.entry.entryDate).natAbs).head?

/-- The credits of an entry on the clearing account, when it has a line there.
Those of a balanced entry are an amount. -/
def clearingCredits (entry : JournalEntry) : Option Money :=
  let lines := entry.lines.filter fun line =>
    line.account = acct Chart.authnetClearing
  if lines.isEmpty then none
  else Money.ofMinor? (lines.map fun line => line.credit.minor).sum

/-- The settlement and deposit entries in the window, by id, each with its
credits on the clearing account. -/
def clearingEntries (book : BankBook) (line : BankLineRow) (rules : MatchRules) :
    List (PostedEntry × Money) :=
  ((book.ledger.journal.filter fun posted =>
    inWindow line rules posted ∧ posted.entry.sourceType ∈ settlementSourceKinds).insertionSort
      fun first second => first.entryId ≤ second.entryId).filterMap fun posted =>
    (clearingCredits posted.entry).map fun credits => (posted, credits)

/-- The entry's own leg on the bank's account, unless it is cleared already. -/
def unclearedBankLeg (book : BankBook) (line : BankLineRow) (posted : PostedEntry) :
    Option JournalLine :=
  (posted.entry.lines.find? fun row =>
    row.account = line.accountId ∧ row.debit.isZero = false).filter fun row =>
      !book.isLineCleared posted.entryId row.lineNo

/-- The first of the entries with a leg that the bank line can clear. -/
def firstClearable (book : BankBook) (line : BankLineRow)
    (entries : List (PostedEntry × Money)) : Option (PostedEntry × Money × JournalLine) :=
  entries.findSome? fun candidate =>
    (unclearedBankLeg book line candidate.1).map fun leg => (candidate.1, candidate.2, leg)

/-- The shortfall as a fraction of the gross amount, when it could be a fee. -/
def feeRatio (divide : Decimal → Decimal → Decimal) (gross net : Money) : Option Decimal :=
  if gross.isZero then none
  else
    match gross.checkedSub net with
    | .error _ => none
    | .ok fee =>
      if fee.isNegative || fee.isZero then none
      else some (divide fee.toDecimal gross.toDecimal)

end Candidates

section Documents

/-- The document of the fee that a settlement came in short by. -/
def settlementFeeDocument (bankAccount : AccountId) (negatedFee : Money) (feeClass : ClassId)
    (postedOn : Date) (settlementEntryId : ℕ) : LedgerDocument where
  documentId := "authnet-fee:" ++ toString settlementEntryId
  kind := .bankLine
  txnDate := postedOn
  lines := [{
    lineNo := 1
    kind := .account
    amount := negatedFee
    «class» := some feeClass
    account := some (acct Chart.merchantFees)
    description := some
      ("Authorize.net processing fee, settlement " ++ toString settlementEntryId) }]
  payFrom := some bankAccount
  memo := some
    ("Authorize.net processing fee for settlement " ++ toString settlementEntryId)

/-- The document of a confirmed proposal, its amount without a sign. -/
def proposalDocument (line : BankLineRow) (amountAbs : Money) (account : AccountId)
    («class» : Option ClassId) : LedgerDocument where
  documentId := "bankline-" ++ toString line.lineId
  kind := .bankLine
  txnDate := line.postedOn
  lines := [{
    lineNo := 1
    kind := .account
    amount := amountAbs
    «class»
    account := some account
    description := some line.description }]
  depositTo := if line.amount.isNegative then none else some line.accountId
  payFrom := if line.amount.isNegative then some line.accountId else none
  memo := some ("bank line " ++ toString line.lineId ++ ": " ++ line.description)

def amountAbs (line : BankLineRow) : Except BankError Money :=
  if line.amount.isNegative then line.amount.checkedNeg.mapError .money
  else .ok line.amount

def accountKeywords : List (String × String × String) :=
  [("UPS", Chart.otherOperating, "unknown vendor"),
    ("FEDEX", Chart.otherOperating, "unknown vendor"),
    ("INTUIT", Chart.advertisingChannelFees, "channel/software fee"),
    ("SHOPIFY", Chart.advertisingChannelFees, "channel/software fee"),
    ("AMAZON", Chart.advertisingChannelFees, "channel/software fee"),
    ("AUTHNET", Chart.authnetClearing, "possible settlement, unresolved (W28)"),
    ("AUTHORIZE", Chart.authnetClearing, "possible settlement, unresolved (W28)"),
    ("SUREPAYROLL", Chart.payrollLiabilities, "payroll liability")]

/-- The account suggested for a line that nothing matches, and why. -/
def suggestAccount (description : String) : AccountId × String :=
  let upper := String.ofList (description.toList.map Char.toUpper)
  match accountKeywords.find? fun row => AccountMapping.contains upper row.1 with
  | some (_, account, reason) => (acct account, reason)
  | none =>
    if AccountMapping.contains upper "CHASE" && AccountMapping.contains upper "PAYMENT" then
      (acct Chart.creditCard, "credit card payment")
    else (acct Chart.otherOperating, "unknown vendor")

def proposalFor (line : BankLineRow) : Proposal where
  lineId := line.lineId
  kind := if line.amount.isNegative then .expense else .deposit
  suggestedAccount := (suggestAccount line.description).1
  reason := (suggestAccount line.description).2

end Documents

section Operations

def insertBankLines (statementId : ℕ) (account : AccountId) :
    List ParsedLine → StatementImportReport → BankProgram StatementImportReport
  | [], report => return report
  | parsed :: rest, report => do
    let wasInserted ← insertBankLineIfNew statementId account parsed
    insertBankLines statementId account rest
      (if wasInserted then { report with inserted := report.inserted + 1 }
      else { report with skippedDuplicate := report.skippedDuplicate + 1 })

def importStatement (account : AccountId) (statement : NewStatement) :
    BankProgram StatementImportReport := do
  let statementId ← createBankStatement account statement
  insertBankLines statementId account statement.lines ⟨statementId, 0, 0⟩

/-- A settlement or deposit whose credits on the clearing account are the
line's amount: its own leg on the bank's account is what gets cleared. -/
def trySettlementMatch (line : BankLineRow) (amount : Money) (rules : MatchRules) :
    BankProgram Bool := do
  let book ← get
  let entries := (clearingEntries book line rules).filter fun candidate =>
    candidate.2 = amount
  match firstClearable book line entries with
  | none => return false
  | some (posted, _, leg) => do
    clearJournalLine posted.entryId leg.lineNo
    setBankLineMatch line.lineId .settlement (some posted.entryId) (some leg.lineNo)
    return true

def postSettlementFeeAdjustment (bankAccount : AccountId) (fee : Money) (feeClass : ClassId)
    (postedOn : Date) (settlementEntryId : ℕ) : BankProgram ℕ := do
  let negatedFee ← MonadExcept.ofExcept (fee.checkedNeg.mapError BankError.money)
  viaLedger (QuickBooks.postSettlementFeeAdjustment
    (settlementFeeDocument bankAccount negatedFee feeClass postedOn settlementEntryId))

/-- The same for credits that exceed the amount by no more than a plausible
fee, which is then posted as its own correction. -/
def trySettlementFeeMatch (divide : Decimal → Decimal → Decimal) (line : BankLineRow)
    (amount : Money) (rules : MatchRules) : BankProgram Bool := do
  if rules.maxFeeRatio.atMost .zero then return false
  else do
    let book ← get
    let candidates := (clearingEntries book line rules).filter fun candidate =>
      decide (amount.minor ≤ candidate.2.minor) &&
        (feeRatio divide candidate.2 amount).any fun ratio => ratio.atMost rules.maxFeeRatio
    match firstClearable book line candidates with
    | none => return false
    | some (posted, gross, leg) => do
      let fee ← MonadExcept.ofExcept ((gross.checkedSub amount).mapError BankError.money)
      clearJournalLine posted.entryId leg.lineNo
      setBankLineMatch line.lineId .settlement (some posted.entryId) (some leg.lineNo)
      let _ ← postSettlementFeeAdjustment line.accountId fee rules.feeClass line.postedOn
        posted.entryId
      return true

def matchOneLine (divide : Decimal → Decimal → Decimal) (line : BankLineRow)
    (rules : MatchRules) (report : MatchReport) : BankProgram MatchReport := do
  let isMoneyIn := !line.amount.isNegative
  let amount ← MonadExcept.ofExcept (amountAbs line)
  -- money in went up on the account, so it matches a debit
  let side := if isMoneyIn then Side.debit else Side.credit
  let book ← get
  match nearest line (unclearedLinesMatching book line side amount rules) with
  | some (posted, row) => do
    clearJournalLine posted.entryId row.lineNo
    setBankLineMatch line.lineId .exact (some posted.entryId) (some row.lineNo)
    return { report with exact := report.exact + 1 }
  | none => do
    let settled ← if isMoneyIn then trySettlementMatch line amount rules else pure false
    if settled then return { report with settlement := report.settlement + 1 }
    else do
      let settledLessFee ←
        if isMoneyIn then trySettlementFeeMatch divide line amount rules else pure false
      if settledLessFee then return { report with settlementFee := report.settlementFee + 1 }
      else do
        setBankLineMatch line.lineId .proposed none none
        return { report with proposals := report.proposals ++ [proposalFor line] }

/-- The lines as they were listed, those resolved or proposed before skipped. -/
def matchLines (divide : Decimal → Decimal → Decimal) (rules : MatchRules) :
    List BankLineRow → MatchReport → BankProgram MatchReport
  | [], report => return report
  | line :: rest, report =>
    if line.matchKind.isSome then matchLines divide rules rest report
    else do
      let report ← matchOneLine divide line rules report
      matchLines divide rules rest report

def matchStatement (divide : Decimal → Decimal → Decimal) (statementId : ℕ)
    (rules : MatchRules) : BankProgram MatchReport := do
  let book ← get
  let statement ← MonadExcept.ofExcept
    ((book.bankStatement statementId).mapError BankError.ledger)
  if statement.isClosed then throw (.statementClosed statementId)
  else matchLines divide rules (book.listBankLines statementId) {}

def confirmProposal (lineId : ℕ) (account : AccountId) («class» : Option ClassId) :
    BankProgram ℕ := do
  let book ← get
  let line ← MonadExcept.ofExcept ((book.bankLine lineId).mapError BankError.ledger)
  MonadExcept.ofExcept (ensure (decide (line.matchKind = some .proposed))
    (BankError.notAProposal lineId))
  let statement ← MonadExcept.ofExcept
    ((book.bankStatement line.statementId).mapError BankError.ledger)
  MonadExcept.ofExcept (ensure (!statement.isClosed)
    (BankError.statementClosed line.statementId))
  let amount ← MonadExcept.ofExcept (amountAbs line)
  let doc := proposalDocument line amount account «class»
  let version ← viaLedger (saveDocument doc ⟨"dan", "confirm_bank_proposal"⟩)
  let posting ← MonadExcept.ofExcept
    ((post doc version {}).mapError fun failure => BankError.ledger (.post failure))
  match posting with
  | .nonPosting => throw (.ledger postedNothing)
  | .entry entry => do
    let bankRow ← MonadExcept.ofExcept (orRefuse (BankError.ledger .notFound)
      (entry.lines.find? fun row => row.account = line.accountId))
    let entryId ← viaLedger (postEntry entry)
    clearJournalLine entryId bankRow.lineNo
    setBankLineMatch lineId .manual (some entryId) (some bankRow.lineNo)
    return entryId

def isResolved (line : BankLineRow) : Bool :=
  match line.matchKind with
  | some .exact | some .settlement | some .manual => true
  | some .proposed | none => false

/-- Close a statement whose opening balance and resolved lines make its closing
balance and whose other lines add up to nothing.  A closed one stays closed. -/
def closeStatement (statementId : ℕ) : BankProgram Unit := do
  let book ← get
  let statement ← MonadExcept.ofExcept
    ((book.bankStatement statementId).mapError BankError.ledger)
  if statement.isClosed then return ()
  else do
    let (matched, unmatched) := (book.listBankLines statementId).partition isResolved
    let matchedSum ← MonadExcept.ofExcept
      ((Money.checkedSum (matched.map BankLineRow.amount)).mapError BankError.money)
    let unmatchedSum ← MonadExcept.ofExcept
      ((Money.checkedSum (unmatched.map BankLineRow.amount)).mapError BankError.money)
    let expectedClosing ← MonadExcept.ofExcept
      ((statement.openingBalance.checkedAdd matchedSum).mapError BankError.money)
    if expectedClosing ≠ statement.closingBalance ∨ unmatchedSum.isZero = false then do
      let difference ← MonadExcept.ofExcept
        ((statement.closingBalance.checkedSub expectedClosing).mapError BankError.money)
      throw (.statementDoesNotClose difference unmatched.length)
    else closeBankStatement statementId

end Operations

/-- One operation of the book or of the bank. -/
inductive BankAction where
  | ledger (operation : Operation)
  | importStatement (account : AccountId) (statement : NewStatement)
  | matchStatement (statementId : ℕ) (rules : MatchRules)
  | confirmProposal (lineId : ℕ) (account : AccountId) («class» : Option ClassId)
  | closeStatement (statementId : ℕ)

/-- The book after an action, which keeps what was written before a refusal. -/
def BankAction.run (divide : Decimal → Decimal → Decimal) :
    BankAction → BankBook → BankBook
  | ledger operation, book => { book with ledger := operation.run book.ledger }
  | importStatement account statement, book =>
    (execute (Bank.importStatement account statement) book).2
  | matchStatement statementId rules, book =>
    (execute (Bank.matchStatement divide statementId rules) book).2
  | confirmProposal lineId account «class», book =>
    (execute (Bank.confirmProposal lineId account «class») book).2
  | closeStatement statementId, book => (execute (Bank.closeStatement statementId) book).2

abbrev BankBook.after (divide : Decimal → Decimal → Decimal) (book : BankBook)
    (actions : List BankAction) : BankBook :=
  runFrom (BankAction.run divide) book actions

end Bank

end QuickBooks
