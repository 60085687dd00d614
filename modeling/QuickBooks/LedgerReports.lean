import QuickBooks.KeyedTotals
import QuickBooks.LedgerStore

/-!
# Reports over the ledger

The trial balance, the profit and loss and the balance sheet read the posted
lines directly; nothing here writes.  A sum over lines is a sum of integers in
the database, which refuses to overflow.  The balance sheet folds the net
income of the calendar year of its date into equity.
-/

namespace QuickBooks

open ExceptPrograms KeyedTotals

structure TrialBalance where
  rows : List TrialBalanceRow
  totalDebits : Money
  totalCredits : Money
  wrongSide : List AccountId
deriving DecidableEq

instance : MonadLift (Except MoneyError) (Except LedgerError) where
  monadLift := Except.mapError .money

@[simp]
theorem liftM_money_eq_ok_iff' {α : Type} {program : Except MoneyError α} {result : α} :
    (liftM program : Except LedgerError α) = .ok result ↔ program = .ok result :=
  mapError_eq_ok_iff

namespace Ledger

def lines (ledger : Ledger) : List (JournalEntry × JournalLine) :=
  ledger.journal.flatMap fun posted =>
    posted.entry.lines.map fun line => (posted.entry, line)

def listAccounts (ledger : Ledger) : List Account :=
  ledger.accounts.insertionSort fun first second => first.number ≤ second.number

end Ledger

/-- A sum that the database computes over the selected lines. -/
def sumColumn (amount : JournalLine → Money)
    (selects : JournalEntry × JournalLine → Prop) [DecidablePred selects]
    (ledger : Ledger) : Except LedgerError Money :=
  orRefuse (.sqlite "integer overflow") (Money.ofMinor?
    (total selects (fun posted => (amount posted.2).minor) ledger.lines))

def postedThrough (asOf : Date) (account : AccountId)
    (posted : JournalEntry × JournalLine) : Prop :=
  posted.1.entryDate ≤ asOf ∧ posted.2.account = account

instance (asOf : Date) (account : AccountId) :
    DecidablePred (postedThrough asOf account) :=
  fun posted => inferInstanceAs
    (Decidable (posted.1.entryDate ≤ asOf ∧ posted.2.account = account))

/-- An account with the sums of its two sides. -/
def accountSums (ledger : Ledger) (asOf : Date) (account : Account) :
    Except LedgerError (Account × Money × Money) := do
  let debit ← sumColumn JournalLine.debit (postedThrough asOf account.accountId) ledger
  let credit ← sumColumn JournalLine.credit (postedThrough asOf account.accountId) ledger
  return (account, debit, credit)

/-- Whether a balance sits on the side opposite the account's normal one. -/
def onWrongSide (account : Account) (balance : Money) : Bool :=
  !account.isContra && !balance.isZero &&
    (if account.normalBalance = .debit then balance.isNegative
      else !balance.isNegative)

def addTrialBalanceRow (sheet : TrialBalance) (sums : Account × Money × Money) :
    Except LedgerError TrialBalance := do
  let (account, debit, credit) := sums
  let balance ← debit.checkedSub credit
  let totalDebits ← sheet.totalDebits.checkedAdd debit
  let totalCredits ← sheet.totalCredits.checkedAdd credit
  let wrongSide := if onWrongSide account balance
    then sheet.wrongSide ++ [account.accountId] else sheet.wrongSide
  let row : TrialBalanceRow :=
    { accountId := account.accountId
      number := account.number
      name := account.name
      classification := account.classification
      isContra := account.isContra
      needsMapping := account.needsMapping
      sourceRef := account.sourceRef
      debit, credit, balance }
  return { rows := sheet.rows ++ [row], totalDebits, totalCredits, wrongSide }

def trialBalance (ledger : Ledger) (asOf : Date) : Except LedgerError TrialBalance := do
  let raw ← ledger.listAccounts.mapM (accountSums ledger asOf)
  raw.foldlM addTrialBalanceRow ⟨[], Money.zero, Money.zero, []⟩

structure BySection where
  byAccount : List (AccountId × Money)
  byClass : List (Option ClassId × Money)
  total : Money
deriving DecidableEq

namespace BySection

def empty : BySection :=
  ⟨[], [], Money.zero⟩

/-- Add an amount at a key of an association kept in key order. -/
def addAt {κ : Type} [DecidableEq κ] (isBefore : κ → κ → Bool) (key : κ)
    (amount : Money) : List (κ × Money) → Except MoneyError (List (κ × Money))
  | [] => return [(key, amount)]
  | (existing, sum) :: rest =>
    if existing = key then do
      let sum ← sum.checkedAdd amount
      return (existing, sum) :: rest
    else if isBefore key existing then return (key, amount) :: (existing, sum) :: rest
    else do
      let rest ← addAt isBefore key amount rest
      return (existing, sum) :: rest

def accountBefore (first second : AccountId) : Bool :=
  first.number < second.number

/-- A missing class comes before every class. -/
def classBefore (first second : Option ClassId) : Bool :=
  match first, second with
  | none, some _ => true
  | some first, some second => first.code < second.code
  | _, none => false

def add (bySection : BySection) (account : AccountId) («class» : Option ClassId)
    (amount : Money) : Except LedgerError BySection := do
  let byAccount ← addAt accountBefore account amount bySection.byAccount
  let byClass ← addAt classBefore «class» amount bySection.byClass
  let total ← bySection.total.checkedAdd amount
  return { byAccount, byClass, total }

end BySection

structure ProfitAndLoss where
  income : BySection
  cogs : BySection
  expense : BySection
  grossMargin : Money
  netIncome : Money
deriving DecidableEq

def Classification.isProfitAndLoss : Classification → Bool
  | income | cogs | expense => true
  | asset | liability | equity => false

/-- The lines of one account and class in entries dated between two days. -/
def postedBetween (start finish : Date) (group : AccountId × Option ClassId)
    (posted : JournalEntry × JournalLine) : Prop :=
  (start ≤ posted.1.entryDate ∧ posted.1.entryDate ≤ finish) ∧
    (posted.2.account, posted.2.class) = group

instance (start finish : Date) (group : AccountId × Option ClassId) :
    DecidablePred (postedBetween start finish group) :=
  fun posted => inferInstanceAs (Decidable
    ((start ≤ posted.1.entryDate ∧ posted.1.entryDate ≤ finish) ∧
      (posted.2.account, posted.2.class) = group))

/-- The accounts and classes that the lines between two days use. -/
def usedGroups (ledger : Ledger) (start finish : Date) :
    List (AccountId × Option ClassId) :=
  ((ledger.lines.filter fun posted =>
    decide (start ≤ posted.1.entryDate ∧ posted.1.entryDate ≤ finish)).map
      fun posted => (posted.2.account, posted.2.class)).dedup

/-- The groups of the profit and loss in the order of the account numbers,
each with its account. -/
def profitAndLossGroups (ledger : Ledger) (start finish : Date) :
    List (Account × Option ClassId) :=
  ((usedGroups ledger start finish).filterMap fun (account, «class») =>
    ((ledger.accountRow account).filter fun row =>
      row.classification.isProfitAndLoss).map fun row => (row, «class»)).insertionSort
    fun first second => first.1.number ≤ second.1.number

def groupSums (ledger : Ledger) (start finish : Date) (group : Account × Option ClassId) :
    Except LedgerError ((Account × Option ClassId) × Money × Money) := do
  let selected := postedBetween start finish (group.1.accountId, group.2)
  let debit ← sumColumn JournalLine.debit selected ledger
  let credit ← sumColumn JournalLine.credit selected ledger
  return (group, debit, credit)

/-- The three sections while the groups are added. -/
structure Sections where
  income : BySection
  cogs : BySection
  expense : BySection

def Sections.add (sections : Sections)
    (sums : (Account × Option ClassId) × Money × Money) : Except LedgerError Sections :=
  let ((account, «class»), debit, credit) := sums
  match account.classification with
  | .income => do
    let amount ← credit.checkedSub debit
    let income ← sections.income.add account.accountId «class» amount
    return { sections with income }
  | .cogs => do
    let amount ← debit.checkedSub credit
    let cogs ← sections.cogs.add account.accountId «class» amount
    return { sections with cogs }
  | _ => do
    let amount ← debit.checkedSub credit
    let expense ← sections.expense.add account.accountId «class» amount
    return { sections with expense }

def profitAndLoss (ledger : Ledger) (start finish : Date) :
    Except LedgerError ProfitAndLoss := do
  let raw ← (profitAndLossGroups ledger start finish).mapM
    (groupSums ledger start finish)
  let sections ← raw.foldlM Sections.add
    ⟨BySection.empty, BySection.empty, BySection.empty⟩
  let grossMargin ← sections.income.total.checkedSub sections.cogs.total
  let netIncome ← grossMargin.checkedSub sections.expense.total
  return { income := sections.income, cogs := sections.cogs,
           expense := sections.expense, grossMargin, netIncome }

structure BalanceSheetRow where
  accountId : Option AccountId
  name : String
  balance : Money
deriving DecidableEq

structure BalanceSheetSection where
  rows : List BalanceSheetRow
  total : Money
deriving DecidableEq

structure BalanceSheet where
  assets : BalanceSheetSection
  liabilities : BalanceSheetSection
  equity : BalanceSheetSection
  totalLiabilitiesAndEquity : Money
deriving DecidableEq

namespace BalanceSheetSection

def empty : BalanceSheetSection :=
  ⟨[], Money.zero⟩

/-- A zero amount leaves no row. -/
def add (sheetSection : BalanceSheetSection) (account : Account) (amount : Money) :
    Except LedgerError BalanceSheetSection :=
  if amount.isZero then return sheetSection
  else do
    let total ← sheetSection.total.checkedAdd amount
    return { rows := sheetSection.rows ++ [⟨some account.accountId, account.name, amount⟩]
             total }

end BalanceSheetSection

structure SheetSections where
  assets : BalanceSheetSection
  liabilities : BalanceSheetSection
  equity : BalanceSheetSection

def SheetSections.add (sections : SheetSections) (sums : Account × Money × Money) :
    Except LedgerError SheetSections :=
  let (account, debit, credit) := sums
  match account.classification with
  | .asset => do
    let amount ← debit.checkedSub credit
    let assets ← sections.assets.add account amount
    return { sections with assets }
  | .liability => do
    let amount ← credit.checkedSub debit
    let liabilities ← sections.liabilities.add account amount
    return { sections with liabilities }
  | _ => do
    let amount ← credit.checkedSub debit
    let equity ← sections.equity.add account amount
    return { sections with equity }

/-- Assets, liabilities and equity, with the net income of the calendar year
of the date as a row of equity. -/
def balanceSheet (ledger : Ledger) (asOf : Date) : Except LedgerError BalanceSheet := do
  let raw ← (ledger.listAccounts.filter fun account =>
    !account.classification.isProfitAndLoss).mapM (accountSums ledger asOf)
  let sections ← raw.foldlM SheetSections.add
    ⟨BalanceSheetSection.empty, BalanceSheetSection.empty, BalanceSheetSection.empty⟩
  let results ← profitAndLoss ledger asOf.startOfYear asOf
  let equityTotal ← sections.equity.total.checkedAdd results.netIncome
  let equity : BalanceSheetSection :=
    { rows := sections.equity.rows ++
        [⟨none, "Net income (current year)", results.netIncome⟩]
      total := equityTotal }
  let totalLiabilitiesAndEquity ←
    sections.liabilities.total.checkedAdd equity.total
  return { assets := sections.assets, liabilities := sections.liabilities,
           equity, totalLiabilitiesAndEquity }

end QuickBooks
