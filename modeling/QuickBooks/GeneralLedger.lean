import QuickBooks.AdjustmentQueue
import QuickBooks.ConsecutiveGroups
import Mathlib.Data.Prod.Lex
import Mathlib.Data.String.Basic

/-!
# The general ledger in detail

The detail lists every posted line up to a day by account, in the order of the
dates.  What was posted before the first day is carried in as the opening
balance; every later line is listed with the balance it leaves.
-/

namespace QuickBooks

open ConsecutiveGroups

structure GlLineRow where
  accountId : AccountId
  number : String
  name : String
  entryId : Nat
  entryDate : Date
  sourceType : DocKind
  sourceId : String
  lineMemo : Option String
  entryMemo : Option String
  classId : Option ClassId
  entity : Option ContactRef
  isFlagged : Bool
  reversalOf : Option Nat
  debit : Money
  credit : Money
deriving DecidableEq

/-- A posted line joined to its entry and its account. -/
structure JoinedLine where
  account : Account
  posted : PostedEntry
  line : JournalLine

namespace JoinedLine

def toRow (joined : JoinedLine) : GlLineRow where
  accountId := joined.account.accountId
  number := joined.account.number
  name := joined.account.name
  entryId := joined.posted.entryId
  entryDate := joined.posted.entry.entryDate
  sourceType := joined.posted.entry.sourceType
  sourceId := joined.posted.entry.sourceId
  lineMemo := joined.line.memo
  entryMemo := joined.posted.entry.memo
  classId := joined.line.class
  entity := joined.line.entity
  isFlagged := joined.posted.entry.isFlagged
  reversalOf := joined.posted.entry.reversalOf
  debit := joined.line.debit
  credit := joined.line.credit

/-- The order of the detail: account number, date, text of the entry's id and
line. -/
def order (entryText : Nat → String) (joined : JoinedLine) :
    String ×ₗ Date ×ₗ String ×ₗ Int :=
  toLex (joined.account.number, toLex (joined.posted.entry.entryDate,
    toLex (entryText joined.posted.entryId, joined.line.lineNo)))

def Selected (finish : Date) (account : Option AccountId) (joined : JoinedLine) : Prop :=
  joined.posted.entry.entryDate ≤ finish ∧
    ∀ given ∈ account, joined.account.accountId = given

instance (finish : Date) (account : Option AccountId) :
    DecidablePred (Selected finish account) :=
  fun joined => inferInstanceAs (Decidable (joined.posted.entry.entryDate ≤ finish ∧
    ∀ given ∈ account, joined.account.accountId = given))

end JoinedLine

namespace Ledger

def joinedLines (ledger : Ledger) : List JoinedLine :=
  ledger.journal.flatMap fun posted =>
    posted.entry.lines.filterMap fun line =>
      (ledger.accountRow line.account).map fun account => ⟨account, posted, line⟩

/-- The entries' ids are unrelated texts, by which lines of one day are
ordered. -/
def glLines (ledger : Ledger) (entryText : Nat → String) (finish : Date)
    (account : Option AccountId) : List GlLineRow :=
  ((ledger.joinedLines.filter (JoinedLine.Selected finish account ·)).insertionSort
    fun first second => first.order entryText ≤ second.order entryText).map
      JoinedLine.toRow

end Ledger

structure GlLine where
  entryId : Nat
  entryDate : Date
  sourceType : DocKind
  sourceId : String
  memo : Option String
  «class» : Option ClassId
  entity : Option ContactRef
  isFlagged : Bool
  reversalOf : Option Nat
  debit : Money
  credit : Money
  runningBalance : Money
deriving DecidableEq

structure GlAccountSection where
  accountId : AccountId
  number : String
  name : String
  openingBalance : Money
  lines : List GlLine
  closingBalance : Money
deriving DecidableEq

structure GlDetail where
  sections : List GlAccountSection
deriving DecidableEq

/-- A row as it is listed, with the balance it leaves. -/
def GlLineRow.listed (row : GlLineRow) (runningBalance : Money) : GlLine where
  entryId := row.entryId
  entryDate := row.entryDate
  sourceType := row.sourceType
  sourceId := row.sourceId
  memo := row.lineMemo.or row.entryMemo
  «class» := row.classId
  entity := row.entity
  isFlagged := row.isFlagged
  reversalOf := row.reversalOf
  debit := row.debit
  credit := row.credit
  runningBalance := runningBalance

namespace GlAccountSection

def opened (row : GlLineRow) : GlAccountSection :=
  ⟨row.accountId, row.number, row.name, Money.zero, [], Money.zero⟩

/-- An overflow reaches the caller as a refusal of the store. -/
def add (start : Date) (glSection : GlAccountSection) (row : GlLineRow) :
    Except AccountantError GlAccountSection := do
  let amount ← (row.debit.checkedSub row.credit).mapError fun failure =>
    .ledger (.money failure)
  if row.entryDate < start then do
    let openingBalance ← (glSection.openingBalance.checkedAdd amount).mapError
      fun failure => .ledger (.money failure)
    return { glSection with openingBalance, closingBalance := openingBalance }
  else do
    let closingBalance ← (glSection.closingBalance.checkedAdd amount).mapError
      fun failure => .ledger (.money failure)
    return { glSection with closingBalance,
                            lines := glSection.lines ++ [row.listed closingBalance] }

end GlAccountSection

def generalLedger (entryText : Nat → String) (ledger : Ledger) (start finish : Date)
    (account : Option AccountId) : Except AccountantError GlDetail := do
  let sections ← (ledger.glLines entryText finish account).foldlM
    (addToLast GlLineRow.accountId GlAccountSection.accountId GlAccountSection.opened
      (GlAccountSection.add start)) []
  return { sections }

end QuickBooks
