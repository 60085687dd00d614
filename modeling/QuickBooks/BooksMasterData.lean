import QuickBooks.LedgerTypes

/-!
# Contacts, items and terms

The master data that a document is prepared from: contacts with their terms,
exemption and default class, and items with their accounts.  A due date is a
number of days after the document or a day of the month, the month's last day
standing in for a day it does not have.
-/

namespace QuickBooks

/-- Due on a day of the month. -/
structure DueDay where
  day : Nat
  nextMonthWithin : Nat
deriving DecidableEq

inductive Terms where
  | net (days : Int)
  | dayOfMonth (day nextMonthWithin : Nat)
deriving DecidableEq

namespace Date

def daysThroughYear (year : Nat) : Nat :=
  365 * year + year / 4 - year / 100 + year / 400

/-- The number of a day, counted from the first day of year one. -/
def dayNumber (date : Date) : Nat :=
  daysThroughYear (date.year - 1) +
    ((List.range (date.month - 1)).map fun index =>
      daysInMonth date.year (index + 1)).sum + date.day

def ofYmd? (year month day : Nat) : Option Date :=
  if valid : isValidDay year month day = true then some ⟨year, month, day, valid⟩
  else none

def nextDay (date : Date) : Option Date :=
  ofYmd? date.year date.month (date.day + 1) <|>
    ofYmd? date.year (date.month + 1) 1 <|> ofYmd? (date.year + 1) 1 1

def addDays : Nat → Date → Option Date
  | 0, date => some date
  | days + 1, date => do
    let next ← date.nextDay
    addDays days next

def dayInMonth (year month day : Nat) : Option Date :=
  ofYmd? year month (max 1 (min day (daysInMonth year month)))

def dayInNextMonth (date : Date) (day : Nat) : Option Date :=
  if date.month = 12 then dayInMonth (date.year + 1) 1 day
  else dayInMonth date.year (date.month + 1) day

end Date

namespace Terms

/-- The due date of a document, when it lies in the calendar. -/
def dueDate (terms : Terms) (txnDate : Date) : Option Date :=
  match terms with
  | net days => txnDate.addDays days.toNat
  | dayOfMonth day nextMonthWithin => do
    let first ← Date.dayInMonth txnDate.year txnDate.month day
    let onOrAfter ← if first < txnDate then first.dayInNextMonth day else some first
    if onOrAfter.dayNumber - txnDate.dayNumber ≤ nextMonthWithin then
      onOrAfter.dayInNextMonth day
    else some onOrAfter

end Terms

structure Contact where
  contactId : String
  kind : ContactKind
  displayName : String
  termsDays : Option Int := none
  dueDay : Option DueDay := none
  isTaxExempt : Bool := false
  defaultClass : Option ClassId := none
  isActive : Bool := true
deriving DecidableEq

namespace Contact

/-- The day of the month when set, else net days. -/
def terms (contact : Contact) : Terms :=
  match contact.dueDay with
  | some due => .dayOfMonth due.day due.nextMonthWithin
  | none => .net (contact.termsDays.getD 0)

end Contact

structure Item where
  itemId : String
  name : String
  incomeAccount : AccountId
  expenseAccount : AccountId
  assetAccount : Option AccountId := none
  defaultClass : Option ClassId := none
  unitCost : Option Money := none
  isActive : Bool := true
deriving DecidableEq

namespace Item

def accounts (item : Item) : ItemAccounts where
  income := item.incomeAccount
  expense := item.expenseAccount
  asset := item.assetAccount
  defaultClass := item.defaultClass
  unitCost := item.unitCost

end Item

end QuickBooks
