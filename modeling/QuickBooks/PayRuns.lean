import QuickBooks.DocumentProducers
import QuickBooks.OrderedTables
import QuickBooks.TextFields
import Mathlib.Data.Prod.Lex
import Mathlib.Data.String.Basic

/-!
# Pay runs

One pay run becomes one journal document: wages and employer costs by account
and class on the debit side, what is owed onward by item and the net pay from
the bank on the credit side.  A run with an unmapped employee, with a stated
net that differs from its components, or with nothing to post is refused.
-/

namespace QuickBooks

open ExceptPrograms OrderedTables TransactionPrograms

/-- Which column of the payroll summary a figure sits in. -/
inductive Section where
  | earning
  | noncashEarning
  | employeeTax
  | employeeDeduction
  | employerTax
  | employerDeduction
  | netPay
deriving DecidableEq

/-- One figure: one employee, one item, one amount. -/
structure PayLine where
  employee : String
  department : Option String
  «section» : Section
  item : String
  amount : Money
deriving DecidableEq

structure PayRun where
  runId : String
  payDate : Date
  periodStart : Option Date
  periodEnd : Option Date
  lines : List PayLine
deriving DecidableEq

/-- Where the pay of an employee or a department lands. -/
structure Mapping where
  «class» : String
  wagesAccount : Option String
  employerTaxAccount : Option String
deriving DecidableEq

structure PayrollConfig where
  bankAccount : String := Chart.checking
  liabilitiesAccount : String := Chart.payrollLiabilities
  wagesAccount : String := Chart.directLabour
  employerTaxAccount : Option String := none
  employees : OrderedTable String Mapping := .empty
  departments : OrderedTable String Mapping := .empty

structure RunTotals where
  gross : Money
  employerCosts : Money
  liabilities : Money
  netPay : Money
  noncash : Money
deriving DecidableEq

/-- The refusals of building a run's document. -/
inductive PayRunError where
  | empty
  | invalid (runId reason : String)
  | unmapped (runId : String) (unmapped : List String)
  | netPayMismatch (runId stated computed : String)
  | money (failure : MoneyError)
  | importing (failure : PayrollError)
deriving DecidableEq

instance : MonadLift (Except MoneyError) (Except PayRunError) where
  monadLift := Except.mapError .money

namespace PayRun

def documentId (run : PayRun) : String :=
  "payroll:" ++ run.payDate.render ++ ":" ++ run.runId

end PayRun

namespace PayrollConfig

variable (config : PayrollConfig)

def resolve (line : PayLine) : Option Mapping :=
  (config.employees.get? (trimmed line.employee)).or
    (line.department.bind fun department => config.departments.get? (trimmed department))

def wagesAccountOf (mapping : Mapping) : String :=
  mapping.wagesAccount.getD config.wagesAccount

def employerAccountOf (mapping : Mapping) : String :=
  (mapping.employerTaxAccount.or config.employerTaxAccount).getD
    (config.wagesAccountOf mapping)

end PayrollConfig

/-- How an unmapped line is named in the refusal; the quoted form of a text is
that of the standard library. -/
def unmappedLabel (quoted : String → String) (line : PayLine) : String :=
  match line.department with
  | some department =>
    "employee " ++ quoted line.employee ++ " (department " ++ quoted department ++ ")"
  | none => "employee " ++ quoted line.employee

/-- The labels of the lines that the configuration does not map, each once and
in order. -/
def unmappedLabels (quoted : String → String) (config : PayrollConfig)
    (lines : List PayLine) : List String :=
  (((lines.filter fun line =>
    line.section ≠ .netPay ∧ (config.resolve line).isNone).map
      (unmappedLabel quoted)).dedup).insertionSort fun first second => first ≤ second

/-- What the lines read so far add up to.  A debit has the items it is made
of. -/
structure RunJournal where
  debits : OrderedTable (String ×ₗ String) (Money × OrderedTable String Unit)
  liabilities : OrderedTable String Money
  computedNet : OrderedTable String Money
  statedNet : OrderedTable String Money
  totals : RunTotals

namespace RunJournal

def empty : RunJournal :=
  ⟨.empty, .empty, .empty, .empty, ⟨Money.zero, Money.zero, Money.zero, Money.zero, Money.zero⟩⟩

def addAt {κ : Type} [LinearOrder κ] (table : OrderedTable κ Money) (key : κ)
    (amount : Money) : Except MoneyError (OrderedTable κ Money) :=
  table.alterM key fun sum => (sum.getD Money.zero).checkedAdd amount

def subAt {κ : Type} [LinearOrder κ] (table : OrderedTable κ Money) (key : κ)
    (amount : Money) : Except MoneyError (OrderedTable κ Money) :=
  table.alterM key fun sum => (sum.getD Money.zero).checkedSub amount

variable (journal : RunJournal)

/-- Debit a line to an account, under the class of its mapping. -/
def debit (account «class» : String) (line : PayLine) : Except MoneyError RunJournal := do
  let debits ← journal.debits.alterM (toLex (account, «class»)) fun slot => do
    let (sum, items) := slot.getD (Money.zero, .empty)
    let sum ← sum.checkedAdd line.amount
    return (sum, items.insert (trimmed line.item) ())
  return { journal with debits }

def owe (line : PayLine) : Except MoneyError RunJournal := do
  let liabilities ← addAt journal.liabilities (trimmed line.item) line.amount
  return { journal with liabilities }

/-- Every line opens the net of its employee. -/
def openNet (line : PayLine) : RunJournal :=
  let employee := trimmed line.employee
  let net := (journal.computedNet.get? employee).getD Money.zero
  { journal with computedNet := journal.computedNet.insert employee net }

def addNet (line : PayLine) : Except MoneyError RunJournal := do
  let computedNet ← addAt journal.computedNet (trimmed line.employee) line.amount
  return { journal with computedNet }

def subNet (line : PayLine) : Except MoneyError RunJournal := do
  let computedNet ← subAt journal.computedNet (trimmed line.employee) line.amount
  return { journal with computedNet }

def state (line : PayLine) : Except MoneyError RunJournal := do
  let statedNet ← addAt journal.statedNet (trimmed line.employee) line.amount
  return { journal with statedNet }

def addGross (line : PayLine) : Except MoneyError RunJournal := do
  let gross ← journal.totals.gross.checkedAdd line.amount
  return { journal with totals := { journal.totals with gross } }

def addNoncash (line : PayLine) : Except MoneyError RunJournal := do
  let noncash ← journal.totals.noncash.checkedAdd line.amount
  return { journal with totals := { journal.totals with noncash } }

def addEmployerCosts (line : PayLine) : Except MoneyError RunJournal := do
  let employerCosts ← journal.totals.employerCosts.checkedAdd line.amount
  return { journal with totals := { journal.totals with employerCosts } }

/-- Read one line that the configuration maps. -/
def addMapped (config : PayrollConfig) (mapping : Mapping) (line : PayLine) :
    Except MoneyError RunJournal :=
  match line.section with
  | .earning => do
    let journal ← journal.debit (config.wagesAccountOf mapping) mapping.class line
    let journal ← journal.addNet line
    journal.addGross line
  | .noncashEarning => journal.addNoncash line
  | .employeeTax | .employeeDeduction => do
    let journal ← journal.owe line
    journal.subNet line
  | .employerTax | .employerDeduction => do
    let journal ← journal.debit (config.employerAccountOf mapping) mapping.class line
    let journal ← journal.owe line
    journal.addEmployerCosts line
  | .netPay => journal.state line

/-- Read one line.  Only a stated net may be unmapped, which was checked before
the lines are read. -/
def addLine (config : PayrollConfig) (journal : RunJournal) (line : PayLine) :
    Except MoneyError RunJournal :=
  let journal := journal.openNet line
  if line.section = .netPay then journal.state line
  else match config.resolve line with
    | none => return journal
    | some mapping => journal.addMapped config mapping line

/-- The first employee, in order, whose stated net differs from the components,
with both. -/
def netMismatch : Option (Money × Money) :=
  journal.statedNet.entries.findSome? fun (employee, stated) =>
    let computed := (journal.computedNet.get? employee).getD Money.zero
    if stated ≠ computed then some (stated, computed) else none

end RunJournal

/-- A line of the journal document, once it is numbered. -/
def journalDocLine (account : String) («class» : Option String) (side : Side)
    (amount : Money) (what : String) (lineNo : Int) : DocLine where
  lineNo := lineNo
  kind := .journal
  amount := amount
  «class» := «class».map ClassId.mk
  account := some ⟨account⟩
  description := some what
  posting := some side

namespace RunJournal

variable (config : PayrollConfig) (journal : RunJournal) (netPay : Money)

/-- The debits, the liabilities and the net pay, in the order of their keys. -/
def unnumberedLines : List (Int → DocLine) :=
  (journal.debits.entries.map fun (key, sum, items) =>
    journalDocLine (ofLex key).1 (some (ofLex key).2) .debit sum
      ("Payroll " ++ (ofLex key).2 ++ ": " ++
        ", ".intercalate (items.entries.map Prod.fst))) ++
    (journal.liabilities.entries.map fun (item, sum) =>
      journalDocLine config.liabilitiesAccount none .credit sum
        ("Payroll liability: " ++ item)) ++
    [journalDocLine config.bankAccount none .credit netPay "Payroll net pay"]

def docLines : List DocLine :=
  (journal.unnumberedLines config netPay).mapIdx fun index line => line (index + 1)

end RunJournal

/-- The document of a run around its lines. -/
def PayRun.journalEntry (run : PayRun) (config : PayrollConfig) (lines : List DocLine) :
    LedgerDocument :=
  let period := match run.periodStart, run.periodEnd with
    | some first, some last => ", period " ++ first.render ++ " to " ++ last.render
    | _, _ => ""
  { documentId := run.documentId
    kind := .journalEntry
    number := some run.runId
    txnDate := run.payDate
    lines := lines
    payFrom := some ⟨config.bankAccount⟩
    sourceRef := some ("surepayroll:" ++ run.runId)
    memo := some ("SurePayroll pay run " ++ run.runId ++ ", check date " ++
      run.payDate.render ++ period) }

/-- The document of a run and its totals. -/
def journalDocument (quoted : String → String) (run : PayRun) (config : PayrollConfig) :
    Except PayRunError (LedgerDocument × RunTotals) := do
  ensure (trimmed run.runId ≠ "") (PayRunError.invalid run.runId "run id is empty")
  ensure (run.lines ≠ []) (PayRunError.invalid run.runId "no lines")
  let unmapped := unmappedLabels quoted config run.lines
  ensure (unmapped = []) (PayRunError.unmapped run.runId unmapped)
  let journal ← (run.lines.foldlM (RunJournal.addLine config) .empty :
    Except MoneyError RunJournal)
  match journal.netMismatch with
  | some (stated, computed) =>
    throw (PayRunError.netPayMismatch run.runId stated.display computed.display)
  | none => do
    let netPay ← Money.checkedSum (journal.computedNet.entries.map Prod.snd)
    let liabilities ← Money.checkedSum (journal.liabilities.entries.map Prod.snd)
    ensure (!netPay.isNegative) (PayRunError.invalid run.runId
      "withholdings exceed earnings: net pay is negative")
    ensure (!(journal.totals.gross.isZero && journal.totals.employerCosts.isZero))
      (PayRunError.invalid run.runId
        "nothing to post: no cash earnings and no employer costs")
    return (run.journalEntry config (journal.docLines config netPay),
      { journal.totals with netPay, liabilities })

end QuickBooks
