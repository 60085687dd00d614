import Mathlib.Data.List.Sort
import QuickBooks.BooksMasterData
import QuickBooks.KeyedTables
import QuickBooks.PostingRules
import QuickBooks.TransactionPrograms

/-!
# The ledger store

The state of one company's book and the statements that write it.  A document
is saved as its next version together with a row of the operation log.
`postEntry` is the only writer of the journal: it checks the period gate, the
balance, the accounts, the classes and the source version before it appends,
so a refusal writes nothing.  Entries are never changed or removed; the only
correction is a reversal posted through the same gate.  A posted entry and its
lines are written in one unit, so the journal holds posted entries only, each
with its lines in the order of their numbers.
-/

namespace QuickBooks

open KeyedTables TransactionPrograms

structure Account where
  accountId : AccountId
  number : String
  name : String
  classification : Classification
  normalBalance : Side
  isContra : Bool
  needsMapping : Bool
  sourceRef : Option String
deriving DecidableEq

/-- One row of the classes table. -/
structure ClassRow where
  classId : ClassId
  name : String
  sourceRef : Option String
deriving DecidableEq

structure TrialBalanceRow where
  accountId : AccountId
  number : String
  name : String
  classification : Classification
  isContra : Bool
  needsMapping : Bool
  sourceRef : Option String
  debit : Money
  credit : Money
  balance : Money
deriving DecidableEq

/-- What a stored snapshot keeps of a row. -/
structure SnapshotRow where
  accountId : AccountId
  number : String
  name : String
  debit : Money
  credit : Money
  balance : Money
deriving DecidableEq

structure Snapshot where
  snapshotId : Nat
  asOf : Date
  rows : List SnapshotRow
deriving DecidableEq

structure Period where
  periodEnd : Date
  isClosed : Bool
  closedBy : String
  tbSnapshotId : Nat
deriving DecidableEq

/-- A row of the close history; a missing date is stored as `none`. -/
structure CloseHistoryRow where
  seq : Nat
  actor : String
  movedFrom : Option Date
  movedTo : Option Date
  isReopen : Bool
  note : String
deriving DecidableEq

structure CommandMeta where
  actorId : String
  kind : String
deriving DecidableEq

structure OplogRow where
  commandId : Nat
  command : CommandMeta
  payload : LedgerDocument
deriving DecidableEq

structure DocumentVersion where
  documentId : String
  version : Nat
  document : LedgerDocument
  commandId : Nat
deriving DecidableEq

structure PostedEntry where
  entryId : Nat
  entry : JournalEntry
deriving DecidableEq

structure Ledger where
  accounts : List Account
  classes : List ClassRow
  periods : List Period
  closeHistory : List CloseHistoryRow
  snapshots : List Snapshot
  oplog : List OplogRow
  documentVersions : List DocumentVersion
  journal : List PostedEntry
  nextEntryId : Nat
  contacts : List Contact
  items : List Item
  docSequences : List (DocKind × Int)
deriving DecidableEq

/-- The refusals of the store; the first stands for a constraint that the
database itself refuses. -/
inductive LedgerError where
  | sqlite (text : String)
  | money (failure : MoneyError)
  | periodClosed (periodEnd : Date)
  | unbalanced
  | missingClass (lineNo : Int)
  | unexpectedClass (lineNo : Int)
  | unknownAccount (account : String)
  | unknownClass («class» : String)
  | notFound
  | post (failure : PostError)
deriving DecidableEq

namespace LedgerError

def message : LedgerError → String
  | sqlite text => "sqlite error: " ++ text
  | money failure => "money: " ++ failure.message
  | periodClosed periodEnd => "period locked through " ++ periodEnd.render
  | unbalanced => "entry does not balance"
  | missingClass lineNo =>
    "line " ++ toString lineNo ++
      " touches income, COGS or expense and requires a class"
  | unexpectedClass lineNo =>
    "line " ++ toString lineNo ++
      " is a balance-sheet line and may not carry a class"
  | unknownAccount account => "unknown account: " ++ account
  | unknownClass «class» => "unknown class: " ++ «class»
  | notFound => "not found"
  | post failure => failure.message

end LedgerError

abbrev LedgerProgram :=
  Program Ledger LedgerError

namespace Ledger

def normalBalanceOf (classification : Classification) (isContra : Bool) : Side :=
  if isContra then classification.normalBalance.flip
  else classification.normalBalance

def seededAccount (seed : AccountSeed) : Account where
  accountId := ⟨seed.number⟩
  number := seed.number
  name := seed.name
  classification := seed.classification
  normalBalance := normalBalanceOf seed.classification seed.isContra
  isContra := seed.isContra
  needsMapping := false
  sourceRef := none

/-- The book of a new company: the seed chart and the company's classes. -/
def createCompany (company : String) : Ledger where
  accounts := Chart.seedChart.map seededAccount
  classes :=
    (if company = "waterline" then Chart.waterlineClasses
      else Chart.aquamentorClasses).map fun (id, name) => ⟨⟨id⟩, name, none⟩
  periods := []
  closeHistory := []
  snapshots := []
  oplog := []
  documentVersions := []
  journal := []
  nextEntryId := 0
  contacts := []
  items := []
  docSequences := []

section Reads

variable (ledger : Ledger)

def accountRow (account : AccountId) : Option Account :=
  ledger.accounts.find? fun row => row.accountId = account

def classExists («class» : ClassId) : Bool :=
  ledger.classes.any fun row => row.classId = «class»

def lockedThrough : Option Date :=
  ((ledger.periods.filter Period.isClosed).map Period.periodEnd).max?

def versionsOf (documentId : String) : List DocumentVersion :=
  ledger.documentVersions.filter fun row => row.documentId = documentId

def previousVersion (documentId : String) : Nat :=
  ((ledger.versionsOf documentId).map DocumentVersion.version).foldr max 0

def documentVersionCount (documentId : String) : Nat :=
  (ledger.versionsOf documentId).length

/-- The stored document of one version. -/
def documentAt (documentId : String) (version : Nat) : Option LedgerDocument :=
  (ledger.documentVersions.find? fun row =>
    row.documentId = documentId ∧ row.version = version).map
      DocumentVersion.document

def latestDocumentPayload (documentId : String) : Option LedgerDocument :=
  ledger.documentAt documentId (ledger.previousVersion documentId)

def entry? (entryId : Nat) : Option JournalEntry :=
  (ledger.journal.find? fun posted => posted.entryId = entryId).map PostedEntry.entry

/-- Entries of a document, by date and then by id. -/
def entriesForDocument (documentId : String) : List PostedEntry :=
  (ledger.journal.filter fun posted => posted.entry.sourceId = documentId).insertionSort
    fun first second => first.entry.entryDate < second.entry.entryDate ∨
      (first.entry.entryDate = second.entry.entryDate ∧
        first.entryId ≤ second.entryId)

/-- The entries of a document that nothing has reversed yet and that are not
themselves reversals. -/
def liveEntriesForDocument (documentId : String) : List PostedEntry :=
  let all := ledger.entriesForDocument documentId
  let reversed := all.filterMap fun posted => posted.entry.reversalOf
  all.filter fun posted =>
    posted.entry.reversalOf = none ∧ posted.entryId ∉ reversed

/-- The first character decides whether an account takes a class. -/
def needsClass (account : Account) : Bool :=
  match account.number.toList.head? with
  | some '4' | some '5' | some '6' | some '7' => true
  | _ => false

/-- The class rule of one line, its account and class existing. -/
def checkClassRule (line : JournalLine) : Except LedgerError Unit :=
  match ledger.accountRow line.account with
  | none => throw (.unknownAccount line.account.number)
  | some account => do
    match line.class with
    | none => ExceptPrograms.ensure (!needsClass account) (.missingClass line.lineNo)
    | some «class» => do
      ExceptPrograms.ensure (ledger.classExists «class») (.unknownClass «class».code)
      ExceptPrograms.ensure (needsClass account) (.unexpectedClass line.lineNo)

/-- The period gate on the date of an entry. -/
def checkOpen (entryDate : Date) : Except LedgerError Unit :=
  match ledger.lockedThrough with
  | none => return ()
  | some locked =>
    ExceptPrograms.ensure (locked < entryDate) (.periodClosed locked)

/-- Every check that posting makes, in its order. -/
def checkEntry (entry : JournalEntry) : Except LedgerError Unit := do
  ledger.checkOpen entry.entryDate
  ExceptPrograms.ensure entry.isBalanced .unbalanced
  entry.lines.forM ledger.checkClassRule
  ExceptPrograms.ensure (ledger.documentVersions.any fun row =>
      row.documentId = entry.sourceId ∧ row.version = entry.sourceVersion)
    (.sqlite "FOREIGN KEY constraint failed")
  ExceptPrograms.ensure ((entry.lines.map JournalLine.lineNo).Nodup)
    (.sqlite "UNIQUE constraint failed: journal_lines.company_id, journal_lines.entry_id, journal_lines.line_no")

end Reads

def stored (entry : JournalEntry) : JournalEntry :=
  { entry with
    lines := entry.lines.insertionSort fun first second => first.lineNo ≤ second.lineNo }

/-- The ledger with one more entry.  Ids are drawn at random, so the next one
was neither issued nor named before. -/
def recordEntry (ledger : Ledger) (entry : JournalEntry) : Ledger :=
  { ledger with
    journal := ledger.journal ++ [⟨ledger.nextEntryId, stored entry⟩]
    nextEntryId := max ledger.nextEntryId (entry.reversalOf.getD 0) + 1 }

/-- The ledger with one more version of a document. -/
def recordVersion (ledger : Ledger) (doc : LedgerDocument) (command : CommandMeta) :
    Ledger :=
  { ledger with
    oplog := ledger.oplog ++ [⟨ledger.oplog.length, command, doc⟩]
    documentVersions := ledger.documentVersions ++
      [⟨doc.documentId, ledger.previousVersion doc.documentId + 1, doc,
        ledger.oplog.length⟩] }

end Ledger

open Ledger

/-- Save a document as its next version, which is returned. -/
def saveDocument (doc : LedgerDocument) (command : CommandMeta) : LedgerProgram Nat := do
  let ledger ← get
  modify fun ledger => ledger.recordVersion doc command
  return ledger.previousVersion doc.documentId + 1

/-- The only writer of the journal. -/
def postEntry (entry : JournalEntry) : LedgerProgram Nat := do
  let ledger ← get
  MonadExcept.ofExcept (ledger.checkEntry entry)
  modify fun ledger => ledger.recordEntry entry
  return ledger.nextEntryId

/-- Post the reversal of an entry on a date, through the same gate. -/
def reverseEntry (entryId : Nat) (on : Date) : LedgerProgram Nat := do
  let ledger ← get
  match ledger.entry? entryId with
  | none => throw .notFound
  | some original => postEntry (original.reversed on entryId)

def addAccount (number name : String) (classification : Classification)
    (isContra : Bool) (sourceRef : Option String) (needsMapping : Bool) :
    LedgerProgram Unit :=
  let row : Account :=
    { accountId := ⟨number⟩, number, name, classification
      normalBalance := normalBalanceOf classification isContra
      isContra, needsMapping, sourceRef }
  modify fun ledger =>
    { ledger with accounts := upsert Account.accountId row ledger.accounts }

def addClass (id name : String) (sourceRef : Option String) : LedgerProgram Unit :=
  let row : ClassRow := ⟨⟨id⟩, name, sourceRef⟩
  modify fun ledger =>
    { ledger with classes := upsert ClassRow.classId row ledger.classes }

/-- Record where an account came from, only where nothing is recorded. -/
def setAccountSourceRef (number sourceRef : String) : LedgerProgram Bool := do
  let ledger ← get
  let unrecorded (row : Account) : Bool := row.number = number ∧ row.sourceRef = none
  modify fun ledger =>
    { ledger with accounts := ledger.accounts.map fun row =>
        if unrecorded row then { row with sourceRef := some sourceRef } else row }
  return ledger.accounts.any unrecorded

end QuickBooks
