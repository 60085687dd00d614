import QuickBooks.LedgerOperations

/-!
# The adjusting-entry request queue

An accountant proposes lines and the owner decides.  A proposal is checked
before it is stored, by a copy of the store's rules; rejecting records the
decision; approving saves a journal document built from the lines, posts it,
and records the entry, in three committed statements.
-/

namespace QuickBooks

open ExceptPrograms TransactionPrograms

/-- An instant, of which only the day matters to the book. -/
structure Timestamp where
  day : Date
  second : Nat
deriving DecidableEq

inductive AdjustmentState where
  | proposed
  | approved
  | rejected
  | posted
deriving DecidableEq

structure AdjustmentRequestRow where
  requestId : String
  requestedBy : String
  requestedAt : Timestamp
  description : String
  lines : List JournalLine
  state : AdjustmentState
  decidedBy : Option String
  decidedAt : Option Timestamp
  decisionNote : Option String
  postedEntryId : Option Nat
deriving DecidableEq

/-- A row as it is handed out, with the lock recomputed. -/
structure AdjustmentRequest extends AdjustmentRequestRow where
  periodClosed : Bool
deriving DecidableEq

inductive AccountantError where
  | ledger (failure : LedgerError)
  | post (failure : PostError)
  | unbalanced
  | missingClass (lineNo : Int)
  | unexpectedClass (lineNo : Int)
  | unknownAccount (account : String)
  | unknownClass («class» : String)
  | notFound
  | alreadyDecided (requestId : String)
  | lineNotFound (entryId : Nat) (lineNo : Int)
deriving DecidableEq

namespace AccountantError

def ofLedger : LedgerError → AccountantError
  | .post failure => .post failure
  | failure => .ledger failure

end AccountantError

/-- A book with its table of adjustment requests, keyed by their ids. -/
structure AccountantBook where
  ledger : Ledger
  requests : List AdjustmentRequestRow
  distinct : (requests.map AdjustmentRequestRow.requestId).Nodup
deriving DecidableEq

namespace AccountantBook

def withoutRequests (ledger : Ledger) : AccountantBook :=
  ⟨ledger, [], List.nodup_nil⟩

def setLedger (ledger : Ledger) (book : AccountantBook) : AccountantBook :=
  { book with ledger }

def adjustmentRequest (book : AccountantBook) (requestId : String) :
    Option AdjustmentRequestRow :=
  book.requests.find? fun row => row.requestId = requestId

def addRequest (book : AccountantBook) (row : AdjustmentRequestRow)
    (fresh : row.requestId ∉ book.requests.map AdjustmentRequestRow.requestId) :
    AccountantBook :=
  { book with
    requests := book.requests ++ [row]
    distinct := by
      rw [List.map_append]
      refine book.distinct.append (List.nodup_singleton _) ?_
      rw [List.map_singleton, List.disjoint_singleton]
      exact fresh }

/-- Record a decision on the rows of a request. -/
def recordDecision (book : AccountantBook) (requestId decidedBy : String)
    (decidedAt : Timestamp) (note : String) (newState : AdjustmentState)
    (postedEntryId : Option Nat) : AccountantBook :=
  { book with
    requests := book.requests.map fun row =>
      if row.requestId = requestId then
        { row with
          state := newState
          decidedBy := some decidedBy
          decidedAt := some decidedAt
          decisionNote := some note
          postedEntryId }
      else row
    distinct := by
      rw [List.map_map]
      convert book.distinct using 2
      ext row
      dsimp only [Function.comp_apply]
      split_ifs <;> rfl }

end AccountantBook

abbrev AccountantProgram :=
  Program AccountantBook AccountantError

def onLedger {α : Type} (program : LedgerProgram α) : AccountantProgram α :=
  refusingWith AccountantError.ofLedger
    (onPart AccountantBook.ledger AccountantBook.setLedger program)

/-- The row, with whether its day is on or before the lock. -/
def rowToRequest (ledger : Ledger) (row : AdjustmentRequestRow) : AdjustmentRequest where
  toAdjustmentRequestRow := row
  periodClosed :=
    match ledger.lockedThrough with
    | none => false
    | some locked => row.requestedAt.day ≤ locked

/-- Whether a proposal asks for a class on the account. -/
def proposalNeedsClass (account : Account) : Bool :=
  match account.number.toList.head? with
  | some '4' | some '5' | some '6' => true
  | _ => false

def validateLine (ledger : Ledger) (line : JournalLine) : Except AccountantError Unit := do
  let account ← orRefuse (.unknownAccount line.account.number)
    (ledger.accountRow line.account)
  ensure (line.class.all ledger.classExists)
    (.unknownClass ((line.class.map ClassId.code).getD ""))
  ensure (!(proposalNeedsClass account && line.class.isNone)) (.missingClass line.lineNo)
  ensure (!(!proposalNeedsClass account && line.class.isSome))
    (.unexpectedClass line.lineNo)

/-- The entry whose balance is probed, on a day that plays no part. -/
def probeEntry (lines : List JournalLine) : JournalEntry where
  entryDate := ⟨1, 1, 1, by decide⟩
  memo := none
  sourceType := .journalEntry
  sourceId := ""
  sourceVersion := 0
  reversalOf := none
  isFlagged := true
  lines := lines

/-- The balance and the class rule, of lines that are only proposed. -/
def validateLines (ledger : Ledger) (lines : List JournalLine) :
    Except AccountantError Unit := do
  ensure (!lines.isEmpty) .unbalanced
  ensure (probeEntry lines).isBalanced .unbalanced
  lines.forM (validateLine ledger)

def insertAdjustmentRequest (row : AdjustmentRequestRow) : AccountantProgram Unit := do
  let book ← get
  if known : row.requestId ∈ book.requests.map AdjustmentRequestRow.requestId then
    throw (.ledger (.sqlite "UNIQUE constraint failed"))
  else set (book.addRequest row known)

/-- Store a request whose lines pass the checks. -/
def proposeAdjustment (requestId requestedBy description : String)
    (lines : List JournalLine) (now : Timestamp) : AccountantProgram AdjustmentRequest := do
  let book ← get
  MonadExcept.ofExcept (validateLines book.ledger lines)
  let row : AdjustmentRequestRow :=
    { requestId, requestedBy, requestedAt := now, description, lines, state := .proposed
      decidedBy := none, decidedAt := none, decisionNote := none, postedEntryId := none }
  insertAdjustmentRequest row
  return rowToRequest book.ledger row

/-- Propose to move one line of an entry to another account and class. -/
def proposeReclassify (requestId : String) (entryId : Nat) (lineNo : Int)
    (newAccount : AccountId) (newClass : Option ClassId) (requestedBy : String)
    (now : Timestamp) : AccountantProgram AdjustmentRequest := do
  let book ← get
  let entry ← MonadExcept.ofExcept
    (orRefuse (.ledger .notFound) <| book.ledger.entry? entryId)
  let original ← MonadExcept.ofExcept (orRefuse (.lineNotFound entryId lineNo)
    (entry.lines.find? fun line => line.lineNo = lineNo))
  let reverse : JournalLine :=
    { original.swapped with
      lineNo := 1
      memo := some ("reclassify: reverse " ++ toString entryId ++ " line " ++
        toString lineNo) }
  let repost : JournalLine :=
    { original with
      lineNo := 2
      account := newAccount
      «class» := newClass
      memo := some ("reclassify: " ++ toString entryId ++ " line " ++ toString lineNo ++
        " to " ++ newAccount.number) }
  proposeAdjustment requestId requestedBy
    ("reclassify entry " ++ toString entryId ++ " line " ++ toString lineNo ++ " from " ++
      original.account.number ++ " to " ++ newAccount.number)
    [reverse, repost] now

def adjustmentDocumentId (requestId : String) : String :=
  "adjustment-" ++ requestId

/-- The line of the journal document that a proposed line becomes. -/
def adjustmentDocLine (line : JournalLine) : DocLine where
  lineNo := line.lineNo
  kind := .journal
  amount := if line.debit.isZero then line.credit else line.debit
  «class» := line.class
  account := some line.account
  isTaxable := false
  description := line.memo
  posting := some (if line.debit.isZero then .credit else .debit)
  entity := line.entity

def buildJournalDocument (row : AdjustmentRequestRow) : LedgerDocument where
  documentId := adjustmentDocumentId row.requestId
  kind := .journalEntry
  txnDate := row.requestedAt.day
  lines := row.lines.map adjustmentDocLine
  memo := some row.description

def decideAdjustmentRequest (requestId decidedBy : String) (decidedAt : Timestamp)
    (note : String) (newState : AdjustmentState) (postedEntryId : Option Nat) :
    AccountantProgram Unit :=
  modify fun book =>
    book.recordDecision requestId decidedBy decidedAt note newState postedEntryId

/-- Decide a proposed request. -/
def decideAdjustment (requestId decidedBy : String) (approve : Bool) (note : String)
    (now : Timestamp) : AccountantProgram AdjustmentRequest := do
  let book ← get
  let row ← MonadExcept.ofExcept (orRefuse .notFound (book.adjustmentRequest requestId))
  MonadExcept.ofExcept (ensure (row.state = .proposed) (.alreadyDecided requestId))
  if approve then
    let entryId ← onLedger (approveAdjustment (buildJournalDocument row) decidedBy)
    decideAdjustmentRequest requestId decidedBy now note .posted (some entryId)
  else decideAdjustmentRequest requestId decidedBy now note .rejected none
  let book ← get
  let updated ← MonadExcept.ofExcept
    (orRefuse .notFound (book.adjustmentRequest requestId))
  return rowToRequest book.ledger updated

/-- The calls that the queue takes. -/
inductive QueueCall where
  | propose (requestId requestedBy description : String) (lines : List JournalLine)
      (now : Timestamp)
  | reclassify (requestId : String) (entryId : Nat) (lineNo : Int)
      (newAccount : AccountId) (newClass : Option ClassId) (requestedBy : String)
      (now : Timestamp)
  | decide (requestId decidedBy : String) (approve : Bool) (note : String)
      (now : Timestamp)

namespace QueueCall

/-- What a call answers, and the book it leaves. -/
def result : QueueCall → AccountantBook → Except AccountantError AdjustmentRequest × AccountantBook
  | propose requestId requestedBy description lines now, book =>
    execute (proposeAdjustment requestId requestedBy description lines now) book
  | reclassify requestId entryId lineNo newAccount newClass requestedBy now, book =>
    execute (proposeReclassify requestId entryId lineNo newAccount newClass requestedBy now)
      book
  | decide requestId decidedBy approve note now, book =>
    execute (decideAdjustment requestId decidedBy approve note now) book

def run (call : QueueCall) (book : AccountantBook) : AccountantBook :=
  (call.result book).2

end QueueCall

end QuickBooks
