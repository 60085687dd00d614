import QuickBooks.OpenItems
import QuickBooks.PeriodGate

/-!
# Edits, voids and credit applications

Each correction saves a new version of a document and, when what the document
posts has changed, reverses its live entries and posts the new one, all in one
unit.  A reversal is dated as the entry it reverses, so both the old and the
new date must be in an open period.  Nothing is ever deleted.
-/

namespace QuickBooks

open ExceptPrograms TransactionPrograms

/-- What an edit, a void or a credit application did. -/
structure Revision where
  document : LedgerDocument
  version : Nat
  reversals : List Nat
  entry : Option (Nat × JournalEntry)
deriving DecidableEq

/-- Rates are equal as numbers, everything else as it is stored. -/
def JournalLine.sameLine (first second : JournalLine) : Bool :=
  decide ({ first with taxRate := none } = { second with taxRate := none }) &&
    match first.taxRate, second.taxRate with
    | none, none => true
    | some firstRate, some secondRate => firstRate.sameNumber secondRate
    | _, _ => false

def sameLines : List JournalLine → List JournalLine → Bool
  | [], [] => true
  | first :: firsts, second :: seconds => first.sameLine second && sameLines firsts seconds
  | _, _ => false

/-- The same journal effect, whichever version it was posted from. -/
def samePosting (first second : JournalEntry) : Bool :=
  decide (first.entryDate = second.entryDate ∧ first.memo = second.memo ∧
    first.sourceType = second.sourceType ∧ first.isFlagged = second.isFlagged) &&
    sameLines first.lines second.lines

def latestDocument (ledger : Ledger) (documentId : String) :
    Except BooksError LedgerDocument :=
  orRefuse (BooksError.unknownDocument documentId) (ledger.latestDocumentPayload documentId)

def checkUnlocked (ledger : Ledger) (date : Date) : Except BooksError Unit :=
  (ledger.checkOpen date : Except LedgerError Unit)

/-- The book a kind opens an item on. -/
def bookOf : DocKind → Option Book
  | .invoice | .creditMemo => some .receivable
  | .bill | .vendorCredit => some .payable
  | _ => none

/-- Everything that saved documents other than one apply against a document. -/
def appliedByOthers (ledger : Ledger) (book : Book) (documentId excluding : String) :
    Except BooksError Money :=
  let others := (latestDocuments ledger book.docTypes Date.last).filter fun doc =>
    doc.documentId ≠ excluding && book.settles doc.kind
  let applied := (others.flatMap LedgerDocument.applications).filter fun application =>
    application.targetDocumentId = documentId
  (Money.checkedSum (applied.map Application.amount) : Except MoneyError Money)

/-- The form in which amounts appear in messages. -/
def Money.display (money : Money) : String :=
  let magnitude := money.minor.natAbs
  (if money.minor < 0 then "-" else "") ++ toString (magnitude / 100) ++ "." ++
    Date.padded 2 (magnitude % 100)

/-- What the new version does to the journal. -/
inductive Reposting where
  | post (ctx : PostingContext)
  | void (reason : String)
  | keep

/-- The entry to post and whether the live entries are reversed. -/
def repostingPlan (doc : LedgerDocument) (nextVersion : Nat) (live : List PostedEntry)
    (reposting : Reposting) : Except PostError (Option JournalEntry × Bool) :=
  match reposting with
  | .keep => return (none, false)
  | .void _ => return (none, true)
  | .post ctx => do
    match ← post doc nextVersion ctx with
    | .nonPosting => return (none, true)
    | .entry entry =>
      match live with
      | [old] =>
        if samePosting old.entry entry then return (none, false)
        else return (some entry, true)
      | _ => return (some entry, true)

/-- The reversal of a live entry, dated as the entry. -/
def revisionReversal (reposting : Reposting) (posted : PostedEntry) : JournalEntry :=
  let reversal := posted.entry.reversed posted.entry.entryDate posted.entryId
  match reposting with
  | .void reason =>
    { reversal with
      memo := some ("VOID: " ++ posted.entry.memo.getD "" ++ " (" ++ reason ++ ")") }
  | _ => reversal

/-- Post the reversals of live entries in order. -/
def postReversals (reposting : Reposting) : List PostedEntry → LedgerProgram (List Nat)
  | [] => return []
  | posted :: rest => do
    let reversalId ← postEntry (revisionReversal reposting posted)
    let reversalIds ← postReversals reposting rest
    return reversalId :: reversalIds

/-- The writes of a revision. -/
def writeRevision (doc : LedgerDocument) (newEntry : Option JournalEntry)
    (reversed : List PostedEntry) (reposting : Reposting) (command : CommandMeta) :
    LedgerProgram Revision := do
  let reversals ← postReversals reposting reversed
  let version ← saveDocument doc command
  match newEntry with
  | none => return ⟨doc, version, reversals, none⟩
  | some entry => do
    let entry := { entry with sourceVersion := version }
    let entryId ← postEntry entry
    return ⟨doc, version, reversals, some (entryId, entry)⟩

/-- Save a document as the next version of an old one and bring the journal in
line, as one unit. -/
def commitRevision (old doc : LedgerDocument) (reposting : Reposting)
    (command : CommandMeta) : BooksProgram Revision := do
  reading fun ledger => checkUnlocked ledger old.txnDate
  reading fun ledger => checkUnlocked ledger doc.txnDate
  let ledger ← get
  let live := ledger.liveEntriesForDocument doc.documentId
  let nextVersion := ledger.documentVersionCount doc.documentId + 1
  let (newEntry, reverse) ← reading fun _ =>
    (repostingPlan doc nextVersion live reposting : Except PostError _)
  atomically (viaLedger
    (writeRevision doc newEntry (if reverse then live else []) reposting command))

/-- An edit keeps the type of contact that the document names. -/
def checkContactType (old doc : LedgerDocument) : Except BooksError Unit :=
  match old.contact, doc.contact with
  | some was, some names =>
    ensure (was.kind = names.kind)
      (BooksError.contactTypeChanged doc.documentId was.kind.asStr names.kind.asStr)
  | _, _ => return ()

/-- The number of an edited document: kept when left blank, and never changed
where the book numbers the type. -/
def editedNumber (old doc : LedgerDocument) : Except BooksError (Option String) :=
  match doc.number with
  | none => return old.number
  | some requested => do
    ensure (!isNumbered doc.kind || decide (some requested = old.number))
      (BooksError.numberChanged doc.kind.asStr doc.documentId (old.number.getD "")
        requested)
    return some requested

/-- The checks of an edit that only compare the old document with the new. -/
def checkEdit (old doc : LedgerDocument) : Except BooksError LedgerDocument := do
  ensure (!old.isVoided) (BooksError.voided doc.documentId)
  ensure (!doc.isVoided) BooksError.voidThroughEdit
  ensure (doc.kind = old.kind)
    (BooksError.kindChanged doc.documentId old.kind.asStr doc.kind.asStr)
  checkContactType old doc
  let number ← editedNumber old doc
  return { doc with number, sourceRef := doc.sourceRef <|> old.sourceRef }

/-- An opening document keeps a total that covers what is applied against
it. -/
def checkOwnApplications (ledger : Ledger) (doc : LedgerDocument) :
    Except BooksError Unit :=
  match bookOf doc.kind with
  | none => return ()
  | some book => do
    let others ← appliedByOthers ledger book doc.documentId doc.documentId
    let applied ← if book.opens doc.kind = some true then do
        let own ← applicationsTotal doc
        (others.checkedAdd own : Except MoneyError Money)
      else pure others
    let total ← documentTotal doc
    ensure (applied.minor ≤ total.minor)
      (BooksError.overapplied doc.documentId applied.display total.display)

/-- A target of an application stays covered. -/
def checkTarget (ledger : Ledger) (doc : LedgerDocument) (application : Application) :
    Except BooksError Unit := do
  let target ← latestDocument ledger application.targetDocumentId
  if target.kind.isContract then return ()
  else
    ensure (!target.isVoided) (BooksError.voided target.documentId)
    match bookOf target.kind with
    | none => return ()
    | some book => do
      let others ← appliedByOthers ledger book target.documentId doc.documentId
      let applied ← others.checkedAdd application.amount
      let total ← documentTotal target
      ensure (applied.minor ≤ total.minor)
        (BooksError.overapplied target.documentId applied.display total.display)

/-- Edit a saved document. -/
def updateDocument (doc : LedgerDocument) (config : PostingConfig)
    (command : CommandMeta) : BooksProgram Revision := do
  let old ← reading fun ledger => latestDocument ledger doc.documentId
  let edited ← reading fun _ => checkEdit old doc
  let (doc, ctx) ← prepareDocument edited config
  reading fun ledger => checkOwnApplications ledger doc
  reading fun ledger => doc.applications.forM (checkTarget ledger doc)
  commitRevision old doc (.post ctx) command

/-- The memo of a voided document. -/
def voidMemo (reason : String) (memo : Option String) : String :=
  match memo with
  | some text =>
    if text = "" then "Voided: " ++ reason else "Voided: " ++ reason ++ ". " ++ text
  | none => "Voided: " ++ reason

/-- Nothing is applied against a document that is to be voided. -/
def checkNoApplications (ledger : Ledger) (old : LedgerDocument) (documentId : String) :
    Except BooksError Unit :=
  match bookOf old.kind with
  | none => return ()
  | some book => do
    let applied ← appliedByOthers ledger book documentId documentId
    ensure applied.isZero (BooksError.hasApplications documentId applied.display)

/-- Void a saved document: a new version marked voided, its live entries
reversed. -/
def voidDocument (documentId reason : String) (command : CommandMeta) :
    BooksProgram Revision := do
  let old ← reading fun ledger => latestDocument ledger documentId
  reading fun _ => ensure (!old.isVoided) (BooksError.voided documentId)
  reading fun ledger => checkNoApplications ledger old documentId
  let doc := { old with isVoided := true, memo := some (voidMemo reason old.memo) }
  commitRevision old doc (.void reason) command

/-- The kind of document that a credit applies to. -/
def creditTargetKind (creditId : String) : DocKind → Except BooksError DocKind
  | .creditMemo => return .invoice
  | .vendorCredit => return .bill
  | other => throw (.badApplication
      (creditId ++ " is a " ++ other.asStr ++ ", not a credit memo or vendor credit"))

/-- The open amount of a document without its sign. -/
def openAmount (items : List OpenDocument) (documentId : String) : Except MoneyError Money :=
  match items.find? fun item => item.documentId = documentId with
  | none => return Money.zero
  | some item => if item.open.isNegative then item.open.checkedNeg else return item.open

/-- Add an amount to the application to a target, or a new application. -/
def addApplication (applications : List Application) (targetId : String)
    (targetKind : DocKind) (amount : Money) : Except MoneyError (List Application) :=
  match applications with
  | [] => return [⟨targetId, targetKind, amount⟩]
  | existing :: rest =>
    if existing.targetDocumentId = targetId then do
      let sum ← existing.amount.checkedAdd amount
      return { existing with amount := sum } :: rest
    else do
      let rest ← addApplication rest targetId targetKind amount
      return existing :: rest

/-- How much of a credit a target takes, every check of both made. -/
def applicableAmount (ledger : Ledger) (credit : LedgerDocument) (targetKind : DocKind)
    (creditId targetId : String) (amount : Option Money) : Except BooksError Money := do
  ensure (!credit.isVoided) (BooksError.voided creditId)
  let target ← latestDocument ledger targetId
  ensure (target.kind = targetKind)
    (BooksError.badApplication ("a " ++ credit.kind.asStr ++ " applies to a " ++
      targetKind.asStr ++ ", and " ++ targetId ++ " is a " ++ target.kind.asStr))
  ensure (!target.isVoided) (BooksError.voided targetId)
  ensure (credit.contact.map ContactRef.id = target.contact.map ContactRef.id)
    (BooksError.badApplication
      (creditId ++ " and " ++ targetId ++ " belong to different contacts"))
  let book := (bookOf credit.kind).getD .receivable
  let items ← openDocuments ledger book Date.last
  let creditOpen ← openAmount items creditId
  let targetOpen ← openAmount items targetId
  let applied := amount.getD
    (if creditOpen.minor ≤ targetOpen.minor then creditOpen else targetOpen)
  ensure (0 < applied.minor)
    (BooksError.badApplication ("nothing to apply: " ++ creditId ++ " has " ++
      creditOpen.display ++ " open and " ++ targetId ++ " has " ++
      targetOpen.display ++ " open"))
  ensure (applied.minor ≤ creditOpen.minor ∧ applied.minor ≤ targetOpen.minor)
    (BooksError.badApplication (applied.display ++ " is more than is open: " ++
      creditId ++ " has " ++ creditOpen.display ++ ", " ++ targetId ++ " has " ++
      targetOpen.display))
  return applied

/-- The credit as saved and with the application on it. -/
def creditWithApplication (ledger : Ledger) (creditId targetId : String)
    (amount : Option Money) : Except BooksError (LedgerDocument × LedgerDocument) := do
  let credit ← latestDocument ledger creditId
  let targetKind ← creditTargetKind creditId credit.kind
  let applied ← applicableAmount ledger credit targetKind creditId targetId amount
  let applications ← addApplication credit.applications targetId targetKind applied
  return (credit, { credit with applications })

/-- Apply an open credit to an open document of the same contact. -/
def applyCredit (creditId targetId : String) (amount : Option Money)
    (command : CommandMeta) : BooksProgram Revision := do
  let (credit, doc) ← reading fun ledger =>
    creditWithApplication ledger creditId targetId amount
  commitRevision credit doc .keep command

end QuickBooks
