import QuickBooks.BooksPreparation
import QuickBooks.LedgerReports

/-!
# The import pipeline

One run walks the documents translated from a replica.  Each document is saved
and posted by separate statements; a failure becomes a rejected row of the
report and the walk goes on.  A posting document that has posted before is
skipped while its payload is unchanged, and otherwise its live entries are
reversed on the date of the new version first.
-/

namespace QuickBooks

open ExceptPrograms TransactionPrograms

/-- One document that could not be saved or posted. -/
structure Rejected where
  documentId : String
  reason : String
deriving DecidableEq

/-- What one run did. -/
structure PipelineReport where
  translated : Nat := 0
  posted : Nat := 0
  nonPosting : Nat := 0
  skippedUnchanged : Nat := 0
  replaced : Nat := 0
  rejected : List Rejected := []
  accountsCreated : Nat := 0
  accountsNeedingMapping : List String := []
  classesCreated : Nat := 0
  warnings : List String := []
deriving DecidableEq

/-- How the pipeline handled a document. -/
inductive Handled where
  | posted (isReplace : Bool)
  | nonPosting
  | skippedUnchanged
  | rejected (reason : String)
deriving DecidableEq

namespace PipelineReport

/-- The report with one more document on it. -/
def record (report : PipelineReport) (documentId : String) : Handled → PipelineReport
  | .posted isReplace =>
    { report with
      posted := report.posted + 1
      replaced := report.replaced + if isReplace then 1 else 0 }
  | .nonPosting => { report with nonPosting := report.nonPosting + 1 }
  | .skippedUnchanged =>
    { report with skippedUnchanged := report.skippedUnchanged + 1 }
  | .rejected reason =>
    { report with rejected := report.rejected ++ [⟨documentId, reason⟩] }

end PipelineReport

def documentUnchanged (ledger : Ledger) (doc : LedgerDocument) : Bool :=
  ledger.latestDocumentPayload doc.documentId = some doc

def importCommand : CommandMeta :=
  ⟨"import", "import_qbo"⟩

def carriedByOpeningReason : String :=
  "carried by the slim import's opening entry (D28); change it in the ledger, not by re-importing it"

/-- Reverse entries in order on a date, until one is refused; the reason of
the refusal, if any. -/
def reversePriorEntries (on : Date) : List PostedEntry → LedgerProgram (Option String)
  | [] => return none
  | posted :: rest => do
    match ← (attempt (reverseEntry posted.entryId on) :
        LedgerProgram (Except LedgerError Nat)) with
    | .ok _ => reversePriorEntries on rest
    | .error failure =>
      return some ("reversing prior entry " ++ toString posted.entryId ++ ": " ++
        failure.message)

/-- Save a document and post what it derives.  Only a panic of the posting
rules ends the run. -/
def saveAndRepost (doc : LedgerDocument) (ctx : PostingContext) (isReplace : Bool) :
    LedgerProgram Handled := do
  let version ← saveDocument doc importCommand
  match post doc version ctx with
  | .ok .nonPosting => return .nonPosting
  | .ok (.entry entry) =>
    match ← (attempt (postEntry entry) : LedgerProgram (Except LedgerError Nat)) with
    | .ok _ => return .posted isReplace
    | .error failure => return .rejected failure.message
  | .error .multiplicationOverflowed => throw (.post .multiplicationOverflowed)
  | .error failure => return .rejected failure.message

/-- One translated document: save, post, and say how it went. -/
def processDocument (doc : LedgerDocument) (ctx : PostingContext) :
    LedgerProgram Handled := do
  let ledger ← get
  if ledger.carriedByOpening doc.documentId then
    return .rejected carriedByOpeningReason
  else if !doc.kind.posts then
    if documentUnchanged ledger doc then return .skippedUnchanged
    else
      let _ ← saveDocument doc importCommand
      return .nonPosting
  else if (ledger.entriesForDocument doc.documentId).isEmpty then
    saveAndRepost doc ctx false
  else if documentUnchanged ledger doc then return .skippedUnchanged
  else
    match ← reversePriorEntries doc.txnDate
        (ledger.liveEntriesForDocument doc.documentId) with
    | some reason => return .rejected reason
    | none => saveAndRepost doc ctx true

/-- Walk the translated documents. -/
def processDocuments (ctx : PostingContext) :
    List LedgerDocument → PipelineReport → LedgerProgram PipelineReport
  | [], report => return report
  | doc :: docs, report => do
    let handled ← processDocument doc ctx
    processDocuments ctx docs (report.record doc.documentId handled)

/-- An account of the replica mapped onto the chart. -/
structure MappedAccount where
  sourceRef : String
  ledgerNumber : AccountId
  name : String
  classification : Classification
  needsMapping : Bool
deriving DecidableEq

structure MappedClass where
  sourceRef : String
  classId : ClassId
  name : String
deriving DecidableEq

/-- What a run reads of a replica, after translation: the mapped accounts and
classes, the posting context and the documents in their order, each entity
under its own id. -/
structure Replica where
  accounts : List MappedAccount
  classes : List MappedClass
  classFallback : Option ClassId
  ctx : PostingContext
  documents : List LedgerDocument
  distinct : (documents.map LedgerDocument.documentId).Nodup
  warnings : List String

/-- Write the mapped accounts that are not in the book yet; an account that is
there only gets the replica's reference, when it has none. -/
def materializeAccounts : List MappedAccount → LedgerProgram (Nat × List String)
  | [] => return (0, [])
  | mapped :: rest => do
    let ledger ← get
    let named := mapped.ledgerNumber.number ++ " " ++ mapped.name
    let needsMapping := if mapped.needsMapping then [named] else []
    if ledger.accounts.any fun row => row.number = mapped.ledgerNumber.number then
      let recorded ← setAccountSourceRef mapped.ledgerNumber.number mapped.sourceRef
      let ledger ← get
      let current := (ledger.listAccounts.find? fun row =>
        row.number = mapped.ledgerNumber.number).bind Account.sourceRef
      let taken := if !recorded && !mapped.needsMapping &&
          decide (current ≠ some mapped.sourceRef) then
          [named ++ " (QBO " ++ mapped.sourceRef ++ " also maps here; " ++
            current.getD "" ++ " holds it)"]
        else []
      let (created, later) ← materializeAccounts rest
      return (created, needsMapping ++ taken ++ later)
    else
      addAccount mapped.ledgerNumber.number mapped.name mapped.classification false
        (some mapped.sourceRef) mapped.needsMapping
      let (created, later) ← materializeAccounts rest
      return (created + 1, needsMapping ++ later)

/-- Write the mapped classes that are not in the book yet. -/
def materializeClasses : List MappedClass → LedgerProgram Nat
  | [] => return 0
  | mapped :: rest => do
    let ledger ← get
    if ledger.classExists mapped.classId then materializeClasses rest
    else
      addClass mapped.classId.code mapped.name (some mapped.sourceRef)
      let created ← materializeClasses rest
      return created + 1

/-- Add an import fallback class if it is absent, and say whether it was
added. -/
def ensureClass (id : ClassId) : LedgerProgram Bool := do
  let ledger ← get
  if ledger.classExists id then return false
  else
    let name := if id.code = Chart.importFallbackClass.1 then Chart.importFallbackClass.2
      else id.code
    addClass id.code name none
    return true

/-- Write the mappings of a replica: what was created and what needs a
mapping. -/
def materialize (replica : Replica) : LedgerProgram PipelineReport := do
  let (accountsCreated, accountsNeedingMapping) ← materializeAccounts replica.accounts
  let classesCreated ← materializeClasses replica.classes
  let fallbackCreated ← match replica.classFallback with
    | none => pure false
    | some fallback => ensureClass fallback
  return { accountsCreated, accountsNeedingMapping,
           classesCreated := classesCreated + if fallbackCreated then 1 else 0 }

/-- Walk a replica's documents, saving and posting each. -/
def importReplica (replica : Replica) : LedgerProgram PipelineReport := do
  let report ← materialize replica
  let report ← processDocuments replica.ctx replica.documents report
  return { report with
    translated := replica.documents.length
    warnings := replica.warnings }

/-- Save a document and post a given entry for it, flagged: skipped when a
posted version with the same payload exists, otherwise every live entry is
reversed on the document's date first.  The answer says whether it was skipped
and whether it replaced an earlier version. -/
def applyFlaggedEntry (doc : LedgerDocument) (entry : JournalEntry) (kind : String) :
    LedgerProgram (Bool × Bool) := do
  if entry.lines.any fun line => line.class.isSome then do
    let _ ← ensureClass ⟨Chart.importFallbackClass.1⟩
    pure ()
  let ledger ← get
  let replaced := !(ledger.entriesForDocument doc.documentId).isEmpty
  if replaced && documentUnchanged ledger doc then return (true, false)
  else
    (ledger.liveEntriesForDocument doc.documentId).forM fun posted => do
      let _ ← reverseEntry posted.entryId doc.txnDate
      pure ()
    let version ← saveDocument doc ⟨kind, kind⟩
    let _ ← postEntry { entry with sourceVersion := version }
    return (false, replaced)

end QuickBooks
