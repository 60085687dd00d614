import QuickBooks.BooksCorrections
import QuickBooks.OpeningBalance

/-!
# Who writes documents

The write tools, the bank, the shop floor, the payroll, the card settlements
and the accountant's queue each build a document and then save and post it.
They differ in the order of the two, in the context they post under and in
what happens to a document that posts nothing.  The statements are committed
one by one except in the payroll import, which is one unit.
-/

namespace QuickBooks

open ExceptPrograms TransactionPrograms

def postedNothing : LedgerError :=
  .sqlite "entered unreachable code: the document always posts"

/-- Save a document and post what it derives, in two committed statements. -/
def saveThenPost (doc : LedgerDocument) (ctx : PostingContext) (command : CommandMeta) :
    LedgerProgram (Nat × Option Nat) := do
  let version ← saveDocument doc command
  let posting ← MonadExcept.ofExcept ((post doc version ctx).mapError LedgerError.post)
  match posting with
  | .nonPosting => return (version, none)
  | .entry entry => do
    let entryId ← postEntry entry
    return (version, some entryId)

/-- A producer that posts under the default context and takes a document that
posts nothing for impossible. -/
def saveThenPostEntry (doc : LedgerDocument) (command : CommandMeta) :
    LedgerProgram Nat := do
  let (_, entryId) ← saveThenPost doc {} command
  match entryId with
  | none => throw postedNothing
  | some entryId => return entryId

section ShopFloor

variable (doc : LedgerDocument)

def confirmProposal : LedgerProgram Nat :=
  saveThenPostEntry doc ⟨"dan", "confirm_bank_proposal"⟩

def postSettlementFeeAdjustment : LedgerProgram Nat :=
  saveThenPostEntry doc ⟨"dan", "authnet_fee_adjustment"⟩

def receiveMaterials : LedgerProgram Nat :=
  saveThenPostEntry doc ⟨"dan", "receive_materials"⟩

def completeBuild : LedgerProgram Nat :=
  saveThenPostEntry doc ⟨"dan", "complete_build"⟩

def adjustInventory : LedgerProgram Nat :=
  saveThenPostEntry doc ⟨"dan", "adjust_inventory"⟩

def approveAdjustment (decidedBy : String) : LedgerProgram Nat :=
  saveThenPostEntry doc ⟨decidedBy, "approve_adjustment"⟩

end ShopFloor

/-- Post a document before saving it, so that one the rules refuse leaves
nothing behind; save it and post the entry. -/
def postThenSave (doc : LedgerDocument) (ctx : PostingContext) (command : CommandMeta) :
    LedgerProgram (Nat × Option Nat) := do
  let ledger ← get
  let nextVersion := ledger.documentVersionCount doc.documentId + 1
  let posting ← MonadExcept.ofExcept ((post doc nextVersion ctx).mapError LedgerError.post)
  let version ← saveDocument doc command
  match posting with
  | .nonPosting => return (version, none)
  | .entry entry => do
    let entryId ← postEntry entry
    return (version, some entryId)

/-- One document of a settlement import: skipped when any version of it is
saved. -/
def importSettlementDocument (doc : LedgerDocument) (undeposited : AccountId)
    (actor : String) : LedgerProgram Unit := do
  let ledger ← get
  if ledger.documentVersionCount doc.documentId = 0 then do
    let config : PostingConfig := { defaultDepositAccount := undeposited }
    let (_, entryId) ← postThenSave doc { config } ⟨actor, "authnet_import"⟩
    match entryId with
    | none => throw postedNothing
    | some _ => return ()
  else return ()

/-- The documents of a settlement import, each refusal reported and passed
over. -/
def importSettlement (undeposited : AccountId) (actor : String) :
    List LedgerDocument → LedgerProgram (List String)
  | [] => return []
  | doc :: docs => do
    let outcome ← attempt (importSettlementDocument doc undeposited actor)
    let rejected ← importSettlement undeposited actor docs
    match outcome with
    | .ok _ => return rejected
    | .error failure => return (doc.documentId ++ ": " ++ failure.message) :: rejected

/-- The refusals of the write tools. -/
inductive ToolError where
  | books (failure : BooksError)
  | carriedByOpening (documentId : String)
deriving DecidableEq

abbrev ToolProgram :=
  Program Ledger ToolError

def refuseIfCarriedByOpening (documentId : String) : ToolProgram Unit := do
  let ledger ← get
  MonadExcept.ofExcept (ensure (!ledger.carriedByOpening documentId)
    (ToolError.carriedByOpening documentId))

def saveAndPostPrepared (doc : LedgerDocument) (ctx : PostingContext)
    (actor commandKind : String) : ToolProgram (Nat × Option Nat) :=
  refusingWith .books (viaLedger (postThenSave doc ctx ⟨actor, commandKind⟩))

/-- The tool that creates a document from what a person would type. -/
def createDocument (doc : LedgerDocument) (actor : String) :
    ToolProgram (Nat × Option Nat) := do
  refuseIfCarriedByOpening doc.documentId
  let (doc, ctx) ← refusingWith .books (prepareDocument doc {})
  saveAndPostPrepared doc ctx actor "mcp_create_document"

/-- The tool that makes an invoice of a sales order. -/
def convertToInvoice (invoice : LedgerDocument) (actor : String) :
    ToolProgram (Nat × Option Nat) := do
  let (doc, ctx) ← refusingWith .books (prepareDocument invoice {})
  saveAndPostPrepared doc ctx actor "mcp_convert_to_invoice"

/-- The tool that saves and posts a document as it is sent. -/
def saveAndPostDocument (doc : LedgerDocument) (items : List (String × ItemAccounts))
    (actor : String) : ToolProgram (Nat × Option Nat) := do
  refuseIfCarriedByOpening doc.documentId
  refusingWith .books (viaLedger (saveThenPost doc { items } ⟨actor, "mcp_save_document"⟩))

/-- A payroll run with the journal document made of it. -/
structure PayrollRun where
  runId : String
  payDate : Date
  document : LedgerDocument
deriving DecidableEq

inductive PayrollError where
  | ledger (failure : LedgerError)
  | invalid (runId reason : String)
  | changed (documentId : String) (entryId : Nat)
deriving DecidableEq

/-- Whether a run was posted now or had been imported before, and its entry. -/
structure RunOutcome where
  runId : String
  isNew : Bool
  entryId : Nat
deriving DecidableEq

abbrev PayrollProgram :=
  Program Ledger PayrollError

/-- One run of a payroll import. -/
def importRun (run : PayrollRun) (actor : String) : PayrollProgram RunOutcome := do
  let ledger ← get
  match ledger.liveEntriesForDocument run.document.documentId with
  | posted :: _ => do
    MonadExcept.ofExcept (ensure (documentUnchanged ledger run.document)
      (PayrollError.changed run.document.documentId posted.entryId))
    return ⟨run.runId, false, posted.entryId⟩
  | [] => do
    let (_, entryId) ← refusingWith PayrollError.ledger
      (saveThenPost run.document {} ⟨actor, "payroll_import"⟩)
    match entryId with
    | none => throw (.invalid run.runId "the run moves no money")
    | some entryId => return ⟨run.runId, true, entryId⟩

def importRunsInOrder (actor : String) : List PayrollRun → PayrollProgram (List RunOutcome)
  | [] => return []
  | run :: runs => do
    let outcome ← importRun run actor
    let outcomes ← importRunsInOrder actor runs
    return outcome :: outcomes

/-- No run is paid in a closed period. -/
def checkPayDates (ledger : Ledger) (runs : List PayrollRun) : Except PayrollError Unit :=
  runs.forM fun run =>
    match ledger.checkOpen run.payDate with
    | .ok _ => .ok ()
    | .error failure =>
      .error (.invalid run.runId ("check date " ++ run.payDate.render ++
        " is in a closed period (" ++ failure.message ++ ")"))

/-- All runs of a payroll import or none of them. -/
def importRuns (runs : List PayrollRun) (actor : String) :
    PayrollProgram (List RunOutcome) := do
  let ledger ← get
  MonadExcept.ofExcept (checkPayDates ledger runs)
  atomically (importRunsInOrder actor runs)

/-- The slim import saves an open item or a contract without posting it. -/
def saveSlimDocument (doc : LedgerDocument) (kind : String) : LedgerProgram Bool := do
  let ledger ← get
  if documentUnchanged ledger doc then return false
  else do
    let _ ← saveDocument doc ⟨kind, kind⟩
    return true

/-- The slim import voids an open item that is no longer open. -/
def voidSlimDocument (documentId kind : String) (asOf : Date) : LedgerProgram Bool := do
  let ledger ← get
  match ledger.latestDocumentPayload documentId with
  | none => return false
  | some doc =>
    if doc.isVoided || decide (asOf < doc.txnDate) then return false
    else do
      let _ ← saveDocument { doc with isVoided := true } ⟨kind, kind⟩
      return true

end QuickBooks
