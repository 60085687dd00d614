import QuickBooks.DocumentProducers
import QuickBooks.TransitionRuns

/-!
# The operations of the book

Every way in which a book changes, one command at a time.  An operation runs
its program and keeps whatever the program wrote, refused or not.
-/

namespace QuickBooks

open KeyedTables TransactionPrograms TransitionRuns

inductive Operation where
  | addAccount (number name : String) (classification : Classification)
      (isContra : Bool) (sourceRef : Option String) (needsMapping : Bool)
  | addClass (id name : String) (sourceRef : Option String)
  | upsertContact (contact : Contact)
  | upsertItem (item : Item)
  | ensureNextNumber (kind : DocKind) (atLeast : Int)
  | importReplica (replica : Replica)
  | processDocument (doc : LedgerDocument) (ctx : PostingContext)
  | applyOpeningBalance (company : String) (asOf : Date) (qboTb : List QboTbRow)
  | applySlimOpening (company : String) (asOf : Date) (qboTb : List QboTbRow)
      (mapping : List MappedAccount) (unapplied : Money)
  | saveSlimDocument (doc : LedgerDocument) (kind : String)
  | voidSlimDocument (documentId kind : String) (asOf : Date)
  | createDocument (doc : LedgerDocument) (actor : String)
  | convertToInvoice (invoice : LedgerDocument) (actor : String)
  | saveAndPostDocument (doc : LedgerDocument) (items : List (String × ItemAccounts))
      (actor : String)
  | updateDocument (doc : LedgerDocument) (config : PostingConfig) (command : CommandMeta)
  | voidDocument (documentId reason : String) (command : CommandMeta)
  | applyCredit (creditId targetId : String) (amount : Option Money)
      (command : CommandMeta)
  | saveDocument (doc : LedgerDocument) (command : CommandMeta)
  | postEntry (entry : JournalEntry)
  | reverseEntry (entryId : Nat) (on : Date)
  | confirmProposal (doc : LedgerDocument)
  | postSettlementFeeAdjustment (doc : LedgerDocument)
  | importSettlement (undeposited : AccountId) (actor : String)
      (docs : List LedgerDocument)
  | receiveMaterials (doc : LedgerDocument)
  | completeBuild (doc : LedgerDocument)
  | adjustInventory (doc : LedgerDocument)
  | approveAdjustment (doc : LedgerDocument) (decidedBy : String)
  | importRuns (runs : List PayrollRun) (actor : String)
  | snapshotTrialBalance (asOf : Date)
  | closePeriod (periodEnd : Date) (actor note : String)
  | reopenPeriod (periodEnd : Date) (actor note : String)

namespace Operation

/-- The ledger after an operation. -/
def run : Operation → Ledger → Ledger
  | addAccount number name classification isContra sourceRef needsMapping, ledger =>
    (execute (QuickBooks.addAccount number name classification isContra sourceRef
      needsMapping) ledger).2
  | addClass id name sourceRef, ledger =>
    (execute (QuickBooks.addClass id name sourceRef) ledger).2
  | upsertContact contact, ledger =>
    { ledger with contacts := upsert Contact.contactId contact ledger.contacts }
  | upsertItem item, ledger =>
    { ledger with items := upsert Item.itemId item ledger.items }
  | ensureNextNumber kind atLeast, ledger =>
    (execute (QuickBooks.ensureNextNumber kind atLeast) ledger).2
  | importReplica replica, ledger =>
    (execute (QuickBooks.importReplica replica) ledger).2
  | processDocument doc ctx, ledger =>
    (execute (QuickBooks.processDocument doc ctx) ledger).2
  | applyOpeningBalance company asOf qboTb, ledger =>
    (execute (QuickBooks.applyOpeningBalance company asOf qboTb) ledger).2
  | applySlimOpening company asOf qboTb mapping unapplied, ledger =>
    (execute (QuickBooks.applySlimOpening company asOf qboTb mapping unapplied) ledger).2
  | saveSlimDocument doc kind, ledger =>
    (execute (QuickBooks.saveSlimDocument doc kind) ledger).2
  | voidSlimDocument documentId kind asOf, ledger =>
    (execute (QuickBooks.voidSlimDocument documentId kind asOf) ledger).2
  | createDocument doc actor, ledger =>
    (execute (QuickBooks.createDocument doc actor) ledger).2
  | convertToInvoice invoice actor, ledger =>
    (execute (QuickBooks.convertToInvoice invoice actor) ledger).2
  | saveAndPostDocument doc items actor, ledger =>
    (execute (QuickBooks.saveAndPostDocument doc items actor) ledger).2
  | updateDocument doc config command, ledger =>
    (execute (QuickBooks.updateDocument doc config command) ledger).2
  | voidDocument documentId reason command, ledger =>
    (execute (QuickBooks.voidDocument documentId reason command) ledger).2
  | applyCredit creditId targetId amount command, ledger =>
    (execute (QuickBooks.applyCredit creditId targetId amount command) ledger).2
  | saveDocument doc command, ledger =>
    (execute (QuickBooks.saveDocument doc command) ledger).2
  | postEntry entry, ledger => (execute (QuickBooks.postEntry entry) ledger).2
  | reverseEntry entryId on, ledger =>
    (execute (QuickBooks.reverseEntry entryId on) ledger).2
  | confirmProposal doc, ledger => (execute (QuickBooks.confirmProposal doc) ledger).2
  | postSettlementFeeAdjustment doc, ledger =>
    (execute (QuickBooks.postSettlementFeeAdjustment doc) ledger).2
  | importSettlement undeposited actor docs, ledger =>
    (execute (QuickBooks.importSettlement undeposited actor docs) ledger).2
  | receiveMaterials doc, ledger => (execute (QuickBooks.receiveMaterials doc) ledger).2
  | completeBuild doc, ledger => (execute (QuickBooks.completeBuild doc) ledger).2
  | adjustInventory doc, ledger => (execute (QuickBooks.adjustInventory doc) ledger).2
  | approveAdjustment doc decidedBy, ledger =>
    (execute (QuickBooks.approveAdjustment doc decidedBy) ledger).2
  | importRuns runs actor, ledger => (execute (QuickBooks.importRuns runs actor) ledger).2
  | snapshotTrialBalance asOf, ledger =>
    (execute (QuickBooks.snapshotTrialBalance asOf) ledger).2
  | closePeriod periodEnd actor note, ledger =>
    (execute (QuickBooks.closePeriod periodEnd actor note) ledger).2
  | reopenPeriod periodEnd actor note, ledger =>
    (execute (QuickBooks.reopenPeriod periodEnd actor note) ledger).2

end Operation

abbrev Ledger.after (ledger : Ledger) (operations : List Operation) : Ledger :=
  runFrom Operation.run ledger operations

end QuickBooks
