import QuickBooks.LabelledHistories
import QuickBooks.PostingBalance
import QuickBooks.WellFormedLedgers

/-!
# Everything that can happen to a ledger

Nine kinds of writes make up every operation on the book.  A history is a
sequence of writes of the permitted kinds, started in a well-formed ledger; it
is a preorder, so what each write keeps is kept by every program whose writes
are of those kinds.  The kinds say which document a write is about and how an
entry came to be.
-/

namespace QuickBooks

open ExceptPrograms TransactionPrograms

/-- The entry reverses a posted one: its lines with sides exchanged, from the
same document version. -/
structure JournalEntry.Reverses (reversal : JournalEntry) (original : PostedEntry) :
    Prop where
  lines : reversal.lines = original.entry.lines.map JournalLine.swapped
  reversalOf : reversal.reversalOf = some original.entryId
  sourceId : reversal.sourceId = original.entry.sourceId
  sourceVersion : reversal.sourceVersion = original.entry.sourceVersion

theorem JournalEntry.reverses_reversed (original : PostedEntry) (on : Date) :
    (original.entry.reversed on original.entryId).Reverses original :=
  ⟨rfl, rfl, rfl, rfl⟩

inductive WriteKind where
  | version (documentId : String)
  | derivedEntry (documentId : String) (ctx : PostingContext)
  | suppliedEntry (documentId : String)
  | liveReversal (documentId : String)
  | strayReversal (documentId : String)
  | masterData
  | snapshot
  | close
  | reopen
deriving DecidableEq

namespace WriteKind

/-- The document that a write is about. -/
def document : WriteKind → Option String
  | version documentId | derivedEntry documentId _ | suppliedEntry documentId
  | liveReversal documentId | strayReversal documentId => some documentId
  | masterData | snapshot | close | reopen => none

end WriteKind

namespace Ledger

/-- One write.  An entry is derived from the stored document version it names,
supplied by a caller, the reversal of a live entry, or names an entry that it
reverses without being the reversal of a live one. -/
inductive Write : WriteKind → Ledger → Ledger → Prop
  | version (ledger : Ledger) (doc : LedgerDocument) (command : CommandMeta) :
      Write (.version doc.documentId) ledger (ledger.recordVersion doc command)
  | derivedEntry {ledger : Ledger} {doc : LedgerDocument} {entry : JournalEntry}
      (ctx : PostingContext)
      (saved : ledger.documentAt entry.sourceId entry.sourceVersion = some doc)
      (posts : post doc entry.sourceVersion ctx = .ok (.entry entry))
      (accepted : ledger.Accepts entry) :
      Write (.derivedEntry entry.sourceId ctx) ledger (ledger.recordEntry entry)
  | suppliedEntry {ledger : Ledger} {entry : JournalEntry}
      (original : entry.reversalOf = none) (accepted : ledger.Accepts entry) :
      Write (.suppliedEntry entry.sourceId) ledger (ledger.recordEntry entry)
  | liveReversal {ledger : Ledger} {reversal : JournalEntry} {original : PostedEntry}
      (live : original ∈ ledger.liveEntriesForDocument reversal.sourceId)
      (reverses : reversal.Reverses original) (accepted : ledger.Accepts reversal) :
      Write (.liveReversal reversal.sourceId) ledger (ledger.recordEntry reversal)
  | strayReversal {ledger : Ledger} {reversal : JournalEntry} {reversed : Nat}
      (reverses : reversal.reversalOf = some reversed)
      (accepted : ledger.Accepts reversal) :
      Write (.strayReversal reversal.sourceId) ledger (ledger.recordEntry reversal)
  | masterData {ledger after : Ledger} (change : MasterDataChange ledger after) :
      Write .masterData ledger after
  | snapshot {ledger : Ledger} {asOf : Date} {sheet : TrialBalance}
      (balances : trialBalance ledger asOf = .ok sheet) :
      Write .snapshot ledger (ledger.recordSnapshot asOf sheet)
  | close {ledger : Ledger} {sheet : TrialBalance} (periodEnd : Date)
      (actor note : String) (balances : trialBalance ledger periodEnd = .ok sheet) :
      Write .close ledger ((ledger.recordSnapshot periodEnd sheet).recordClose periodEnd
        actor note ledger.snapshots.length)
  | reopen (ledger : Ledger) (periodEnd : Date) (actor note : String) :
      Write .reopen ledger (ledger.recordReopen periodEnd actor note)

section Live

variable {ledger : Ledger}

theorem mem_entriesForDocument {documentId : String} {posted : PostedEntry} :
    posted ∈ ledger.entriesForDocument documentId ↔
      posted ∈ ledger.journal ∧ posted.entry.sourceId = documentId := by
  unfold entriesForDocument
  rw [List.mem_insertionSort, List.mem_filter, decide_eq_true_eq]

theorem mem_liveEntriesForDocument {documentId : String} {posted : PostedEntry} :
    posted ∈ ledger.liveEntriesForDocument documentId ↔
      (posted ∈ ledger.journal ∧ posted.entry.sourceId = documentId) ∧
        posted.entry.reversalOf = none ∧
        ∀ other ∈ ledger.journal, other.entry.sourceId = documentId →
          other.entry.reversalOf ≠ some posted.entryId := by
  unfold liveEntriesForDocument
  simp only [List.mem_filter, mem_entriesForDocument, decide_eq_true_eq,
    List.mem_filterMap, not_exists, not_and, and_imp, ne_eq]

end Live

namespace Write

variable {kind : WriteKind} {before after : Ledger}

theorem wellFormed (write : Write kind before after)
    (wellFormedBefore : before.WellFormed) : after.WellFormed := by
  cases write with
  | version _ doc command => exact wellFormedBefore.recordVersion doc command
  | derivedEntry ctx saved posts accepted => exact wellFormedBefore.recordEntry accepted
  | suppliedEntry original accepted => exact wellFormedBefore.recordEntry accepted
  | liveReversal live reverses accepted => exact wellFormedBefore.recordEntry accepted
  | strayReversal reverses accepted => exact wellFormedBefore.recordEntry accepted
  | masterData change => exact wellFormedBefore.masterDataChange change
  | snapshot balances => exact wellFormedBefore.recordSnapshot _ _
  | close periodEnd actor note balances =>
    exact (wellFormedBefore.recordSnapshot _ _).recordClose periodEnd actor note _
  | reopen _ periodEnd actor note =>
    exact wellFormedBefore.recordReopen periodEnd actor note

end Write

abbrev Evolves (permitted : Set WriteKind) : Ledger → Ledger → Prop :=
  LabelledHistories.Evolves Write WellFormed permitted

variable {permitted : Set WriteKind} {before after : Ledger}

theorem Evolves.of_write {kind : WriteKind} (allowed : kind ∈ permitted)
    (write : before.WellFormed → Write kind before after) :
    Evolves permitted before after :=
  LabelledHistories.Evolves.of_step allowed fun wellFormed =>
    ⟨write wellFormed, (write wellFormed).wellFormed wellFormed⟩

theorem Evolves.keeps (evolves : Evolves permitted before after)
    (wellFormed : before.WellFormed) (invariant : Ledger → Prop)
    (kept : ∀ kind ∈ permitted, ∀ earlier later, earlier.WellFormed →
      Write kind earlier later → invariant earlier → invariant later)
    (holds : invariant before) : invariant after :=
  LabelledHistories.Evolves.invariant (fun _ _ _ write => write.wellFormed)
    evolves wellFormed invariant kept holds

theorem Evolves.wellFormed (evolves : Evolves permitted before after)
    (wellFormed : before.WellFormed) : after.WellFormed :=
  (evolves wellFormed).2

end Ledger

end QuickBooks
