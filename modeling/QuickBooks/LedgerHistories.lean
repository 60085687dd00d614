import QuickBooks.CorrectionHistories
import QuickBooks.LedgerOperations

/-!
# What the operations write

Each operation as a history of writes: the kinds it permits name the documents
it is about and the contexts it posts under.  No operation but the opening
balances supplies an entry, none but a raw reversal can reverse an entry that
is not live, and none but a reopening opens a period.
-/

namespace QuickBooks

open ExceptPrograms KeyedTables TransactionPrograms TransitionRuns
open Ledger

variable {permitted : Set WriteKind}

section Openings

def openingWrites (documentId : String) : Set WriteKind :=
  {.masterData, .suppliedEntry documentId} ∪ documentWrites documentId ∅

/-- The document and the entry of an opening bear the opening's id. -/
structure OpeningPair (company : String) (asOf : Date)
    (opening : LedgerDocument × JournalEntry) : Prop where
  documentId : opening.1.documentId = openingDocumentId company asOf
  sourceId : opening.2.sourceId = openingDocumentId company asOf
  original : opening.2.reversalOf = none

theorem openingBalanceEntry_pair {company : String} {asOf : Date}
    {qboTb : List QboTbRow} {mapping : List MappedAccount}
    {opening : LedgerDocument × JournalEntry}
    (builds : openingBalanceEntry company asOf qboTb mapping = .ok opening) :
    OpeningPair company asOf opening := by
  unfold openingBalanceEntry at builds
  rw [bind_eq_ok_iff] at builds
  obtain ⟨rows, _, builds⟩ := builds
  rw [bind_eq_ok_iff] at builds
  obtain ⟨built, _, builds⟩ := builds
  rw [pure_eq_ok_iff] at builds
  subst builds
  exact ⟨rfl, rfl, rfl⟩

theorem OpeningPair.withUnappliedReclass {company : String} {asOf reclassDate : Date}
    {unapplied : Money} {opening : LedgerDocument × JournalEntry}
    (pair : OpeningPair company asOf opening) :
    OpeningPair company asOf (withUnappliedReclass reclassDate unapplied opening) := by
  unfold QuickBooks.withUnappliedReclass
  split
  · exact pair
  · exact ⟨pair.documentId, pair.sourceId, pair.original⟩

variable {company : String} {asOf : Date}
  (permits : openingWrites (openingDocumentId company asOf) ⊆ permitted)
include permits

theorem applyOpening_respects {opening : LedgerDocument × JournalEntry} {kind : String}
    (pair : OpeningPair company asOf opening) :
    Respects (Evolves permitted) (applyFlaggedEntry opening.1 opening.2 kind) := by
  apply applyFlaggedEntry_respects (permits (.inl (.inl rfl))) pair.original
  · rw [pair.documentId]
    exact fun _ kindMem => permits (.inr kindMem)
  · rw [pair.sourceId]
    exact permits (.inl (.inr rfl))

theorem applyOpeningBalance_respects (qboTb : List QboTbRow) :
    Respects (Evolves permitted) (applyOpeningBalance company asOf qboTb) := by
  apply Respects.get_bind
  intro ledger
  cases builds : openingBalanceEntry company asOf qboTb
      (accountMappingFromLedger ledger) with
  | error failure => exact .rfl
  | ok opening =>
    exact Respects.refusingWith
      (applyOpening_respects permits (openingBalanceEntry_pair builds)) ledger

theorem applySlimOpening_respects (qboTb : List QboTbRow)
    (mapping : List MappedAccount) (unapplied : Money) :
    Respects (Evolves permitted)
      (applySlimOpening company asOf qboTb mapping unapplied) := by
  unfold applySlimOpening
  cases builds : openingBalanceEntry company asOf qboTb mapping with
  | error failure => exact .throw _
  | ok opening =>
    have pair : OpeningPair company asOf (withUnappliedReclass asOf unapplied opening) :=
      (openingBalanceEntry_pair builds).withUnappliedReclass
    dsimp only
    split
    · exact .pure _
    · exact .bind (.refusingWith (applyOpening_respects permits pair)) fun _ => .pure _

end Openings

section Tools

theorem saveAndPostDocument_respects {doc : LedgerDocument}
    {items : List (String × ItemAccounts)} {actor : String}
    (permits : documentWrites doc.documentId {{ items }} ⊆ permitted) :
    Respects (Evolves permitted) (saveAndPostDocument doc items actor) := by
  have refuses : Respects (Evolves permitted) (refuseIfCarriedByOpening doc.documentId) := by
    apply Respects.get_bind
    intro ledger
    exact Respects.ofExcept _ ledger
  exact .bind refuses fun _ => .refusingWith (.refusingWith (saveThenPost_respects permits))

theorem creditWithApplication_eq_ok {ledger : Ledger} {creditId targetId : String}
    {amount : Option Money} {credit doc : LedgerDocument}
    (applies : creditWithApplication ledger creditId targetId amount = .ok (credit, doc)) :
    latestDocument ledger creditId = .ok credit ∧
      ∃ applications, doc = { credit with applications } := by
  unfold creditWithApplication at applies
  simp only [bind_eq_ok_iff, pure_eq_ok_iff, Prod.mk.injEq] at applies
  obtain ⟨_, finds, targetKind, _, applied, _, applications, _, rfl, rfl⟩ := applies
  exact ⟨finds, applications, rfl⟩

theorem applyCredit_evolves {ledger : Ledger} {creditId targetId : String}
    {amount : Option Money} {command : CommandMeta}
    (permits : documentWrites creditId ∅ ⊆ permitted) :
    Evolves permitted ledger
      (execute (applyCredit creditId targetId amount command) ledger).2 := by
  intro wellFormed
  suffices history : Evolves permitted ledger _ from history wellFormed
  apply Respects.bind_from (reading_respects _ ledger)
  rintro ⟨credit, doc⟩ _ applies
  obtain ⟨applied, rfl⟩ := execute_reading_eq_ok_iff.mp applies
  obtain ⟨finds, applications, rfl⟩ := creditWithApplication_eq_ok applied
  have sameId : credit.documentId = creditId :=
    latestDocumentPayload_documentId wellFormed (latestDocument_eq_ok finds)
  apply commitRevision_respects
  change documentWrites credit.documentId ∅ ⊆ permitted
  rw [sameId]
  exact permits

/-- The kind of a raw reversal: whether the entry is live decides. -/
def rawReversalKind (ledger : Ledger) (original : PostedEntry) : WriteKind :=
  if original ∈ ledger.liveEntriesForDocument original.entry.sourceId then
    .liveReversal original.entry.sourceId
  else .strayReversal original.entry.sourceId

theorem entry?_eq_some {ledger : Ledger} {entryId : Nat} {entry : JournalEntry}
    (found : ledger.entry? entryId = some entry) : ⟨entryId, entry⟩ ∈ ledger.journal := by
  unfold entry? at found
  obtain ⟨posted, postedFound, rfl⟩ := Option.map_eq_some_iff.mp found
  have sameId := List.find?_some postedFound
  rw [decide_eq_true_eq] at sameId
  rw [← sameId]
  exact List.mem_of_find?_eq_some postedFound

theorem reverseEntry_evolves {ledger : Ledger} {entryId : Nat} {on : Date}
    (permits : ∀ entry, ledger.entry? entryId = some entry →
      rawReversalKind ledger ⟨entryId, entry⟩ ∈ permitted) :
    Evolves permitted ledger (execute (reverseEntry entryId on) ledger).2 := by
  cases found : ledger.entry? entryId with
  | none =>
    rw [execute_reverseEntry_of_none found]
    exact .rfl
  | some entry =>
    rw [execute_reverseEntry_of_some found]
    have reverses := JournalEntry.reverses_reversed ⟨entryId, entry⟩ on
    have allowed := permits entry found
    unfold rawReversalKind at allowed
    split_ifs at allowed with live
    · apply postEntry_evolves _ allowed
      intro _ accepted
      exact Write.liveReversal (by exact live) reverses accepted
    · apply postEntry_evolves _ allowed
      intro _ accepted
      exact Write.strayReversal reverses.reversalOf accepted

def rawEntryKind (entry : JournalEntry) : WriteKind :=
  if entry.reversalOf = none then .suppliedEntry entry.sourceId
  else .strayReversal entry.sourceId

theorem postRaw_evolves {ledger : Ledger} {entry : JournalEntry}
    (allowed : rawEntryKind entry ∈ permitted) :
    Evolves permitted ledger (execute (postEntry entry) ledger).2 := by
  unfold rawEntryKind at allowed
  split_ifs at allowed with original
  · exact postEntry_evolves _ allowed fun _ => .suppliedEntry original
  · obtain ⟨reversed, names⟩ := Option.ne_none_iff_exists'.mp original
    exact postEntry_evolves _ allowed fun _ => .strayReversal names

end Tools

section Periods

theorem snapshotTrialBalance_respects (allowed : .snapshot ∈ permitted) (asOf : Date) :
    Respects (Evolves permitted) (snapshotTrialBalance asOf) := by
  apply Respects.get_bind
  intro ledger
  cases balances : trialBalance ledger asOf with
  | error failure => exact .rfl
  | ok sheet => exact .of_write allowed fun _ => .snapshot balances

theorem execute_snapshotTrialBalance {ledger : Ledger} {asOf : Date} :
    execute (snapshotTrialBalance asOf) ledger =
      match trialBalance ledger asOf with
      | .ok sheet => (.ok ledger.snapshots.length, ledger.recordSnapshot asOf sheet)
      | .error failure => (.error failure, ledger) := by
  unfold snapshotTrialBalance
  rw [execute_bind_ok _ (execute_get ledger)]
  cases trialBalance ledger asOf <;> rfl

theorem execute_closePeriod {ledger : Ledger} {periodEnd : Date} {actor note : String} :
    execute (closePeriod periodEnd actor note) ledger =
      match trialBalance ledger periodEnd with
      | .ok sheet => (.ok (), (ledger.recordSnapshot periodEnd sheet).recordClose periodEnd
          actor note ledger.snapshots.length)
      | .error failure => (.error failure, ledger) := by
  unfold closePeriod
  rw [execute_bind, execute_snapshotTrialBalance]
  cases trialBalance ledger periodEnd <;> rfl

theorem closePeriod_respects (allowed : .close ∈ permitted) (periodEnd : Date)
    (actor note : String) :
    Respects (Evolves permitted) (closePeriod periodEnd actor note) := by
  intro ledger
  rw [execute_closePeriod]
  cases balances : trialBalance ledger periodEnd with
  | error failure => exact .rfl
  | ok sheet => exact .of_write allowed fun _ => .close periodEnd actor note balances

theorem reopenPeriod_respects (allowed : .reopen ∈ permitted) (periodEnd : Date)
    (actor note : String) :
    Respects (Evolves permitted) (reopenPeriod periodEnd actor note) := by
  apply Respects.get_bind
  intro ledger
  split_ifs
  · exact .of_write allowed fun _ => .reopen ledger periodEnd actor note
  · exact .rfl

end Periods

namespace Operation

/-- The kinds of writes of an operation that starts in a ledger. -/
def kinds : Operation → Ledger → Set WriteKind
  | addAccount _ _ _ _ _ _, _ | addClass _ _ _, _ | upsertContact _, _
  | upsertItem _, _ | ensureNextNumber _ _, _ => {.masterData}
  | importReplica replica, _ => {.masterData} ∪
      {kind | ∃ doc ∈ replica.documents,
        kind ∈ documentWrites doc.documentId {replica.ctx}}
  | processDocument doc ctx, _ => documentWrites doc.documentId {ctx}
  | applyOpeningBalance company asOf _, _ | applySlimOpening company asOf _ _ _, _ =>
    openingWrites (openingDocumentId company asOf)
  | saveSlimDocument doc _, _ => documentWrites doc.documentId ∅
  | voidSlimDocument documentId _ _, _ => documentWrites documentId ∅
  | createDocument doc _, ledger | convertToInvoice doc _, ledger =>
    {.masterData} ∪ documentWrites doc.documentId (preparedContexts {} ledger)
  | saveAndPostDocument doc items _, _ => documentWrites doc.documentId {{ items }}
  | updateDocument doc config _, ledger =>
    {.masterData} ∪ documentWrites doc.documentId (preparedContexts config ledger)
  | voidDocument documentId _ _, _ => documentWrites documentId ∅
  | applyCredit creditId _ _ _, _ => documentWrites creditId ∅
  | saveDocument doc _, _ => {.version doc.documentId}
  | postEntry entry, _ => {rawEntryKind entry}
  | reverseEntry entryId _, ledger =>
    {kind | ∃ entry, ledger.entry? entryId = some entry ∧
      kind = rawReversalKind ledger ⟨entryId, entry⟩}
  | confirmProposal doc, _ | postSettlementFeeAdjustment doc, _ | receiveMaterials doc, _
  | completeBuild doc, _ | adjustInventory doc, _ | approveAdjustment doc _, _ =>
    documentWrites doc.documentId {{}}
  | importSettlement undeposited _ docs, _ =>
    {kind | ∃ doc ∈ docs,
      kind ∈ documentWrites doc.documentId {settlementContext undeposited}}
  | importRuns runs _, _ =>
    {kind | ∃ run ∈ runs, kind ∈ documentWrites run.document.documentId {{}}}
  | snapshotTrialBalance _, _ => {.snapshot}
  | closePeriod _ _ _, _ => {.close}
  | reopenPeriod _ _ _, _ => {.reopen}

theorem evolves (operation : Operation) (ledger : Ledger) :
    Evolves (operation.kinds ledger) ledger (operation.run ledger) := by
  cases operation with
  | addAccount number name classification isContra sourceRef needsMapping =>
    exact addAccount_respects (Set.mem_singleton _) _ _ _ _ _ _ ledger
  | addClass id name sourceRef => exact addClass_respects (Set.mem_singleton _) _ _ _ ledger
  | upsertContact contact | upsertItem item =>
    exact .of_write rfl fun _ => .masterData
      { accountIds := fun distinct => distinct
        accountNumbers := fun numbers => numbers
        accountsKept := fun row rowMem => ⟨row, rowMem, rfl⟩
        classesKept := fun row rowMem => ⟨row, rowMem, rfl⟩
        sidesKept := fun sides => sides
        sameBooks := rfl }
  | ensureNextNumber kind atLeast => exact ensureNextNumber_respects (Set.mem_singleton _) _ _ ledger
  | importReplica replica =>
    exact importReplica_respects (.inl rfl)
      (fun doc docMem kind kindMem => .inr ⟨doc, docMem, kindMem⟩) ledger
  | processDocument doc ctx => exact processDocument_respects subset_rfl ledger
  | applyOpeningBalance company asOf qboTb =>
    exact applyOpeningBalance_respects subset_rfl _ ledger
  | applySlimOpening company asOf qboTb mapping unapplied =>
    exact applySlimOpening_respects subset_rfl _ _ _ ledger
  | saveSlimDocument doc kind => exact saveSlimDocument_respects subset_rfl ledger
  | voidSlimDocument documentId kind asOf =>
    exact voidSlimDocument_respects subset_rfl ledger
  | createDocument doc actor =>
    exact createDocument_evolves (.inl rfl) Set.subset_union_right
  | convertToInvoice invoice actor =>
    exact prepareAndPost_evolves (.inl rfl) Set.subset_union_right
  | saveAndPostDocument doc items actor =>
    exact saveAndPostDocument_respects subset_rfl ledger
  | updateDocument doc config command =>
    exact updateDocument_evolves (.inl rfl) Set.subset_union_right
  | voidDocument documentId reason command => exact voidDocument_evolves subset_rfl
  | applyCredit creditId targetId amount command => exact applyCredit_evolves subset_rfl
  | saveDocument doc command => exact saveDocument_respects (Set.mem_singleton _) ledger
  | postEntry entry => exact postRaw_evolves (Set.mem_singleton _)
  | reverseEntry entryId on =>
    exact reverseEntry_evolves fun entry found => ⟨entry, found, rfl⟩
  | confirmProposal doc | postSettlementFeeAdjustment doc | receiveMaterials doc
  | completeBuild doc | adjustInventory doc | approveAdjustment doc decidedBy =>
    exact saveThenPostEntry_respects subset_rfl ledger
  | importSettlement undeposited actor docs =>
    apply importSettlement_respects
    intro doc docMem kind kindMem
    exact ⟨doc, docMem, kindMem⟩
  | importRuns runs actor =>
    apply importRuns_respects
    intro run runMem kind kindMem
    exact ⟨run, runMem, kindMem⟩
  | snapshotTrialBalance asOf => exact snapshotTrialBalance_respects (Set.mem_singleton _) _ ledger
  | closePeriod periodEnd actor note => exact closePeriod_respects (Set.mem_singleton _) _ _ _ ledger
  | reopenPeriod periodEnd actor note => exact reopenPeriod_respects (Set.mem_singleton _) _ _ _ ledger

end Operation

section Runs

variable {ledger : Ledger} {operations : List Operation}

theorem after_wellFormed (wellFormed : ledger.WellFormed) :
    (ledger.after operations).WellFormed :=
  invariant_of_run WellFormed
    (fun state operation holds => (operation.evolves state).wellFormed holds)
    wellFormed operations

theorem after_keeps (wellFormed : ledger.WellFormed) (permitted : Set WriteKind)
    (permits : EveryStep Operation.run
      (fun operation state => operation.kinds state ⊆ permitted) ledger operations)
    (invariant : Ledger → Prop)
    (kept : ∀ kind ∈ permitted, ∀ earlier later, earlier.WellFormed →
      Write kind earlier later → invariant earlier → invariant later)
    (holds : invariant ledger) : invariant (ledger.after operations) := by
  have both : (ledger.after operations).WellFormed ∧
      invariant (ledger.after operations) := by
    apply invariant_of_everyStep (fun state => state.WellFormed ∧ invariant state)
      _ ⟨wellFormed, holds⟩ permits
    rintro state operation ⟨stateWellFormed, stateHolds⟩ included
    have history : Evolves permitted state (operation.run state) :=
      (operation.evolves state).mono included
    exact ⟨history.wellFormed stateWellFormed,
      history.keeps stateWellFormed invariant kept stateHolds⟩
  exact both.2

end Runs

def Reachable (ledger : Ledger) : Prop :=
  ∃ company operations, ledger = (createCompany company).after operations

theorem Reachable.wellFormed {ledger : Ledger} (reachable : Reachable ledger) :
    ledger.WellFormed := by
  obtain ⟨company, operations, rfl⟩ := reachable
  exact after_wellFormed (.createCompany company)

end QuickBooks
