import QuickBooks.ClosedPeriods
import QuickBooks.SettlementTurns

/-!
# Settlements are imported exactly once

A call imports its documents exactly once when the store takes, at every turn,
what the rules make of the document.  A document that is saved stays saved, so
a file that was accepted changes nothing when it is imported again.
-/

namespace QuickBooks

open ExceptPrograms TransactionPrograms TransitionRuns

namespace Authnet

section Ids

variable {config : AuthnetConfig} {resolve : String → Option ResolvedInvoice}
  {remaining left : List (String × Money)} {docs : List LedgerDocument}

def SettlementBatch.documentIds (batch : SettlementBatch) : List String :=
  settlementId batch.batchId ::
    batch.transactions.map fun txn => transactionDocumentId txn.txnId

theorem documentId_transactionDocument {batch : SettlementBatch} {txn : AuthnetTxn}
    {doc : LedgerDocument}
    (builds : transactionDocument config batch txn resolve remaining = .ok (doc, left)) :
    doc.documentId = transactionDocumentId txn.txnId := by
  unfold transactionDocument at builds
  cases isKind : txn.kind with
  | sale =>
    rw [isKind] at builds
    unfold paymentDocument at builds
    dsimp only at builds
    rw [bind_eq_ok_iff] at builds
    obtain ⟨⟨split, after⟩, -, builds⟩ := builds
    rw [pure_eq_ok_iff, Prod.mk.injEq] at builds
    rw [← builds.1]
  | refund =>
    rw [isKind] at builds
    dsimp only at builds
    rw [pure_eq_ok_iff, Prod.mk.injEq] at builds
    rw [← builds.1]
    rfl

theorem map_documentId_transactionDocuments {batch : SettlementBatch} {txns : List AuthnetTxn}
    (builds : transactionDocuments config batch resolve txns remaining = .ok (docs, left)) :
    docs.map LedgerDocument.documentId =
      txns.map fun txn => transactionDocumentId txn.txnId := by
  induction txns generalizing docs remaining left with
  | nil =>
    rw [transactionDocuments, pure_eq_ok_iff, Prod.mk.injEq] at builds
    rw [← builds.1]
    rfl
  | cons txn txns ih =>
    rw [transactionDocuments, bind_eq_ok_iff] at builds
    obtain ⟨⟨doc, middle⟩, first, builds⟩ := builds
    rw [bind_eq_ok_iff] at builds
    obtain ⟨⟨rest, last⟩, following, builds⟩ := builds
    rw [pure_eq_ok_iff, Prod.mk.injEq] at builds
    rw [← builds.1, List.map_cons, List.map_cons, ih following,
      documentId_transactionDocument first]

theorem map_documentId_settlementDocuments {batches : List SettlementBatch}
    (builds : settlementDocuments config resolve batches remaining = .ok docs) :
    docs.map LedgerDocument.documentId = batches.flatMap SettlementBatch.documentIds := by
  induction batches generalizing docs remaining with
  | nil =>
    rw [settlementDocuments, pure_eq_ok_iff] at builds
    rw [← builds]
    rfl
  | cons batch batches ih =>
    rw [settlementDocuments, bind_eq_ok_iff] at builds
    obtain ⟨⟨first, middle⟩, ofBatch, builds⟩ := builds
    rw [bind_eq_ok_iff] at builds
    obtain ⟨rest, following, builds⟩ := builds
    rw [pure_eq_ok_iff] at builds
    rw [← builds, List.map_cons, List.map_append, ih following,
      map_documentId_transactionDocuments ofBatch, List.flatMap_cons]
    rfl

end Ids

section Calls

/-- A call of the import with the rows of one export. -/
structure SettlementCall where
  config : AuthnetConfig
  actor : String
  rows : List TransactionRow

namespace SettlementCall

variable (call : SettlementCall) (ledger : Ledger)

def documents : Except ImportError (List LedgerDocument) := do
  let batches ← (groupBatches call.rows).mapError ImportError.money
  exportDocuments call.config ledger batches

abbrev outcome : Except ImportError ImportReport × Ledger :=
  execute (importExport call.config call.actor call.rows) ledger

def run : Ledger :=
  (call.outcome ledger).2

/-- Every document that the call rejects leaves the ledger as it was at its turn,
and no document is left saved with nothing live. -/
def IsExactlyOnce : Prop :=
  ∀ docs, call.documents ledger = .ok docs →
    ExactlyOnce call.config call.actor (turns call.config call.actor docs ledger) ledger

/-- What the rules make of each document at its turn, the store takes. -/
def StoreTakes : Prop :=
  ∀ docs, call.documents ledger = .ok docs →
    EveryStep (documentStep call.config call.actor) (Authnet.StoreTakes call.config) ledger
      (turns call.config call.actor docs ledger)

def IsAccepted : Prop :=
  ∃ report, (call.outcome ledger).1 = .ok report ∧ report.rejected = []

variable {call ledger}

theorem outcome_of_error {failure : ImportError}
    (refused : call.documents ledger = .error failure) :
    call.outcome ledger = (.error failure, ledger) := by
  unfold documents at refused
  unfold outcome importExport
  cases grouped : groupBatches call.rows with
  | error reason =>
    rw [grouped] at refused
    cases refused
    rfl
  | ok batches =>
    rw [grouped] at refused
    rw [execute_bind_ok _ (by rw [execute_ofExcept]; rfl),
      execute_bind_ok _ (execute_get ledger)]
    apply execute_bind_error
    rw [execute_ofExcept, show exportDocuments call.config ledger batches = _ from refused]

theorem outcome_of_ok {docs : List LedgerDocument} (comes : call.documents ledger = .ok docs) :
    (∃ report, call.outcome ledger =
        (.ok report, runFrom (documentStep call.config call.actor) ledger docs) ∧
      report.rejected = rejections call.config call.actor docs ledger ∧
      turns call.config call.actor docs ledger = docs) ∨
    call.outcome ledger = (.error .panicked, runFrom (documentStep call.config call.actor)
      ledger (turns call.config call.actor docs ledger)) := by
  unfold documents at comes
  unfold outcome importExport
  cases grouped : groupBatches call.rows with
  | error reason =>
    rw [grouped] at comes
    cases comes
  | ok batches =>
    rw [grouped] at comes
    rw [execute_bind_ok _ (by rw [execute_ofExcept]; rfl),
      execute_bind_ok _ (execute_get ledger)]
    dsimp only
    rw [show exportDocuments call.config ledger batches = _ from comes,
      execute_bind_ok _ (by rw [execute_ofExcept])]
    exact execute_postSettlementDocuments docs _

theorem run_of_error {failure : ImportError}
    (refused : call.documents ledger = .error failure) : call.run ledger = ledger :=
  congrArg Prod.snd (outcome_of_error refused)

theorem run_of_ok {docs : List LedgerDocument} (comes : call.documents ledger = .ok docs) :
    call.run ledger = runFrom (documentStep call.config call.actor) ledger
      (turns call.config call.actor docs ledger) := by
  rcases outcome_of_ok comes with ⟨report, runs, -, allTurns⟩ | panics
  · rw [allTurns]
    exact congrArg Prod.snd runs
  · exact congrArg Prod.snd panics

theorem wellFormed_run (wellFormed : ledger.WellFormed) : (call.run ledger).WellFormed := by
  cases comes : call.documents ledger with
  | error failure =>
    rw [run_of_error comes]
    exact wellFormed
  | ok docs =>
    rw [run_of_ok comes]
    exact invariant_of_run Ledger.WellFormed
      (fun _ _ holds => documentStep_wellFormed holds) wellFormed _

theorem isExactlyOnce_iff (wellFormed : ledger.WellFormed) :
    call.IsExactlyOnce ledger ↔ call.StoreTakes ledger := by
  unfold IsExactlyOnce StoreTakes
  apply forall_congr'
  intro docs
  apply imp_congr_right
  intro _
  exact exactlyOnce_turns_iff wellFormed docs

theorem postedOnce_run (exactly : call.IsExactlyOnce ledger) {documentId : String}
    (once : PostedOnce documentId ledger) : PostedOnce documentId (call.run ledger) := by
  cases comes : call.documents ledger with
  | error failure =>
    rw [run_of_error comes]
    exact once
  | ok docs =>
    rw [run_of_ok comes]
    exact (exactly docs comes).2 documentId once

theorem map_documentId_documents {docs : List LedgerDocument}
    (comes : call.documents ledger = .ok docs) :
    ∃ batches, groupBatches call.rows = .ok batches ∧
      docs.map LedgerDocument.documentId =
        (batches.map fun batch => batch.dropSaved ledger).flatMap
          SettlementBatch.documentIds := by
  unfold documents at comes
  rw [bind_eq_ok_iff] at comes
  obtain ⟨batches, grouped, comes⟩ := comes
  unfold exportDocuments at comes
  rw [bind_eq_ok_iff] at comes
  obtain ⟨openDocs, -, builds⟩ := comes
  exact ⟨batches, mapError_eq_ok_iff.mp grouped,
    map_documentId_settlementDocuments (mapError_eq_ok_iff.mp builds)⟩

theorem saved_run (wellFormed : ledger.WellFormed) {documentId : String}
    (saved : Saved documentId ledger) : Saved documentId (call.run ledger) := by
  cases comes : call.documents ledger with
  | error failure =>
    rw [run_of_error comes]
    exact saved
  | ok docs =>
    rw [run_of_ok comes]
    exact saved_runFrom wellFormed saved _

theorem saved_of_isAccepted (wellFormed : ledger.WellFormed) (accepted : call.IsAccepted ledger)
    {batches : List SettlementBatch} (grouped : groupBatches call.rows = .ok batches)
    {documentId : String} (isOne : documentId ∈ batches.flatMap SettlementBatch.documentIds) :
    Saved documentId (call.run ledger) := by
  obtain ⟨report, answers, nothing⟩ := accepted
  by_cases saved : Saved documentId ledger
  · exact saved_run wellFormed saved
  cases comes : call.documents ledger with
  | error failure =>
    rw [outcome_of_error comes] at answers
    cases answers
  | ok docs =>
  rcases outcome_of_ok comes with ⟨answer, runs, reported, allTurns⟩ | panics
  · rw [runs, Except.ok.injEq] at answers
    rw [answers, nothing] at reported
    obtain ⟨others, othersGrouped, ids⟩ := map_documentId_documents comes
    rw [grouped, Except.ok.injEq] at othersGrouped
    subst othersGrouped
    have kept : documentId ∈ docs.map LedgerDocument.documentId := by
      obtain ⟨batch, batchMem, inBatch⟩ := List.mem_flatMap.mp isOne
      rw [ids, List.mem_flatMap]
      refine ⟨batch.dropSaved ledger, List.mem_map_of_mem batchMem, ?_⟩
      rcases List.mem_cons.mp inBatch with rfl | isTxn
      · exact List.mem_cons_self
      · obtain ⟨txn, txnMem, rfl⟩ := List.mem_map.mp isTxn
        apply List.mem_cons_of_mem
        refine List.mem_map_of_mem (List.mem_filter.mpr ⟨txnMem, ?_⟩)
        unfold Saved at saved
        simpa [isSaved] using saved
    obtain ⟨doc, docMem, rfl⟩ := List.mem_map.mp kept
    rw [run_of_ok comes, allTurns]
    exact saved_of_rejections_eq_nil wellFormed allTurns reported.symm docMem
  · rw [panics] at answers
    cases answers

theorem run_of_saved {batches : List SettlementBatch}
    (grouped : groupBatches call.rows = .ok batches)
    (saved : ∀ documentId ∈ batches.flatMap SettlementBatch.documentIds,
      Saved documentId ledger) :
    call.run ledger = ledger := by
  cases comes : call.documents ledger with
  | error failure => exact run_of_error comes
  | ok docs =>
    obtain ⟨others, othersGrouped, ids⟩ := map_documentId_documents comes
    rw [grouped, Except.ok.injEq] at othersGrouped
    subst othersGrouped
    have allSaved : ∀ doc ∈ docs, Saved doc.documentId ledger := by
      intro doc docMem
      have isOne : doc.documentId ∈ docs.map LedgerDocument.documentId :=
        List.mem_map_of_mem docMem
      rw [ids, List.mem_flatMap] at isOne
      obtain ⟨kept, keptMem, inKept⟩ := isOne
      obtain ⟨batch, batchMem, rfl⟩ := List.mem_map.mp keptMem
      apply saved
      rw [List.mem_flatMap]
      refine ⟨batch, batchMem, ?_⟩
      rcases List.mem_cons.mp inKept with isSettlement | isTxn
      · rw [isSettlement]
        exact List.mem_cons_self
      · obtain ⟨txn, txnMem, sameId⟩ := List.mem_map.mp isTxn
        apply List.mem_cons_of_mem
        rw [← sameId]
        exact List.mem_map_of_mem (List.mem_filter.mp txnMem).1
    obtain ⟨allTurns, unchanged⟩ := turns_of_saved allSaved
    rw [run_of_ok comes, allTurns]
    exact unchanged

theorem wellFormed_runs (wellFormed : ledger.WellFormed) (calls : List SettlementCall) :
    (runFrom run ledger calls).WellFormed :=
  invariant_of_run Ledger.WellFormed (fun _ _ holds => wellFormed_run holds) wellFormed calls

theorem saved_runs (wellFormed : ledger.WellFormed) {documentId : String}
    (saved : Saved documentId ledger) (calls : List SettlementCall) :
    Saved documentId (runFrom run ledger calls) := by
  induction calls generalizing ledger with
  | nil => exact saved
  | cons call calls ih => exact ih (wellFormed_run wellFormed) (saved_run wellFormed saved)

theorem postedOnce_runs (wellFormed : ledger.WellFormed) {calls : List SettlementCall}
    (takes : EveryStep run StoreTakes ledger calls) {documentId : String}
    (once : PostedOnce documentId ledger) : PostedOnce documentId (runFrom run ledger calls) := by
  induction calls generalizing ledger with
  | nil => exact once
  | cons call calls ih =>
    exact ih (wellFormed_run wellFormed) takes.2
      (postedOnce_run ((isExactlyOnce_iff wellFormed).mpr takes.1) once)

theorem run_again (wellFormed : ledger.WellFormed) (accepted : call.IsAccepted ledger)
    {again : SettlementCall} (sameRows : again.rows = call.rows) (calls : List SettlementCall) :
    again.run (runFrom run (call.run ledger) calls) = runFrom run (call.run ledger) calls := by
  cases grouped : groupBatches call.rows with
  | error failure =>
    obtain ⟨report, answers, -⟩ := accepted
    have refused : call.documents ledger = .error (.money failure) := by
      unfold documents
      rw [grouped]
      rfl
    rw [outcome_of_error refused] at answers
    cases answers
  | ok batches =>
    rw [← sameRows] at grouped
    apply run_of_saved grouped
    intro documentId isOne
    rw [sameRows] at grouped
    exact saved_runs (wellFormed_run wellFormed)
      (saved_of_isAccepted wellFormed accepted grouped isOne) calls

end SettlementCall

/-- A call imports its documents exactly once when, and only when, the store
takes at every turn what the rules make, and so does every run of such calls.
What is not saved yet is posted once the store takes it, and a file that was
accepted changes nothing again. -/
theorem settlement_imports_exactly_once_iff (company : String) (operations : List Operation) :
    let ledger := (Ledger.createCompany company).after operations
    (∀ call : SettlementCall, call.IsExactlyOnce ledger ↔ call.StoreTakes ledger) ∧
      (∀ calls : List SettlementCall,
        EveryStep SettlementCall.run SettlementCall.StoreTakes ledger calls →
          ∀ documentId, PostedOnce documentId ledger →
            PostedOnce documentId (runFrom SettlementCall.run ledger calls)) ∧
      (∀ config actor doc, ¬ Saved doc.documentId ledger →
        (∃ entry, ledger.Reposts doc config.context (.entry entry)) →
          let after := documentStep config actor doc ledger
          after.documentVersionCount doc.documentId = 1 ∧
            ∃ posted, after.liveEntriesForDocument doc.documentId = [posted]) ∧
      ∀ (earlier later : List SettlementCall) (call again : SettlementCall),
        call.IsAccepted (runFrom SettlementCall.run ledger earlier) →
          again.rows = call.rows →
            let after := runFrom SettlementCall.run ledger (earlier ++ call :: later)
            again.run after = after := by
  intro ledger
  have wellFormed : ledger.WellFormed := after_wellFormed (.createCompany company)
  refine ⟨fun call => SettlementCall.isExactlyOnce_iff wellFormed, ?_, ?_, ?_⟩
  · intro calls takes documentId once
    exact SettlementCall.postedOnce_runs wellFormed takes once
  · rintro config actor doc unsaved ⟨entry, reposts⟩
    have turn : Turn config actor doc ledger (takeTurn config actor doc ledger) :=
      takeTurn_turn wellFormed
    unfold documentStep
    generalize takeTurn config actor doc ledger = outcome at turn
    have posts := reposts.posts
    rw [post_of_unsaved wellFormed unsaved] at posts
    cases turn with
    | skipped saved => exact absurd saved unsaved
    | refused _ refusal refuses =>
      rw [refuses] at posts
      cases posts
    | posted _ other otherReposts => exact postedOnce_of_reposts wellFormed unsaved otherReposts
    | notTaken _ other otherPosts refused failure =>
      rw [otherPosts, Except.ok.injEq] at posts
      exact absurd (reposts.takes other posts.symm) refused
    | panicked _ nothing =>
      rw [nothing] at posts
      cases posts
  · intro earlier later call again accepted sameRows after
    have split : after = runFrom SettlementCall.run
        (call.run (runFrom SettlementCall.run ledger earlier)) later := by
      change runFrom SettlementCall.run ledger (earlier ++ call :: later) = _
      rw [runFrom_append, runFrom_cons]
    rw [split]
    exact SettlementCall.run_again (SettlementCall.wellFormed_runs wellFormed earlier) accepted
      sameRows later

/-- One sale of one batch, settled in a year that is closed. -/
def lateSale : SettlementCall where
  config :=
    { clearing := acct Chart.authnetClearing
      fees := acct Chart.merchantFees
      undeposited := acct Chart.undepositedFunds
      refundClass := ⟨"foam"⟩
      feeClass := ⟨"foam"⟩ }
  actor := "bookkeeper"
  rows := [{
    transactionId := "t1"
    status := .settledSuccessfully
    settlementDate := ⟨2026, 9, 10, Eq.refl true⟩
    batchId := "b1"
    amount := .fromMinor 10000 }]

def reopenedBook : Ledger :=
  (Operation.reopenPeriod ⟨2026, 12, 31, Eq.refl true⟩ "accountant" "late batch").run
    (lateSale.run closedBook)

/-- The sale is rejected, its version stays, and the import skips it when the
year is open again. -/
theorem rejected_sale_is_never_posted :
    Reachable closedBook ∧ ¬ lateSale.IsExactlyOnce closedBook ∧
      reopenedBook.lockedThrough = none ∧
      (lateSale.run reopenedBook).liveEntriesForDocument (transactionDocumentId "t1") = [] := by
  refine ⟨closedBook_reachable, ?_, ?_, ?_⟩
  · intro exactly
    have once : PostedOnce (transactionDocumentId "t1") (lateSale.run closedBook) :=
      SettlementCall.postedOnce_run exactly (.inl (by decide +kernel))
    rcases once with unsaved | ⟨-, posted, live⟩
    · exact absurd unsaved (by decide +kernel)
    · have noneLive : (lateSale.run closedBook).liveEntriesForDocument
          (transactionDocumentId "t1") = [] := by
        decide +kernel
      rw [noneLive] at live
      cases live
  · decide +kernel
  · decide +kernel

end Calls

end Authnet

end QuickBooks
