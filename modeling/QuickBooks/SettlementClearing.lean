import QuickBooks.SettlementBatches

/-!
# The clearing account of settlements

A settlement is posted from the rows of the first file that names its batch, and
a transaction from its first row in any file.  The clearing account nets to zero
for a batch exactly when these amounts do.
-/

namespace QuickBooks

open ExceptPrograms Ledger TransactionPrograms TransitionRuns

section Postings

theorem Posting.net_eq (selects : PostingKey → Prop) [DecidablePred selects]
    {doc : LedgerDocument} {version : ℕ} {ctx : PostingContext} {posting : Posting}
    {legs : List Leg} (kindPosts : doc.kind.posts = true) (notVoided : doc.isVoided = false)
    (builds : postingLegs doc ctx = .ok legs) (posts : post doc version ctx = .ok posting) :
    posting.net selects = legTotal selects legs := by
  cases posting with
  | entry entry =>
    obtain ⟨others, lines, derivation⟩ := post_eq_entry posts
    have sameLegs := derivation.builds
    rw [builds, Except.ok.injEq] at sameLegs
    subst sameLegs
    rw [net, derivation.lineTotal_eq, notVoided]
    rfl
  | nonPosting =>
    obtain ⟨others, lines, otherBuilds, merges⟩ := exists_merged_of_post kindPosts posts
    rw [builds, Except.ok.injEq] at otherBuilds
    subst otherBuilds
    rw [post_of_merged version kindPosts builds merges] at posts
    have empty : lines = [] := by
      split_ifs at posts with noLines unbalanced
      · simpa using noLines
      · cases posts
    rw [← lineTotal_mergeLegs selects merges, empty]
    rfl

end Postings

namespace Authnet

def OnClearing (key : PostingKey) : Prop :=
  key.account = acct Chart.authnetClearing

instance : DecidablePred OnClearing := fun key =>
  inferInstanceAs (Decidable (key.account = _))

section Documents

def Moves (config : AuthnetConfig) (doc : LedgerDocument) (move : String × Int) : Prop :=
  doc.documentId = move.1 ∧
    ∀ posting, post doc 1 config.context = .ok posting → posting.net OnClearing = move.2

variable {config : AuthnetConfig} {resolve : String → Option ResolvedInvoice}
  {remaining left : List (String × Money)} {batch : SettlementBatch} {txn : AuthnetTxn}
  {doc : LedgerDocument}

theorem moves_settlementDocument (noFee : batch.fee = none) :
    Moves config (settlementDocument config batch)
      (settlementId batch.batchId, -batch.netBeforeFees.minor) := by
  refine ⟨rfl, ?_⟩
  intro posting posts
  obtain ⟨legs, -, builds, -⟩ := exists_merged_of_post rfl posts
  rw [Posting.net_eq OnClearing rfl rfl builds posts]
  have lines : (settlementDocument config batch).lines =
      [accountLine config.clearing batch.netBeforeFees none] := by
    unfold settlementDocument feeLines
    rw [noFee]
  have names : ∀ number, namedAccountLine (settlementDocument config batch) number =
      if config.clearing = acct number
        then some (accountLine config.clearing batch.netBeforeFees none) else none := by
    intro number
    unfold namedAccountLine
    rw [lines]
    split_ifs with named <;> simp [accountLine, named]
  change postSettlement _ _ = .ok legs at builds
  simp only [postSettlement, bind_eq_ok_iff, orRefuse_eq_ok_iff, liftM_money_eq_ok_iff,
    Money.checkedSub_eq_ok_iff, pure_eq_ok_iff] at builds
  obtain ⟨gross, isGross, net, nets, rfl⟩ := builds
  rw [names] at isGross
  split_ifs at isGross with named
  rw [Option.some.injEq] at isGross
  subst isGross
  have notFees : acct Chart.authnetClearing ≠ acct Chart.merchantFees := by decide
  have notBank : acct Chart.checking ≠ acct Chart.authnetClearing := by decide
  have noFeeLine : namedAccountLine (settlementDocument config batch) Chart.merchantFees =
      none := by
    rw [names, named, if_neg notFees]
  rw [noFeeLine]
  have offBank : ¬ OnClearing (debit (acct Chart.checking) net none none).key := notBank
  have onClearing : OnClearing
      (credit (acct Chart.authnetClearing) batch.netBeforeFees none none).key := rfl
  change legTotal OnClearing [debit (acct Chart.checking) net none none,
    credit (acct Chart.authnetClearing) batch.netBeforeFees none none] = _
  simp only [legTotal_cons, if_neg offBank, if_pos onClearing, legTotal_nil, net_credit]
  omega

theorem splitSale_spec {split : SaleSplit}
    (splits : splitSale batch txn resolve remaining = .ok (split, left)) :
    (split.applications.map fun application => application.amount.minor).sum +
      split.unapplied.minor = txn.amount.minor := by
  unfold splitSale at splits
  dsimp only at splits
  cases numbered : txn.invoiceNumber with
  | none =>
    rw [numbered] at splits
    dsimp only at splits
    rw [pure_eq_ok_iff, Prod.mk.injEq] at splits
    rw [← splits.1]
    simp
  | some number =>
  rw [numbered] at splits
  dsimp only at splits
  cases resolved : resolve number with
  | none =>
    rw [resolved] at splits
    dsimp only at splits
    rw [pure_eq_ok_iff, Prod.mk.injEq] at splits
    rw [← splits.1]
    simp
  | some invoice =>
    rw [resolved] at splits
    dsimp only at splits
    generalize (remaining.lookup invoice.documentId).getD _ = openLeft at splits
    generalize (if txn.amount.minor ≤ openLeft.minor then txn.amount else openLeft) =
      applied at splits
    rw [bind_eq_ok_iff] at splits
    obtain ⟨leftOpen, -, splits⟩ := splits
    rw [bind_eq_ok_iff] at splits
    obtain ⟨excess, subtracts, splits⟩ := splits
    rw [pure_eq_ok_iff, Prod.mk.injEq] at splits
    rw [Money.checkedSub_eq_ok_iff] at subtracts
    rw [← splits.1]
    dsimp only
    split_ifs with isZero
    · rw [Money.isZero_iff] at isZero
      simp only [List.map_nil, List.sum_nil]
      omega
    · simp only [List.map_cons, List.map_nil, List.sum_cons, List.sum_nil]
      omega

theorem moves_paymentDocument
    (builds : paymentDocument config batch txn resolve remaining = .ok (doc, left)) :
    Moves config doc (transactionDocumentId txn.txnId, config.brings txn.amount.minor) := by
  unfold paymentDocument at builds
  rw [bind_eq_ok_iff] at builds
  obtain ⟨⟨split, after⟩, splits, isDoc⟩ := builds
  rw [pure_eq_ok_iff, Prod.mk.injEq] at isDoc
  obtain ⟨rfl, -⟩ := isDoc
  refine ⟨rfl, ?_⟩
  intro posting posts
  obtain ⟨legs, -, builds, -⟩ := exists_merged_of_post rfl posts
  rw [Posting.net_eq OnClearing rfl rfl builds posts]
  change postPayment _ = .ok legs at builds
  simp only [postPayment, bind_eq_ok_iff, liftM_money_eq_ok_iff,
    Money.checkedAdd_eq_ok_iff, pure_eq_ok_iff] at builds
  obtain ⟨applied, sums, total, adds, -, -, rfl⟩ := builds
  have appliedEq := Money.minor_checkedSum sums
  rw [List.map_map] at appliedEq
  have whole : total.minor = txn.amount.minor := by
    rw [adds, appliedEq, ← splitSale_spec splits]
    rfl
  have offReceivable : ∀ amount contact, ¬ OnClearing
      (credit (acct Chart.accountsReceivable) amount none contact).key := by
    intro amount contact
    change ¬ acct Chart.accountsReceivable = acct Chart.authnetClearing
    decide
  have offDeposits : ∀ amount contact, ¬ OnClearing
      (credit (acct Chart.customerDeposits) amount none contact).key := by
    intro amount contact
    change ¬ acct Chart.customerDeposits = acct Chart.authnetClearing
    decide
  have deposited : legTotal OnClearing [debit config.clearing total none none] =
      config.brings txn.amount.minor := by
    unfold AuthnetConfig.brings
    rw [legTotal_cons, legTotal_nil, add_zero, net_debit, whole]
    rfl
  rw [legTotal_append, legTotal_append]
  have receivable : legTotal OnClearing (if applied.isZero then []
      else [credit (acct Chart.accountsReceivable) applied none
        (customerRef txn.customerId)]) = 0 := by
    split_ifs
    · rfl
    · rw [legTotal_cons, if_neg (offReceivable _ _), legTotal_nil, add_zero]
  have deposits : legTotal OnClearing (if split.unapplied.isZero then []
      else [credit (acct Chart.customerDeposits) split.unapplied none
        (customerRef txn.customerId)]) = 0 := by
    split_ifs
    · rfl
    · rw [legTotal_cons, if_neg (offDeposits _ _), legTotal_nil, add_zero]
  exact (congrArg₂ (· + ·) (congrArg₂ (· + ·) receivable deposits) deposited).trans (by simp)

theorem moves_refundDocument :
    Moves config (refundDocument config batch txn)
      (transactionDocumentId txn.txnId, config.brings (-txn.amount.minor)) := by
  refine ⟨rfl, ?_⟩
  intro posting posts
  obtain ⟨legs, -, builds, -⟩ := exists_merged_of_post rfl posts
  rw [Posting.net_eq OnClearing rfl rfl builds posts]
  change postRefundReceipt _ _ = .ok legs at builds
  simp only [postRefundReceipt, returnsLegs, refundDocument, List.foldlM_cons, List.foldlM_nil,
    returnsLine, taxLeg, if_true, bind_eq_ok_iff, liftM_money_eq_ok_iff,
    Money.checkedAdd_eq_ok_iff, pure_eq_ok_iff] at builds
  obtain ⟨running, ⟨-, ⟨-, ⟨item, isItem, «class», -, total, adds, cost, costs, rfl⟩, rfl⟩, rfl⟩,
    rfl⟩ := builds
  rw [lookupItem, pure_eq_ok_iff] at isItem
  subst isItem
  rw [postInventoryReturn, inventoryCost, bind_eq_ok_iff] at costs
  obtain ⟨priced, noCost, costs⟩ := costs
  rw [pure_eq_ok_iff] at noCost
  subst noCost
  rw [pure_eq_ok_iff] at costs
  subst costs
  have offReturns : ¬ OnClearing
      (debit (acct Chart.returnsAllowances) txn.amount «class» none).key := by
    change ¬ acct Chart.returnsAllowances = acct Chart.authnetClearing
    decide
  have whole : total.minor = txn.amount.minor := by
    rw [adds]
    exact zero_add _
  change legTotal OnClearing [debit (acct Chart.returnsAllowances) txn.amount «class» none,
    credit config.clearing total none none] = _
  rw [legTotal_cons, if_neg offReturns, legTotal_cons, legTotal_nil, net_credit, whole]
  unfold AuthnetConfig.brings
  rw [zero_add, add_zero]
  rfl

theorem moves_transactionDocument
    (builds : transactionDocument config batch txn resolve remaining = .ok (doc, left)) :
    Moves config doc
      (transactionDocumentId txn.txnId, config.brings (txn.kind.signed txn.amount)) := by
  unfold transactionDocument at builds
  cases isKind : txn.kind with
  | sale =>
    rw [isKind] at builds
    exact moves_paymentDocument builds
  | refund =>
    rw [isKind] at builds
    dsimp only at builds
    rw [pure_eq_ok_iff, Prod.mk.injEq] at builds
    rw [← builds.1]
    exact moves_refundDocument

theorem moves_transactionDocuments {docs : List LedgerDocument} {txns : List AuthnetTxn}
    (builds : transactionDocuments config batch resolve txns remaining = .ok (docs, left)) :
    List.Forall₂ (Moves config) docs (txns.map fun txn =>
      (transactionDocumentId txn.txnId, config.brings (txn.kind.signed txn.amount))) := by
  induction txns generalizing docs remaining left with
  | nil =>
    rw [transactionDocuments, pure_eq_ok_iff, Prod.mk.injEq] at builds
    rw [← builds.1]
    exact .nil
  | cons txn txns ih =>
    rw [transactionDocuments, bind_eq_ok_iff] at builds
    obtain ⟨⟨doc, middle⟩, first, builds⟩ := builds
    rw [bind_eq_ok_iff] at builds
    obtain ⟨⟨rest, last⟩, following, builds⟩ := builds
    rw [pure_eq_ok_iff, Prod.mk.injEq] at builds
    rw [← builds.1]
    exact .cons (moves_transactionDocument first) (ih following)

theorem moves_settlementDocuments {docs : List LedgerDocument} {batches : List SettlementBatch}
    (noFees : ∀ batch ∈ batches, batch.fee = none)
    (builds : settlementDocuments config resolve batches remaining = .ok docs) :
    List.Forall₂ (Moves config) docs (batches.flatMap (SettlementBatch.moves config)) := by
  induction batches generalizing docs remaining with
  | nil =>
    rw [settlementDocuments, pure_eq_ok_iff] at builds
    rw [← builds]
    exact .nil
  | cons batch batches ih =>
    rw [settlementDocuments, bind_eq_ok_iff] at builds
    obtain ⟨⟨first, middle⟩, ofBatch, builds⟩ := builds
    rw [bind_eq_ok_iff] at builds
    obtain ⟨rest, following, builds⟩ := builds
    rw [pure_eq_ok_iff] at builds
    rw [← builds, List.flatMap_cons]
    refine .cons (moves_settlementDocument (noFees batch List.mem_cons_self)) ?_
    exact List.rel_append (moves_transactionDocuments ofBatch)
      (ih (fun other otherMem => noFees other (List.mem_cons_of_mem _ otherMem)) following)

end Documents

section Reached

variable {config : AuthnetConfig} {actor : String} {ledger after : Ledger} {doc : LedgerDocument}
  {move : String × Int}

theorem documentNet_of_unsaved (wellFormed : ledger.WellFormed) {documentId : String}
    (unsaved : ¬ Saved documentId ledger) : documentNet OnClearing ledger documentId = 0 := by
  have noEntries := wellFormed.entries_of_unseen (List.length_eq_zero_iff.mp (not_not.mp unsaved))
  unfold documentNet
  rw [noEntries, netOf_nil]

theorem Turn.spec {outcome : Except TurnFailure Unit} (wellFormed : ledger.WellFormed)
    (turn : Turn config actor doc ledger (outcome, after))
    (accepted : ∀ failure, outcome ≠ .error (.rejected failure))
    (moves : Moves config doc move) (documentId : String) :
    (Saved documentId after ↔ Saved documentId ledger ∨ doc.documentId = documentId) ∧
      documentNet OnClearing after documentId =
        if ¬ Saved doc.documentId ledger ∧ doc.documentId = documentId then move.2
        else documentNet OnClearing ledger documentId := by
  cases turn with
  | skipped saved =>
    refine ⟨⟨.inl, ?_⟩, by rw [if_neg fun isNew => isNew.1 saved]⟩
    rintro (already | rfl)
    · exact already
    · exact saved
  | refused unsaved refusal refuses => exact absurd rfl (accepted _)
  | notTaken unsaved entry posts refused failure => exact absurd rfl (accepted _)
  | panicked unsaved posts =>
    refine ⟨saved_withVersion, ?_⟩
    rw [documentNet_recordVersion]
    split_ifs with isNew
    · rw [← isNew.2, documentNet_of_unsaved wellFormed unsaved, ← moves.2 _ posts]
      rfl
    · rfl
  | posted unsaved entry reposts =>
    refine ⟨(saved_withVersion : Saved documentId (withVersion actor doc ledger) ↔ _), ?_⟩
    obtain ⟨sameId, -⟩ := post_entry_source reposts.posts
    have versioned : (withVersion actor doc ledger).WellFormed := wellFormed.recordVersion doc _
    have accepts : (withVersion actor doc ledger).Accepts entry :=
      (Ledger.accepts_derived_iff reposts.posts).mpr (reposts.takes entry rfl)
    have posts := reposts.posts
    rw [post_of_unsaved wellFormed unsaved] at posts
    split_ifs with isNew
    · rw [← isNew.2, ← sameId,
        documentNet_recordEntry OnClearing versioned (versioned.recordEntry accepts),
        documentNet_recordVersion, sameId, documentNet_of_unsaved wellFormed unsaved, zero_add]
      exact moves.2 _ posts
    · have other : entry.sourceId ≠ documentId := by
        rw [sameId]
        exact fun same => isNew ⟨unsaved, same⟩
      unfold documentNet
      rw [Ledger.entries_recordEntry_other other]
      rfl

/-- After the turns of documents none of which is rejected, each document that
got its turn carries what the first of its id moves, or what it carried when it
was saved before. -/
theorem turns_spec (wellFormed : ledger.WellFormed) {docs : List LedgerDocument}
    {moves : List (String × Int)} (correspond : List.Forall₂ (Moves config) docs moves)
    (accepted : rejections config actor docs ledger = []) (documentId : String) :
    let taken := turns config actor docs ledger
    let after := runFrom (documentStep config actor) ledger taken
    (Saved documentId after ↔
        Saved documentId ledger ∨ documentId ∈ taken.map LedgerDocument.documentId) ∧
      documentNet OnClearing after documentId =
        if ¬ Saved documentId ledger ∧ documentId ∈ taken.map LedgerDocument.documentId
          then (moves.lookup documentId).getD 0
          else documentNet OnClearing ledger documentId := by
  induction correspond generalizing ledger with
  | nil => simp [turns]
  | @cons doc move docs moves isMove correspond ih =>
    have turn : Turn config actor doc ledger (takeTurn config actor doc ledger) :=
      takeTurn_turn wellFormed
    have looked : ((move :: moves).lookup documentId).getD 0 =
        if doc.documentId = documentId then move.2 else (moves.lookup documentId).getD 0 := by
      rw [isMove.1, List.lookup_cons]
      by_cases same : move.1 = documentId
      · simp [same]
      · have other : (documentId == move.1) = false := by
          simpa using fun again => same again.symm
        rw [other, if_neg same]
    rw [rejections] at accepted
    rw [turns, looked]
    rcases taken : takeTurn config actor doc ledger with ⟨outcome, middle⟩
    have stepEq : documentStep config actor doc ledger = middle := congrArg Prod.snd taken
    have middleWellFormed : middle.WellFormed := stepEq ▸ documentStep_wellFormed wellFormed
    rw [taken] at turn accepted
    rcases outcome with (failure | -) | isOk
    · cases accepted
    · -- the import panics at the document
      obtain ⟨savedIff, net⟩ := turn.spec wellFormed (by rintro _ ⟨⟩) isMove documentId
      dsimp only
      rw [runFrom_cons, runFrom_nil, stepEq, net, savedIff]
      simp only [List.map_cons, List.map_nil, List.mem_singleton, eq_comm]
      by_cases same : documentId = doc.documentId <;> simp [same]
    · obtain ⟨savedIff, net⟩ := turn.spec wellFormed (by rintro _ ⟨⟩) isMove documentId
      obtain ⟨savedLater, netLater⟩ := ih middleWellFormed (by rw [← stepEq]; exact accepted)
      dsimp only
      rw [runFrom_cons, stepEq, netLater, net]
      simp only [savedLater, savedIff, List.map_cons, List.mem_cons, eq_comm]
      by_cases same : documentId = doc.documentId <;> simp [same]

/-- The ids of the documents that an import comes to, up to the first without a
version that posts nothing, at which it panics. -/
def reached (config : AuthnetConfig) (ledger : Ledger) :
    List String → List LedgerDocument → List String
  | _, [] => []
  | earlier, doc :: docs =>
    if Saved doc.documentId ledger ∨ doc.documentId ∈ earlier then
      doc.documentId :: reached config ledger earlier docs
    else
      match post doc 1 config.context with
      | .ok .nonPosting => [doc.documentId]
      | _ => doc.documentId :: reached config ledger (doc.documentId :: earlier) docs

theorem map_documentId_turns {docs : List LedgerDocument} {now : Ledger} {earlier : List String}
    (wellFormed : now.WellFormed)
    (savedNow : ∀ documentId, Saved documentId now ↔
      Saved documentId ledger ∨ documentId ∈ earlier)
    (accepted : rejections config actor docs now = []) :
    (turns config actor docs now).map LedgerDocument.documentId =
      reached config ledger earlier docs := by
  induction docs generalizing now earlier with
  | nil => rfl
  | cons doc docs ih =>
    have turn : Turn config actor doc now (takeTurn config actor doc now) :=
      takeTurn_turn wellFormed
    rw [rejections] at accepted
    rw [turns, reached]
    rcases taken : takeTurn config actor doc now with ⟨outcome, middle⟩
    have stepEq : documentStep config actor doc now = middle := congrArg Prod.snd taken
    have middleWellFormed : middle.WellFormed := stepEq ▸ documentStep_wellFormed wellFormed
    rw [taken] at turn accepted
    cases turn with
    | skipped saved =>
      rw [if_pos ((savedNow _).mp saved)]
      dsimp only at accepted ⊢
      rw [List.map_cons, stepEq]
      rw [stepEq] at accepted
      exact congrArg _ (ih wellFormed savedNow accepted)
    | refused unsaved refusal refuses => cases accepted
    | notTaken unsaved entry posts refused failure => cases accepted
    | panicked unsaved posts =>
      rw [if_neg fun known => unsaved ((savedNow _).mpr known), posts]
      rfl
    | posted unsaved entry reposts =>
      have posts := reposts.posts
      rw [post_of_unsaved wellFormed unsaved] at posts
      rw [if_neg fun known => unsaved ((savedNow _).mpr known), posts]
      dsimp only at accepted ⊢
      rw [List.map_cons, stepEq]
      rw [stepEq] at accepted
      refine congrArg _ (ih middleWellFormed ?_ accepted)
      intro documentId
      have recorded : Saved documentId ((withVersion actor doc now).recordEntry entry) ↔
          Saved documentId now ∨ doc.documentId = documentId :=
        (saved_withVersion : Saved documentId (withVersion actor doc now) ↔ _)
      rw [recorded, savedNow, List.mem_cons, or_assoc, eq_comm]
      exact or_congr_right or_comm

end Reached

section Calls

variable {ledger : Ledger}

theorem lookup_map_filter {Value : Type*} (values : List Value) (move : Value → String × Int)
    (keeps : Value → Bool) {documentId : String}
    (dropped : ∀ value, keeps value = false → (move value).1 ≠ documentId) :
    ((values.filter keeps).map move).lookup documentId =
      (values.map move).lookup documentId := by
  induction values with
  | nil => rfl
  | cons value values ih =>
    rw [List.map_cons, List.lookup_cons, ← ih]
    cases kept : keeps value with
    | false =>
      have other : (documentId == (move value).1) = false := by
        simpa using fun same => dropped value kept same.symm
      rw [List.filter_cons_of_neg (by simp [kept]), other]
    | true => rw [List.filter_cons_of_pos kept, List.map_cons, List.lookup_cons]

theorem lookup_moves_dropSaved (config : AuthnetConfig) {documentId : String}
    (unsaved : ¬ Saved documentId ledger) (batches : List SettlementBatch) :
    ((batches.map fun batch => batch.dropSaved ledger).flatMap
        (SettlementBatch.moves config)).lookup documentId =
      (batches.flatMap (SettlementBatch.moves config)).lookup documentId := by
  induction batches with
  | nil => rfl
  | cons batch batches ih =>
    rw [List.map_cons, List.flatMap_cons, List.flatMap_cons, List.lookup_append,
      List.lookup_append, ih]
    congr 1
    unfold SettlementBatch.moves SettlementBatch.dropSaved
    rw [List.lookup_cons, List.lookup_cons, lookup_map_filter]
    intro txn kept same
    apply unsaved
    rw [Bool.not_eq_false', isSaved, decide_eq_true_eq] at kept
    rw [← same]
    exact kept

namespace SettlementCall

/-- The ids of the documents that the call comes to. -/
def reached (call : SettlementCall) (ledger : Ledger) : List String :=
  match call.documents ledger with
  | .error _ => []
  | .ok docs => Authnet.reached call.config ledger [] docs

/-- What the call rejects, also when it panics after. -/
def rejected (call : SettlementCall) (ledger : Ledger) : List String :=
  match call.documents ledger with
  | .error _ => []
  | .ok docs => rejections call.config call.actor docs ledger

variable {call : SettlementCall}

theorem documents_move {docs : List LedgerDocument} (comes : call.documents ledger = .ok docs) :
    ∃ moves, List.Forall₂ (Moves call.config) docs moves ∧
      ∀ documentId, ¬ Saved documentId ledger →
        moves.lookup documentId = (movesOf call.config call.rows).lookup documentId := by
  unfold documents at comes
  rw [bind_eq_ok_iff] at comes
  obtain ⟨batches, grouped, comes⟩ := comes
  unfold exportDocuments at comes
  rw [bind_eq_ok_iff] at comes
  obtain ⟨openDocs, -, builds⟩ := comes
  obtain ⟨sameMoves, noFees⟩ := groupBatches_spec call.config (mapError_eq_ok_iff.mp grouped)
  refine ⟨_, moves_settlementDocuments ?_ (mapError_eq_ok_iff.mp builds), ?_⟩
  · intro kept keptMem
    obtain ⟨batch, batchMem, rfl⟩ := List.mem_map.mp keptMem
    exact noFees batch batchMem
  · intro documentId unsaved
    rw [lookup_moves_dropSaved call.config unsaved, sameMoves]

theorem run_spec (wellFormed : ledger.WellFormed) (accepted : call.rejected ledger = [])
    (documentId : String) :
    (Saved documentId (call.run ledger) ↔
        Saved documentId ledger ∨ documentId ∈ call.reached ledger) ∧
      documentNet OnClearing (call.run ledger) documentId =
        if ¬ Saved documentId ledger ∧ documentId ∈ call.reached ledger
          then ((movesOf call.config call.rows).lookup documentId).getD 0
          else documentNet OnClearing ledger documentId := by
  unfold rejected at accepted
  unfold SettlementCall.reached
  cases comes : call.documents ledger with
  | error failure => simp [run_of_error comes]
  | ok docs =>
    rw [comes] at accepted
    obtain ⟨moves, correspond, looked⟩ := documents_move comes
    obtain ⟨savedIff, net⟩ := turns_spec wellFormed correspond accepted documentId
    have ids : (turns call.config call.actor docs ledger).map LedgerDocument.documentId =
        Authnet.reached call.config ledger [] docs :=
      map_documentId_turns wellFormed (by simp) accepted
    rw [ids] at savedIff net
    rw [run_of_ok comes]
    refine ⟨savedIff, net.trans ?_⟩
    dsimp only
    split_ifs with isNew
    · rw [looked documentId isNew.1]
    · rfl

/-- What a document carries after a run: what it carried before if it was saved,
else what the first of its id moves in the first file that comes to it. -/
def brought : Ledger → List SettlementCall → String → Int
  | ledger, [], documentId => documentNet OnClearing ledger documentId
  | ledger, call :: calls, documentId =>
    if Saved documentId ledger then documentNet OnClearing ledger documentId
    else if documentId ∈ call.reached ledger then
      ((movesOf call.config call.rows).lookup documentId).getD 0
    else brought (call.run ledger) calls documentId

theorem brought_of_saved {documentId : String} (saved : Saved documentId ledger)
    (calls : List SettlementCall) :
    brought ledger calls documentId = documentNet OnClearing ledger documentId := by
  cases calls with
  | nil => rfl
  | cons call calls => rw [brought, if_pos saved]

theorem documentNet_runs (wellFormed : ledger.WellFormed) {calls : List SettlementCall}
    (accepted : EveryStep run (fun call before => call.rejected before = []) ledger calls)
    (documentId : String) :
    documentNet OnClearing (runFrom run ledger calls) documentId =
      brought ledger calls documentId := by
  induction calls generalizing ledger with
  | nil => rfl
  | cons call calls ih =>
    obtain ⟨savedIff, net⟩ := run_spec wellFormed accepted.1 documentId
    rw [runFrom_cons, ih (wellFormed_run wellFormed) accepted.2, brought]
    split_ifs with saved isReached
    · rw [brought_of_saved (savedIff.mpr (.inl saved)), net,
        if_neg fun isNew => isNew.1 saved]
    · rw [brought_of_saved (savedIff.mpr (.inr isReached)), net, if_pos ⟨saved, isReached⟩]
    · rfl

end SettlementCall

/-- The settlement of a batch and the payments and refunds of its settled rows,
each once. -/
def batchDocuments (batchId : String) (rows : List TransactionRow) : List String :=
  (settlementId batchId ::
    (rowsOf batchId rows).map fun row => transactionDocumentId row.transactionId).dedup

/-- The clearing account nets to zero for a batch after a run of calls in which
nothing was rejected exactly when what the documents of the batch bring does:
what they carried before, else minus the net of the first file with the batch and
the amounts of the transactions' first rows. -/
theorem clearing_nets_to_zero_iff (company : String) (operations : List Operation)
    (calls : List SettlementCall) :
    let ledger := (Ledger.createCompany company).after operations
    EveryStep SettlementCall.run (fun call before => call.rejected before = []) ledger calls →
      ∀ batchId,
        let documentIds := batchDocuments batchId (calls.flatMap SettlementCall.rows)
        (documentIds.map (documentNet OnClearing
            (runFrom SettlementCall.run ledger calls))).sum = 0 ↔
          (documentIds.map (SettlementCall.brought ledger calls)).sum = 0 := by
  intro ledger accepted batchId documentIds
  have wellFormed : ledger.WellFormed := after_wellFormed (.createCompany company)
  have same : documentNet OnClearing (runFrom SettlementCall.run ledger calls) =
      SettlementCall.brought ledger calls :=
    funext (SettlementCall.documentNet_runs wellFormed accepted)
  rw [same]

/-- A sale of the batch of one day. -/
def saleRow (transactionId : String) (amount : Money) : TransactionRow where
  transactionId
  status := .settledSuccessfully
  settlementDate := ⟨2026, 9, 10, Eq.refl true⟩
  batchId := "b1"
  amount

def callOf (rows : List TransactionRow) : SettlementCall where
  config :=
    { clearing := acct Chart.authnetClearing
      fees := acct Chart.merchantFees
      undeposited := acct Chart.undepositedFunds
      refundClass := ⟨"foam"⟩
      feeClass := ⟨"foam"⟩ }
  actor := "bookkeeper"
  rows

def splitBatch : List SettlementCall :=
  [callOf [saleRow "t1" (.fromMinor 10000)],
    callOf [saleRow "t1" (.fromMinor 10000), saleRow "t2" (.fromMinor 5000)]]

/-- A batch in one file brings nothing to the clearing account. -/
theorem whole_batch_clears :
    let ledger := (Ledger.createCompany "aquamentor").after []
    ((batchDocuments "b1" [saleRow "t1" (.fromMinor 10000)]).map (documentNet OnClearing
      (runFrom SettlementCall.run ledger [callOf [saleRow "t1" (.fromMinor 10000)]]))).sum = 0 :=
  (clearing_nets_to_zero_iff "aquamentor" [] [callOf [saleRow "t1" (.fromMinor 10000)]]
    ⟨by decide +kernel, trivial⟩ "b1").mpr (by decide +kernel)

/-- The settlement of a batch that comes in two files is that of the first file
only. -/
theorem split_batch_does_not_clear :
    let ledger := (Ledger.createCompany "aquamentor").after []
    EveryStep SettlementCall.run (fun call before => call.rejected before = []) ledger
        splitBatch ∧
      ((batchDocuments "b1" (splitBatch.flatMap SettlementCall.rows)).map (documentNet OnClearing
        (runFrom SettlementCall.run ledger splitBatch))).sum = 5000 :=
  ⟨⟨by decide +kernel, by decide +kernel, trivial⟩, by decide +kernel⟩

end Calls

end Authnet

end QuickBooks
