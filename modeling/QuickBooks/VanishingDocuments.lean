import QuickBooks.AdjustmentQueue
import QuickBooks.BankReconciliation
import QuickBooks.JournalLegs
import QuickBooks.MaterialTieOut
import QuickBooks.SettlementClearing

/-!
# Documents that post nothing

Posting merges the legs that are not zero, so it returns no entry exactly when
every leg is zero.  The calls that take an entry for granted build their
documents from the amounts they are given, and none of them refuses an amount
of zero: their documents post nothing when all their amounts are zero.
-/

namespace QuickBooks

open ExceptPrograms TransactionPrograms

section Merging

theorem mergeInto_ne_nil {leg : Leg} {merged result : List Leg}
    (merges : mergeInto leg merged = .ok result) : result ≠ [] := by
  cases merged with
  | nil =>
    rw [mergeInto, pure_eq_ok_iff] at merges
    simp [← merges]
  | cons existing rest =>
    rw [mergeInto] at merges
    split_ifs at merges
    · simp only [bind_eq_ok_iff, pure_eq_ok_iff] at merges
      obtain ⟨_, _, _, _, rfl⟩ := merges
      simp
    · simp only [bind_eq_ok_iff, pure_eq_ok_iff] at merges
      obtain ⟨_, _, rfl⟩ := merges
      simp

theorem foldlM_mergeLeg_eq_nil_iff {legs merged : List Leg}
    (merges : legs.foldlM mergeLeg [] = .ok merged) :
    merged = [] ↔ ∀ leg ∈ legs, leg.amount.minor = 0 := by
  refine foldlM_invariant (fun consumed merged =>
    merged = [] ↔ ∀ leg ∈ consumed, leg.amount.minor = 0) ?_ (by simp) merges
  intro consumed leg before after holds step
  unfold mergeLeg at step
  split_ifs at step with zero
  · rw [pure_eq_ok_iff] at step
    rw [Money.isZero_iff] at zero
    subst step
    rw [holds, List.forall_mem_append, List.forall_mem_singleton]
    exact ⟨fun zeros => ⟨zeros, zero⟩, fun both => both.1⟩
  · rw [Money.isZero_iff] at zero
    rw [bind_eq_ok_iff] at step
    obtain ⟨normal, -, step⟩ := step
    constructor
    · intro empty
      exact absurd empty (mergeInto_ne_nil step)
    · intro zeros
      exact absurd (zeros leg (by simp)) zero

theorem mergeLegs_eq_nil_iff {legs : List Leg} {lines : List JournalLine}
    (merges : mergeLegs legs = .ok lines) :
    lines = [] ↔ ∀ leg ∈ legs, leg.amount.minor = 0 := by
  unfold mergeLegs at merges
  rw [bind_eq_ok_iff] at merges
  obtain ⟨merged, folds, linesEq⟩ := merges
  rw [pure_eq_ok_iff] at linesEq
  subst linesEq
  rw [← foldlM_mergeLeg_eq_nil_iff folds]
  have positive := (foldlM_mergeLeg_spec (fun _ _ => True) folds).1
  cases merged with
  | nil => simp [numberLegs]
  | cons leg rest =>
    have notZero : ¬ leg.amount.isZero = true := by
      rw [Money.isZero_iff]
      have legPositive := positive leg List.mem_cons_self
      omega
    simp [numberLegs, notZero]

theorem mergeLegs_of_zero {legs : List Leg}
    (zeros : ∀ leg ∈ legs, leg.amount.minor = 0) : mergeLegs legs = .ok [] := by
  have folds : legs.foldlM mergeLeg [] = .ok [] := by
    induction legs with
    | nil => rfl
    | cons leg legs ih =>
      have zero : leg.amount.isZero = true :=
        Money.isZero_iff.mpr (zeros leg List.mem_cons_self)
      rw [List.foldlM_cons, mergeLeg, if_pos zero]
      exact ih fun other otherMem => zeros other (List.mem_cons_of_mem _ otherMem)
  rw [mergeLegs, folds]
  rfl

theorem post_nonPosting_iff {doc : LedgerDocument} {version : ℕ} {ctx : PostingContext}
    (kindPosts : doc.kind.posts = true) :
    post doc version ctx = .ok .nonPosting ↔
      ∃ legs, postingLegs doc ctx = .ok legs ∧ ∀ leg ∈ legs, leg.amount.minor = 0 := by
  constructor
  · intro posts
    obtain ⟨legs, lines, builds, merges⟩ := exists_merged_of_post kindPosts posts
    rw [post_of_merged version kindPosts builds merges] at posts
    refine ⟨legs, builds, (mergeLegs_eq_nil_iff merges).mp ?_⟩
    split_ifs at posts with empty unbalanced
    · simpa using empty
    · cases posts
  · rintro ⟨legs, builds, zeros⟩
    rw [post_of_merged version kindPosts builds (mergeLegs_of_zero zeros)]
    rfl

end Merging

section Counting

namespace ShopFloor

/-- A physical count, positive for a count up. -/
structure NewAdjustment where
  account : String
  amount : Money
  «class» : ClassId
  adjustedOn : Date
  reason : String

inductive AdjustmentError where
  | invalidAdjustmentAccount (account : String)
  | ledger (failure : LedgerError)
deriving DecidableEq

namespace NewAdjustment

def check (adjustment : NewAdjustment) : Except AdjustmentError Unit :=
  ensure (adjustment.account = Chart.inventoryRaw ∨
    adjustment.account = Chart.inventoryFinished)
    (.invalidAdjustmentAccount adjustment.account)

end NewAdjustment

def adjustmentDocument (documentId : String) (adjustment : NewAdjustment) :
    LedgerDocument where
  documentId := documentId
  kind := .inventoryAdjustment
  txnDate := adjustment.adjustedOn
  headerClass := some adjustment.class
  lines := [accountLine 1 adjustment.account adjustment.amount]
  memo := some adjustment.reason

/-- Save and post a physical count. -/
def adjustInventory (documentId : String) (adjustment : NewAdjustment) :
    Program Ledger AdjustmentError ℕ := do
  MonadExcept.ofExcept adjustment.check
  refusingWith AdjustmentError.ledger
    (QuickBooks.adjustInventory (adjustmentDocument documentId adjustment))

end ShopFloor

end Counting

section Calls

open ShopFloor Bank Authnet

/-- A call that takes an entry of its document for granted. -/
inductive EntryCall where
  | receiveMaterials (arith : DecimalArithmetic) (shop : Shop) (documentId : String)
      (receipt : RawMaterialReceipt)
  | adjustInventory (documentId : String) (adjustment : NewAdjustment)
  | completeBuild (arith : DecimalArithmetic) (shop : Shop) (documentId : String)
      (build : NewBuild)
  | confirmProposal (book : BankBook) (lineId : ℕ) (account : AccountId)
      («class» : Option ClassId)
  | postSettlementFeeAdjustment (bankAccount : AccountId) (fee : Money)
      (feeClass : ClassId) (postedOn : Date) (settlementEntryId : ℕ)
  | importSettlement (config : AuthnetConfig) (ledger : Ledger)
      (rows : List TransactionRow)
  | approveAdjustment (row : AdjustmentRequestRow)

/-- What the documents of an import are for: a settlement for the net of its
batch, a sale or a refund for its amount. -/
inductive ImportedFor (config : AuthnetConfig) (batches : List SettlementBatch) :
    LedgerDocument → ℤ → Prop
  | settlement {batch : SettlementBatch} (batchMem : batch ∈ batches) :
      ImportedFor config batches (settlementDocument config batch)
        batch.netBeforeFees.minor
  | transaction {batch : SettlementBatch} (batchMem : batch ∈ batches)
      {txn : AuthnetTxn} (txnMem : txn ∈ batch.transactions)
      {resolve : String → Option ResolvedInvoice} {remaining left : List (String × Money)}
      (drawn : ∀ entry ∈ remaining, 0 ≤ entry.2.minor) {doc : LedgerDocument}
      (builds : transactionDocument config batch txn resolve remaining = .ok (doc, left)) :
      ImportedFor config batches doc txn.amount.minor

/-- The documents that an accepted call posts, with the amounts they are built
from. -/
inductive Builds : EntryCall → LedgerDocument → PostingContext → List ℤ → Prop
  | receipt {arith : DecimalArithmetic} {shop : Shop} {documentId : String}
      {receipt : RawMaterialReceipt} {priced : List PricedLine}
      {lines : List ReceivedLine} {total : Money}
      (prices : shop.priceReceipt arith receipt = .ok priced)
      (lands : landLines arith priced Money.zero = .ok (lines, total)) :
      Builds (.receiveMaterials arith shop documentId receipt)
        (receiptDocument documentId receipt total) {}
        [(priced.map fun line => line.line.baseCost.minor + line.freightAlloc.minor).sum]
  | adjustment {documentId : String} {adjustment : NewAdjustment}
      (accepted : adjustment.check = .ok ()) :
      Builds (.adjustInventory documentId adjustment)
        (adjustmentDocument documentId adjustment) {} [adjustment.amount.minor]
  | build {arith : DecimalArithmetic} {shop : Shop} {documentId : String}
      {build : NewBuild} {priced : PricedBuild}
      (prices : shop.priceBuild arith build = .ok priced) :
      Builds (.completeBuild arith shop documentId build)
        (buildDocument documentId build priced) {}
        [priced.finished.minor, priced.actualMaterial.minor, priced.applied.minor]
  | proposal {book : BankBook} {lineId : ℕ} {account : AccountId}
      {«class» : Option ClassId} {line : BankLineRow} {statement : BankStatementRow}
      {amount : Money} (found : book.bankLine lineId = .ok line)
      (proposed : line.matchKind = some .proposed)
      (onStatement : book.bankStatement line.statementId = .ok statement)
      (isOpen : statement.isClosed = false) (absolute : amountAbs line = .ok amount) :
      Builds (.confirmProposal book lineId account «class»)
        (proposalDocument line amount account «class») {} [line.amount.minor]
  | fee {bankAccount : AccountId} {fee negatedFee : Money} {feeClass : ClassId}
      {postedOn : Date} {settlementEntryId : ℕ}
      (negated : fee.checkedNeg = .ok negatedFee) :
      Builds (.postSettlementFeeAdjustment bankAccount fee feeClass postedOn
          settlementEntryId)
        (settlementFeeDocument bankAccount negatedFee feeClass postedOn settlementEntryId)
        {} [fee.minor]
  | imported {config : AuthnetConfig} {ledger : Ledger} {rows : List TransactionRow}
      {batches : List SettlementBatch} {docs : List LedgerDocument}
      {doc : LedgerDocument} {amount : ℤ} (groups : groupBatches rows = .ok batches)
      (comes : exportDocuments config ledger batches = .ok docs) (docMem : doc ∈ docs)
      (unsaved : ledger.documentVersionCount doc.documentId = 0)
      (importedFor : ImportedFor config batches doc amount) :
      Builds (.importSettlement config ledger rows) doc config.context [amount]
  | approved {row : AdjustmentRequestRow} :
      Builds (.approveAdjustment row) (buildJournalDocument row) {}
        (row.lines.flatMap fun line => [line.debit.minor, line.credit.minor])

/-- The rules refuse the document whatever its amounts: a bank line confirmed
to an account that needs a class without one, or a settlement whose config does
not name the clearing account. -/
def EntryCall.IsRefused : EntryCall → DocKind → Prop
  | .confirmProposal _ _ account «class», _ =>
    requiresClass account = true ∧ «class» = none
  | .importSettlement config _ _, kind =>
    kind = .settlement ∧ config.clearing ≠ acct Chart.authnetClearing
  | _, _ => False

section AdjustmentLines

variable {doc : LedgerDocument} {legs result : List Leg} {line : DocLine} {account : AccountId}

theorem adjustmentLine_of_account (isAccount : line.kind = .account)
    (named : line.account = some account)
    (inventory : Chart.isInventoryAsset account.number = true) :
    adjustmentLine doc legs line =
      if line.amount.isZero then .ok legs
      else do
        let «class» ← orRefuse (PostError.missingClass line.lineNo)
          (line.class <|> doc.headerClass)
        if line.amount.isNegative then do
          let shrink ← line.amount.checkedNeg
          return legs ++ [debit (acct Chart.inventoryAdjustment) shrink (some «class») none,
            credit account shrink none none]
        else
          return legs ++ [debit account line.amount none none,
            credit (acct Chart.inventoryAdjustment) line.amount (some «class») none] := by
  unfold adjustmentLine
  rw [isAccount, named]
  simp only [reduceCtorEq, if_false, Option.filter_some, inventory, decide_true, and_self,
    if_true]
  rfl

theorem exists_leg_of_adjustmentLine (isAccount : line.kind = .account)
    (named : line.account = some account)
    (inventory : Chart.isInventoryAsset account.number = true)
    (notZero : line.amount.minor ≠ 0) (adds : adjustmentLine doc legs line = .ok result) :
    ∃ leg ∈ result, leg.amount.minor ≠ 0 := by
  rw [adjustmentLine_of_account isAccount named inventory,
    if_neg (by rwa [Money.isZero_iff]), bind_eq_ok_iff] at adds
  obtain ⟨lineClass, -, adds⟩ := adds
  split_ifs at adds
  · rw [bind_eq_ok_iff] at adds
    obtain ⟨shrink, negates, adds⟩ := adds
    rw [liftM_money_eq_ok_iff, Money.checkedNeg_eq_ok_iff] at negates
    rw [pure_eq_ok_iff] at adds
    subst adds
    refine ⟨credit account shrink none none, by simp, ?_⟩
    change shrink.minor ≠ 0
    omega
  · rw [pure_eq_ok_iff] at adds
    subst adds
    exact ⟨debit account line.amount none none, by simp, notZero⟩

end AdjustmentLines

variable {version : ℕ}

theorem postingLegs_adjustmentDocument_iff {documentId : String} {adjustment : NewAdjustment}
    {legs : List Leg} :
    postingLegs (adjustmentDocument documentId adjustment) {} = .ok legs ↔
      adjustmentLine (adjustmentDocument documentId adjustment) []
        (ShopFloor.accountLine 1 adjustment.account adjustment.amount) = .ok legs := by
  change postInventoryAdjustment _ = .ok legs ↔ _
  unfold postInventoryAdjustment
  rw [bind_eq_ok_iff]
  constructor
  · rintro ⟨found, folds, rest⟩
    change (adjustmentLine _ _ _ >>= pure) = _ at folds
    rw [bind_pure] at folds
    rw [check_bind_eq_ok_iff, pure_eq_ok_iff] at rest
    rw [← rest.2]
    exact folds
  · intro adds
    refine ⟨legs, ?_, rfl⟩
    change (adjustmentLine _ _ _ >>= pure) = _
    rw [bind_pure]
    exact adds

theorem post_receiptDocument_iff {documentId : String} {receipt : RawMaterialReceipt}
    {total : Money} :
    post (receiptDocument documentId receipt total) version {} = .ok .nonPosting ↔
      total.minor = 0 := by
  have builds : postingLegs (receiptDocument documentId receipt total) {} =
      .ok [debit (acct Chart.inventoryRaw) total none none,
        credit (acct Chart.inventoryReceivedNotBilled) total none none] :=
    rfl
  rw [post_nonPosting_iff rfl, builds]
  simp [debit, credit]

theorem post_adjustmentDocument_iff {documentId : String} {adjustment : NewAdjustment}
    (accepted : adjustment.check = .ok ()) :
    post (adjustmentDocument documentId adjustment) version {} = .ok .nonPosting ↔
      adjustment.amount.minor = 0 := by
  have isInventory : Chart.isInventoryAsset adjustment.account = true := by
    rw [NewAdjustment.check, ensure_eq_ok_iff, decide_eq_true_eq] at accepted
    rcases accepted with raw | finished
    · rw [raw]
      decide
    · rw [finished]
      decide
  rw [post_nonPosting_iff rfl]
  simp only [postingLegs_adjustmentDocument_iff]
  constructor
  · rintro ⟨legs, adds, zeros⟩
    by_contra notZero
    obtain ⟨leg, legMem, legNotZero⟩ :=
      exists_leg_of_adjustmentLine rfl (.refl (some (acct adjustment.account))) isInventory
        notZero adds
    exact legNotZero (zeros leg legMem)
  · intro zero
    refine ⟨[], ?_, by simp⟩
    rw [adjustmentLine_of_account rfl (.refl (some (acct adjustment.account))) isInventory,
      if_pos (by exact Money.isZero_iff.mpr zero)]

theorem post_buildDocument_iff {documentId : String} {build : NewBuild}
    {priced : PricedBuild} :
    post (buildDocument documentId build priced) version {} = .ok .nonPosting ↔
      priced.finished.minor = 0 ∧ priced.actualMaterial.minor = 0 ∧
        priced.applied.minor = 0 := by
  have unfolds : postingLegs (buildDocument documentId build priced) {} = (do
      let remainder ← priced.finished.checkedSub priced.actualMaterial
      let variance ← remainder.checkedSub priced.applied
      let plug ← varianceLegs variance build.class
      return [debit (acct Chart.inventoryFinished) priced.finished none none,
        credit (acct Chart.inventoryRaw) priced.actualMaterial none none,
        credit (acct Chart.partsLabourApplied) priced.applied (some build.class) none] ++
          plug) :=
    rfl
  rw [post_nonPosting_iff rfl, unfolds]
  constructor
  · rintro ⟨legs, builds, zeros⟩
    simp only [bind_eq_ok_iff, pure_eq_ok_iff] at builds
    obtain ⟨remainder, -, variance, -, plug, -, rfl⟩ := builds
    rw [List.forall_mem_append] at zeros
    simpa [debit, credit] using zeros.1
  · rintro ⟨finished, actual, applied⟩
    have finishedEq : priced.finished = Money.zero := Money.ext finished
    have actualEq : priced.actualMaterial = Money.zero := Money.ext actual
    have appliedEq : priced.applied = Money.zero := Money.ext applied
    rw [finishedEq, actualEq, appliedEq]
    exact ⟨_, rfl, by simp [debit, credit]⟩

theorem postBankLine_eq_ok_iff {doc : LedgerDocument} {line : DocLine}
    {account : AccountId} {legs : List Leg} (lines : doc.lines = [line])
    (isAccount : line.kind = .account) (named : line.account = some account)
    (noHeader : doc.headerClass = none) :
    postBankLine doc {} = .ok legs ↔
      ∃ lineClass, classFor line none none account = .ok lineClass ∧
        (if line.amount.isNegative then do
          let amount ← line.amount.checkedNeg
          return [debit account amount lineClass none,
            credit ((doc.depositTo <|> doc.payFrom).getD (acct Chart.checking)) amount
              none none]
        else
          return [debit ((doc.depositTo <|> doc.payFrom).getD (acct Chart.checking))
              line.amount none none, credit account line.amount lineClass none]) =
          (.ok legs : Except PostError (List Leg)) := by
  have first : doc.lines.find? (fun line => line.kind = .account) = some line := by
    rw [lines]
    simp [isAccount]
  unfold postBankLine
  rw [first, noHeader]
  simp only [bind_eq_ok_iff, orRefuse_eq_ok_iff, Option.some.injEq, exists_eq_left', named]
  rfl

theorem exists_classFor_iff {line : DocLine} {account : AccountId} :
    (∃ lineClass, classFor line none none account = .ok lineClass) ↔
      ¬ (requiresClass account = true ∧ line.class = none) := by
  unfold classFor resolveClass
  cases needed : requiresClass account <;> cases named : line.class <;>
    simp [pure_eq_ok_iff]

theorem post_bankLine_iff {doc : LedgerDocument} {line : DocLine} {account : AccountId}
    (isBankLine : doc.kind = .bankLine) (lines : doc.lines = [line])
    (isAccount : line.kind = .account) (named : line.account = some account)
    (noHeader : doc.headerClass = none) :
    post doc version {} = .ok .nonPosting ↔
      line.amount.minor = 0 ∧ ¬ (requiresClass account = true ∧ line.class = none) := by
  have builds : postingLegs doc {} = postBankLine doc {} := by
    unfold postingLegs
    rw [isBankLine]
  rw [post_nonPosting_iff (by rw [isBankLine]; rfl), builds]
  simp only [postBankLine_eq_ok_iff lines isAccount named noHeader, ← exists_classFor_iff]
  constructor
  · rintro ⟨legs, ⟨lineClass, classed, made⟩, zeros⟩
    refine ⟨?_, lineClass, classed⟩
    split_ifs at made
    · rw [bind_eq_ok_iff] at made
      obtain ⟨amount, negates, made⟩ := made
      rw [liftM_money_eq_ok_iff, Money.checkedNeg_eq_ok_iff] at negates
      rw [pure_eq_ok_iff] at made
      subst made
      have zero : amount.minor = 0 := zeros (debit account amount lineClass none) (by simp)
      omega
    · rw [pure_eq_ok_iff] at made
      subst made
      exact zeros (credit account line.amount lineClass none) (by simp)
  · rintro ⟨zero, lineClass, classed⟩
    have notNegative : ¬ line.amount.isNegative = true := by
      rw [Money.isNegative_iff]
      omega
    refine ⟨_, ⟨lineClass, classed, if_neg notNegative⟩, ?_⟩
    simp [debit, credit, zero]

theorem post_settlementDocument_iff {config : AuthnetConfig} {batch : SettlementBatch}
    (noFee : batch.fee = none) :
    post (settlementDocument config batch) version config.context = .ok .nonPosting ↔
      batch.netBeforeFees.minor = 0 ∧ config.clearing = acct Chart.authnetClearing := by
  have lines : (settlementDocument config batch).lines =
      [Authnet.accountLine config.clearing batch.netBeforeFees none] := by
    unfold settlementDocument feeLines
    rw [noFee]
  have names : ∀ number, namedAccountLine (settlementDocument config batch) number =
      if config.clearing = acct number
        then some (Authnet.accountLine config.clearing batch.netBeforeFees none) else none := by
    intro number
    unfold namedAccountLine
    rw [lines]
    split_ifs with named <;> simp [Authnet.accountLine, named]
  have builds : postingLegs (settlementDocument config batch) config.context =
      postSettlement (settlementDocument config batch) config.context :=
    rfl
  rw [post_nonPosting_iff rfl, builds]
  constructor
  · rintro ⟨legs, made, zeros⟩
    simp only [postSettlement, bind_eq_ok_iff, orRefuse_eq_ok_iff, pure_eq_ok_iff] at made
    obtain ⟨gross, isGross, net, -, rfl⟩ := made
    rw [names] at isGross
    split_ifs at isGross with named
    cases isGross
    rw [List.forall_mem_append] at zeros
    exact ⟨zeros.1 (credit (acct Chart.authnetClearing) batch.netBeforeFees none none)
      (by simp [Authnet.accountLine]), named⟩
  · rintro ⟨zero, named⟩
    have zeroEq : batch.netBeforeFees = Money.zero := Money.ext zero
    have noFeeLine : namedAccountLine (settlementDocument config batch)
        Chart.merchantFees = none := by
      rw [names, named, if_neg (by decide)]
    refine ⟨[debit (acct Chart.checking) Money.zero none none,
      credit (acct Chart.authnetClearing) Money.zero none none], ?_, by simp [debit, credit]⟩
    unfold postSettlement
    rw [names, if_pos named, noFeeLine, zeroEq]
    rfl

theorem post_refundDocument_iff {config : AuthnetConfig} {batch : SettlementBatch}
    {txn : AuthnetTxn} :
    post (refundDocument config batch txn) version config.context = .ok .nonPosting ↔
      txn.amount.minor = 0 := by
  have builds : postingLegs (refundDocument config batch txn) config.context =
      postRefundReceipt (refundDocument config batch txn) config.context :=
    rfl
  rw [post_nonPosting_iff rfl, builds]
  constructor
  · rintro ⟨legs, made, zeros⟩
    simp only [postRefundReceipt, returnsLegs, refundDocument, List.foldlM_cons,
      List.foldlM_nil, returnsLine, taxLeg, if_true, bind_eq_ok_iff, pure_eq_ok_iff] at made
    obtain ⟨running, ⟨-, ⟨-, ⟨item, -, lineClass, -, total, -, cost, -, rfl⟩, rfl⟩, rfl⟩,
      rfl⟩ := made
    simp only [List.nil_append] at zeros
    exact zeros (debit (acct Chart.returnsAllowances) txn.amount lineClass none) (by simp)
  · intro zero
    have zeroEq : txn.amount = Money.zero := Money.ext zero
    refine ⟨[debit (acct Chart.returnsAllowances) Money.zero (some config.refundClass) none,
      credit config.clearing Money.zero none none], ?_, by simp [debit, credit]⟩
    unfold refundDocument
    rw [zeroEq]
    rfl

theorem openLeft_nonneg {remaining : List (String × Money)}
    (drawn : ∀ entry ∈ remaining, 0 ≤ entry.2.minor) (invoice : ResolvedInvoice) :
    0 ≤ ((remaining.lookup invoice.documentId).getD
      (if invoice.open.isNegative then Money.zero else invoice.open)).minor := by
  cases found : remaining.lookup invoice.documentId with
  | none =>
    rw [Option.getD_none]
    split_ifs with negative
    · simp
    · rw [Money.isNegative_iff] at negative
      omega
  | some left =>
    obtain ⟨before, after, rfl, -⟩ := List.lookup_eq_some_iff.mp found
    exact drawn (invoice.documentId, left) (by simp)

theorem splitSale_draws {batch : SettlementBatch} {txn : AuthnetTxn}
    {resolve : String → Option ResolvedInvoice} {remaining left : List (String × Money)}
    {split : SaleSplit} (drawn : ∀ entry ∈ remaining, 0 ≤ entry.2.minor)
    (splits : splitSale batch txn resolve remaining = .ok (split, left)) :
    (∀ entry ∈ left, 0 ≤ entry.2.minor) ∧
      (txn.amount.minor = 0 → split.applications = [] ∧ split.unapplied.minor = 0) := by
  unfold splitSale at splits
  dsimp only at splits
  cases numbered : txn.invoiceNumber with
  | none =>
    rw [numbered] at splits
    dsimp only at splits
    rw [pure_eq_ok_iff, Prod.mk.injEq] at splits
    obtain ⟨rfl, rfl⟩ := splits
    exact ⟨drawn, fun zero => ⟨rfl, zero⟩⟩
  | some number =>
  rw [numbered] at splits
  dsimp only at splits
  cases resolved : resolve number with
  | none =>
    rw [resolved] at splits
    dsimp only at splits
    rw [pure_eq_ok_iff, Prod.mk.injEq] at splits
    obtain ⟨rfl, rfl⟩ := splits
    exact ⟨drawn, fun zero => ⟨rfl, zero⟩⟩
  | some invoice =>
    rw [resolved] at splits
    dsimp only at splits
    have nonneg := openLeft_nonneg drawn invoice
    generalize (remaining.lookup invoice.documentId).getD _ = openLeft at splits nonneg
    rw [bind_eq_ok_iff] at splits
    obtain ⟨leftOpen, leaves, splits⟩ := splits
    rw [bind_eq_ok_iff] at splits
    obtain ⟨excess, subtracts, splits⟩ := splits
    rw [pure_eq_ok_iff, Prod.mk.injEq] at splits
    rw [Money.checkedSub_eq_ok_iff] at leaves subtracts
    obtain ⟨rfl, rfl⟩ := splits
    constructor
    · rw [List.forall_mem_cons]
      refine ⟨?_, drawn⟩
      split_ifs at leaves
      · dsimp only
        omega
      · dsimp only
        omega
    · intro zero
      have whole : txn.amount.minor ≤ openLeft.minor := by
        omega
      rw [if_pos whole] at subtracts ⊢
      rw [if_pos (Money.isZero_iff.mpr zero)]
      exact ⟨rfl, by dsimp only; omega⟩

theorem post_paymentDocument_iff {config : AuthnetConfig} {batch : SettlementBatch}
    {txn : AuthnetTxn} {resolve : String → Option ResolvedInvoice}
    {remaining left : List (String × Money)} {doc : LedgerDocument}
    (drawn : ∀ entry ∈ remaining, 0 ≤ entry.2.minor)
    (makes : paymentDocument config batch txn resolve remaining = .ok (doc, left)) :
    post doc version config.context = .ok .nonPosting ↔ txn.amount.minor = 0 := by
  unfold paymentDocument at makes
  rw [bind_eq_ok_iff] at makes
  obtain ⟨⟨split, after⟩, splits, isDoc⟩ := makes
  rw [pure_eq_ok_iff, Prod.mk.injEq] at isDoc
  obtain ⟨rfl, -⟩ := isDoc
  rw [post_nonPosting_iff rfl]
  constructor
  · rintro ⟨legs, made, zeros⟩
    change postPayment _ = .ok legs at made
    simp only [postPayment, bind_eq_ok_iff, liftM_money_eq_ok_iff,
      Money.checkedAdd_eq_ok_iff, pure_eq_ok_iff] at made
    obtain ⟨applied, sums, total, adds, -, -, rfl⟩ := made
    have appliedEq := Money.minor_checkedSum sums
    rw [List.map_map] at appliedEq
    have totalZero : total.minor = 0 := by
      refine zeros (debit config.clearing total none none) ?_
      simp
    rw [← splitSale_spec splits, ← totalZero, adds, appliedEq]
    rfl
  · intro zero
    obtain ⟨nothing, noneLeft⟩ := (splitSale_draws drawn splits).2 zero
    have unappliedEq : split.unapplied = Money.zero := Money.ext noneLeft
    refine ⟨[debit config.clearing Money.zero none none], ?_, by simp [debit]⟩
    rw [nothing, unappliedEq]
    rfl

theorem post_transactionDocument_iff {config : AuthnetConfig} {batch : SettlementBatch}
    {txn : AuthnetTxn} {resolve : String → Option ResolvedInvoice}
    {remaining left : List (String × Money)} {doc : LedgerDocument}
    (drawn : ∀ entry ∈ remaining, 0 ≤ entry.2.minor)
    (makes : transactionDocument config batch txn resolve remaining = .ok (doc, left)) :
    post doc version config.context = .ok .nonPosting ↔ txn.amount.minor = 0 := by
  unfold transactionDocument at makes
  cases isKind : txn.kind with
  | sale =>
    rw [isKind] at makes
    exact post_paymentDocument_iff drawn makes
  | refund =>
    rw [isKind] at makes
    dsimp only at makes
    rw [pure_eq_ok_iff, Prod.mk.injEq] at makes
    rw [← makes.1]
    exact post_refundDocument_iff

theorem post_journalDocument_iff {row : AdjustmentRequestRow} :
    post (buildJournalDocument row) version {} = .ok .nonPosting ↔
      ∀ line ∈ row.lines, line.debit.minor = 0 ∧ line.credit.minor = 0 := by
  have builds : postingLegs (buildJournalDocument row) {} =
      postJournalEntry (buildJournalDocument row) :=
    rfl
  rw [post_nonPosting_iff rfl, builds]
  simp only [postJournalEntry_eq_ok_iff]
  have amount_eq_zero (line : JournalLine) :
      (adjustmentDocLine line).amount.minor = 0 ↔
        line.debit.minor = 0 ∧ line.credit.minor = 0 := by
    unfold adjustmentDocLine
    dsimp only
    split_ifs with zero
    · rw [Money.isZero_iff] at zero
      exact ⟨fun credited => ⟨zero, credited⟩, fun both => both.2⟩
    · rw [Money.isZero_iff] at zero
      exact ⟨fun debited => absurd debited zero, fun both => both.1⟩
  constructor
  · rintro ⟨legs, ⟨posts, rfl⟩, zeros⟩ line lineMem
    rw [← amount_eq_zero]
    by_contra notZero
    have docLineMem : adjustmentDocLine line ∈ (buildJournalDocument row).lines :=
      List.mem_map_of_mem lineMem
    have leg : ∃ leg, leg ∈ journalLineLegs (buildJournalDocument row)
        (adjustmentDocLine line) := by
      have skipped : ¬ ((adjustmentDocLine line).kind ≠ .journal ∨
          (adjustmentDocLine line).amount.isZero = true) := by
        rintro (other | zero)
        · exact other rfl
        · exact notZero (Money.isZero_iff.mp zero)
      obtain ⟨account, side, named, sided, -⟩ := posts _ docLineMem rfl notZero
      unfold journalLineLegs
      rw [if_neg skipped, named, sided]
      exact ⟨_, List.mem_singleton_self _⟩
    obtain ⟨leg, legMem⟩ := leg
    exact (plain_journalLineLegs legMem).1
      (zeros leg (List.mem_flatMap.mpr ⟨_, docLineMem, legMem⟩))
  · intro zeros
    have amounts : ∀ docLine ∈ (buildJournalDocument row).lines,
        docLine.amount.minor = 0 := by
      intro docLine docLineMem
      obtain ⟨line, lineMem, rfl⟩ := List.mem_map.mp docLineMem
      exact (amount_eq_zero line).mpr (zeros line lineMem)
    refine ⟨_, ⟨fun docLine docLineMem _ notZero =>
      absurd (amounts docLine docLineMem) notZero, rfl⟩, ?_⟩
    intro leg legMem
    obtain ⟨docLine, docLineMem, legMem⟩ := List.mem_flatMap.mp legMem
    unfold journalLineLegs at legMem
    rw [if_pos (.inr (Money.isZero_iff.mpr (amounts docLine docLineMem)))] at legMem
    exact absurd legMem List.not_mem_nil

theorem total_landLines {arith : DecimalArithmetic} {priced : List PricedLine}
    {start total : Money} {lines : List ReceivedLine}
    (lands : landLines arith priced start = .ok (lines, total)) :
    total.minor = start.minor +
      (priced.map fun line => line.line.baseCost.minor + line.freightAlloc.minor).sum := by
  induction priced generalizing start lines with
  | nil =>
    rw [landLines, pure_eq_ok_iff] at lands
    cases lands
    simp
  | cons line rest ih =>
    simp only [landLines, landLine, bind_eq_ok_iff, pure_eq_ok_iff] at lands
    obtain ⟨⟨received, subtotal⟩, ⟨landed, costs, sum, adds, _, -, _, -, same⟩,
      ⟨others, last⟩, later, ends⟩ := lands
    cases same
    cases ends
    have landedEq := Money.checkedAdd_eq_ok_iff.mp (money_eq_ok_iff.mp costs)
    have sumEq := Money.checkedAdd_eq_ok_iff.mp (money_eq_ok_iff.mp adds)
    have laterEq := ih later
    rw [List.map_cons, List.sum_cons]
    dsimp only at laterEq sumEq ⊢
    omega

theorem amountAbs_eq_zero_iff {line : BankLineRow} {amount : Money}
    (absolute : amountAbs line = .ok amount) :
    amount.minor = 0 ↔ line.amount.minor = 0 := by
  unfold amountAbs at absolute
  split_ifs at absolute
  · rw [mapError_eq_ok_iff, Money.checkedNeg_eq_ok_iff] at absolute
    omega
  · cases absolute
    rfl

theorem kind_ne_settlement {config : AuthnetConfig} {batch : SettlementBatch}
    {txn : AuthnetTxn} {resolve : String → Option ResolvedInvoice}
    {remaining left : List (String × Money)} {doc : LedgerDocument}
    (makes : transactionDocument config batch txn resolve remaining = .ok (doc, left)) :
    doc.kind ≠ .settlement := by
  unfold transactionDocument at makes
  cases isKind : txn.kind with
  | sale =>
    rw [isKind] at makes
    dsimp only at makes
    unfold paymentDocument at makes
    rw [bind_eq_ok_iff] at makes
    obtain ⟨_, -, isDoc⟩ := makes
    rw [pure_eq_ok_iff, Prod.mk.injEq] at isDoc
    rw [← isDoc.1]
    change DocKind.payment ≠ .settlement
    decide
  | refund =>
    rw [isKind] at makes
    dsimp only at makes
    rw [pure_eq_ok_iff, Prod.mk.injEq] at makes
    rw [← makes.1]
    change DocKind.refundReceipt ≠ .settlement
    decide

/-- The document of an accepted call has an entry, or is refused, exactly when
one of its amounts is not zero or the rules refuse it whatever they are. -/
theorem post_ne_nonPosting_iff {call : EntryCall} {doc : LedgerDocument}
    {ctx : PostingContext} {amounts : List ℤ} (builds : Builds call doc ctx amounts)
    (version : ℕ) :
    post doc version ctx ≠ .ok .nonPosting ↔
      (∃ amount ∈ amounts, amount ≠ 0) ∨ call.IsRefused doc.kind := by
  cases builds with
  | receipt prices lands =>
    have total := total_landLines lands
    rw [Money.minor_zero, zero_add] at total
    rw [Ne, post_receiptDocument_iff, total]
    simp [EntryCall.IsRefused]
  | adjustment accepted =>
    rw [Ne, post_adjustmentDocument_iff accepted]
    simp [EntryCall.IsRefused]
  | build prices =>
    rw [Ne, post_buildDocument_iff]
    simp [EntryCall.IsRefused]
    tauto
  | @proposal book lineId account lineClass line statement amount found proposed onStatement
      isOpen absolute =>
      rw [Ne, post_bankLine_iff rfl rfl rfl (.refl (some account)) rfl]
      have sameZero := amountAbs_eq_zero_iff absolute
      simp [EntryCall.IsRefused, sameZero]
      tauto
  | @fee bankAccount fee negatedFee feeClass postedOn settlementEntryId negated =>
    rw [Ne, post_bankLine_iff rfl rfl rfl (.refl (some (acct Chart.merchantFees))) rfl]
    rw [Money.checkedNeg_eq_ok_iff] at negated
    simp [EntryCall.IsRefused, negated]
  | imported groups comes docMem unsaved importedFor =>
    cases importedFor with
    | settlement batchMem =>
      rename_i config _ _ _ _ _
      rw [Ne, post_settlementDocument_iff
        ((groupBatches_spec config groups).2 _ batchMem)]
      simp [EntryCall.IsRefused, settlementDocument]
      tauto
    | transaction batchMem txnMem drawn makes =>
      rw [Ne, post_transactionDocument_iff drawn makes]
      have notSettlement := kind_ne_settlement makes
      simp [EntryCall.IsRefused, notSettlement]
  | approved =>
    rw [Ne, post_journalDocument_iff]
    simp only [EntryCall.IsRefused, or_false, List.mem_flatMap, List.mem_cons,
      List.not_mem_nil]
    constructor
    · intro moves
      by_contra allZero
      apply moves
      intro line lineMem
      by_contra moved
      rcases not_and_or.mp moved with debited | credited
      · exact allZero ⟨_, ⟨line, lineMem, .inl rfl⟩, debited⟩
      · exact allZero ⟨_, ⟨line, lineMem, .inr rfl⟩, credited⟩
    · rintro ⟨amount, ⟨line, lineMem, rfl | rfl⟩, notZero⟩ zeros
      · exact notZero (zeros line lineMem).1
      · exact notZero (zeros line lineMem).2

end Calls

section Examples

open ShopFloor

/-- A count of raw material that is off by an amount. -/
def countOff (amount : Money) : NewAdjustment where
  account := Chart.inventoryRaw
  amount
  «class» := ⟨"foam"⟩
  adjustedOn := ⟨2026, 6, 30, Eq.refl true⟩
  reason := "cycle count"

theorem countOff_five_posts :
    post (adjustmentDocument "adj-1" (countOff (.fromMinor 500))) 1 {} ≠ .ok .nonPosting :=
  (post_ne_nonPosting_iff (.adjustment rfl) 1).mpr (.inl ⟨500, by simp [countOff]⟩)

/-- A count that is off by nothing is accepted and posts nothing, and the call
that posts it ends in its unreachable branch. -/
theorem countOff_zero_reaches_unreachable :
    (¬ ∀ call doc ctx amounts version, Builds call doc ctx amounts →
      post doc version ctx ≠ .ok .nonPosting) ∧
    (execute (ShopFloor.adjustInventory "adj-1" (countOff Money.zero))
      (Ledger.createCompany "aquamentor")).1 = .error (.ledger postedNothing) := by
  constructor
  · intro always
    exact always _ _ _ _ 1 (@Builds.adjustment "adj-1"
      (countOff Money.zero) rfl) rfl
  · decide +kernel

end Examples

end QuickBooks
