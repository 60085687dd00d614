import QuickBooks.AdjustmentQueue
import QuickBooks.ClassAgreement
import QuickBooks.ProcessedDocuments

/-!
# What an approved adjustment posts

The check on a proposal takes the accounts of the 7xxx band for balance-sheet
accounts, where the posting rules and the store ask for a class, so exactly
the proposals that touch the band cannot be posted on an open date.  Any other
posts its lines without their taxability, so it posts what was proposed
exactly when the taxable amounts of each key cancel out.
-/

namespace QuickBooks

open ExceptPrograms KeyedTotals TransactionPrograms
open Ledger

section Proposals

def IsOtherAccount (account : AccountId) : Prop :=
  account.number.toList.head? = some '7'

instance (account : AccountId) : Decidable (IsOtherAccount account) :=
  inferInstanceAs (Decidable (_ = _))

/-- What the check on a proposal asks of its lines. -/
structure Ledger.Proposable (ledger : Ledger) (lines : List JournalLine) : Prop where
  balanced : (probeEntry lines).isBalanced = true
  accountKnown : ∀ line ∈ lines, ∃ row ∈ ledger.accounts, row.accountId = line.account
  classKnown : ∀ line ∈ lines, ∀ «class», line.class = some «class» →
    ∃ row ∈ ledger.classes, row.classId = «class»
  classed : ∀ line ∈ lines,
    line.class.isSome = (requiresClass line.account && !decide (IsOtherAccount line.account))

theorem proposalNeedsClass_eq {account : Account}
    (number : account.number = account.accountId.number) :
    proposalNeedsClass account = (requiresClass account.accountId &&
      !decide (IsOtherAccount account.accountId)) := by
  unfold proposalNeedsClass requiresClass
  rw [number]
  by_cases isOther : IsOtherAccount account.accountId
  · have starts : account.accountId.number.toList.head? = some '7' := isOther
    simp [isOther, starts]
  · have starts : account.accountId.number.toList.head? ≠ some '7' := isOther
    simp only [isOther, decide_false, Bool.not_false, Bool.and_true]
    split <;> simp_all

theorem validateLine_eq_ok_iff {ledger : Ledger} (wellFormed : ledger.WellFormed)
    {line : JournalLine} :
    validateLine ledger line = .ok () ↔
      (∃ row ∈ ledger.accounts, row.accountId = line.account) ∧
        (∀ «class», line.class = some «class» →
          ∃ row ∈ ledger.classes, row.classId = «class») ∧
        line.class.isSome =
          (requiresClass line.account && !decide (IsOtherAccount line.account)) := by
  unfold validateLine
  rw [bind_eq_ok_iff]
  simp only [orRefuse_eq_ok_iff, check_bind_eq_ok_iff, ensure_eq_ok_iff]
  constructor
  · rintro ⟨account, found, classes, missing, unexpected⟩
    obtain ⟨accountMem, sameId⟩ := accountRow_eq_some found
    have needs := proposalNeedsClass_eq (wellFormed.accountNumbers account accountMem)
    rw [sameId] at needs
    refine ⟨⟨account, accountMem, sameId⟩, ?_, ?_⟩
    · intro «class» carries
      simpa [carries, classExists] using classes
    · rw [← needs]
      revert missing unexpected
      cases proposalNeedsClass account <;> cases line.class <;> simp
  · rintro ⟨⟨row, rowMem, sameId⟩, classes, classed⟩
    obtain ⟨account, found⟩ := accountRow_isSome rowMem
    rw [sameId] at found
    obtain ⟨accountMem, sameAccount⟩ := accountRow_eq_some found
    have needs := proposalNeedsClass_eq (wellFormed.accountNumbers account accountMem)
    rw [sameAccount, ← classed] at needs
    refine ⟨account, found, ?_, ?_, ?_⟩
    · cases carries : line.class with
      | none => rfl
      | some «class» => simpa [carries, classExists] using classes «class» carries
    · rw [needs]
      cases line.class <;> rfl
    · rw [needs]
      cases line.class <;> rfl

theorem validateLines_eq_ok_iff {ledger : Ledger} (wellFormed : ledger.WellFormed)
    {lines : List JournalLine} :
    validateLines ledger lines = .ok () ↔ ledger.Proposable lines := by
  unfold validateLines
  simp only [check_bind_eq_ok_iff, ensure_eq_ok_iff, forM_eq_ok_iff,
    validateLine_eq_ok_iff wellFormed]
  constructor
  · rintro ⟨-, balanced, lineChecks⟩
    exact ⟨balanced, fun line lineMem => (lineChecks line lineMem).1,
      fun line lineMem => (lineChecks line lineMem).2.1,
      fun line lineMem => (lineChecks line lineMem).2.2⟩
  · rintro ⟨balanced, accounts, classes, classed⟩
    refine ⟨?_, balanced, fun line lineMem =>
      ⟨accounts line lineMem, classes line lineMem, classed line lineMem⟩⟩
    have nonempty := (JournalEntry.isBalanced_spec balanced).1
    simpa [probeEntry] using nonempty

theorem Ledger.Write.proposable {kind : WriteKind} {before after : Ledger}
    (write : Write kind before after) {lines : List JournalLine}
    (proposable : before.Proposable lines) : after.Proposable lines := by
  cases write with
  | masterData change =>
    refine ⟨proposable.balanced, fun line lineMem => ?_, fun line lineMem «class» carries => ?_,
      proposable.classed⟩
    · obtain ⟨row, rowMem, sameId⟩ := proposable.accountKnown line lineMem
      obtain ⟨kept, keptMem, keptId⟩ := change.accountsKept row rowMem
      exact ⟨kept, keptMem, keptId.trans sameId⟩
    · obtain ⟨row, rowMem, sameId⟩ := proposable.classKnown line lineMem «class» carries
      obtain ⟨kept, keptMem, keptId⟩ := change.classesKept row rowMem
      exact ⟨kept, keptMem, keptId.trans sameId⟩
  | version | derivedEntry | suppliedEntry | liveReversal | strayReversal | snapshot | close
  | reopen =>
    exact ⟨proposable.balanced, proposable.accountKnown, proposable.classKnown,
      proposable.classed⟩

theorem Ledger.Proposable.after {ledger : Ledger} {lines : List JournalLine}
    (proposable : ledger.Proposable lines) (wellFormed : ledger.WellFormed)
    (operations : List Operation) : (ledger.after operations).Proposable lines :=
  after_keeps wellFormed Set.univ
    (TransitionRuns.everyStep_of_forall fun _ _ _ => Set.subset_univ _)
    (fun later => later.Proposable lines) (fun _ _ _ _ _ write holds => write.proposable holds)
    proposable

end Proposals

section Postings

/-- The leg that a proposed line is posted as. -/
def adjustmentLeg (line : JournalLine) : Leg where
  account := line.account
  «class» := line.class
  entity := line.entity
  side := if line.debit.isZero then .credit else .debit
  amount := if line.debit.isZero then line.credit else line.debit

theorem sideOk_of_proposable {ledger : Ledger} {lines : List JournalLine}
    (proposable : ledger.Proposable lines) :
    ∀ line ∈ lines, JournalEntry.sideOk line = true :=
  (JournalEntry.isBalanced_spec proposable.balanced).2.1

theorem adjustmentLeg_net {line : JournalLine} (side : JournalEntry.sideOk line = true) :
    (adjustmentLeg line).net = line.net := by
  rw [JournalEntry.sideOk_iff] at side
  unfold adjustmentLeg Leg.net JournalLine.net
  by_cases isZero : line.debit.isZero = true
  · rw [Money.isZero_iff] at isZero
    simp [isZero]
  · rw [Money.isZero_iff] at isZero
    simp [isZero]
    omega

theorem adjustmentLeg_plain {line : JournalLine} (side : JournalEntry.sideOk line = true) :
    PlainLeg (adjustmentLeg line) := by
  rw [JournalEntry.sideOk_iff] at side
  refine ⟨?_, rfl⟩
  unfold adjustmentLeg
  by_cases isZero : line.debit.isZero = true
  · simp only [isZero, if_true]
    rw [Money.isZero_iff] at isZero
    omega
  · simp only [isZero, Bool.false_eq_true, if_false]
    rw [Money.isZero_iff] at isZero
    omega

theorem legTotal_adjustmentLegs (selects : PostingKey → Prop) [DecidablePred selects]
    {lines : List JournalLine} (sides : ∀ line ∈ lines, JournalEntry.sideOk line = true) :
    legTotal selects (lines.map adjustmentLeg) = lineTotal selects lines := by
  induction lines with
  | nil => rfl
  | cons line lines ih =>
    have rest := ih fun other otherMem => sides other (List.mem_cons_of_mem _ otherMem)
    rw [List.map_cons, legTotal_cons, lineTotal_cons, rest,
      adjustmentLeg_net (sides line List.mem_cons_self)]
    rfl

theorem sideTotal_adjustmentLegs {lines : List JournalLine}
    (sides : ∀ line ∈ lines, JournalEntry.sideOk line = true) :
    sideTotal .debit (lines.map adjustmentLeg) =
        (lines.map fun line => line.debit.minor).sum ∧
      sideTotal .credit (lines.map adjustmentLeg) =
        (lines.map fun line => line.credit.minor).sum := by
  induction lines with
  | nil => exact ⟨rfl, rfl⟩
  | cons line lines ih =>
    obtain ⟨debits, credits⟩ := ih fun other otherMem =>
      sides other (List.mem_cons_of_mem _ otherMem)
    have side := sides line List.mem_cons_self
    rw [JournalEntry.sideOk_iff] at side
    simp only [List.map_cons, sideTotal_cons, List.sum_cons, debits, credits]
    unfold adjustmentLeg
    by_cases isZero : line.debit.isZero = true
    · rw [Money.isZero_iff] at isZero
      simp [isZero]
    · rw [Money.isZero_iff] at isZero
      simp [isZero]
      omega

variable {ledger : Ledger} {row : AdjustmentRequestRow}
  (proposable : ledger.Proposable row.lines)
include proposable

theorem journalLeg_adjustmentDocLine {line : JournalLine} (lineMem : line ∈ row.lines)
    (legs : List Leg) :
    journalLeg (buildJournalDocument row) legs (adjustmentDocLine line) =
      if IsOtherAccount line.account then .error (.missingClass line.lineNo)
      else .ok (legs ++ [adjustmentLeg line]) := by
  have plain := adjustmentLeg_plain (sideOk_of_proposable proposable line lineMem)
  have classed := proposable.classed line lineMem
  have notSkipped : ¬((adjustmentDocLine line).kind ≠ .journal ∨
      (adjustmentDocLine line).amount.isZero = true) := by
    rw [Money.isZero_iff]
    rintro (otherKind | isZero)
    · exact otherKind rfl
    · exact plain.1.ne' isZero
  have reduces : journalLeg (buildJournalDocument row) legs (adjustmentDocLine line) =
      classFor (adjustmentDocLine line) none none line.account >>= fun «class» =>
        pure (legs ++ [{ adjustmentLeg line with «class» }]) := by
    unfold journalLeg
    rw [if_neg notSkipped]
    rfl
  rw [reduces]
  by_cases isOther : IsOtherAccount line.account
  · have starts : line.account.number.toList.head? = some '7' := isOther
    have noClass : line.class = none := by simpa [isOther] using classed
    have refuses : classFor (adjustmentDocLine line) none none line.account =
        .error (.missingClass line.lineNo) := by
      simp [classFor, requiresClass, starts, resolveClass, adjustmentDocLine, noClass]
      rfl
    rw [if_pos isOther, refuses]
    rfl
  · have resolves : classFor (adjustmentDocLine line) none none line.account =
        .ok line.class := by
      simp only [isOther, decide_false, Bool.not_false, Bool.and_true] at classed
      unfold classFor
      cases carries : line.class with
      | none =>
        rw [carries, Option.isSome_none] at classed
        simp [← classed]
        rfl
      | some «class» =>
        rw [carries, Option.isSome_some] at classed
        simp [← classed, resolveClass, adjustmentDocLine, carries]
        rfl
    rw [if_neg isOther, resolves]
    rfl

theorem foldlM_journalLeg {lines : List JournalLine} (included : lines ⊆ row.lines)
    (noOther : ∀ line ∈ lines, ¬IsOtherAccount line.account) (legs : List Leg) :
    (lines.map adjustmentDocLine).foldlM (journalLeg (buildJournalDocument row)) legs =
      .ok (legs ++ lines.map adjustmentLeg) := by
  induction lines generalizing legs with
  | nil => simp [pure_eq_ok_iff]
  | cons line lines ih =>
    have rest := ih (fun _ otherMem => included (List.mem_cons_of_mem _ otherMem))
      (fun other otherMem => noOther other (List.mem_cons_of_mem _ otherMem))
      (legs ++ [adjustmentLeg line])
    rw [List.map_cons, List.foldlM_cons, journalLeg_adjustmentDocLine proposable
      (included List.mem_cons_self), if_neg (noOther line List.mem_cons_self)]
    rw [List.append_assoc] at rest
    exact rest

theorem foldlM_journalLeg_of_other {lines : List JournalLine} (included : lines ⊆ row.lines)
    (other : ∃ line ∈ lines, IsOtherAccount line.account) (legs : List Leg) :
    ∃ failure, (lines.map adjustmentDocLine).foldlM
      (journalLeg (buildJournalDocument row)) legs = .error failure := by
  induction lines generalizing legs with
  | nil =>
    obtain ⟨line, lineMem, -⟩ := other
    cases lineMem
  | cons line lines ih =>
    rw [List.map_cons, List.foldlM_cons, journalLeg_adjustmentDocLine proposable
      (included List.mem_cons_self)]
    by_cases isOther : IsOtherAccount line.account
    · rw [if_pos isOther]
      exact ⟨_, rfl⟩
    · rw [if_neg isOther]
      obtain ⟨found, foundMem, foundOther⟩ := other
      rcases List.mem_cons.mp foundMem with rfl | later
      · exact absurd foundOther isOther
      · exact ih (fun _ otherMem => included (List.mem_cons_of_mem _ otherMem))
          ⟨found, later, foundOther⟩ _

theorem post_adjustment (noOther : ∀ line ∈ row.lines, ¬IsOtherAccount line.account)
    (version : Nat) :
    ∃ entry, post (buildJournalDocument row) version {} = .ok (.entry entry) ∧
      entry.isBalanced = true ∧
      (∀ line ∈ entry.lines, line.isTaxable = false ∧
        ∃ proposed ∈ row.lines, proposed.key = line.key) ∧
      ∀ (selects : PostingKey → Prop) [DecidablePred selects],
        lineTotal selects entry.lines = lineTotal selects row.lines := by
  have sides := sideOk_of_proposable proposable
  obtain ⟨nonempty, -, sameTotal, fits⟩ := JournalEntry.isBalanced_iff.mp proposable.balanced
  simp only [probeEntry] at nonempty sameTotal fits
  obtain ⟨debits, credits⟩ := sideTotal_adjustmentLegs sides
  have legsPlain : ∀ leg ∈ row.lines.map adjustmentLeg, PlainLeg leg := by
    intro leg legMem
    obtain ⟨line, lineMem, rfl⟩ := List.mem_map.mp legMem
    exact adjustmentLeg_plain (sides line lineMem)
  have sidesFit : ∀ side, sideTotal side (row.lines.map adjustmentLeg) ≤
      9223372036854775807 := by
    intro side
    cases side
    · exact debits ▸ fits
    · exact credits ▸ sameTotal ▸ fits
  obtain ⟨lines, merges, lineDebits, lineCredits⟩ := exists_mergeLegs legsPlain sidesFit
  have legs : postingLegs (buildJournalDocument row) {} = .ok (row.lines.map adjustmentLeg) :=
    foldlM_journalLeg proposable (List.Subset.refl _) noOther []
  have linesSided := (mergeLegs_wellFormed merges).1
  have linesNonempty : lines ≠ [] := by
    rintro rfl
    obtain ⟨line, rest, linesEq⟩ := List.exists_cons_of_ne_nil nonempty
    have positive := (legsPlain _ (List.mem_map_of_mem (linesEq ▸ List.mem_cons_self))).1
    have restNonneg := sideTotal_nonneg fun leg (legMem : leg ∈ rest.map adjustmentLeg) =>
      legsPlain leg (by rw [linesEq]; exact List.mem_cons_of_mem _ legMem)
    have noDebits : sideTotal .debit (row.lines.map adjustmentLeg) = 0 := lineDebits.symm
    have noCredits : sideTotal .credit (row.lines.map adjustmentLeg) = 0 := lineCredits.symm
    rw [linesEq, List.map_cons, sideTotal_cons] at noDebits noCredits
    have restDebits := restNonneg .debit
    have restCredits := restNonneg .credit
    cases sideEq : (adjustmentLeg line).side <;> simp only [sideEq] at noDebits noCredits
    · simp at noDebits
      omega
    · simp at noCredits
      omega
  let entry : JournalEntry :=
    { entryDate := row.requestedAt.day
      memo := some row.description
      sourceType := .journalEntry
      sourceId := adjustmentDocumentId row.requestId
      sourceVersion := version
      reversalOf := none
      isFlagged := true
      lines }
  have balanced : entry.isBalanced = true := by
    refine JournalEntry.isBalanced_iff.mpr ⟨linesNonempty, fun line lineMem => ?_, ?_, ?_⟩
    · exact JournalEntry.sideOk_iff.mpr (linesSided line lineMem)
    · exact lineDebits.trans (debits.trans (sameTotal.trans (credits.symm.trans lineCredits.symm)))
    · exact (lineDebits.trans debits).trans_le fits
  refine ⟨entry, ?_, balanced, fun line lineMem => ?_, ?_⟩
  · unfold post
    rw [if_neg (by simp [buildJournalDocument, DocKind.posts, DocKind.isContract]), legs]
    change (finalize (buildJournalDocument row) version (row.lines.map adjustmentLeg) true >>= _) = _
    unfold finalize
    rw [merges]
    change (if entry.lines.isEmpty then _ else if true && !entry.isBalanced then _ else _) = _
    rw [balanced, if_neg (by simpa [entry] using linesNonempty)]
    rfl
  · obtain ⟨leg, legMem, sameKey, sameTaxable⟩ := mergeLegs_from_legs merges line lineMem
    obtain ⟨proposed, proposedMem, rfl⟩ := List.mem_map.mp legMem
    exact ⟨sameTaxable.symm, proposed, proposedMem, sameKey⟩
  · intro selects _
    exact (lineTotal_mergeLegs selects merges).trans (legTotal_adjustmentLegs selects sides)

theorem post_adjustment_of_other (other : ∃ line ∈ row.lines, IsOtherAccount line.account)
    (version : Nat) :
    ∃ failure, post (buildJournalDocument row) version {} = .error failure := by
  obtain ⟨failure, refuses⟩ :=
    foldlM_journalLeg_of_other proposable (List.Subset.refl _) other []
  have legs : postingLegs (buildJournalDocument row) {} = .error failure := refuses
  refine ⟨failure, ?_⟩
  unfold post
  rw [if_neg (by simp [buildJournalDocument, DocKind.posts, DocKind.isContract]), legs]
  rfl

theorem classRule_of_post_adjustment (wellFormed : ledger.WellFormed) {version : Nat}
    {entry : JournalEntry}
    (posts : post (buildJournalDocument row) version {} = .ok (.entry entry))
    (proposedLines : ∀ line ∈ entry.lines, ∃ proposed ∈ row.lines, proposed.key = line.key) :
    ∀ line ∈ entry.lines, ledger.checkClassRule line = .ok () := by
  obtain ⟨legs, lines, derivation⟩ := post_eq_entry posts
  have names : NamesBalanceSheet (buildJournalDocument row) {} := by
    constructor <;> simp [buildJournalDocument] <;> decide
  intro line lineMem
  obtain ⟨proposed, proposedMem, sameKey⟩ := proposedLines line lineMem
  have sameAccount : proposed.account = line.account := congrArg PostingKey.account sameKey
  have sameClass : proposed.class = line.class := congrArg PostingKey.class sameKey
  rw [wellFormed.checkClassRule_of_classed (derivation.classed names line lineMem),
    ← sameAccount, ← sameClass]
  exact ⟨proposable.accountKnown proposed proposedMem, proposable.classKnown proposed proposedMem⟩

theorem reposts_adjustment_iff (wellFormed : ledger.WellFormed) :
    (∃ entry, ledger.Reposts (buildJournalDocument row) {} (.entry entry)) ↔
      ledger.IsOpen row.requestedAt.day ∧ ∀ line ∈ row.lines, ¬IsOtherAccount line.account := by
  constructor
  · rintro ⟨entry, reposts⟩
    have dateOpen := (reposts.takes entry rfl).dateOpen
    rw [(post_entry_source reposts.posts).2.2.2] at dateOpen
    refine ⟨dateOpen, fun line lineMem isOther => ?_⟩
    obtain ⟨failure, refuses⟩ :=
      post_adjustment_of_other proposable ⟨line, lineMem, isOther⟩ _
    cases refuses.symm.trans reposts.posts
  · rintro ⟨dateOpen, noOther⟩
    obtain ⟨entry, posts, balanced, lines, -⟩ := post_adjustment proposable noOther
      (ledger.previousVersion (buildJournalDocument row).documentId + 1)
    refine ⟨entry, posts, fun derived isEntry => ?_⟩
    cases isEntry
    refine ⟨?_, balanced, ?_⟩
    · rw [(post_entry_source posts).2.2.2]
      exact dateOpen
    · exact classRule_of_post_adjustment proposable wellFormed posts
        fun line lineMem => (lines line lineMem).2

end Postings

section Deciding

namespace AccountantBook

variable {book : AccountantBook} {requestId : String} {row : AdjustmentRequestRow}

theorem adjustmentRequest_eq_some (found : book.adjustmentRequest requestId = some row) :
    row ∈ book.requests ∧ row.requestId = requestId :=
  ⟨List.mem_of_find?_eq_some found, by simpa using List.find?_some found⟩

theorem adjustmentRequest_addRequest
    (fresh : row.requestId ∉ book.requests.map AdjustmentRequestRow.requestId) :
    (book.addRequest row fresh).adjustmentRequest row.requestId = some row := by
  have missing : book.requests.find? (fun other => other.requestId = row.requestId) = none := by
    rw [List.find?_eq_none]
    intro other otherMem sameId
    exact fresh (List.mem_map.mpr ⟨other, otherMem, by simpa using sameId⟩)
  unfold adjustmentRequest addRequest
  rw [List.find?_append, missing]
  simp

theorem adjustmentRequest_recordDecision (decidedBy : String) (decidedAt : Timestamp)
    (note : String) (newState : AdjustmentState) (postedEntryId : Option Nat)
    (found : book.adjustmentRequest requestId = some row) :
    (book.recordDecision requestId decidedBy decidedAt note newState
        postedEntryId).adjustmentRequest requestId =
      some { row with
        state := newState
        decidedBy := some decidedBy
        decidedAt := some decidedAt
        decisionNote := some note
        postedEntryId } := by
  have sameId := (adjustmentRequest_eq_some found).2
  unfold adjustmentRequest at found ⊢
  unfold recordDecision
  have keepsId : (fun other : AdjustmentRequestRow => decide (other.requestId = requestId)) ∘
      (fun other => if other.requestId = requestId then
        { other with
          state := newState
          decidedBy := some decidedBy
          decidedAt := some decidedAt
          decisionNote := some note
          postedEntryId }
        else other) = fun other => decide (other.requestId = requestId) := by
    ext other
    dsimp only [Function.comp_apply]
    split_ifs <;> rfl
  rw [List.find?_map, keepsId, found, Option.map_some, if_pos sameId]

end AccountantBook

/-- The ways in which a decision goes, with the book that each leaves. -/
inductive Deciding (requestId decidedBy : String) (approve : Bool) (note : String)
    (now : Timestamp) (book : AccountantBook) :
    Except AccountantError AdjustmentRequest × AccountantBook → Prop
  | unknown (missing : book.adjustmentRequest requestId = none) :
      Deciding requestId decidedBy approve note now book (.error .notFound, book)
  | decided {row : AdjustmentRequestRow}
      (found : book.adjustmentRequest requestId = some row) (decided : row.state ≠ .proposed) :
      Deciding requestId decidedBy approve note now book
        (.error (.alreadyDecided requestId), book)
  | rejected {row : AdjustmentRequestRow} {request : AdjustmentRequest}
      (found : book.adjustmentRequest requestId = some row) (proposed : row.state = .proposed)
      (rejects : approve = false) :
      Deciding requestId decidedBy approve note now book
        (.ok request, book.recordDecision requestId decidedBy now note .rejected none)
  | posted {row : AdjustmentRequestRow} {entry : JournalEntry} {request : AdjustmentRequest}
      (found : book.adjustmentRequest requestId = some row) (proposed : row.state = .proposed)
      (approves : approve = true)
      (reposts : book.ledger.Reposts (buildJournalDocument row) {} (.entry entry))
      (answers : request.postedEntryId = some book.ledger.nextEntryId) :
      Deciding requestId decidedBy approve note now book
        (.ok request, (book.setLedger ((book.ledger.recordVersion (buildJournalDocument row)
            ⟨decidedBy, "approve_adjustment"⟩).recordEntry entry)).recordDecision requestId
          decidedBy now note .posted (some book.ledger.nextEntryId))
  | stranded {row : AdjustmentRequestRow} {failure : AccountantError}
      (found : book.adjustmentRequest requestId = some row) (proposed : row.state = .proposed)
      (approves : approve = true)
      (refused : ¬∃ entry, book.ledger.Reposts (buildJournalDocument row) {} (.entry entry)) :
      Deciding requestId decidedBy approve note now book
        (.error failure, book.setLedger (book.ledger.recordVersion (buildJournalDocument row)
          ⟨decidedBy, "approve_adjustment"⟩))

theorem execute_decideAdjustmentRequest (requestId decidedBy : String)
    (decidedAt : Timestamp) (note : String) (newState : AdjustmentState)
    (postedEntryId : Option Nat) (book : AccountantBook) :
    execute (decideAdjustmentRequest requestId decidedBy decidedAt note newState postedEntryId)
        book =
      (.ok (), book.recordDecision requestId decidedBy decidedAt note newState postedEntryId) :=
  rfl

theorem execute_answer {requestId : String} {book : AccountantBook}
    {updated : AdjustmentRequestRow} (found : book.adjustmentRequest requestId = some updated) :
    execute (do
      let book ← get
      let updated ← MonadExcept.ofExcept
        (orRefuse .notFound (book.adjustmentRequest requestId))
      return rowToRequest book.ledger updated : AccountantProgram AdjustmentRequest) book =
      (.ok (rowToRequest book.ledger updated), book) := by
  rw [execute_bind_ok _ (execute_get book), found]
  rfl

theorem deciding (requestId decidedBy : String) (approve : Bool) (note : String)
    (now : Timestamp) (book : AccountantBook) :
    Deciding requestId decidedBy approve note now book
      (execute (decideAdjustment requestId decidedBy approve note now) book) := by
  unfold decideAdjustment
  rw [execute_bind_ok _ (execute_get book)]
  cases found : book.adjustmentRequest requestId with
  | none => exact .unknown found
  | some row =>
    rw [execute_bind_ok _ (show execute (MonadExcept.ofExcept (orRefuse .notFound (some row)) :
      AccountantProgram AdjustmentRequestRow) book = (.ok row, book) from rfl)]
    by_cases proposed : row.state = .proposed
    · have passes : execute (MonadExcept.ofExcept (ensure (row.state = .proposed)
          (.alreadyDecided requestId)) : AccountantProgram Unit) book = (.ok (), book) := by
        rw [execute_ofExcept, ensure_eq_ok_iff.mpr (decide_eq_true proposed)]
      rw [execute_bind_ok _ passes]
      cases approve with
      | false =>
        have updates := AccountantBook.adjustmentRequest_recordDecision decidedBy now note
          .rejected none found
        have answers := execute_answer updates
        rw [if_neg (by decide), execute_bind_ok _
          (execute_decideAdjustmentRequest _ _ _ _ _ _ _)]
        dsimp only
        rw [answers]
        exact .rejected found proposed rfl
      | true =>
        rw [if_pos rfl]
        by_cases taken : ∃ entry,
            book.ledger.Reposts (buildJournalDocument row) {} (.entry entry)
        · obtain ⟨entry, reposts⟩ := taken
          have posts := execute_saveThenPostEntry_of_reposts
            ⟨decidedBy, "approve_adjustment"⟩ reposts
          have posted : execute (onLedger (approveAdjustment (buildJournalDocument row)
              decidedBy)) book = (.ok book.ledger.nextEntryId,
                book.setLedger ((book.ledger.recordVersion (buildJournalDocument row)
                  ⟨decidedBy, "approve_adjustment"⟩).recordEntry entry)) := by
            unfold onLedger approveAdjustment
            rw [execute_refusingWith, execute_onPart, posts]
            rfl
          have updates := AccountantBook.adjustmentRequest_recordDecision decidedBy now note
            .posted (some book.ledger.nextEntryId)
            (show (book.setLedger ((book.ledger.recordVersion (buildJournalDocument row)
              ⟨decidedBy, "approve_adjustment"⟩).recordEntry entry)).adjustmentRequest
                requestId = some row from found)
          have answers := execute_answer updates
          rw [execute_bind_ok _ posted, execute_bind_ok _
          (execute_decideAdjustmentRequest _ _ _ _ _ _ _)]
          dsimp only
          rw [answers]
          exact .posted found proposed rfl reposts rfl
        · obtain ⟨failure, refuses⟩ := execute_saveThenPostEntry_of_refused
            ⟨decidedBy, "approve_adjustment"⟩ taken
          have refused : execute (onLedger (approveAdjustment (buildJournalDocument row)
              decidedBy)) book = (.error (.ofLedger failure),
                book.setLedger (book.ledger.recordVersion (buildJournalDocument row)
                  ⟨decidedBy, "approve_adjustment"⟩)) := by
            unfold onLedger approveAdjustment
            rw [execute_refusingWith, execute_onPart, refuses]
            rfl
          rw [execute_bind_error _ refused]
          exact .stranded found proposed rfl taken
    · have refuses : execute (MonadExcept.ofExcept (ensure (row.state = .proposed)
          (.alreadyDecided requestId)) : AccountantProgram Unit) book =
            (.error (.alreadyDecided requestId), book) := by
        rw [decide_eq_false proposed]
        rfl
      rw [execute_bind_error _ refuses]
      exact .decided found proposed

end Deciding

section Proposing

/-- A proposal is refused, or stored as it was made. -/
inductive Proposing (requestId : String) (lines : List JournalLine) (now : Timestamp)
    (book : AccountantBook) : Except AccountantError AdjustmentRequest × AccountantBook → Prop
  | refused {failure : AccountantError} :
      Proposing requestId lines now book (.error failure, book)
  | stored {row : AdjustmentRequestRow} {request : AdjustmentRequest}
      (fresh : row.requestId ∉ book.requests.map AdjustmentRequestRow.requestId)
      (sameId : row.requestId = requestId) (sameLines : row.lines = lines)
      (sameTime : row.requestedAt = now) (proposed : row.state = .proposed)
      (valid : validateLines book.ledger lines = .ok ()) :
      Proposing requestId lines now book (.ok request, book.addRequest row fresh)

theorem proposing (requestId requestedBy description : String) (lines : List JournalLine)
    (now : Timestamp) (book : AccountantBook) :
    Proposing requestId lines now book
      (execute (proposeAdjustment requestId requestedBy description lines now) book) := by
  unfold proposeAdjustment
  rw [execute_bind_ok _ (execute_get book), execute_bind, execute_ofExcept]
  cases checks : validateLines book.ledger lines with
  | error failure => exact .refused
  | ok _ =>
    dsimp only
    unfold insertAdjustmentRequest
    rw [execute_bind, execute_bind_ok _ (execute_get book)]
    by_cases known : requestId ∈ book.requests.map AdjustmentRequestRow.requestId
    · rw [dif_pos known]
      exact .refused
    · rw [dif_neg known]
      exact .stored known rfl rfl rfl rfl checks

theorem execute_proposeAdjustment_eq_ok {requestId requestedBy description : String}
    {lines : List JournalLine} {now : Timestamp} {book queued : AccountantBook}
    {request : AdjustmentRequest}
    (accepted : execute (proposeAdjustment requestId requestedBy description lines now) book =
      (.ok request, queued)) :
    validateLines book.ledger lines = .ok () ∧ queued.ledger = book.ledger ∧
      ∃ row, queued.adjustmentRequest requestId = some row ∧ row.state = .proposed ∧
        row.lines = lines ∧ row.requestedAt = now := by
  have outcome := proposing requestId requestedBy description lines now book
  rw [accepted] at outcome
  cases outcome with
  | stored fresh sameId sameLines sameTime proposed valid =>
    have found := AccountantBook.adjustmentRequest_addRequest fresh
    rw [sameId] at found
    exact ⟨valid, rfl, _, found, proposed, sameLines, sameTime⟩

end Proposing

section Nets

def lineNet (key : PostingKey) (isTaxable : Bool) (lines : List JournalLine) : Int :=
  total (fun line : JournalLine => line.key = key ∧ line.isTaxable = isTaxable)
    JournalLine.net lines

theorem lineNet_add (key : PostingKey) (lines : List JournalLine) :
    lineNet key true lines + lineNet key false lines = lineTotal (· = key) lines := by
  induction lines with
  | nil => rfl
  | cons line lines ih =>
    unfold lineNet at ih ⊢
    rw [total_cons, total_cons, lineTotal_cons, ← ih]
    cases line.isTaxable <;> simp <;> omega

theorem lineNet_of_untaxed {key : PostingKey} {lines : List JournalLine}
    (untaxed : ∀ line ∈ lines, line.isTaxable = false) : lineNet key true lines = 0 := by
  apply total_eq_zero
  rintro line lineMem ⟨-, isTaxable⟩
  rw [untaxed line lineMem] at isTaxable
  cases isTaxable

end Nets

/-- A proposal that was accepted, and is approved on an open date after
whatever else happened, is posted with exactly the proposed net amounts if and
only if it leaves the 7xxx band alone and its taxable amounts cancel out on
each key. -/
theorem approved_adjustment_posts_proposal_iff {book queued later : AccountantBook}
    (reachable : Reachable book.ledger) {requestId requestedBy description : String}
    {lines : List JournalLine} {now : Timestamp} {request : AdjustmentRequest}
    (accepted : execute (proposeAdjustment requestId requestedBy description lines now) book =
      (.ok request, queued))
    (operations : List Operation) (laterLedger : later.ledger = queued.ledger.after operations)
    (undecided : later.adjustmentRequest requestId = queued.adjustmentRequest requestId)
    (dateOpen : later.ledger.IsOpen now.day) (decidedBy note : String)
    (decidedAt : Timestamp) :
    (∃ decided after entryId entry,
        execute (decideAdjustment requestId decidedBy true note decidedAt) later =
          (.ok decided, after) ∧
        decided.postedEntryId = some entryId ∧ after.ledger.entry? entryId = some entry ∧
        ∀ key isTaxable, lineNet key isTaxable entry.lines = lineNet key isTaxable lines) ↔
      (∀ line ∈ lines, ¬IsOtherAccount line.account) ∧
        ∀ key, lineNet key true lines = 0 := by
  obtain ⟨valid, sameLedger, row, stored, proposed, rfl, rfl⟩ :=
    execute_proposeAdjustment_eq_ok accepted
  have wellFormed := reachable.wellFormed
  have proposable : later.ledger.Proposable row.lines := by
    rw [laterLedger, sameLedger]
    exact ((validateLines_eq_ok_iff wellFormed).mp valid).after wellFormed operations
  have laterWellFormed : later.ledger.WellFormed := by
    rw [laterLedger, sameLedger]
    exact after_wellFormed wellFormed
  have takes_iff := reposts_adjustment_iff proposable laterWellFormed
  have isRow : ∀ other, later.adjustmentRequest requestId = some other → other = row := by
    intro other found
    rw [undecided, stored] at found
    exact (Option.some.inj found).symm
  -- the entry of an approval is on the book under the id that the row records
  have posted_spec : ∀ entry, later.ledger.Reposts (buildJournalDocument row) {}
      (.entry entry) → Ledger.entry? ((later.ledger.recordVersion (buildJournalDocument row)
        ⟨decidedBy, "approve_adjustment"⟩).recordEntry entry) later.ledger.nextEntryId =
          some entry ∧
      (∀ line ∈ entry.lines, line.isTaxable = false) ∧
      ∀ key, lineNet key true entry.lines + lineNet key false entry.lines =
        lineNet key true row.lines + lineNet key false row.lines := by
    intro entry reposts
    have accepted : (later.ledger.recordVersion (buildJournalDocument row)
        ⟨decidedBy, "approve_adjustment"⟩).Accepts entry :=
      (accepts_derived_iff reposts.posts).mpr (reposts.takes entry rfl)
    have onBook := WellFormed.entry?_eq_some
      ((laterWellFormed.recordVersion (buildJournalDocument row)
        ⟨decidedBy, "approve_adjustment"⟩).recordEntry accepted)
      (mem_journal_recordEntry.mpr (.inr rfl))
    obtain ⟨-, noOther⟩ := takes_iff.mp ⟨entry, reposts⟩
    obtain ⟨derived, posts, -, lines, totals⟩ := post_adjustment proposable noOther
      (later.ledger.previousVersion (buildJournalDocument row).documentId + 1)
    cases posts.symm.trans reposts.posts
    rw [stored_of_post posts] at onBook
    refine ⟨onBook, fun line lineMem => (lines line lineMem).1, fun key => ?_⟩
    rw [lineNet_add, lineNet_add]
    exact totals (· = key)
  have outcome := deciding requestId decidedBy true note decidedAt later
  generalize execute (decideAdjustment requestId decidedBy true note decidedAt) later = result
    at outcome
  constructor
  · rintro ⟨decided, after, entryId, entry, rfl, recorded, found, sameNets⟩
    cases outcome with
    | rejected foundRow _ rejects => cases rejects
    | @posted _ derived _ foundRow _ _ reposts answers =>
      rw [isRow _ foundRow] at reposts found
      obtain ⟨onBook, untaxed, -⟩ := posted_spec derived reposts
      rw [answers, Option.some.injEq] at recorded
      rw [← recorded] at found
      cases onBook.symm.trans found
      refine ⟨(takes_iff.mp ⟨_, reposts⟩).2, fun key => ?_⟩
      rw [← sameNets, lineNet_of_untaxed untaxed]
  · rintro ⟨noOther, cancels⟩
    have taken := takes_iff.mpr ⟨dateOpen, noOther⟩
    cases outcome with
    | unknown missing =>
      rw [undecided, stored] at missing
      cases missing
    | decided foundRow notProposed =>
      rw [isRow _ foundRow] at notProposed
      exact absurd proposed notProposed
    | rejected foundRow _ rejects => cases rejects
    | stranded foundRow _ _ refused =>
      rw [isRow _ foundRow] at refused
      exact absurd taken refused
    | @posted other derived _ foundRow _ _ reposts answers =>
      have sameRow := isRow _ foundRow
      subst sameRow
      obtain ⟨onBook, untaxed, totals⟩ := posted_spec derived reposts
      refine ⟨_, _, _, derived, rfl, answers, onBook, fun key isTaxable => ?_⟩
      have total := totals key
      rw [lineNet_of_untaxed untaxed, cancels key, zero_add, zero_add] at total
      cases isTaxable
      · exact total
      · rw [lineNet_of_untaxed untaxed, cancels key]

/-- A proposed move of 50.00 from one account to another. -/
def proposedMove (debited credited : AccountId) («class» : Option ClassId) : List JournalLine :=
  let side (lineNo : Int) (account : AccountId) («class» : Option ClassId)
      (debit credit : Money) : JournalLine :=
    { lineNo, account, «class», debit, credit, memo := none, entity := none
      isTaxable := false, taxAmount := none, taxRate := none }
  [side 1 debited «class» (.fromMinor 5000) Money.zero,
    side 2 credited none Money.zero (.fromMinor 5000)]

def proposalTime : Timestamp :=
  ⟨⟨2027, 3, 1, Eq.refl true⟩, 0⟩

/-- Interest is accepted as a proposal without a class, and then cannot be
posted in an open period. -/
theorem proposed_interest_cannot_be_posted :
    let book := AccountantBook.withoutRequests (createCompany "aquamentor")
    let lines := proposedMove ⟨Chart.interestExpense⟩ ⟨Chart.checking⟩ none
    let queued := (execute (proposeAdjustment "r1" "accountant" "interest" lines proposalTime)
      book).2
    Reachable book.ledger ∧
      (execute (proposeAdjustment "r1" "accountant" "interest" lines proposalTime)
        book).1.toOption.isSome = true ∧
      queued.ledger.lockedThrough = none ∧
      (execute (decideAdjustment "r1" "owner" true "" proposalTime) queued).1 =
        .error (.post (.missingClass 1)) :=
  ⟨⟨_, [], rfl⟩, by decide +kernel, by decide +kernel, by decide +kernel⟩

def proposedFee : List JournalLine :=
  proposedMove ⟨Chart.merchantFees⟩ ⟨Chart.checking⟩ (some ⟨"foam"⟩)

def bookWithProposedFee : Except AccountantError AdjustmentRequest × AccountantBook :=
  execute (proposeAdjustment "r1" "accountant" "fees" proposedFee proposalTime)
    (AccountantBook.withoutRequests (createCompany "aquamentor"))

theorem approved_adjustment_posts_proposal_iff_proposedFee :
    ∃ decided after entryId entry,
      execute (decideAdjustment "r1" "owner" true "" proposalTime) bookWithProposedFee.2 =
        (.ok decided, after) ∧
      decided.postedEntryId = some entryId ∧ after.ledger.entry? entryId = some entry ∧
      ∀ key isTaxable, lineNet key isTaxable entry.lines = lineNet key isTaxable proposedFee := by
  obtain ⟨request, queued, accepted⟩ := exists_execute_ok
    (AccountantBook.withoutRequests (createCompany "aquamentor"))
    (show bookWithProposedFee.1.toOption.isSome = true by decide +kernel)
  have unlocked : bookWithProposedFee.2.ledger.lockedThrough = none := by decide +kernel
  have allowed : ∀ line ∈ proposedFee, line.isTaxable = false ∧ ¬IsOtherAccount line.account := by
    decide
  unfold bookWithProposedFee at unlocked ⊢
  rw [accepted] at unlocked ⊢
  refine (approved_adjustment_posts_proposal_iff ⟨_, [], rfl⟩ accepted [] rfl rfl ?_ "owner" ""
    proposalTime).mpr ⟨fun line lineMem => (allowed line lineMem).2, fun key => ?_⟩
  · intro locked isLocked
    rw [unlocked] at isLocked
    cases isLocked
  · exact lineNet_of_untaxed fun line lineMem => (allowed line lineMem).1

end QuickBooks
