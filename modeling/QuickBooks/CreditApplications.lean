import QuickBooks.OpenBalances
import QuickBooks.SettledRevisions

/-!
# Applying a credit

A credit that is applied keeps everything but its applications, so only what is
left of it and of its target can change.  The call compares the amount with the
open amounts without their signs, and adds it to the first application that the
credit already has to the target.  It does what it is for exactly when both amounts
were open on their own side and that application counts.
-/

namespace QuickBooks

open ExceptPrograms KeyedTotals TransactionPrograms
open Ledger

section Applications

variable {applications result : List Application} {targetId : String} {targetKind : DocKind}
  {amount : Money}

def countsFor (applications : List Application) (targetId : String) : Bool :=
  (applications.find? fun application => application.targetDocumentId = targetId).all movesMoney

theorem total_addApplication (selects : Application → Prop) [DecidablePred selects]
    (byTarget : ∀ first second, first.targetDocumentId = second.targetDocumentId →
      (selects first ↔ selects second))
    (moves : targetKind.isContract = false)
    (adds : addApplication applications targetId targetKind amount = .ok result) :
    total selects (fun application => application.amount.minor) (result.filter movesMoney) =
      total selects (fun application => application.amount.minor)
          (applications.filter movesMoney) +
        if selects ⟨targetId, targetKind, amount⟩ ∧ countsFor applications targetId = true then
          amount.minor
        else 0 := by
  induction applications generalizing result with
  | nil =>
    rw [addApplication, pure_eq_ok_iff] at adds
    subst adds
    simp [countsFor, movesMoney, moves]
  | cons existing rest ih =>
    rw [addApplication] at adds
    split_ifs at adds with here
    · rw [bind_eq_ok_iff] at adds
      obtain ⟨sum, sums, adds⟩ := adds
      rw [pure_eq_ok_iff] at adds
      rw [Money.checkedAdd_eq_ok_iff] at sums
      subst adds here
      have counts : countsFor (existing :: rest) existing.targetDocumentId =
          movesMoney existing := by
        simp [countsFor]
      have sameMoves : movesMoney { existing with amount := sum } = movesMoney existing := rfl
      have sameTarget := byTarget { existing with amount := sum } existing rfl
      have newTarget := byTarget ⟨existing.targetDocumentId, targetKind, amount⟩ existing rfl
      rw [counts, List.filter_cons, List.filter_cons, sameMoves]
      by_cases moving : movesMoney existing = true
      · rw [if_pos moving, if_pos moving, total_cons, total_cons]
        by_cases chosen : selects existing
        · rw [if_pos (sameTarget.mpr chosen), if_pos chosen,
            if_pos ⟨newTarget.mpr chosen, moving⟩, sums]
          omega
        · rw [if_neg (sameTarget.not.mpr chosen), if_neg chosen,
            if_neg fun both => chosen (newTarget.mp both.1)]
          omega
      · rw [if_neg moving, if_neg moving, if_neg fun both => moving both.2, add_zero]
    · rw [bind_eq_ok_iff] at adds
      obtain ⟨later, laterAdds, adds⟩ := adds
      rw [pure_eq_ok_iff] at adds
      subst adds
      have counts : countsFor (existing :: rest) targetId = countsFor rest targetId := by
        simp [countsFor, here]
      have added := ih laterAdds
      rw [counts, List.filter_cons, List.filter_cons]
      by_cases moving : movesMoney existing = true
      · rw [if_pos moving, if_pos moving, total_cons, total_cons, added]
        omega
      · rw [if_neg moving, if_neg moving, added]

end Applications

section Acceptance

variable {ledger : Ledger} {creditId targetId : String} {amount : Option Money}
  {credit doc : LedgerDocument}

theorem minor_openAmount {items : List OpenDocument} {documentId : String} {sum : Money}
    (finds : openAmount items documentId = .ok sum) :
    sum.minor = |reported items documentId| := by
  unfold openAmount at finds
  unfold reported
  cases listed : items.find? fun item => item.documentId = documentId with
  | none =>
    rw [listed, pure_eq_ok_iff] at finds
    subst finds
    simp
  | some item =>
    simp only [listed, Money.isNegative, decide_eq_true_eq] at finds
    simp only [Option.map_some, Option.getD_some]
    split_ifs at finds with negative
    · rw [Money.checkedNeg_eq_ok_iff] at finds
      rw [finds, abs_of_neg negative]
    · rw [pure_eq_ok_iff] at finds
      rw [← finds, abs_of_nonneg (not_lt.mp negative)]

/-- What is applied: the amount asked for, or the smaller of the two open amounts
without their signs. -/
def appliedAmount (items : List OpenDocument) (creditId targetId : String)
    (amount : Option Money) : Int :=
  (amount.map Money.minor).getD (min |reported items creditId| |reported items targetId|)

/-- What the call checks of a credit and a target that it accepts. -/
structure AcceptsCredit (ledger : Ledger) (creditId targetId : String) (amount : Option Money)
    (credit target : LedgerDocument) (book : Book) (items : List OpenDocument)
    (doc : LedgerDocument) : Prop where
  isCredit : ledger.latestDocumentPayload creditId = some credit
  isTarget : ledger.latestDocumentPayload targetId = some target
  creditStands : credit.isVoided = false
  targetStands : target.isVoided = false
  creditOpens : book.opens credit.kind = some true
  targetOpens : book.opens target.kind = some false
  reports : openDocuments ledger book Date.last = .ok items
  positive : 0 < appliedAmount items creditId targetId amount
  withinCredit : appliedAmount items creditId targetId amount ≤ |reported items creditId|
  withinTarget : appliedAmount items creditId targetId amount ≤ |reported items targetId|
  adds : ∃ applied applications, applied.minor = appliedAmount items creditId targetId amount ∧
    addApplication credit.applications targetId target.kind applied = .ok applications ∧
      doc = { credit with applications }

theorem bookOf_of_creditTargetKind {kind targetKind : DocKind}
    (isTarget : creditTargetKind creditId kind = .ok targetKind) :
    ((bookOf kind).getD .receivable).opens kind = some true ∧
      ((bookOf kind).getD .receivable).opens targetKind = some false := by
  cases kind <;> simp only [creditTargetKind, pure_eq_ok_iff, reduceCtorEq] at isTarget <;>
    subst isTarget <;> exact ⟨rfl, rfl⟩

theorem acceptsCredit_of_ok
    (built : creditWithApplication ledger creditId targetId amount = .ok (credit, doc)) :
    ∃ target book items,
      AcceptsCredit ledger creditId targetId amount credit target book items doc := by
  unfold creditWithApplication at built
  simp only [bind_eq_ok_iff, pure_eq_ok_iff, Prod.mk.injEq] at built
  obtain ⟨credit, finds, targetKind, isTarget, applied, applicable, applications, adds, rfl,
    isDoc⟩ := built
  unfold applicableAmount at applicable
  rw [check_bind_eq_ok_iff, ensure_eq_ok_iff, bind_eq_ok_iff] at applicable
  obtain ⟨creditStands, target, findsTarget, applicable⟩ := applicable
  rw [check_bind_eq_ok_iff, ensure_eq_ok_iff, decide_eq_true_eq, check_bind_eq_ok_iff,
    ensure_eq_ok_iff, check_bind_eq_ok_iff] at applicable
  obtain ⟨kindEq, targetStands, -, applicable⟩ := applicable
  simp only [bind_eq_ok_iff] at applicable
  obtain ⟨items, reports, creditOpen, creditFinds, targetOpen, targetFinds, _, positive, _,
    within, applicable⟩ := applicable
  rw [pure_eq_ok_iff] at applicable
  rw [ensure_eq_ok_iff, decide_eq_true_eq] at positive within
  obtain ⟨creditOpens, targetOpens⟩ := bookOf_of_creditTargetKind isTarget
  subst kindEq
  have creditEq := minor_openAmount (mapError_eq_ok_iff.mp creditFinds)
  have targetEq := minor_openAmount (mapError_eq_ok_iff.mp targetFinds)
  have appliedEq : applied.minor = appliedAmount items creditId targetId amount := by
    rw [← applicable]
    unfold appliedAmount
    rw [← creditEq, ← targetEq]
    cases amount with
    | some amount => rfl
    | none =>
      simp only [Option.getD_none, Option.map_none]
      split_ifs with smaller
      · exact (min_eq_left smaller).symm
      · exact (min_eq_right (not_le.mp smaller).le).symm
  rw [applicable] at positive within
  exact ⟨target, _, items,
    { isCredit := latestDocument_eq_ok finds
      isTarget := latestDocument_eq_ok findsTarget
      creditStands := by simpa using creditStands
      targetStands := by simpa using targetStands
      creditOpens
      targetOpens
      reports
      positive := by rw [← appliedEq]; exact positive
      withinCredit := by rw [← appliedEq, ← creditEq]; exact within.1
      withinTarget := by rw [← appliedEq, ← targetEq]; exact within.2
      adds := ⟨applied, applications, appliedEq, mapError_eq_ok_iff.mp adds, isDoc.symm⟩ }⟩

end Acceptance

section Effect

variable {ledger : Ledger} {creditId targetId : String} {amount : Option Money}
  {credit target doc : LedgerDocument} {book : Book} {items : List OpenDocument}
  {command : CommandMeta}

/-- What the call moves: what it applies, if the application counts. -/
def movedAmount (items : List OpenDocument) (credit : LedgerDocument)
    (creditId targetId : String) (amount : Option Money) : Int :=
  if countsFor credit.applications targetId = true then
    appliedAmount items creditId targetId amount
  else 0

namespace AcceptsCredit

variable (accepts : AcceptsCredit ledger creditId targetId amount credit target book items doc)
include accepts

theorem creditId_eq (wellFormed : ledger.WellFormed) : credit.documentId = creditId :=
  latestDocumentPayload_documentId wellFormed accepts.isCredit

theorem targetId_eq (wellFormed : ledger.WellFormed) : target.documentId = targetId :=
  latestDocumentPayload_documentId wellFormed accepts.isTarget

theorem ids_ne : creditId ≠ targetId := by
  rintro rfl
  have isCredit := accepts.isCredit
  have isTarget := accepts.isTarget
  rw [isCredit, Option.some.injEq] at isTarget
  subst isTarget
  have opens := accepts.creditOpens
  rw [accepts.targetOpens] at opens
  cases opens

theorem doc_eq : ∃ applications, doc = { credit with applications } := by
  obtain ⟨_, applications, -, -, docEq⟩ := accepts.adds
  exact ⟨applications, docEq⟩

theorem ownUse_doc : ownUse doc = ownUse credit + movedAmount items credit creditId targetId amount := by
  obtain ⟨applied, applications, appliedEq, adds, rfl⟩ := accepts.adds
  have added := total_addApplication (fun _ => True) (fun _ _ _ => Iff.rfl)
    (Book.not_isContract_of_opens accepts.targetOpens) adds
  rw [total_of_forall _ _ fun _ _ => trivial, total_of_forall _ _ fun _ _ => trivial] at added
  unfold ownUse moneyApplications movedAmount
  rw [added, appliedEq]
  simp only [true_and]

theorem settledBy_doc (id : String) :
    book.settledBy id doc =
      book.settledBy id credit +
        if targetId = id then movedAmount items credit creditId targetId amount else 0 := by
  obtain ⟨applied, applications, appliedEq, adds, rfl⟩ := accepts.adds
  have settles := Book.settles_of_credit accepts.creditOpens
  have added := total_addApplication (fun application => application.targetDocumentId = id)
    (fun first second same => by rw [same]) (Book.not_isContract_of_opens accepts.targetOpens) adds
  unfold Book.settledBy
  rw [if_pos ⟨settles, accepts.creditStands⟩, if_pos ⟨settles, accepts.creditStands⟩]
  unfold moneyApplications movedAmount
  rw [added, appliedEq]
  by_cases same : targetId = id <;> simp [same]

theorem doc_documentId (wellFormed : ledger.WellFormed) : doc.documentId = creditId := by
  obtain ⟨applications, rfl⟩ := accepts.doc_eq
  exact accepts.creditId_eq wellFormed

theorem doc_stands : doc.isVoided = false := by
  obtain ⟨applications, rfl⟩ := accepts.doc_eq
  exact accepts.creditStands

theorem doc_opens : book.opens doc.kind = some true := by
  obtain ⟨applications, rfl⟩ := accepts.doc_eq
  exact accepts.creditOpens

theorem documentWorth_doc : documentWorth doc = documentWorth credit := by
  obtain ⟨applications, rfl⟩ := accepts.doc_eq
  rfl

theorem latest_other (wellFormed : ledger.WellFormed) {id : String} (other : id ≠ creditId) :
    (ledger.recordVersion doc command).latestDocumentPayload id =
      ledger.latestDocumentPayload id := by
  apply latestDocumentPayload_recordVersion_other
  rw [accepts.doc_documentId wellFormed]
  exact other.symm

theorem settledTo_after (wellFormed : ledger.WellFormed) (id : String) :
    settledTo (ledger.recordVersion doc command) book id =
      settledTo ledger book id +
        if targetId = id then movedAmount items credit creditId targetId amount else 0 := by
  have latest := accepts.isCredit
  rw [← accepts.doc_documentId wellFormed] at latest
  rw [settledTo_recordVersion wellFormed latest, accepts.settledBy_doc id]
  omega

theorem leftOf_credit (wellFormed : ledger.WellFormed) :
    leftOf (ledger.recordVersion doc command) book doc =
      leftOf ledger book credit - movedAmount items credit creditId targetId amount := by
  have settled := @settledTo_after _ _ _ _ _ _ _ _ _ command accepts wellFormed creditId
  rw [if_neg (Ne.symm accepts.ids_ne), add_zero] at settled
  unfold leftOf
  rw [if_pos accepts.doc_opens, if_pos accepts.creditOpens,
    accepts.doc_documentId wellFormed, accepts.creditId_eq wellFormed, settled,
    accepts.documentWorth_doc, accepts.ownUse_doc]
  omega

theorem leftOf_target (wellFormed : ledger.WellFormed) :
    leftOf (ledger.recordVersion doc command) book target =
      leftOf ledger book target - movedAmount items credit creditId targetId amount := by
  have settled := @settledTo_after _ _ _ _ _ _ _ _ _ command accepts wellFormed targetId
  rw [if_pos rfl] at settled
  unfold leftOf
  rw [accepts.targetOpens, if_neg (by simp), if_neg (by simp),
    accepts.targetId_eq wellFormed, settled]
  omega

section After

variable {items' : List OpenDocument} (wellFormed : ledger.WellFormed)
  (found' : openDocuments (ledger.recordVersion doc command) book Date.last = .ok items')
include wellFormed found'

theorem reported_credit :
    -reported items' creditId =
      -reported items creditId - movedAmount items credit creditId targetId amount := by
  have latest := accepts.isCredit
  have latest' := ledger.latestDocumentPayload_recordVersion doc command
  have creditEq := accepts.creditId_eq wellFormed
  have after := reported_eq_leftOf (wellFormed.recordVersion doc command) found' latest'
    accepts.doc_stands accepts.doc_opens
  rw [← creditEq] at latest
  have before := reported_eq_leftOf wellFormed accepts.reports latest accepts.creditStands
    accepts.creditOpens
  rw [accepts.doc_documentId wellFormed, accepts.leftOf_credit wellFormed] at after
  rw [creditEq] at before
  rw [before, after, if_pos rfl, if_pos rfl]
  omega

theorem reported_target :
    reported items' targetId =
      reported items targetId - movedAmount items credit creditId targetId amount := by
  have targetEq := accepts.targetId_eq wellFormed
  have latest := accepts.isTarget
  have latest' := @latest_other _ _ _ _ _ _ _ _ _ command accepts wellFormed _ accepts.ids_ne.symm
  rw [latest, ← targetEq] at latest'
  rw [← targetEq] at latest
  have before := reported_eq_leftOf wellFormed accepts.reports latest accepts.targetStands
    accepts.targetOpens
  have after := reported_eq_leftOf (wellFormed.recordVersion doc command) found' latest'
    accepts.targetStands accepts.targetOpens
  rw [accepts.leftOf_target wellFormed] at after
  rw [targetEq] at before after
  rw [before, after, if_neg Bool.false_ne_true, if_neg Bool.false_ne_true]

theorem mem_other {item : OpenDocument} (notCredit : item.documentId ≠ creditId)
    (notTarget : item.documentId ≠ targetId) : item ∈ items' ↔ item ∈ items := by
  apply mem_report_iff wellFormed (wellFormed.recordVersion doc command) rfl accepts.reports found'
  · exact accepts.latest_other wellFormed notCredit
  · rw [accepts.settledTo_after wellFormed, if_neg notTarget.symm, add_zero]

end After

end AcceptsCredit

end Effect

section Call

variable {ledger after : Ledger} {creditId targetId : String} {amount : Option Money}
  {command : CommandMeta}

theorem execute_applyCredit_error {failure : BooksError}
    (refuses : execute (applyCredit creditId targetId amount command) ledger =
      (.error failure, after)) : after = ledger := by
  unfold applyCredit at refuses
  rw [execute_bind_eq_error_iff] at refuses
  rcases refuses with unread | ⟨⟨credit, doc⟩, middle, reads, refuses⟩
  · exact (execute_reading_eq_error_iff.mp unread).2.symm
  · obtain ⟨-, rfl⟩ := execute_reading_eq_ok_iff.mp reads
    exact execute_commitRevision_error refuses

theorem execute_applyCredit_ok {revision : Revision}
    (applies : execute (applyCredit creditId targetId amount command) ledger =
      (.ok revision, after)) :
    ∃ credit doc, creditWithApplication ledger creditId targetId amount = .ok (credit, doc) ∧
      after = ledger.recordVersion doc command := by
  unfold applyCredit at applies
  rw [execute_bind_eq_ok_iff] at applies
  obtain ⟨⟨credit, doc⟩, middle, reads, applies⟩ := applies
  obtain ⟨built, rfl⟩ := execute_reading_eq_ok_iff.mp reads
  obtain ⟨newEntry, reverse, plans, writes⟩ := execute_commitRevision_ok applies
  rw [repostingPlan, pure_eq_ok_iff, Prod.mk.injEq] at plans
  obtain ⟨rfl, rfl⟩ := plans
  unfold writeRevision at writes
  rw [if_neg Bool.false_ne_true, postReversals, execute_bind_ok _ (execute_pure _ _),
    execute_bind_ok _ (execute_saveDocument ledger doc command), execute_pure,
    Prod.mk.injEq] at writes
  exact ⟨credit, doc, built, writes.2.symm⟩

/-- Both are left with something, each has less by what was applied, and no other item
differs. -/
structure TakesCredit (items items' : List OpenDocument) (creditId targetId : String)
    (applied : Int) : Prop where
  creditLeft : 0 ≤ -reported items' creditId
  targetLeft : 0 ≤ reported items' targetId
  creditLower : -reported items' creditId = -reported items creditId - applied
  targetLower : reported items' targetId = reported items targetId - applied
  others : ∀ item : OpenDocument, item.documentId ≠ creditId → item.documentId ≠ targetId →
    (item ∈ items' ↔ item ∈ items)

/-- The credit has something left, the target is open, and an application that the
credit already has to the target is one that moves money. -/
structure CanTakeCredit (items : List OpenDocument) (credit : LedgerDocument)
    (creditId targetId : String) : Prop where
  creditOpen : 0 < -reported items creditId
  targetOpen : 0 < reported items targetId
  counts : countsFor credit.applications targetId = true

theorem AcceptsCredit.takesCredit_iff {credit target doc : LedgerDocument} {book : Book}
    {items items' : List OpenDocument} (wellFormed : ledger.WellFormed)
    (accepts : AcceptsCredit ledger creditId targetId amount credit target book items doc)
    (found' : openDocuments (ledger.recordVersion doc command) book Date.last = .ok items') :
    TakesCredit items items' creditId targetId (appliedAmount items creditId targetId amount) ↔
      CanTakeCredit items credit creditId targetId := by
  have creditEq := accepts.reported_credit wellFormed found'
  have targetEq := accepts.reported_target wellFormed found'
  have positive := accepts.positive
  have withinCredit := accepts.withinCredit
  have withinTarget := accepts.withinTarget
  unfold movedAmount at creditEq targetEq
  constructor
  · rintro ⟨creditLeft, targetLeft, creditLower, targetLower, -⟩
    have counts : countsFor credit.applications targetId = true := by
      by_contra notCounted
      rw [if_neg notCounted] at creditEq
      omega
    exact ⟨by omega, by omega, counts⟩
  · rintro ⟨creditOpen, targetOpen, counts⟩
    rw [if_pos counts] at creditEq targetEq
    rw [abs_of_neg (by omega)] at withinCredit
    rw [abs_of_pos targetOpen] at withinTarget
    exact ⟨by omega, by omega, creditEq, targetEq, fun item => accepts.mem_other wellFormed found'⟩

theorem AcceptsCredit.openDocuments_other {credit target doc : LedgerDocument} {book : Book}
    {items : List OpenDocument} (wellFormed : ledger.WellFormed)
    (accepts : AcceptsCredit ledger creditId targetId amount credit target book items doc)
    {other : Book} (isOther : other ≠ book) :
    openDocuments (ledger.recordVersion doc command) other Date.last =
      openDocuments ledger other Date.last := by
  have notOther : ∀ kind, book.opens kind = some true → kind ∉ other.docTypes := by
    intro kind opens
    cases book <;> cases other <;> cases kind <;> simp_all [Book.opens, Book.docTypes]
  have latest := accepts.isCredit
  rw [← accepts.doc_documentId wellFormed] at latest
  unfold openDocuments
  rw [latestDocuments_recordVersion_of_not_mem wellFormed latest
    (notOther _ accepts.creditOpens) (notOther _ accepts.doc_opens)]
  rfl

/-- A refused credit changes nothing.  An accepted one does what it is for exactly when
the credit had something left, the target was open and the application counts. -/
theorem applyCredit_takes_iff (reachable : Reachable ledger) (creditId targetId : String)
    (amount : Option Money) (command : CommandMeta) :
    (∀ failure after, execute (applyCredit creditId targetId amount command) ledger =
        (.error failure, after) → after = ledger) ∧
      ∀ revision after, execute (applyCredit creditId targetId amount command) ledger =
          (.ok revision, after) →
        ∃ credit book items, ledger.latestDocumentPayload creditId = some credit ∧
          book.opens credit.kind = some true ∧
          openDocuments ledger book Date.last = .ok items ∧
          (∀ other, other ≠ book →
            openDocuments after other Date.last = openDocuments ledger other Date.last) ∧
          ∀ items', openDocuments after book Date.last = .ok items' →
            (TakesCredit items items' creditId targetId
                (appliedAmount items creditId targetId amount) ↔
              CanTakeCredit items credit creditId targetId) := by
  have wellFormed := reachable.wellFormed
  constructor
  · intro failure after refuses
    exact execute_applyCredit_error refuses
  · intro revision after applies
    obtain ⟨credit, doc, built, rfl⟩ := execute_applyCredit_ok applies
    obtain ⟨target, book, items, accepts⟩ := acceptsCredit_of_ok built
    exact ⟨credit, book, items, accepts.isCredit, accepts.creditOpens, accepts.reports,
      fun other isOther => accepts.openDocuments_other wellFormed isOther,
      fun items' found' => accepts.takesCredit_iff wellFormed found'⟩

end Call

section Example

def creditableInvoice : LedgerDocument where
  documentId := "invoice-1"
  kind := .invoice
  txnDate := ⟨2026, 5, 4, Eq.refl true⟩
  contact := some ⟨.customer, "c1"⟩
  headerClass := some ⟨"foam"⟩
  lines := [{ lineNo := 1, kind := .item, amount := .fromMinor 10000 }]

def smallCredit : LedgerDocument where
  documentId := "credit-1"
  kind := .creditMemo
  txnDate := ⟨2026, 5, 6, Eq.refl true⟩
  contact := some ⟨.customer, "c1"⟩
  headerClass := some ⟨"foam"⟩
  lines := [{ lineNo := 1, kind := .item, amount := .fromMinor 3000 }]

/-- A payment of half as much again as the invoice. -/
def overpayment : LedgerDocument where
  documentId := "payment-1"
  kind := .payment
  txnDate := ⟨2026, 5, 5, Eq.refl true⟩
  contact := some ⟨.customer, "c1"⟩
  lines := []
  applications := [⟨"invoice-1", .invoice, .fromMinor 15000⟩]

def openInvoiceBook : Ledger :=
  (Ledger.createCompany "aquamentor").after
    [.upsertContact { contactId := "c1", kind := .customer, displayName := "Ada" },
      .createDocument creditableInvoice "bookkeeper", .createDocument smallCredit "bookkeeper"]

def overpaidInvoiceBook : Ledger :=
  (Ledger.createCompany "aquamentor").after
    [.upsertContact { contactId := "c1", kind := .customer, displayName := "Ada" },
      .createDocument creditableInvoice "bookkeeper", .createDocument smallCredit "bookkeeper",
      .createDocument overpayment "bookkeeper"]

theorem openInvoiceBook_reachable : Reachable openInvoiceBook :=
  ⟨_, _, rfl⟩

theorem overpaidInvoiceBook_reachable : Reachable overpaidInvoiceBook :=
  ⟨_, _, rfl⟩

/-- Half of the invoice too much was paid, and the credit makes it worse. -/
theorem overpaidInvoice_takes_credit :
    ¬ ∀ (ledger : Ledger), Reachable ledger → ∀ (creditId targetId : String)
      (amount : Option Money) (command : CommandMeta) (revision : Revision) (after : Ledger),
      execute (applyCredit creditId targetId amount command) ledger = (.ok revision, after) →
        ∀ (book : Book) (items items' : List OpenDocument),
          openDocuments ledger book Date.last = .ok items →
          openDocuments after book Date.last = .ok items' →
            TakesCredit items items' creditId targetId
              (appliedAmount items creditId targetId amount) := by
  intro always
  obtain ⟨revision, accepted, -⟩ := exists_ok_of_map_toOption
    (show (execute (applyCredit "credit-1" "invoice-1" none ⟨"bookkeeper", "apply_credit"⟩)
      overpaidInvoiceBook).1.toOption.map (fun _ => ()) = some () by decide +kernel)
  obtain ⟨items, before, -⟩ := exists_ok_of_map_toOption
    (show (openDocuments overpaidInvoiceBook .receivable Date.last).toOption.map
      (fun _ => ()) = some () by decide +kernel)
  obtain ⟨items', after, left⟩ := exists_ok_of_map_toOption
    (show (openDocuments (execute (applyCredit "credit-1" "invoice-1" none
      ⟨"bookkeeper", "apply_credit"⟩) overpaidInvoiceBook).2 .receivable
        Date.last).toOption.map (fun items => reported items "invoice-1") = some (-8000) by
      decide +kernel)
  have takes := always _ overpaidInvoiceBook_reachable "credit-1" "invoice-1" none ⟨"bookkeeper", "apply_credit"⟩ revision _ (Prod.ext accepted rfl) .receivable items items' before after
  have targetLeft := takes.targetLeft
  rw [left] at targetLeft
  omega

/-- The open invoice takes the whole credit. -/
theorem openInvoice_takes_credit :
    ∃ items items', openDocuments openInvoiceBook .receivable Date.last = .ok items ∧
      openDocuments (execute (applyCredit "credit-1" "invoice-1" none
        ⟨"bookkeeper", "apply_credit"⟩) openInvoiceBook).2 .receivable Date.last = .ok items' ∧
      TakesCredit items items' "credit-1" "invoice-1"
        (appliedAmount items "credit-1" "invoice-1" none) := by
  obtain ⟨revision, accepted, -⟩ := exists_ok_of_map_toOption
    (show (execute (applyCredit "credit-1" "invoice-1" none ⟨"bookkeeper", "apply_credit"⟩)
      openInvoiceBook).1.toOption.map (fun _ => ()) = some () by decide +kernel)
  obtain ⟨items', after, -⟩ := exists_ok_of_map_toOption
    (show (openDocuments (execute (applyCredit "credit-1" "invoice-1" none
      ⟨"bookkeeper", "apply_credit"⟩) openInvoiceBook).2 .receivable Date.last).toOption.map
        (fun _ => ()) = some () by decide +kernel)
  obtain ⟨listed, before, amounts⟩ := exists_ok_of_map_toOption
    (show (openDocuments openInvoiceBook .receivable Date.last).toOption.map
      (fun items => (reported items "credit-1", reported items "invoice-1")) =
        some (-3000, 10000) by decide +kernel)
  obtain ⟨credit, book, items, latest, opens, reports, -, takes⟩ :=
    (applyCredit_takes_iff openInvoiceBook_reachable "credit-1" "invoice-1" none
      ⟨"bookkeeper", "apply_credit"⟩).2 revision _ (Prod.ext accepted rfl)
  have saved : (openInvoiceBook.latestDocumentPayload "credit-1").map (fun credit =>
      (credit.kind, countsFor credit.applications "invoice-1")) = some (.creditMemo, true) := by
    decide +kernel
  rw [latest, Option.map_some, Option.some.injEq, Prod.mk.injEq] at saved
  cases book with
  | payable =>
    rw [saved.1] at opens
    cases opens
  | receivable =>
    rw [reports, Except.ok.injEq] at before
    subst before
    rw [Prod.mk.injEq] at amounts
    refine ⟨items, items', reports, after, (takes items' after).mpr ⟨?_, ?_, saved.2⟩⟩
    · rw [amounts.1]
      decide
    · rw [amounts.2]
      decide

end Example

end QuickBooks
