import QuickBooks.OpenBalances
import QuickBooks.OrderInvoices

/-!
# Editing a document that applies to others

An accepted edit takes the applications of the old version away and adds those of
the new one.  Its checks compare each named target with one application at a time
and never with what draws on a credit, so the totals are kept exactly when they are
where the checks do not look.
-/

/-!
## What is applied to a document

The applications of all live documents to one target, and what the checks of an
edit compare of them: what the other documents apply to the edited document, and
what they apply to each target that the new version names.
-/

namespace QuickBooks

open ExceptPrograms KeyedTotals
open Ledger

section Applied

/-- What one document applies to a target. -/
def Book.appliedBy (book : Book) (target : String) (doc : LedgerDocument) : Int :=
  if book.settles doc.kind = true ∧ doc.isVoided = false then
    total (fun application => application.targetDocumentId = target)
      (fun application => application.amount.minor) doc.applications
  else 0

def appliedTo (ledger : Ledger) (book : Book) (target : String) : Int :=
  newestTotal (book.appliedBy target) ledger

def appliedByRest (ledger : Ledger) (book : Book) (target excluding : String) : Int :=
  appliedTo ledger book target - latestMeasure (book.appliedBy target) ledger excluding

def settledByRest (ledger : Ledger) (book : Book) (target excluding : String) : Int :=
  settledTo ledger book target - latestMeasure (book.settledBy target) ledger excluding

variable {ledger : Ledger} {book : Book}

theorem newestTotal_sub (first second : LedgerDocument → Int) :
    newestTotal (fun doc => first doc - second doc) ledger =
      newestTotal first ledger - newestTotal second ledger := by
  unfold newestTotal
  exact total_sub _ _ _ _

theorem minor_appliedByOthers (wellFormed : ledger.WellFormed) {target excluding : String}
    {sum : Money} (applies : appliedByOthers ledger book target excluding = .ok sum) :
    sum.minor = appliedByRest ledger book target excluding := by
  unfold appliedByOthers at applies
  rw [Money.minor_checkedSum (mapError_eq_ok_iff.mp applies), List.map_map, sum_map_filter,
    total_flatMap, sum_map_filter]
  unfold total
  rw [sum_latestDocuments]
  unfold appliedByRest appliedTo
  rw [← newestTotal_of_document wellFormed, ← newestTotal_sub]
  congr 1
  ext doc
  unfold Book.appliedBy
  by_cases settles : book.settles doc.kind = true
  · have kindMem := Book.kind_mem_of_settles settles
    by_cases stands : doc.isVoided = false <;> by_cases same : doc.documentId = excluding <;>
      simp [settles, kindMem, stands, same, total]
  · simp [settles]

end Applied

section Versions

variable {first second : Ledger} (same : first.documentVersions = second.documentVersions)
include same

theorem newestTotal_congr (measure : LedgerDocument → Int) :
    newestTotal measure first = newestTotal measure second := by
  unfold newestTotal isNewest previousVersion versionsOf
  rw [same]

theorem appliedByRest_congr (book : Book) (target excluding : String) :
    appliedByRest first book target excluding = appliedByRest second book target excluding := by
  unfold appliedByRest appliedTo
  rw [newestTotal_congr same, latestMeasure_congr same]

end Versions

section Checks

variable {ledger : Ledger} {book : Book} {doc target : LedgerDocument}

theorem bookOf_of_opens {kind : DocKind} {isCredit : Bool}
    (opens : book.opens kind = some isCredit) : bookOf kind = some book := by
  cases book <;> cases kind <;> simp [Book.opens] at opens <;> rfl

theorem checkOwnApplications_spec (wellFormed : ledger.WellFormed)
    (opens : book.opens doc.kind = some false)
    (checks : checkOwnApplications ledger doc = .ok ()) :
    appliedByRest ledger book doc.documentId doc.documentId ≤ documentWorth doc := by
  unfold checkOwnApplications at checks
  rw [bookOf_of_opens opens] at checks
  simp only [opens, Option.some.injEq, Bool.false_eq_true, if_false, pure_bind] at checks
  rw [bind_eq_ok_iff] at checks
  obtain ⟨others, applies, checks⟩ := checks
  rw [bind_eq_ok_iff] at checks
  obtain ⟨total, totals, checks⟩ := checks
  rw [ensure_eq_ok_iff, decide_eq_true_eq, minor_appliedByOthers wellFormed applies,
    minor_documentTotal (mapError_eq_ok_iff.mp totals)] at checks
  exact checks

theorem checkTarget_spec (wellFormed : ledger.WellFormed) {application : Application}
    (latest : ledger.latestDocumentPayload application.targetDocumentId = some target)
    {isCredit : Bool} (opens : book.opens target.kind = some isCredit)
    (checks : checkTarget ledger doc application = .ok ()) :
    appliedByRest ledger book application.targetDocumentId doc.documentId +
        application.amount.minor ≤
      documentWorth target := by
  have targetId := latestDocumentPayload_documentId wellFormed latest
  unfold checkTarget at checks
  rw [bind_eq_ok_iff] at checks
  obtain ⟨found, finds, checks⟩ := checks
  have same := latestDocument_eq_ok finds
  rw [latest, Option.some.injEq] at same
  subst same
  rw [Book.not_isContract_of_opens opens, if_neg Bool.false_ne_true, check_bind_eq_ok_iff] at checks
  obtain ⟨-, checks⟩ := checks
  rw [bookOf_of_opens opens] at checks
  dsimp only at checks
  rw [bind_eq_ok_iff] at checks
  obtain ⟨others, applies, checks⟩ := checks
  rw [bind_eq_ok_iff] at checks
  obtain ⟨applied, adds, checks⟩ := checks
  rw [bind_eq_ok_iff] at checks
  obtain ⟨total, totals, checks⟩ := checks
  rw [ensure_eq_ok_iff, decide_eq_true_eq,
    Money.checkedAdd_eq_ok_iff.mp (mapError_eq_ok_iff.mp adds),
    minor_appliedByOthers wellFormed applies,
    minor_documentTotal (mapError_eq_ok_iff.mp totals), targetId] at checks
  exact checks

end Checks

end QuickBooks

namespace QuickBooks

open ExceptPrograms KeyedTotals TransactionPrograms
open Ledger

section Edits

variable {ledger after : Ledger} {doc : LedgerDocument} {config : PostingConfig}
  {command : CommandMeta} {revision : Revision}

theorem document_writeRevision {newEntry : Option JournalEntry} {reversed : List PostedEntry}
    {reposting : Reposting}
    (writes : execute (writeRevision doc newEntry reversed reposting command) ledger =
      (.ok revision, after)) : revision.document = doc := by
  unfold writeRevision at writes
  rw [execute_bind_eq_ok_iff] at writes
  obtain ⟨reversals, middle, -, writes⟩ := writes
  rw [execute_bind_ok _ (execute_saveDocument middle doc command)] at writes
  cases newEntry with
  | none =>
    rw [execute_pure, Prod.mk.injEq, Except.ok.injEq] at writes
    rw [← writes.1]
  | some entry =>
    dsimp only at writes
    rw [execute_bind_eq_ok_iff] at writes
    obtain ⟨entryId, last, -, result⟩ := writes
    rw [execute_pure, Prod.mk.injEq, Except.ok.injEq] at result
    rw [← result.1]

/-- What an accepted edit checked and wrote: the new version of the document, and the
ledger in which it was checked. -/
structure AcceptsEdit (ledger after : Ledger) (doc : LedgerDocument) (command : CommandMeta)
    (new : LedgerDocument) (checked : Ledger) : Prop where
  sameDocument : SameDocument doc new
  stands : new.isVoided = false
  wellFormed : checked.WellFormed
  sameVersions : checked.documentVersions = ledger.documentVersions
  own : checkOwnApplications checked new = .ok ()
  targets : ∀ application ∈ new.applications, checkTarget checked new application = .ok ()
  versions : after.documentVersions = (checked.recordVersion new command).documentVersions

theorem SameDocument.trans {first second third : LedgerDocument}
    (one : SameDocument first second) (two : SameDocument second third) :
    SameDocument first third where
  documentId := two.documentId.trans one.documentId
  kind := two.kind.trans one.kind
  txnDate := two.txnDate.trans one.txnDate
  applications := two.applications.trans one.applications
  isVoided := two.isVoided.trans one.isVoided

theorem acceptsEdit_of_ok (wellFormed : ledger.WellFormed)
    (updates : execute (updateDocument doc config command) ledger = (.ok revision, after)) :
    ∃ checked, AcceptsEdit ledger after doc command revision.document checked := by
  unfold updateDocument at updates
  rw [execute_bind_eq_ok_iff] at updates
  obtain ⟨old, middle, finds, updates⟩ := updates
  obtain ⟨found, rfl⟩ := execute_reading_eq_ok_iff.mp finds
  rw [execute_bind_eq_ok_iff] at updates
  obtain ⟨edited, middle, checks, updates⟩ := updates
  obtain ⟨checked, rfl⟩ := execute_reading_eq_ok_iff.mp checks
  rw [execute_bind_eq_ok_iff] at updates
  obtain ⟨⟨prepared, ctx⟩, middle, preparation, updates⟩ := updates
  rw [execute_bind_eq_ok_iff] at updates
  obtain ⟨_, _, ownReads, updates⟩ := updates
  obtain ⟨own, rfl⟩ := execute_reading_eq_ok_iff.mp ownReads
  rw [execute_bind_eq_ok_iff] at updates
  obtain ⟨_, _, targetReads, updates⟩ := updates
  obtain ⟨targets, rfl⟩ := execute_reading_eq_ok_iff.mp targetReads
  obtain ⟨newEntry, reverse, -, writes⟩ := execute_commitRevision_ok updates
  obtain ⟨sameEdited, -, docStands⟩ := checkEdit_sameDocument checked
  have sameDocument := sameEdited.trans (prepareDocument_sameDocument preparation)
  have history : Evolves {.masterData} ledger
      (execute (prepareDocument edited config) ledger).2 :=
    prepareDocument_respects (Set.mem_singleton _) edited config ledger
  rw [preparation] at history
  have checkedWellFormed := history.wellFormed wellFormed
  have sameVersions : middle.documentVersions = ledger.documentVersions := by
    apply history.keeps wellFormed fun state => state.documentVersions = ledger.documentVersions
    · intro kind kindEq earlier later _ write holds
      rw [Set.mem_singleton_iff] at kindEq
      cases write with
      | masterData change =>
        rw [change.sameBooks]
        exact holds
      | _ => cases kindEq
    · rfl
  have docEq := document_writeRevision writes
  refine ⟨middle, ?_⟩
  rw [docEq]
  exact
    { sameDocument
      stands := sameDocument.isVoided.trans docStands
      wellFormed := checkedWellFormed
      sameVersions
      own
      targets := forM_eq_ok_iff.mp targets
      versions := by
        apply versions_writeRevision checkedWellFormed ?_ ?_ writes
        · split_ifs
          · exact checkedWellFormed.live_nodup _
          · exact List.nodup_nil
        · split_ifs
          · exact fun _ postedLive => postedLive
          · simp }

end Edits

section Totals

/-- No live document that opens on a book has more applied to it than it is worth, and
no credit more used of it. -/
def WithinTotals (ledger : Ledger) : Prop :=
  ∀ (book : Book) (doc : LedgerDocument) (isCredit : Bool),
    ledger.latestDocumentPayload doc.documentId = some doc → doc.isVoided = false →
      book.opens doc.kind = some isCredit →
        appliedTo ledger book doc.documentId ≤ documentWorth doc ∧
          (isCredit = true →
            ownUse doc - settledTo ledger book doc.documentId ≤ documentWorth doc)

/-- The new version settles on a book and names a document in one application. -/
def NamesOnce (new : LedgerDocument) (book : Book) (documentId : String) : Prop :=
  book.settles new.kind = true ∧
    ∃ application, (new.applications.filter fun application =>
      application.targetDocumentId = documentId) = [application]

/-- The totals that no check of an edit compares: of the documents that it does not
name, of those that it names more than once, of the credits that it draws on, and of
an edited credit. -/
structure FitsUnchecked (ledger : Ledger) (new : LedgerDocument) : Prop where
  unnamed : ∀ (book : Book) (doc : LedgerDocument) (isCredit : Bool),
    ledger.latestDocumentPayload doc.documentId = some doc → doc.isVoided = false →
    book.opens doc.kind = some isCredit → doc.documentId ≠ new.documentId →
    (∀ application ∈ new.applications, application.targetDocumentId ≠ doc.documentId) →
      appliedByRest ledger book doc.documentId new.documentId ≤ documentWorth doc ∧
        (isCredit = true →
          ownUse doc - settledByRest ledger book doc.documentId new.documentId ≤
            documentWorth doc)
  repeated : ∀ (book : Book) (doc : LedgerDocument) (isCredit : Bool),
    ledger.latestDocumentPayload doc.documentId = some doc → doc.isVoided = false →
    book.opens doc.kind = some isCredit → doc.documentId ≠ new.documentId →
    (∃ application ∈ new.applications, application.targetDocumentId = doc.documentId) →
    ¬ NamesOnce new book doc.documentId →
      appliedByRest ledger book doc.documentId new.documentId +
          book.appliedBy doc.documentId new ≤ documentWorth doc
  drawn : ∀ (book : Book) (credit : LedgerDocument),
    ledger.latestDocumentPayload credit.documentId = some credit → credit.isVoided = false →
    book.opens credit.kind = some true → credit.documentId ≠ new.documentId →
    (∃ application ∈ new.applications, application.targetDocumentId = credit.documentId) →
      ownUse credit - (settledByRest ledger book credit.documentId new.documentId +
        book.settledBy credit.documentId new) ≤ documentWorth credit
  edited : ∀ book : Book, book.opens new.kind = some true →
    appliedByRest ledger book new.documentId new.documentId +
        book.appliedBy new.documentId new ≤ documentWorth new ∧
      ownUse new - (settledByRest ledger book new.documentId new.documentId +
        book.settledBy new.documentId new) ≤ documentWorth new

theorem appliedBy_of_namesOnce {new : LedgerDocument} {book : Book} {documentId : String}
    (stands : new.isVoided = false) (once : NamesOnce new book documentId) :
    ∃ application ∈ new.applications, application.targetDocumentId = documentId ∧
      book.appliedBy documentId new = application.amount.minor := by
  obtain ⟨settles, application, alone⟩ := once
  have kept : application ∈ new.applications.filter fun application =>
      application.targetDocumentId = documentId := by
    rw [alone]
    exact List.mem_singleton_self _
  obtain ⟨applicationMem, named⟩ := List.mem_filter.mp kept
  refine ⟨application, applicationMem, of_decide_eq_true named, ?_⟩
  have summed := sum_map_filter (fun application : Application => application.amount.minor)
    (fun application => decide (application.targetDocumentId = documentId)) new.applications
  rw [alone] at summed
  unfold Book.appliedBy
  rw [if_pos ⟨settles, stands⟩]
  simpa using summed.symm

theorem appliedBy_of_not_named {new : LedgerDocument} {book : Book} {documentId : String}
    (unnamed : ∀ application ∈ new.applications,
      application.targetDocumentId ≠ documentId) :
    book.appliedBy documentId new = 0 ∧ book.settledBy documentId new = 0 := by
  unfold Book.appliedBy Book.settledBy moneyApplications
  rw [total_eq_zero _ _ fun application applicationMem named =>
      absurd named (unnamed application applicationMem),
    total_eq_zero _ _ fun application applicationMem named =>
      absurd named (unnamed application (List.mem_of_mem_filter applicationMem))]
  simp

variable {ledger after : Ledger} {doc new : LedgerDocument} {command : CommandMeta}
  {checked : Ledger}

namespace AcceptsEdit

variable (accepts : AcceptsEdit ledger after doc command new checked)
include accepts

theorem newestTotal_after (measure : LedgerDocument → Int) :
    newestTotal measure after =
      newestTotal measure ledger - latestMeasure measure ledger new.documentId + measure new := by
  rw [newestTotal_congr accepts.versions, newestTotal_recordVersion measure accepts.wellFormed,
    newestTotal_congr accepts.sameVersions, latestMeasure_congr accepts.sameVersions]

theorem appliedTo_after (book : Book) (target : String) :
    appliedTo after book target =
      appliedByRest ledger book target new.documentId + book.appliedBy target new :=
  accepts.newestTotal_after (book.appliedBy target)

theorem settledTo_after (book : Book) (target : String) :
    settledTo after book target =
      settledByRest ledger book target new.documentId + book.settledBy target new :=
  accepts.newestTotal_after (book.settledBy target)

theorem latest_new : after.latestDocumentPayload new.documentId = some new := by
  rw [latestDocumentPayload_congr accepts.versions]
  exact latestDocumentPayload_recordVersion checked new command

theorem latest_other {id : String} (other : id ≠ new.documentId) :
    after.latestDocumentPayload id = ledger.latestDocumentPayload id := by
  rw [latestDocumentPayload_congr accepts.versions,
    latestDocumentPayload_recordVersion_other checked new command other.symm,
    latestDocumentPayload_congr accepts.sameVersions]

theorem edited_within {book : Book} (opens : book.opens new.kind = some false) :
    appliedTo after book new.documentId ≤ documentWorth new := by
  have settlesNot : book.settles new.kind = false := by
    cases book <;> cases kind : new.kind <;> simp [Book.opens, kind] at opens <;> rfl
  have covers := checkOwnApplications_spec accepts.wellFormed opens accepts.own
  rw [appliedByRest_congr accepts.sameVersions] at covers
  rw [accepts.appliedTo_after]
  unfold Book.appliedBy
  rw [settlesNot, if_neg (by simp), add_zero]
  exact covers

theorem namedOnce_within {book : Book} {target : LedgerDocument} {isCredit : Bool}
    (latest : ledger.latestDocumentPayload target.documentId = some target)
    (opens : book.opens target.kind = some isCredit)
    (once : NamesOnce new book target.documentId) :
    appliedTo after book target.documentId ≤ documentWorth target := by
  obtain ⟨application, applicationMem, named, applied⟩ :=
    appliedBy_of_namesOnce accepts.stands once
  rw [← latestDocumentPayload_congr accepts.sameVersions] at latest
  have covers := checkTarget_spec accepts.wellFormed (by rw [named]; exact latest) opens
    (accepts.targets application applicationMem)
  rw [appliedByRest_congr accepts.sameVersions, named] at covers
  rw [accepts.appliedTo_after, applied]
  exact covers

theorem fitsUnchecked_of_withinTotals (within : WithinTotals after) :
    FitsUnchecked ledger new := by
  constructor
  · intro book other isCredit latest stands opens isOther unnamed
    rw [← accepts.latest_other isOther] at latest
    obtain ⟨applied, used⟩ := within book other isCredit latest stands opens
    obtain ⟨nothingApplied, nothingSettled⟩ := appliedBy_of_not_named unnamed
    rw [accepts.appliedTo_after, nothingApplied, add_zero] at applied
    rw [accepts.settledTo_after, nothingSettled, add_zero] at used
    exact ⟨applied, used⟩
  · intro book other isCredit latest stands opens isOther named several
    rw [← accepts.latest_other isOther] at latest
    have applied := (within book other isCredit latest stands opens).1
    rw [accepts.appliedTo_after] at applied
    exact applied
  · intro book credit latest stands opens isOther named
    rw [← accepts.latest_other isOther] at latest
    have used := (within book credit true latest stands opens).2 rfl
    rw [accepts.settledTo_after] at used
    exact used
  · intro book opens
    obtain ⟨applied, used⟩ := within book new true accepts.latest_new accepts.stands opens
    rw [accepts.appliedTo_after] at applied
    rw [accepts.settledTo_after] at used
    exact ⟨applied, used rfl⟩

theorem withinTotals_of_fitsUnchecked (fits : FitsUnchecked ledger new) :
    WithinTotals after := by
  intro book other isCredit latest stands opens
  by_cases isNew : other.documentId = new.documentId
  · rw [isNew, accepts.latest_new, Option.some.injEq] at latest
    subst latest
    cases isCredit with
    | false => exact ⟨accepts.edited_within opens, fun isTrue => absurd isTrue Bool.false_ne_true⟩
    | true =>
      obtain ⟨applied, used⟩ := fits.edited book opens
      rw [accepts.appliedTo_after, accepts.settledTo_after]
      exact ⟨applied, fun _ => used⟩
  · rw [accepts.latest_other isNew] at latest
    by_cases named : ∃ application ∈ new.applications,
        application.targetDocumentId = other.documentId
    · refine ⟨?_, ?_⟩
      · by_cases once : NamesOnce new book other.documentId
        · exact accepts.namedOnce_within latest opens once
        · rw [accepts.appliedTo_after]
          exact fits.repeated book other isCredit latest stands opens isNew named once
      · rintro rfl
        rw [accepts.settledTo_after]
        exact fits.drawn book other latest stands opens isNew named
    · have unnamed : ∀ application ∈ new.applications,
          application.targetDocumentId ≠ other.documentId :=
        fun application applicationMem same => named ⟨application, applicationMem, same⟩
      obtain ⟨nothingApplied, nothingSettled⟩ :=
        @appliedBy_of_not_named new book other.documentId unnamed
      rw [accepts.appliedTo_after, accepts.settledTo_after, nothingApplied, nothingSettled,
        add_zero, add_zero]
      exact fits.unnamed book other isCredit latest stands opens isNew unnamed

end AcceptsEdit

/-- An accepted edit saves the document that it was given, with its applications, and
leaves none over-applied exactly when the totals that its checks do not compare fit. -/
theorem updateDocument_withinTotals_iff {config : PostingConfig} {revision : Revision}
    (reachable : Reachable ledger)
    (updates : execute (updateDocument doc config command) ledger = (.ok revision, after)) :
    SameDocument doc revision.document ∧
      (WithinTotals after ↔ FitsUnchecked ledger revision.document) := by
  obtain ⟨checked, accepts⟩ := acceptsEdit_of_ok reachable.wellFormed updates
  exact ⟨accepts.sameDocument, accepts.fitsUnchecked_of_withinTotals, accepts.withinTotals_of_fitsUnchecked⟩

end Totals

section Example

def partlyPaidInvoice : LedgerDocument where
  documentId := "invoice-1"
  kind := .invoice
  txnDate := ⟨2026, 5, 4, Eq.refl true⟩
  contact := some ⟨.customer, "c1"⟩
  headerClass := some ⟨"foam"⟩
  lines := [{ lineNo := 1, kind := .item, amount := .fromMinor 10000 }]

def partialPayment : LedgerDocument where
  documentId := "payment-1"
  kind := .payment
  txnDate := ⟨2026, 5, 5, Eq.refl true⟩
  contact := some ⟨.customer, "c1"⟩
  lines := []
  applications := [⟨"invoice-1", .invoice, .fromMinor 6000⟩]

/-- The payment names the invoice a second time. -/
def doubledPayment : LedgerDocument :=
  { partialPayment with
    applications := [⟨"invoice-1", .invoice, .fromMinor 6000⟩,
      ⟨"invoice-1", .invoice, .fromMinor 6000⟩] }

def partlyPaidBook : Ledger :=
  (Ledger.createCompany "aquamentor").after
    [.upsertContact { contactId := "c1", kind := .customer, displayName := "Ada" },
      .createDocument partlyPaidInvoice "bookkeeper",
      .createDocument partialPayment "bookkeeper"]

theorem partlyPaidBook_reachable : Reachable partlyPaidBook :=
  ⟨_, _, rfl⟩

def doublyPaidBook : Ledger :=
  (execute (updateDocument doubledPayment {} ⟨"bookkeeper", "update_document"⟩)
    partlyPaidBook).2

theorem doubledPayment_accepted :
    ∃ revision, execute (updateDocument doubledPayment {} ⟨"bookkeeper", "update_document"⟩)
      partlyPaidBook = (.ok revision, doublyPaidBook) := by
  obtain ⟨revision, accepted, -⟩ := exists_ok_of_map_toOption
    (show (execute (updateDocument doubledPayment {} ⟨"bookkeeper", "update_document"⟩)
      partlyPaidBook).1.toOption.map (fun _ => ()) = some () by decide +kernel)
  exact ⟨revision, Prod.ext accepted rfl⟩

/-- Each application fits by itself, and the two are more than the invoice. -/
theorem doubledPayment_over_applies :
    ¬ ∀ (ledger : Ledger), Reachable ledger → ∀ (doc : LedgerDocument) (config : PostingConfig)
      (command : CommandMeta) (revision : Revision) (after : Ledger),
      execute (updateDocument doc config command) ledger = (.ok revision, after) →
        WithinTotals after := by
  intro always
  obtain ⟨revision, accepted⟩ := doubledPayment_accepted
  have within := always _ partlyPaidBook_reachable _ _ _ _ _ accepted
  obtain ⟨invoice, saved, facts⟩ := Option.map_eq_some_iff.mp
    (show (doublyPaidBook.latestDocumentPayload "invoice-1").map (fun invoice =>
        (invoice.documentId, invoice.isVoided, invoice.kind, documentWorth invoice)) =
      some ("invoice-1", false, .invoice, 10000) by decide +kernel)
  simp only [Prod.mk.injEq] at facts
  obtain ⟨sameId, stands, kindEq, worth⟩ := facts
  have applied : appliedTo doublyPaidBook .receivable "invoice-1" = 12000 := by
    decide +kernel
  have fits := (within .receivable invoice false (by rw [sameId]; exact saved) stands
    (by rw [kindEq]; rfl)).1
  rw [sameId, applied, worth] at fits
  omega

theorem doubledPayment_withinTotals_iff :
    ∃ revision, execute (updateDocument doubledPayment {} ⟨"bookkeeper", "update_document"⟩)
        partlyPaidBook = (.ok revision, doublyPaidBook) ∧
      (WithinTotals doublyPaidBook ↔ FitsUnchecked partlyPaidBook revision.document) := by
  obtain ⟨revision, accepted⟩ := doubledPayment_accepted
  exact ⟨revision, accepted,
    (updateDocument_withinTotals_iff partlyPaidBook_reachable accepted).2⟩

end Example

end QuickBooks
