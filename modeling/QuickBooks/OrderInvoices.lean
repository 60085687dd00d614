import QuickBooks.RefusedWrites
import QuickBooks.SettledRevisions
import QuickBooks.NewestVersions

/-!
# Invoices made from a sales order

The invoice of a request takes the lines that the request names and at most what
is open on the order.  A call of the tool saves it as it was prepared or saves
no version at all, and a void saves a document as voided or writes nothing.
-/

/-!
## What the invoices take from a sales order

The amount that was taken from an order is the sum of the links to it in the
newest versions of the invoices that are not voided.  Saving a version changes
it by what the document took before and what it takes now.  A request takes
lines of the order, each whole or in a share of its quantity, and its invoice
takes what the lines come to.
-/

namespace QuickBooks

open DecimalNumbers ExceptPrograms KeyedTotals
open Ledger

section Amounts

variable (orderId : String)

def takenAmount (ledger : Ledger) : Int :=
  total (fun link => link.2.targetDocumentId = orderId) (fun link => link.2.amount.minor)
    ((latestDocuments ledger [.invoice] Date.last).flatMap orderLinks)

/-- What one document takes from an order. -/
def takenBy (doc : LedgerDocument) : Int :=
  if doc.kind = .invoice ∧ doc.isVoided = false then
    total (fun link => link.2.targetDocumentId = orderId) (fun link => link.2.amount.minor)
      (orderLinks doc)
  else 0

theorem takenAmount_eq_newestTotal (ledger : Ledger) :
    takenAmount orderId ledger = newestTotal (takenBy orderId) ledger := by
  unfold takenAmount newestTotal latestDocuments
  rw [total_flatMap]
  have asTotal : ∀ docs : List LedgerDocument, (docs.map fun doc =>
      total (fun link => link.2.targetDocumentId = orderId) (fun link => link.2.amount.minor)
        (orderLinks doc)).sum = total (fun _ => True) (fun doc =>
          total (fun link => link.2.targetDocumentId = orderId)
            (fun link => link.2.amount.minor) (orderLinks doc)) docs :=
    fun docs => (total_of_forall _ _ fun _ _ => trivial).symm
  have unvoided : (fun doc : LedgerDocument => !doc.isVoided) =
      fun doc => decide (doc.isVoided = false) := by
    ext doc
    cases doc.isVoided <;> rfl
  rw [asTotal, unvoided, total_filter, total_map, total_perm _ _ (List.perm_insertionSort _ _),
    total_filter]
  unfold total
  congr 1
  apply List.map_congr_left
  intro row _
  have inTime : row.document.txnDate ≤ Date.last := Date.le_last _
  unfold takenBy
  cases newest : ledger.isNewest row <;> cases voided : row.document.isVoided <;>
    by_cases isInvoice : row.document.kind = .invoice <;>
      simp [isInvoice, inTime, newest, voided, total]

theorem takenAmount_recordVersion {ledger : Ledger} (wellFormed : ledger.WellFormed)
    (doc : LedgerDocument) (command : CommandMeta) :
    takenAmount orderId (ledger.recordVersion doc command) =
      takenAmount orderId ledger - latestMeasure (takenBy orderId) ledger doc.documentId +
        takenBy orderId doc := by
  rw [takenAmount_eq_newestTotal, takenAmount_eq_newestTotal,
    newestTotal_recordVersion _ wellFormed]

theorem lookup_addOrderLink {invoiceId : String} {link : Application}
    {invoiced result : InvoicedByOrder} (adds : addOrderLink invoiceId link invoiced = .ok result) :
    ((result.lookup orderId).map fun taken => taken.1.minor).getD 0 =
      ((invoiced.lookup orderId).map fun taken => taken.1.minor).getD 0 +
        if link.targetDocumentId = orderId then link.amount.minor else 0 := by
  induction invoiced generalizing result with
  | nil =>
    rw [addOrderLink, bind_eq_ok_iff] at adds
    obtain ⟨amount, sums, isResult⟩ := adds
    rw [pure_eq_ok_iff] at isResult
    rw [Money.checkedAdd_eq_ok_iff] at sums
    subst isResult
    by_cases same : link.targetDocumentId = orderId
    · simp [same, sums]
    · have other : (orderId == link.targetDocumentId) = false := by
        simpa using Ne.symm same
      simp [List.lookup_cons, same, other]
  | cons first rest ih =>
    obtain ⟨id, amount, invoiceIds⟩ := first
    rw [addOrderLink] at adds
    by_cases here : id = link.targetDocumentId
    · rw [if_pos here, bind_eq_ok_iff] at adds
      obtain ⟨sum, sums, isResult⟩ := adds
      rw [pure_eq_ok_iff] at isResult
      rw [Money.checkedAdd_eq_ok_iff] at sums
      subst isResult here
      by_cases same : link.targetDocumentId = orderId
      · simp [same, sums]
      · have other : (orderId == link.targetDocumentId) = false := by
          simpa using Ne.symm same
        simp [List.lookup_cons, same, other]
    · rw [if_neg here, bind_eq_ok_iff] at adds
      obtain ⟨later, adds, isResult⟩ := adds
      rw [pure_eq_ok_iff] at isResult
      subst isResult
      by_cases found : orderId = id
      · have notLink : link.targetDocumentId ≠ orderId := by
          intro same
          exact here (found.symm.trans same.symm)
        simp [found, found ▸ notLink]
      · have other : (orderId == id) = false := by simpa using found
        simp only [List.lookup_cons, other]
        exact ih adds

theorem minor_takenFrom {ledger : Ledger} {taken : Money}
    (finds : takenFrom ledger orderId = .ok taken) : taken.minor = takenAmount orderId ledger := by
  unfold takenFrom invoicedByOrder at finds
  rw [bind_eq_ok_iff] at finds
  obtain ⟨invoiced, folds, isTaken⟩ := finds
  rw [pure_eq_ok_iff] at isTaken
  subst isTaken
  have counted := foldlM_invariant
    (fun consumed (invoiced : InvoicedByOrder) =>
      ((invoiced.lookup orderId).map fun taken => taken.1.minor).getD 0 =
        total (fun link => link.2.targetDocumentId = orderId) (fun link => link.2.amount.minor)
          consumed)
    (fun consumed link before after holds step => by
      rw [lookup_addOrderLink orderId step, holds, total_append, total_cons, total_nil, add_zero])
    rfl folds
  unfold takenAmount
  rw [← counted]
  cases invoiced.lookup orderId <;> rfl

end Amounts

section Picks

/-- A line that an invoice takes, by its place in the order: all of it, or some
of its quantity. -/
structure Pick where
  index : ℕ
  qty : Option Decimal
deriving DecidableEq

variable (divide : Decimal → Decimal → Option Decimal) (order : LedgerDocument)

/-- The lines that a request takes. -/
def picksOf : Option (List ConvertLine) → List Pick
  | none => (List.range order.lines.length).map fun index => ⟨index, none⟩
  | some wanted => wanted.map fun want =>
    ⟨order.lines.findIdx fun line => line.lineNo = want.lineNo, want.qty⟩

/-- How much of its line a pick takes: the whole, or a part of the quantity. -/
def Pick.share (pick : Pick) : ℚ :=
  match pick.qty, order.lines[pick.index]?.bind DocLine.qty with
  | some qty, some ordered => qty.toRat / ordered.toRat
  | _, _ => 1

def lineAmount (index : ℕ) : Int :=
  (order.lines[index]?.map countedAmount).getD 0

def worth : Int :=
  (order.lines.map countedAmount).sum

def Pick.TakenAs (pick : Pick) (taken : DocLine) : Prop :=
  ∃ line, order.lines[pick.index]? = some line ∧
    takeLine divide order.documentId line pick.qty = .ok taken

def Pick.IsExact (pick : Pick) : Prop :=
  ∀ taken, pick.TakenAs divide order taken →
    (countedAmount taken : ℚ) = pick.share order * lineAmount order pick.index

variable {divide order}

theorem pickLines_spec {orderId : String} {taken : Money} {wanted : Option (List ConvertLine)}
    {picked : List (DocLine × Option Decimal)}
    (picks : pickLines order orderId taken wanted = .ok picked) :
    List.Forall₂ (fun (pick : Pick) chosen =>
      order.lines[pick.index]? = some chosen.1 ∧ pick.qty = chosen.2)
        (picksOf order wanted) picked := by
  cases wanted with
  | none =>
    rw [pickLines, bind_eq_ok_iff] at picks
    obtain ⟨_, -, picks⟩ := picks
    rw [pure_eq_ok_iff] at picks
    subst picks
    unfold picksOf
    rw [List.forall₂_map_left_iff, List.forall₂_map_right_iff, List.forall₂_iff_get]
    refine ⟨List.length_range, ?_⟩
    intro index inRange inLines
    simp
  | some wanted =>
    rw [pickLines, mapM_eq_ok_iff] at picks
    unfold picksOf
    rw [List.forall₂_map_left_iff]
    apply picks.imp
    intro want chosen finds
    rw [bind_eq_ok_iff] at finds
    obtain ⟨line, found, isChosen⟩ := finds
    rw [pure_eq_ok_iff] at isChosen
    subst isChosen
    rw [orRefuse_eq_ok_iff] at found
    refine ⟨?_, rfl⟩
    rw [← List.find?_eq_getElem?_findIdx]
    exact found

theorem Pick.share_pos {pick : Pick} {taken : DocLine} (takes : pick.TakenAs divide order taken) :
    0 < pick.share order := by
  obtain ⟨line, atIndex, takes⟩ := takes
  unfold share
  rw [atIndex, Option.bind_some]
  cases part : pick.qty with
  | none => exact one_pos
  | some qty =>
    rw [part, takeLine, bind_eq_ok_iff] at takes
    obtain ⟨ordered, has, takes⟩ := takes
    rw [bind_eq_ok_iff] at takes
    obtain ⟨_, fits, -⟩ := takes
    rw [orRefuse_eq_ok_iff, Option.filter_eq_some_iff] at has
    rw [ensure_eq_ok_iff, Bool.and_eq_true, Bool.not_eq_true'] at fits
    rw [has.1]
    have positive : 0 < qty.toRat := by
      rw [← Decimal.toRat_zero, ← not_le, Decimal.toRat_le_iff]
      simp [fits.1]
    have orderedPositive : 0 < ordered.toRat :=
      positive.trans_le (Decimal.toRat_le_iff.mpr fits.2)
    exact div_pos positive orderedPositive

@[simp]
theorem map_countedAmount_renumber (lines : List DocLine) :
    (renumber lines).map countedAmount = lines.map countedAmount := by
  unfold renumber
  rw [List.map_map]
  apply List.ext_getElem
  · simp
  · intro index _ _
    simp [countedAmount]

theorem sum_lineAmount : ((List.range order.lines.length).map (lineAmount order)).sum =
    worth order := by
  unfold worth
  congr 1
  apply List.ext_getElem
  · simp
  · intro index inRange inLines
    rw [List.length_map] at inLines
    simp [lineAmount, inLines]

end Picks

end QuickBooks

namespace QuickBooks

open DecimalNumbers ExceptPrograms KeyedTotals TransactionPrograms TransitionRuns
open Ledger

section Conversion

variable {divide : Decimal → Decimal → Option Decimal} {order : LedgerDocument}
  {ledger : Ledger} {request : ConvertRequest} {invoice : LedgerDocument}

/-- The invoice of a request takes the lines that the request names, and no more
than is open on the order. -/
structure Converts (divide : Decimal → Decimal → Option Decimal) (order : LedgerDocument)
    (ledger : Ledger) (request : ConvertRequest) (invoice : LedgerDocument) : Prop where
  documentId : invoice.documentId = request.documentId
  notVoided : invoice.isVoided = false
  fits : takenAmount order.documentId ledger + takenBy order.documentId invoice ≤ worth order
  lines : ∃ taken, List.Forall₂ (Pick.TakenAs divide order) (picksOf order request.lines) taken ∧
    taken ≠ [] ∧ takenBy order.documentId invoice = (taken.map countedAmount).sum

theorem liftM_salesOrder_eq_ok_iff {α : Type} {compute : Except MoneyError α} {value : α} :
    (liftM compute : Except SalesOrderError α) = .ok value ↔ compute = .ok value := by
  cases compute with
  | error failure => exact iff_of_false (fun isOk => nomatch isOk) fun isOk => nomatch isOk
  | ok result =>
    change (Except.ok result : Except SalesOrderError α) = .ok value ↔ _
    rw [Except.ok.injEq, Except.ok.injEq]

theorem takeLines_spec {orderId : String} {picked : List (DocLine × Option Decimal)}
    {lines : List DocLine} (takes : takeLines divide orderId picked = .ok lines) :
    ∃ taken, List.Forall₂ (fun (chosen : DocLine × Option Decimal) line =>
        takeLine divide orderId chosen.1 chosen.2 = .ok line) picked taken ∧
      taken ≠ [] ∧ lines = renumber taken := by
  unfold takeLines at takes
  rw [bind_eq_ok_iff] at takes
  obtain ⟨taken, each, takes⟩ := takes
  rw [bind_eq_ok_iff] at takes
  obtain ⟨_, some, takes⟩ := takes
  rw [pure_eq_ok_iff] at takes
  rw [ensure_eq_ok_iff] at some
  rw [mapM_eq_ok_iff] at each
  exact ⟨taken, each, by simpa using some, takes.symm⟩

theorem converts_of_ok
    (latest : ∃ last, ledger.latestDocumentPayload order.documentId = some last ∧
      (last = order ∨ last.isVoided = true))
    (makes : invoiceFromSalesOrder divide ledger order.documentId request = .ok invoice) :
    Converts divide order ledger request invoice := by
  obtain ⟨last, isLast, orVoided⟩ := latest
  unfold invoiceFromSalesOrder at makes
  simp only [bind_eq_ok_iff, liftM_salesOrder_eq_ok_iff] at makes
  obtain ⟨found, finds, _, checks, taken, isTaken, total, totals, left, subtracts, _, isOpen,
    picked, picks, lines, takes, asked, asks, _, fits, isInvoice⟩ := makes
  rw [pure_eq_ok_iff] at isInvoice
  have sameOrder : found = order := by
    have isFound : ledger.latestDocumentPayload order.documentId = some found :=
      latestDocument_eq_ok (mapError_eq_ok_iff.mp finds)
    rw [isLast, Option.some.injEq] at isFound
    subst isFound
    rcases orVoided with same | voided
    · exact same
    · unfold checkOrder at checks
      rw [bind_eq_ok_iff] at checks
      obtain ⟨_, -, notVoided⟩ := checks
      rw [ensure_eq_ok_iff, voided] at notVoided
      cases notVoided
  subst sameOrder
  have takenEq : taken.minor = takenAmount found.documentId ledger :=
    minor_takenFrom _ isTaken
  have totalEq : total.minor = worth found :=
    foldlM_documentTotalLine totals
  have leftEq : left.minor = total.minor - taken.minor :=
    Money.checkedSub_eq_ok_iff.mp subtracts
  have askedEq : asked.minor = (lines.map countedAmount).sum :=
    foldlM_documentTotalLine asks
  rw [ensure_eq_ok_iff, decide_eq_true_eq] at fits
  have takenByEq : takenBy found.documentId invoice = asked.minor := by
    rw [← isInvoice]
    simp [takenBy, orderLinks, invoiceOf]
  obtain ⟨lineOf, each, nonempty, rfl⟩ := takeLines_spec takes
  rw [map_countedAmount_renumber] at askedEq
  refine ⟨by rw [← isInvoice]; rfl, by rw [← isInvoice]; rfl, ?_, lineOf, ?_, nonempty, by rw [takenByEq, askedEq]⟩
  · omega
  · apply forall₂_comp (pickLines_spec picks) each
    rintro pick chosen line ⟨atIndex, sameQty⟩ isTakenAs
    exact ⟨chosen.1, atIndex, by rw [sameQty]; exact isTakenAs⟩

end Conversion

section Versions

variable {first second : Ledger} (same : first.documentVersions = second.documentVersions)
include same

theorem latestDocumentPayload_congr (documentId : String) :
    first.latestDocumentPayload documentId = second.latestDocumentPayload documentId := by
  unfold latestDocumentPayload documentAt previousVersion versionsOf
  rw [same]

theorem documentVersionCount_congr (documentId : String) :
    first.documentVersionCount documentId = second.documentVersionCount documentId := by
  unfold documentVersionCount versionsOf
  rw [same]

theorem latestMeasure_congr (measure : LedgerDocument → Int) (documentId : String) :
    latestMeasure measure first documentId = latestMeasure measure second documentId := by
  unfold latestMeasure
  rw [latestDocumentPayload_congr same]

theorem takenAmount_congr (orderId : String) :
    takenAmount orderId first = takenAmount orderId second := by
  unfold takenAmount latestDocuments isNewest previousVersion versionsOf
  rw [same]

end Versions

section Calls

variable {divide : Decimal → Decimal → Option Decimal} {ledger : Ledger}

theorem state_answerPrepared (doc : LedgerDocument) (ctx : PostingContext)
    (actor commandKind : String) :
    (execute (answerPrepared doc ctx actor commandKind) ledger).2 =
      (execute (postThenSave doc ctx ⟨actor, commandKind⟩) ledger).2 := by
  unfold answerPrepared
  rw [execute_bind_state]
  · unfold saveAndPostPrepared viaLedger
    simp only [execute_refusingWith]
  · intro saved after
    cases documentTotal doc <;> rfl

theorem answerPrepared_saves (wellFormed : ledger.WellFormed) (doc : LedgerDocument)
    (ctx : PostingContext) (actor commandKind : String) :
    let after := (execute (answerPrepared doc ctx actor commandKind) ledger).2
    after.WellFormed ∧ (after.documentVersions = ledger.documentVersions ∨
      after.documentVersions =
        (ledger.recordVersion doc ⟨actor, commandKind⟩).documentVersions) := by
  intro after
  constructor
  · have history : Evolves Set.univ ledger
        (execute (postThenSave doc ctx ⟨actor, commandKind⟩) ledger).2 :=
      postThenSave_respects (Set.subset_univ _) ledger
    change (execute _ ledger).2.WellFormed
    rw [state_answerPrepared]
    exact history.wellFormed wellFormed
  · rcases answerPrepared_cases wellFormed doc ctx actor commandKind with
      ⟨_, -, failure, runs⟩ | ⟨posting, -, final, saved, ends⟩
    · left
      exact congrArg (fun result => result.2.documentVersions) runs
    · right
      have isFinal : after = final := by
        rcases ends with ⟨-, -, answer, runs⟩ | ⟨-, failure, runs⟩
        · exact congrArg Prod.snd runs
        · exact congrArg Prod.snd runs
      rw [isFinal]
      exact saved.versions

theorem callConvertToInvoice_cases (wellFormed : ledger.WellFormed) (orderId : String)
    (request : ConvertRequest) (actor : String) :
    let after := (execute (callConvertToInvoice divide orderId (.ok request) actor) ledger).2
    after.WellFormed ∧
      (after.documentVersions = ledger.documentVersions ∨
        ∃ invoice prepared,
          invoiceFromSalesOrder divide ledger orderId request = .ok invoice ∧
            SameDocument invoice prepared ∧
            after.documentVersions = (ledger.recordVersion prepared
              ⟨actor, "mcp_convert_to_invoice"⟩).documentVersions) := by
  unfold callConvertToInvoice
  rw [execute_bind_ok _ (by rw [execute_ofExcept]; rfl), execute_bind_ok _ (execute_get ledger)]
  cases makes : invoiceFromSalesOrder divide ledger orderId request with
  | error failure => exact ⟨wellFormed, .inl rfl⟩
  | ok invoice =>
  rw [execute_bind_ok _ (by rw [execute_ofExcept]; rfl)]
  rcases prepares : execute (prepareDocument invoice {}) ledger with ⟨outcome, middle⟩
  have middleWellFormed : middle.WellFormed := wellFormed_of_prepares wellFormed prepares
  have same : SameRecords ledger middle := by
    have history := prepareDocument_respects (Set.mem_singleton _) invoice {} ledger
    rw [prepares] at history
    exact sameRecords_of_masterData history wellFormed
  have preparing : execute (refusingWith (CallError.tool ∘ .books) (prepareDocument invoice {}))
      ledger = (outcome.mapError (CallError.tool ∘ .books), middle) := by
    rw [execute_refusingWith, prepares]
  cases outcome with
  | error failure =>
    rw [execute_bind_error _ preparing]
    exact ⟨middleWellFormed, .inl same.documentVersions⟩
  | ok result =>
    obtain ⟨prepared, ctx⟩ := result
    rw [execute_bind_ok _ preparing]
    dsimp only
    have reads : ∀ (answer : WriteAnswer) (after : Ledger), (execute (do
        let ledger ← get
        let orders ← MonadExcept.ofExcept
          ((salesOrders ledger none false).mapError CallError.money)
        return { answer with order := orders.find? fun order => order.documentId = orderId } :
          CallProgram WriteAnswer) after).2 = after := by
      intro answer after
      rw [execute_bind_ok _ (execute_get after)]
      cases salesOrders after none false <;> rfl
    rw [execute_bind_state _ reads]
    obtain ⟨afterWellFormed, versions⟩ := answerPrepared_saves middleWellFormed prepared ctx
      actor "mcp_convert_to_invoice"
    refine ⟨afterWellFormed, ?_⟩
    rcases versions with kept | recorded
    · exact .inl (kept.trans same.documentVersions)
    · refine .inr ⟨invoice, prepared, rfl, prepareDocument_sameDocument prepares, ?_⟩
      rw [recorded]
      simp only [recordVersion, previousVersion, versionsOf, same.documentVersions,
        same.oplog]

/-- The versions that a revision's writes leave are those with one more of its
document. -/
theorem versions_writeRevision {doc : LedgerDocument} {newEntry : Option JournalEntry}
    {reversed : List PostedEntry} {reposting : Reposting} {command : CommandMeta}
    {revision : Revision} {after : Ledger} (wellFormed : ledger.WellFormed)
    (distinct : reversed.Nodup)
    (live : ∀ posted ∈ reversed, posted ∈ ledger.liveEntriesForDocument doc.documentId)
    (writes : execute (writeRevision doc newEntry reversed reposting command) ledger =
      (.ok revision, after)) :
    after.documentVersions = (ledger.recordVersion doc command).documentVersions := by
  unfold writeRevision at writes
  rw [execute_bind_eq_ok_iff] at writes
  obtain ⟨reversals, middle, reverses, writes⟩ := writes
  have onlyReversals : Evolves {.liveReversal doc.documentId} ledger
      (execute (postReversals reposting reversed) ledger).2 :=
    postReversals_evolves (Set.mem_singleton _) distinct fun _ => live
  rw [reverses] at onlyReversals
  have sameVersions : middle.documentVersions = ledger.documentVersions :=
    versions_of_reversals onlyReversals wellFormed
  have sameOplog : middle.oplog = ledger.oplog := by
    apply onlyReversals.keeps wellFormed fun state => state.oplog = ledger.oplog
    · rintro kind kindEq earlier later _ write same
      rw [Set.mem_singleton_iff] at kindEq
      cases write <;> simp at kindEq
      exact same
    · rfl
  have recorded : (middle.recordVersion doc command).documentVersions =
      (ledger.recordVersion doc command).documentVersions := by
    simp only [recordVersion, previousVersion, versionsOf, sameVersions, sameOplog]
  rw [execute_bind_ok _ (execute_saveDocument middle doc command)] at writes
  cases newEntry with
  | none =>
    rw [execute_pure, Prod.mk.injEq] at writes
    rw [← writes.2]
    exact recorded
  | some entry =>
    dsimp only at writes
    rw [execute_bind_eq_ok_iff] at writes
    obtain ⟨entryId, last, posts, result⟩ := writes
    rw [execute_pure, Prod.mk.injEq] at result
    obtain ⟨-, -, rfl⟩ := execute_postEntry_eq_ok_iff.mp posts
    rw [← result.2]
    exact recorded

theorem voidDocument_cases (wellFormed : ledger.WellFormed) (documentId reason : String)
    (command : CommandMeta) :
    let after := (Operation.voidDocument documentId reason command).run ledger
    after.WellFormed ∧
      (after.documentVersions = ledger.documentVersions ∨
        ∃ old voided, ledger.latestDocumentPayload documentId = some old ∧
          old.isVoided = false ∧ voided.documentId = documentId ∧ voided.isVoided = true ∧
          after.documentVersions = (ledger.recordVersion voided command).documentVersions) := by
  refine ⟨((Operation.voidDocument documentId reason command).evolves ledger).wellFormed
    wellFormed, ?_⟩
  rcases voids : execute (voidDocument documentId reason command) ledger with ⟨outcome, after⟩
  have isAfter : (Operation.voidDocument documentId reason command).run ledger = after :=
    congrArg Prod.snd voids
  rw [isAfter]
  cases outcome with
  | error failure =>
    have call : execute (RevisionCall.void documentId reason command).program ledger =
        (.error failure, after) := voids
    exact .inl (RevisionCall.error_keeps_records wellFormed call).documentVersions
  | ok revision =>
    right
    unfold voidDocument at voids
    rw [execute_bind_eq_ok_iff] at voids
    obtain ⟨old, middle, finds, voids⟩ := voids
    obtain ⟨found, rfl⟩ := execute_reading_eq_ok_iff.mp finds
    rw [execute_bind_eq_ok_iff] at voids
    obtain ⟨_, middle, stands, voids⟩ := voids
    obtain ⟨notVoided, rfl⟩ := execute_reading_eq_ok_iff.mp stands
    rw [execute_bind_eq_ok_iff] at voids
    obtain ⟨_, middle, unapplied, voids⟩ := voids
    obtain ⟨-, rfl⟩ := execute_reading_eq_ok_iff.mp unapplied
    have isOld : ledger.latestDocumentPayload documentId = some old :=
      latestDocument_eq_ok found
    have sameId : old.documentId = documentId := latestDocumentPayload_documentId wellFormed isOld
    obtain ⟨newEntry, reverse, -, writes⟩ := execute_commitRevision_ok voids
    refine ⟨old, { old with isVoided := true, memo := some (voidMemo reason old.memo) },
      isOld, ?_, sameId, rfl, ?_⟩
    · rw [ensure_eq_ok_iff] at notVoided
      simpa using notVoided
    · apply versions_writeRevision wellFormed ?_ ?_ writes
      · split_ifs
        · exact wellFormed.live_nodup _
        · exact List.nodup_nil
      · split_ifs
        · exact fun _ postedLive => postedLive
        · simp

end Calls

end QuickBooks
