import Mathlib.Algebra.BigOperators.Ring.Finset
import QuickBooks.ImportedDocuments
import QuickBooks.OrderInvoices

/-!
# Orders that are invoiced in parts

A book keeps which lines each invoice took beside the ledger, which only keeps
amounts.  An invoice takes at most what is open, so the amounts stay within the
order while no invoice with a negative amount is voided beyond what is open.
The quantities do, and an order that is taken in full closes, where no request
asks for more of a line than is left and every part comes to whole cents.
-/

namespace QuickBooks

open DecimalNumbers ExceptPrograms KeyedTotals TransactionPrograms TransitionRuns
open Ledger

section Shares

variable (order : LedgerDocument)

def sharesAt (picks : List Pick) (index : ℕ) : ℚ :=
  ((picks.filter fun pick => pick.index = index).map (Pick.share order)).sum

@[simp]
theorem sharesAt_nil (index : ℕ) : sharesAt order [] index = 0 :=
  rfl

theorem sharesAt_cons (pick : Pick) (picks : List Pick) (index : ℕ) :
    sharesAt order (pick :: picks) index =
      (if pick.index = index then pick.share order else 0) + sharesAt order picks index := by
  unfold sharesAt
  split_ifs with same
  · rw [List.filter_cons_of_pos (by simpa using same), List.map_cons, List.sum_cons]
  · rw [List.filter_cons_of_neg (by simpa using same), zero_add]

theorem sharesAt_append (first second : List Pick) (index : ℕ) :
    sharesAt order (first ++ second) index =
      sharesAt order first index + sharesAt order second index := by
  simp [sharesAt]

def sharedAmount (picks : List Pick) : ℚ :=
  (picks.map fun pick => pick.share order * (lineAmount order pick.index : ℚ)).sum

def Within (picks : List Pick) : Prop :=
  ∀ pick ∈ picks, pick.index < order.lines.length ∧ 0 < pick.share order

variable {order}

theorem sharesAt_nonneg {picks : List Pick} (within : Within order picks) (index : ℕ) :
    0 ≤ sharesAt order picks index := by
  apply List.sum_nonneg
  intro share shareMem
  obtain ⟨pick, pickMem, rfl⟩ := List.mem_map.mp shareMem
  exact (within pick (List.mem_of_mem_filter pickMem)).2.le

theorem sharedAmount_eq {picks : List Pick} (within : Within order picks) :
    sharedAmount order picks = ∑ index ∈ Finset.range order.lines.length,
      sharesAt order picks index * (lineAmount order index : ℚ) := by
  induction picks with
  | nil => simp [sharedAmount]
  | cons pick picks ih =>
    have inRange := (within pick List.mem_cons_self).1
    have later := ih fun other otherMem => within other (List.mem_cons_of_mem _ otherMem)
    unfold sharedAmount at later ⊢
    rw [List.map_cons, List.sum_cons, later]
    simp only [sharesAt_cons, add_mul, ite_mul, zero_mul, Finset.sum_add_distrib]
    rw [Finset.sum_ite_eq, if_pos (Finset.mem_range.mpr inRange)]

theorem sharedAmount_of_full {picks : List Pick} (within : Within order picks)
    (full : ∀ index < order.lines.length, sharesAt order picks index = 1) :
    sharedAmount order picks = worth order := by
  have lines : ∑ index ∈ Finset.range order.lines.length, lineAmount order index =
      worth order :=
    sum_lineAmount
  rw [sharedAmount_eq within, ← lines]
  push_cast
  refine Finset.sum_congr rfl fun index indexMem => ?_
  rw [full index (Finset.mem_range.mp indexMem), one_mul]

theorem within_of_taken {divide : Decimal → Decimal → Option Decimal} {picks : List Pick}
    {taken : List DocLine} (correspond : List.Forall₂ (Pick.TakenAs divide order) picks taken) :
    Within order picks := by
  intro pick pickMem
  induction correspond with
  | nil => cases pickMem
  | cons takes _ ih =>
    rcases List.mem_cons.mp pickMem with rfl | later
    · have positive := Pick.share_pos takes
      obtain ⟨line, atIndex, -⟩ := takes
      exact ⟨(List.getElem?_eq_some_iff.mp atIndex).1, positive⟩
    · exact ih later

theorem sum_countedAmount_of_exact {divide : Decimal → Decimal → Option Decimal}
    {picks : List Pick} {taken : List DocLine}
    (correspond : List.Forall₂ (Pick.TakenAs divide order) picks taken)
    (exact : ∀ pick ∈ picks, pick.IsExact divide order) :
    ((taken.map countedAmount).sum : ℚ) = sharedAmount order picks := by
  induction correspond with
  | nil => simp [sharedAmount]
  | @cons pick line picks lines takes _ ih =>
    have later := ih fun other otherMem => exact other (List.mem_cons_of_mem _ otherMem)
    have here := exact pick List.mem_cons_self line takes
    unfold sharedAmount at later ⊢
    rw [List.map_cons, List.map_cons, List.sum_cons, List.sum_cons]
    push_cast at later ⊢
    rw [later, here]

end Shares

section Books

/-- An invoice that was made from the order, with the lines that it took. -/
structure Taking where
  invoiceId : String
  picks : List Pick
deriving DecidableEq

/-- A ledger with what was taken from the order, invoice by invoice. -/
structure OrderBook where
  ledger : Ledger
  takings : List Taking

def Taking.isLive (taking : Taking) (ledger : Ledger) : Bool :=
  (ledger.latestDocumentPayload taking.invoiceId).any fun doc => !doc.isVoided

def OrderBook.livePicks (book : OrderBook) : List Pick :=
  (book.takings.filter fun taking => taking.isLive book.ledger).flatMap Taking.picks

/-- An invoice that is made from the order, or a void. -/
inductive OrderCall where
  | convert (request : ConvertRequest) (actor : String)
  | void (documentId reason : String) (command : CommandMeta)

variable (divide : Decimal → Decimal → Option Decimal) (order : LedgerDocument)

/-- The book after a call; an invoice that was saved took its lines. -/
def OrderCall.run : OrderCall → OrderBook → OrderBook
  | convert request actor, book =>
    let after := (execute (callConvertToInvoice divide order.documentId (.ok request) actor)
      book.ledger).2
    { ledger := after
      takings :=
        if after.documentVersionCount request.documentId = 0 then book.takings
        else book.takings ++ [⟨request.documentId, picksOf order request.lines⟩] }
  | void documentId reason command, book =>
    { book with ledger := (Operation.voidDocument documentId reason command).run book.ledger }

/-- The amounts and quantities stay within the order, and an order taken in full
has nothing open. -/
structure NotOverinvoiced (book : OrderBook) : Prop where
  amounts : takenAmount order.documentId book.ledger ≤ worth order
  quantities : ∀ index < order.lines.length, sharesAt order book.livePicks index ≤ 1
  closes : (∀ index < order.lines.length, sharesAt order book.livePicks index = 1) →
    worth order ≤ takenAmount order.documentId book.ledger

/-- A request that is not refused takes no more of a line than is left, in parts
that come to whole cents, and a void releases no negative amount beyond what is
open. -/
def OrderCall.Fits : OrderCall → OrderBook → Prop
  | convert request _, book =>
    (∃ invoice, invoiceFromSalesOrder divide book.ledger order.documentId request =
        .ok invoice) →
      (∀ index < order.lines.length, sharesAt order book.livePicks index +
        sharesAt order (picksOf order request.lines) index ≤ 1) ∧
      ∀ pick ∈ picksOf order request.lines, pick.IsExact divide order
  | void documentId _ _, book =>
    -latestMeasure (takenBy order.documentId) book.ledger documentId ≤
      max 0 (worth order - takenAmount order.documentId book.ledger)

def OrderCall.IsFresh : OrderCall → OrderBook → Prop
  | convert request _, book => book.ledger.documentVersionCount request.documentId = 0
  | void .., _ => True

instance decidableIsFresh : ∀ call book, Decidable (OrderCall.IsFresh call book)
  | .convert .., _ => inferInstanceAs (Decidable (_ = 0))
  | .void .., _ => inferInstanceAs (Decidable True)

/-- A sales order that is saved, with no document linked to it. -/
structure IsUntouched (ledger : Ledger) : Prop where
  isSalesOrder : order.kind = .salesOrder
  isLatest : ledger.latestDocumentPayload order.documentId = some order
  unlinked : ∀ row ∈ ledger.documentVersions, ∀ link ∈ row.document.applications,
    link.targetKind = .salesOrder → link.targetDocumentId ≠ order.documentId

/-- The takings account for what was taken from the order. -/
structure Tracked (book : OrderBook) : Prop where
  wellFormed : book.ledger.WellFormed
  latest : ∃ last, book.ledger.latestDocumentPayload order.documentId = some last ∧
    (last = order ∨ last.isVoided = true)
  apart : order.documentId ∉ book.takings.map Taking.invoiceId
  distinct : (book.takings.map Taking.invoiceId).Nodup
  saved : ∀ taking ∈ book.takings,
    (book.ledger.latestDocumentPayload taking.invoiceId).isSome
  others : ∀ documentId ∉ book.takings.map Taking.invoiceId,
    latestMeasure (takenBy order.documentId) book.ledger documentId = 0
  amount : takenAmount order.documentId book.ledger = (book.takings.map fun taking =>
    latestMeasure (takenBy order.documentId) book.ledger taking.invoiceId).sum
  exact : ∀ taking ∈ book.takings,
    (latestMeasure (takenBy order.documentId) book.ledger taking.invoiceId : ℚ) =
      if taking.isLive book.ledger then sharedAmount order taking.picks else 0
  within : ∀ taking ∈ book.takings, Within order taking.picks

end Books

section Tracking

variable {divide : Decimal → Decimal → Option Decimal} {order : LedgerDocument}
  {ledger after : Ledger} {takings : List Taking}

theorem sum_without (measure : String → Int) {documentIds : List String}
    (distinct : documentIds.Nodup) (documentId : String)
    (unlisted : documentId ∉ documentIds → measure documentId = 0) :
    (documentIds.map fun id => if id = documentId then 0 else measure id).sum =
      (documentIds.map measure).sum - measure documentId := by
  induction documentIds with
  | nil => simp [unlisted List.not_mem_nil]
  | cons id rest ih =>
    rw [List.nodup_cons] at distinct
    rw [List.map_cons, List.map_cons, List.sum_cons, List.sum_cons]
    by_cases same : id = documentId
    · have kept : rest.map (fun other => if other = documentId then 0 else measure other) =
          rest.map measure := by
        apply List.map_congr_left
        intro other otherMem
        rw [if_neg]
        intro again
        apply distinct.1
        rw [same, ← again]
        exact otherMem
      rw [if_pos same, kept, same]
      omega
    · rw [if_neg same, ih distinct.2 fun notRest => unlisted ?_]
      · omega
      · rw [List.mem_cons, not_or]
        exact ⟨Ne.symm same, notRest⟩

theorem sharesAt_le_of_live {first second : Taking → Bool}
    (fewer : ∀ taking ∈ takings, first taking = true → second taking = true)
    (within : ∀ taking ∈ takings, Within order taking.picks) (index : ℕ) :
    sharesAt order ((takings.filter first).flatMap Taking.picks) index ≤
      sharesAt order ((takings.filter second).flatMap Taking.picks) index := by
  induction takings with
  | nil => exact le_rfl
  | cons taking takings ih =>
    have later := ih (fun other otherMem => fewer other (List.mem_cons_of_mem _ otherMem))
      fun other otherMem => within other (List.mem_cons_of_mem _ otherMem)
    have nonneg := sharesAt_nonneg (within taking List.mem_cons_self) index
    have implies := fewer taking List.mem_cons_self
    rw [List.filter_cons, List.filter_cons]
    split_ifs with isFirst isSecond isSecond
    · rw [List.flatMap_cons, List.flatMap_cons, sharesAt_append, sharesAt_append]
      exact add_le_add le_rfl later
    · exact absurd (implies isFirst) isSecond
    · rw [List.flatMap_cons, sharesAt_append]
      exact later.trans (le_add_of_nonneg_left nonneg)
    · exact later

namespace Tracked

theorem within_livePicks {book : OrderBook} (tracked : Tracked order book) :
    Within order book.livePicks := by
  intro pick pickMem
  obtain ⟨taking, takingMem, inPicks⟩ := List.mem_flatMap.mp pickMem
  exact tracked.within taking (List.mem_of_mem_filter takingMem) pick inPicks

theorem takenAmount_eq {book : OrderBook} (tracked : Tracked order book) :
    (takenAmount order.documentId book.ledger : ℚ) = sharedAmount order book.livePicks := by
  rw [tracked.amount]
  have exact := tracked.exact
  unfold OrderBook.livePicks
  generalize book.takings = takings at exact ⊢
  induction takings with
  | nil => simp [sharedAmount]
  | cons taking takings ih =>
    have later := ih fun other otherMem => exact other (List.mem_cons_of_mem _ otherMem)
    rw [List.map_cons, List.sum_cons]
    push_cast at later ⊢
    rw [later, exact taking List.mem_cons_self]
    split_ifs with live
    · rw [List.filter_cons, if_pos (by exact live), List.flatMap_cons]
      simp [sharedAmount]
    · rw [List.filter_cons, if_neg (by exact live), zero_add]

theorem closes {book : OrderBook} (tracked : Tracked order book)
    (full : ∀ index < order.lines.length, sharesAt order book.livePicks index = 1) :
    takenAmount order.documentId book.ledger = worth order := by
  have taken := tracked.takenAmount_eq
  rw [sharedAmount_of_full tracked.within_livePicks full] at taken
  exact_mod_cast taken

theorem congr (tracked : Tracked order ⟨ledger, takings⟩) (wellFormed : after.WellFormed)
    (same : after.documentVersions = ledger.documentVersions) :
    Tracked order ⟨after, takings⟩ := by
  have latestEq := latestDocumentPayload_congr same
  have measureEq := latestMeasure_congr same (takenBy order.documentId)
  have liveEq : ∀ taking : Taking, taking.isLive after = taking.isLive ledger := by
    intro taking
    unfold Taking.isLive
    rw [latestEq]
  refine ⟨wellFormed, ?_, tracked.apart, tracked.distinct, ?_, ?_, ?_, ?_, tracked.within⟩
  · simpa only [latestEq] using tracked.latest
  · simpa only [latestEq] using tracked.saved
  · simpa only [measureEq] using tracked.others
  · simpa only [takenAmount_congr same, measureEq] using tracked.amount
  · simpa only [measureEq, liveEq] using tracked.exact

theorem convert (tracked : Tracked order ⟨ledger, takings⟩) {request : ConvertRequest}
    {invoice prepared : LedgerDocument} (command : CommandMeta)
    (fresh : ledger.documentVersionCount request.documentId = 0)
    (converts : Converts divide order ledger request invoice)
    (same : SameDocument invoice prepared)
    (exact : ∀ pick ∈ picksOf order request.lines, pick.IsExact divide order) :
    let book : OrderBook := ⟨ledger.recordVersion prepared command,
      takings ++ [⟨request.documentId, picksOf order request.lines⟩]⟩
    Tracked order book ∧ book.livePicks =
      (⟨ledger, takings⟩ : OrderBook).livePicks ++ picksOf order request.lines ∧
      takenAmount order.documentId book.ledger =
        takenAmount order.documentId ledger + takenBy order.documentId invoice := by
  intro book
  have newId : prepared.documentId = request.documentId :=
    same.documentId.trans converts.documentId
  have unseen : ledger.latestDocumentPayload request.documentId = none :=
    latest_of_unseen (List.length_eq_zero_iff.mp fresh)
  have notVoided : prepared.isVoided = false := same.isVoided.trans converts.notVoided
  have takenByEq : takenBy order.documentId prepared = takenBy order.documentId invoice := by
    unfold takenBy orderLinks
    rw [same.kind, same.isVoided, same.applications, same.documentId]
  have newLatest : book.ledger.latestDocumentPayload request.documentId = some prepared := by
    rw [← newId]
    exact latestDocumentPayload_recordVersion ledger prepared command
  have otherLatest : ∀ documentId ≠ request.documentId,
      book.ledger.latestDocumentPayload documentId = ledger.latestDocumentPayload documentId := by
    intro documentId other
    exact latestDocumentPayload_recordVersion_other ledger prepared command
      (newId ▸ Ne.symm other)
  have newMeasure : latestMeasure (takenBy order.documentId) book.ledger request.documentId =
      takenBy order.documentId invoice := by
    unfold latestMeasure
    rw [newLatest, Option.map_some, Option.getD_some, takenByEq]
  have otherMeasure : ∀ documentId ≠ request.documentId,
      latestMeasure (takenBy order.documentId) book.ledger documentId =
        latestMeasure (takenBy order.documentId) ledger documentId := by
    intro documentId other
    unfold latestMeasure
    rw [otherLatest documentId other]
  have apart : ∀ taking ∈ takings, taking.invoiceId ≠ request.documentId := by
    intro taking takingMem sameId
    have saved := tracked.saved taking takingMem
    rw [sameId] at saved
    change (ledger.latestDocumentPayload request.documentId).isSome at saved
    rw [unseen] at saved
    cases saved
  have otherLive : ∀ taking ∈ takings, taking.isLive book.ledger = taking.isLive ledger := by
    intro taking takingMem
    unfold Taking.isLive
    rw [otherLatest _ (apart taking takingMem)]
  have newLive : Taking.isLive ⟨request.documentId, picksOf order request.lines⟩ book.ledger =
      true := by
    unfold Taking.isLive
    rw [newLatest]
    simp [notVoided]
  obtain ⟨taken, correspond, nonempty, counted⟩ := converts.lines
  have amountEq : takenAmount order.documentId book.ledger =
      takenAmount order.documentId ledger + takenBy order.documentId invoice := by
    have nothing : latestMeasure (takenBy order.documentId) ledger prepared.documentId = 0 := by
      unfold latestMeasure
      rw [newId, unseen]
      rfl
    change takenAmount _ (ledger.recordVersion prepared command) = _
    rw [takenAmount_recordVersion _ tracked.wellFormed, nothing, takenByEq, sub_zero]
  have shared : (takenBy order.documentId invoice : ℚ) =
      sharedAmount order (picksOf order request.lines) := by
    rw [counted]
    exact sum_countedAmount_of_exact correspond exact
  refine ⟨⟨tracked.wellFormed.recordVersion prepared command, ?_, ?_, ?_, ?_, ?_, ?_, ?_, ?_⟩,
    ?_, amountEq⟩
  · obtain ⟨last, isLast, orVoided⟩ := tracked.latest
    refine ⟨last, ?_, orVoided⟩
    rw [otherLatest]
    · exact isLast
    · intro sameId
      change ledger.latestDocumentPayload order.documentId = some last at isLast
      rw [sameId, unseen] at isLast
      cases isLast
  · rw [List.map_append, List.mem_append, not_or]
    refine ⟨tracked.apart, ?_⟩
    rw [List.map_singleton, List.mem_singleton]
    intro sameId
    obtain ⟨last, isLast, -⟩ := tracked.latest
    change ledger.latestDocumentPayload order.documentId = some last at isLast
    rw [sameId, unseen] at isLast
    cases isLast
  · rw [List.map_append, List.map_singleton, ← List.concat_eq_append, List.nodup_concat]
    refine ⟨?_, tracked.distinct⟩
    intro known
    obtain ⟨taking, takingMem, sameId⟩ := List.mem_map.mp known
    exact apart taking takingMem sameId
  · intro taking takingMem
    rcases List.mem_append.mp takingMem with before | new
    · rw [otherLatest _ (apart taking before)]
      exact tracked.saved taking before
    · rw [List.mem_singleton.mp new, newLatest]
      rfl
  · intro documentId notTaken
    rw [List.map_append, List.mem_append, not_or, List.map_singleton,
      List.mem_singleton] at notTaken
    rw [otherMeasure documentId notTaken.2]
    exact tracked.others documentId notTaken.1
  · rw [amountEq, List.map_append, List.sum_append, List.map_singleton, List.sum_singleton,
      newMeasure]
    congr 1
    refine tracked.amount.trans (congrArg List.sum (List.map_congr_left ?_))
    intro taking takingMem
    exact (otherMeasure _ (apart taking takingMem)).symm
  · intro taking takingMem
    rcases List.mem_append.mp takingMem with before | new
    · rw [otherMeasure _ (apart taking before), otherLive taking before]
      exact tracked.exact taking before
    · rw [List.mem_singleton.mp new, newMeasure, if_pos newLive, shared]
  · intro taking takingMem
    rcases List.mem_append.mp takingMem with before | new
    · exact tracked.within taking before
    · rw [List.mem_singleton.mp new]
      exact within_of_taken correspond
  · have kept : takings.filter (fun taking => taking.isLive book.ledger) =
        takings.filter fun taking => taking.isLive ledger :=
      List.filter_congr otherLive
    unfold OrderBook.livePicks
    rw [List.filter_append, kept, List.filter_cons, if_pos (by exact newLive), List.filter_nil,
      List.flatMap_append, List.flatMap_singleton]

theorem void (tracked : Tracked order ⟨ledger, takings⟩) {documentId : String}
    {voided : LedgerDocument} (command : CommandMeta)
    (sameId : voided.documentId = documentId) (isVoided : voided.isVoided = true) :
    let book : OrderBook := ⟨ledger.recordVersion voided command, takings⟩
    Tracked order book ∧
      (∀ index, sharesAt order book.livePicks index ≤
        sharesAt order (⟨ledger, takings⟩ : OrderBook).livePicks index) ∧
      takenAmount order.documentId book.ledger = takenAmount order.documentId ledger -
        latestMeasure (takenBy order.documentId) ledger documentId := by
  intro book
  have newLatest : book.ledger.latestDocumentPayload documentId = some voided := by
    rw [← sameId]
    exact latestDocumentPayload_recordVersion ledger voided command
  have otherLatest : ∀ otherId ≠ documentId,
      book.ledger.latestDocumentPayload otherId = ledger.latestDocumentPayload otherId := by
    intro otherId other
    exact latestDocumentPayload_recordVersion_other ledger voided command
      (sameId ▸ Ne.symm other)
  have takesNothing : takenBy order.documentId voided = 0 := by
    unfold takenBy
    rw [if_neg]
    rw [isVoided]
    simp
  have measureEq : ∀ otherId, latestMeasure (takenBy order.documentId) book.ledger otherId =
      if otherId = documentId then 0
      else latestMeasure (takenBy order.documentId) ledger otherId := by
    intro otherId
    unfold latestMeasure
    split_ifs with same
    · rw [same, newLatest, Option.map_some, Option.getD_some, takesNothing]
    · rw [otherLatest otherId same]
  have liveEq : ∀ taking : Taking, taking.isLive book.ledger =
      if taking.invoiceId = documentId then false else taking.isLive ledger := by
    intro taking
    unfold Taking.isLive
    split_ifs with same
    · rw [same, newLatest]
      simp [isVoided]
    · rw [otherLatest _ same]
  have amountEq : takenAmount order.documentId book.ledger =
      takenAmount order.documentId ledger -
        latestMeasure (takenBy order.documentId) ledger documentId := by
    change takenAmount _ (ledger.recordVersion voided command) = _
    rw [takenAmount_recordVersion _ tracked.wellFormed, takesNothing, sameId, add_zero]
  refine ⟨⟨tracked.wellFormed.recordVersion voided command, ?_, tracked.apart,
    tracked.distinct, ?_, ?_, ?_, ?_, tracked.within⟩, ?_, amountEq⟩
  · obtain ⟨last, isLast, orVoided⟩ := tracked.latest
    by_cases same : order.documentId = documentId
    · refine ⟨voided, ?_, .inr isVoided⟩
      rw [same]
      exact newLatest
    · refine ⟨last, ?_, orVoided⟩
      rw [otherLatest _ same]
      exact isLast
  · intro taking takingMem
    by_cases same : taking.invoiceId = documentId
    · rw [same, newLatest]
      rfl
    · rw [otherLatest _ same]
      exact tracked.saved taking takingMem
  · intro otherId notTaken
    rw [measureEq]
    split_ifs
    · rfl
    · exact tracked.others otherId notTaken
  · have without := sum_without (latestMeasure (takenBy order.documentId) ledger)
      tracked.distinct documentId (tracked.others documentId)
    rw [List.map_map, List.map_map] at without
    rw [amountEq]
    simp only [measureEq]
    refine Eq.trans ?_ without.symm
    rw [show takenAmount order.documentId ledger = _ from tracked.amount]
    rfl
  · intro taking takingMem
    rw [measureEq, liveEq]
    by_cases same : taking.invoiceId = documentId
    · rw [if_pos same, if_pos same]
      simp
    · rw [if_neg same, if_neg same]
      exact tracked.exact taking takingMem
  · intro index
    apply sharesAt_le_of_live ?_ tracked.within
    intro taking _ live
    rw [liveEq] at live
    split_ifs at live
    exact live

end Tracked

end Tracking

section Runs

variable {divide : Decimal → Decimal → Option Decimal} {order : LedgerDocument}
  {book : OrderBook}

/-- A book that is tracked and within its order. -/
structure Sound (order : LedgerDocument) (book : OrderBook) : Prop where
  tracked : Tracked order book
  amounts : takenAmount order.documentId book.ledger ≤ worth order
  quantities : ∀ index < order.lines.length, sharesAt order book.livePicks index ≤ 1

theorem Sound.notOverinvoiced (sound : Sound order book) : NotOverinvoiced order book :=
  ⟨sound.amounts, sound.quantities, fun full => (sound.tracked.closes full).ge⟩

theorem Sound.congr (sound : Sound order book) {after : Ledger} (wellFormed : after.WellFormed)
    (same : after.documentVersions = book.ledger.documentVersions) :
    Sound order { book with ledger := after } := by
  obtain ⟨ledger, takings⟩ := book
  have livePicks : (⟨after, takings⟩ : OrderBook).livePicks =
      (⟨ledger, takings⟩ : OrderBook).livePicks := by
    unfold OrderBook.livePicks Taking.isLive
    simp only [latestDocumentPayload_congr same]
  refine ⟨sound.tracked.congr wellFormed same, ?_, ?_⟩
  · rw [takenAmount_congr same]
    exact sound.amounts
  · rw [livePicks]
    exact sound.quantities

theorem Sound.convert (sound : Sound order book) {request : ConvertRequest} {actor : String}
    (fresh : (OrderCall.convert request actor).IsFresh book)
    (fits : (OrderCall.convert request actor).Fits divide order book) :
    Sound order ((OrderCall.convert request actor).run divide order book) := by
  obtain ⟨ledger, takings⟩ := book
  obtain ⟨wellFormed, versions⟩ :=
    @callConvertToInvoice_cases divide ledger sound.tracked.wellFormed order.documentId request
      actor
  unfold OrderCall.run
  dsimp only
  change ledger.documentVersionCount request.documentId = 0 at fresh
  generalize (execute (callConvertToInvoice divide order.documentId (.ok request) actor)
    ledger).2 = after at wellFormed versions ⊢
  rcases versions with kept | ⟨invoice, prepared, makes, same, saved⟩
  · rw [documentVersionCount_congr kept, if_pos fresh]
    exact sound.congr wellFormed kept
  · have converts : Converts divide order ledger request invoice :=
      converts_of_ok sound.tracked.latest makes
    obtain ⟨within, exact⟩ := fits ⟨invoice, makes⟩
    obtain ⟨tracked, picks, amount⟩ := sound.tracked.convert
      ⟨actor, "mcp_convert_to_invoice"⟩ fresh converts same exact
    have isSaved : after.documentVersionCount request.documentId ≠ 0 := by
      rw [documentVersionCount_congr saved, ← converts.documentId, ← same.documentId]
      unfold documentVersionCount
      rw [versionsOf_recordVersion]
      simp
    rw [if_neg isSaved]
    have recorded : Sound order ⟨ledger.recordVersion prepared ⟨actor, "mcp_convert_to_invoice"⟩,
        takings ++ [⟨request.documentId, picksOf order request.lines⟩]⟩ := by
      refine ⟨tracked, ?_, ?_⟩
      · rw [amount]
        exact converts.fits
      · intro index inOrder
        rw [picks, sharesAt_append]
        exact within index inOrder
    exact recorded.congr wellFormed saved

theorem Sound.void (sound : Sound order book) {documentId reason : String}
    {command : CommandMeta}
    (fits : (OrderCall.void documentId reason command).Fits divide order book) :
    Sound order ((OrderCall.void documentId reason command).run divide order book) := by
  obtain ⟨ledger, takings⟩ := book
  obtain ⟨wellFormed, versions⟩ := voidDocument_cases sound.tracked.wellFormed documentId reason
    command
  unfold OrderCall.run
  dsimp only
  generalize (Operation.voidDocument documentId reason command).run ledger = after
    at wellFormed versions ⊢
  rcases versions with kept | ⟨_, voided, -, -, sameId, isVoided, saved⟩
  · exact sound.congr wellFormed kept
  · obtain ⟨tracked, fewer, amount⟩ := sound.tracked.void command sameId isVoided
    have recorded : Sound order ⟨ledger.recordVersion voided command, takings⟩ := by
      refine ⟨tracked, ?_, ?_⟩
      · have amounts := sound.amounts
        change -latestMeasure (takenBy order.documentId) ledger documentId ≤
          max 0 (worth order - takenAmount order.documentId ledger) at fits
        change takenAmount order.documentId ledger ≤ worth order at amounts
        rw [amount]
        omega
      · exact fun index inOrder => (fewer index).trans (sound.quantities index inOrder)
    exact recorded.congr wellFormed saved

theorem tracked_of_untouched {ledger : Ledger} (wellFormed : ledger.WellFormed)
    (untouched : IsUntouched order ledger) :
    Tracked order ⟨ledger, []⟩ ∧ takenAmount order.documentId ledger = 0 := by
  have nothing : ∀ row ∈ ledger.documentVersions,
      takenBy order.documentId row.document = 0 := by
    intro row rowMem
    unfold takenBy
    split_ifs
    · rw [total_eq_zero]
      intro link linkMem isOrder
      unfold orderLinks at linkMem
      obtain ⟨application, applicationMem, rfl⟩ := List.mem_map.mp linkMem
      rw [List.mem_filter, decide_eq_true_eq] at applicationMem
      exact absurd isOrder
        (untouched.unlinked row rowMem application applicationMem.1 applicationMem.2)
    · rfl
  have noAmount : takenAmount order.documentId ledger = 0 := by
    rw [takenAmount_eq_newestTotal]
    unfold newestTotal
    rw [total_eq_zero]
    intro row rowMem _
    exact nothing row rowMem
  refine ⟨⟨wellFormed, ⟨order, untouched.isLatest, .inl rfl⟩, List.not_mem_nil, List.nodup_nil,
    ?_, ?_, noAmount, ?_, ?_⟩, noAmount⟩
  · intro taking takingMem
    cases takingMem
  · intro documentId _
    unfold latestMeasure
    cases isLatest : ledger.latestDocumentPayload documentId with
    | none => rfl
    | some doc =>
      unfold latestDocumentPayload documentAt at isLatest
      obtain ⟨row, found, rfl⟩ := Option.map_eq_some_iff.mp isLatest
      exact nothing row (List.mem_of_find?_eq_some found)
  · intro taking takingMem
    cases takingMem
  · intro taking takingMem
    cases takingMem

/-- An order is never over-invoiced in a run in which requests take no more of a
line than is left, in parts that come to whole cents, and no void releases a
negative amount beyond what is open. -/
theorem orders_not_overinvoiced (divide : Decimal → Decimal → Option Decimal) (company : String)
    (operations : List Operation) (order : LedgerDocument) (calls : List OrderCall) :
    let ledger := (Ledger.createCompany company).after operations
    IsUntouched order ledger → 0 ≤ worth order →
      EveryStep (OrderCall.run divide order) OrderCall.IsFresh ⟨ledger, []⟩ calls →
      EveryStep (OrderCall.run divide order) (OrderCall.Fits divide order) ⟨ledger, []⟩ calls →
        NotOverinvoiced order (runFrom (OrderCall.run divide order) ⟨ledger, []⟩ calls) := by
  intro ledger untouched nonneg fresh fits
  obtain ⟨tracked, noAmount⟩ := tracked_of_untouched (after_wellFormed (.createCompany company))
    untouched
  have start : Sound order ⟨ledger, []⟩ := by
    refine ⟨tracked, ?_, ?_⟩
    · change takenAmount order.documentId ledger ≤ worth order
      rw [noAmount]
      exact nonneg
    · intro index _
      exact zero_le_one
  apply Sound.notOverinvoiced
  generalize (⟨ledger, []⟩ : OrderBook) = book at start fresh fits ⊢
  induction calls generalizing book with
  | nil => exact start
  | cons call calls ih =>
    refine ih _ ?_ fresh.2 fits.2
    cases call with
    | convert request actor => exact start.convert fresh.1 fits.1
    | void documentId reason command => exact start.void fits.1

theorem Pick.isExact_of_whole {pick : Pick} (whole : pick.qty = none) :
    pick.IsExact divide order := by
  intro taken takes
  obtain ⟨line, atIndex, isTaken⟩ := takes
  rw [whole, takeLine, pure_eq_ok_iff] at isTaken
  subst isTaken
  simp [share, lineAmount, whole, atIndex]

/-- One item and nine that cost the same. -/
def cushionOrder : LedgerDocument where
  documentId := "order-1"
  kind := .salesOrder
  number := some "1"
  txnDate := ⟨2026, 11, 2, Eq.refl true⟩
  contact := some ⟨.customer, "c1"⟩
  headerClass := some ⟨"foam"⟩
  lines :=
    [{ lineNo := 1, kind := .item, amount := .fromMinor 1000,
       qty := some (.ofParts 1 0) },
     { lineNo := 2, kind := .item, amount := .fromMinor 9000,
       qty := some (.ofParts 9 0) }]

def cushionBook : List Operation :=
  [.upsertContact { contactId := "c1", kind := .customer, displayName := "Harbor" },
    .createDocument cushionOrder "bookkeeper"]

def orderedLedger : Ledger :=
  (Ledger.createCompany "aquamentor").after cushionBook

theorem cushionOrder_untouched : IsUntouched cushionOrder orderedLedger :=
  ⟨rfl, by decide +kernel, by decide +kernel⟩

/-- An invoice of the lines with some numbers, each whole. -/
def convertWhole (documentId : String) (lineNos : List Int) : OrderCall :=
  .convert
    { documentId, txnDate := ⟨2026, 11, 3, Eq.refl true⟩
      lines := some (lineNos.map fun lineNo => ⟨lineNo, none⟩), number := none, memo := none }
    "bookkeeper"

/-- One request that names the first line twice invoices two where one is ordered. -/
theorem line_named_twice_is_overinvoiced :
    IsUntouched cushionOrder ((Ledger.createCompany "aquamentor").after cushionBook) ∧
      0 ≤ worth cushionOrder ∧
      EveryStep (OrderCall.run (fun _ _ => none) cushionOrder) OrderCall.IsFresh
        ⟨(Ledger.createCompany "aquamentor").after cushionBook, []⟩
        [convertWhole "invoice-1" [1, 1]] ∧
      ¬ NotOverinvoiced cushionOrder (runFrom (OrderCall.run (fun _ _ => none) cushionOrder)
        ⟨(Ledger.createCompany "aquamentor").after cushionBook, []⟩
        [convertWhole "invoice-1" [1, 1]]) := by
  refine ⟨cushionOrder_untouched, by decide, ⟨by decide +kernel, trivial⟩, ?_⟩
  intro within
  exact absurd (within.quantities 0 (by decide)) (by decide +kernel)

/-- The first line is invoiced, then the second, and the first invoice is voided. -/
theorem cushionOrder_not_overinvoiced :
    NotOverinvoiced cushionOrder (runFrom (OrderCall.run (fun _ _ => none) cushionOrder)
      ⟨(Ledger.createCompany "aquamentor").after cushionBook, []⟩
      [convertWhole "invoice-1" [1], convertWhole "invoice-2" [2],
        .void "invoice-1" "entered twice" ⟨"bookkeeper", "void"⟩]) := by
  refine orders_not_overinvoiced _ _ _ _ _ cushionOrder_untouched (by decide)
    ⟨by decide +kernel, by decide +kernel, trivial, trivial⟩ ⟨?_, ?_, ?_, trivial⟩
  · intro _
    refine ⟨by decide +kernel, ?_⟩
    intro pick pickMem
    rw [List.mem_singleton.mp pickMem]
    exact Pick.isExact_of_whole rfl
  · intro _
    refine ⟨by decide +kernel, ?_⟩
    intro pick pickMem
    rw [List.mem_singleton.mp pickMem]
    exact Pick.isExact_of_whole rfl
  · change -latestMeasure _ _ _ ≤ max 0 _
    decide +kernel

end Runs

end QuickBooks
