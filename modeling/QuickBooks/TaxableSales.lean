import QuickBooks.LedgerHistories
import QuickBooks.ReportSums
import QuickBooks.TaxMarks

/-!
# The taxable sales of the lines

The sales tax report checks the tax it collected against the lines: the credits
less the debits of the income lines that are marked taxable.  The tax itself was
computed on the taxable base of each document, its taxable lines less its taxable
discounts, negative for what was returned.  Only the items and the shipping of an
invoice or a sales receipt mark their lines, so the two agree exactly when what
the report misses cancels out.
-/

namespace QuickBooks

open ExceptPrograms KeyedTotals

/-! ### The report -/

/-- The lines of a period that are marked taxable and post to an income
account. -/
def taxableBetween (ledger : Ledger) (start finish : Date)
    (posted : JournalEntry × JournalLine) : Prop :=
  (start ≤ posted.1.entryDate ∧ posted.1.entryDate ≤ finish) ∧
    (ledger.accountRow posted.2.account).map Account.classification = some .income ∧
      posted.2.isTaxable = true

instance (ledger : Ledger) (start finish : Date) :
    DecidablePred (taxableBetween ledger start finish) :=
  fun posted => inferInstanceAs (Decidable
    ((start ≤ posted.1.entryDate ∧ posted.1.entryDate ≤ finish) ∧
      (ledger.accountRow posted.2.account).map Account.classification = some .income ∧
        posted.2.isTaxable = true))

/-- Line E of the sales tax report. -/
def lineLevelTaxable (ledger : Ledger) (start finish : Date) : Except LedgerError Money := do
  let debit ← sumColumn JournalLine.debit (taxableBetween ledger start finish) ledger
  let credit ← sumColumn JournalLine.credit (taxableBetween ledger start finish) ledger
  credit.checkedSub debit

/-! ### The taxable base of a document -/

namespace DocLine

variable (line : DocLine)

def isTaxed : Bool :=
  line.isTaxable && (line.kind = .item || line.kind = .shipping || line.kind = .account)

/-- What a line adds to the taxable base. -/
def base : Int :=
  if line.isTaxable then
    match line.kind with
    | .item | .shipping | .account => line.amount.minor
    | .discount => -line.amount.minor
    | .description | .journal => 0
  else 0

variable (isIncome : AccountId → Prop) [DecidablePred isIncome]

/-- The marked leg of a line of a sale goes to an income account. -/
def IsMarked : Prop :=
  line.isTaxable = true ∧
    (line.kind = .item ∧ isIncome (acct Chart.salesIncome) ∨
      line.kind = .shipping ∧ isIncome (acct Chart.shippingIncome))

instance : Decidable (line.IsMarked isIncome) :=
  inferInstanceAs (Decidable (line.isTaxable = true ∧
    (line.kind = .item ∧ isIncome (acct Chart.salesIncome) ∨
      line.kind = .shipping ∧ isIncome (acct Chart.shippingIncome))))

def marked : Int :=
  if line.IsMarked isIncome then line.amount.minor else 0

def unmarked : Int :=
  if line.IsMarked isIncome then 0 else line.base

variable {line isIncome}

omit [DecidablePred isIncome] in
theorem IsMarked.base_eq (isMarked : line.IsMarked isIncome) : line.base = line.amount.minor := by
  obtain ⟨isTaxable, ⟨kindEq, -⟩ | ⟨kindEq, -⟩⟩ := isMarked
  · simp [base, isTaxable, kindEq]
  · simp [base, isTaxable, kindEq]

theorem marked_add_unmarked : line.marked isIncome + line.unmarked isIncome = line.base := by
  unfold marked unmarked
  split_ifs with isMarked
  · rw [isMarked.base_eq, add_zero]
  · rw [zero_add]

theorem marked_item (kindEq : line.kind = .item) :
    line.marked isIncome =
      if line.isTaxable = true ∧ isIncome (acct Chart.salesIncome) then line.amount.minor
      else 0 := by
  simp [marked, IsMarked, kindEq]

theorem marked_shipping (kindEq : line.kind = .shipping) :
    line.marked isIncome =
      if line.isTaxable = true ∧ isIncome (acct Chart.shippingIncome) then line.amount.minor
      else 0 := by
  simp [marked, IsMarked, kindEq]

theorem marked_of_not_isTaxed (untaxed : line.isTaxed = false) : line.marked isIncome = 0 := by
  unfold marked
  rw [if_neg]
  rintro ⟨isTaxable, ⟨kindEq, -⟩ | ⟨kindEq, -⟩⟩
  · simp [isTaxed, isTaxable, kindEq] at untaxed
  · simp [isTaxed, isTaxable, kindEq] at untaxed

end DocLine

namespace LedgerDocument

variable (doc : LedgerDocument)

def taxableBase : Int :=
  if doc.lines.any DocLine.isTaxed then (doc.lines.map DocLine.base).sum else 0

def isReturn : Bool :=
  doc.kind = .creditMemo || doc.kind = .refundReceipt

/-- The base of a sale, negative for a return. -/
def signedBase : Int :=
  if doc.kind.isSale then doc.taxableBase
  else if doc.isReturn then -doc.taxableBase
  else 0

variable (isIncome : AccountId → Prop) [DecidablePred isIncome]

/-- What of the signed base the report misses: the taxable account lines of a sale
less its taxable discounts, any line of it that posts to no income account, and all
of a return. -/
def unmarkedBase : Int :=
  if doc.kind.isSale then
    if doc.lines.any DocLine.isTaxed then
      (doc.lines.map fun line => line.unmarked isIncome).sum
    else 0
  else if doc.isReturn then -doc.taxableBase
  else 0

def markedBase : Int :=
  if doc.kind.isSale then (doc.lines.map fun line => line.marked isIncome).sum else 0

theorem markedBase_add_unmarkedBase :
    doc.markedBase isIncome + doc.unmarkedBase isIncome = doc.signedBase := by
  unfold markedBase unmarkedBase signedBase taxableBase
  split_ifs with isSale taxed
  · rw [← List.sum_map_add]
    simp only [DocLine.marked_add_unmarked]
  · have nothing : ∀ line ∈ doc.lines, line.marked isIncome = 0 := by
      intro line lineMem
      apply DocLine.marked_of_not_isTaxed
      rw [← Bool.not_eq_true]
      intro isTaxed
      exact taxed (List.any_eq_true.mpr ⟨line, lineMem, isTaxed⟩)
    rw [List.map_congr_left nothing]
    simp
  all_goals simp

end LedgerDocument

/-! ### What the legs are marked for -/

def MarkedOn (isIncome : AccountId → Prop) (key : PostingKey) (isTaxable : Bool) : Prop :=
  isIncome key.account ∧ isTaxable = true

instance (isIncome : AccountId → Prop) [DecidablePred isIncome] (key : PostingKey) :
    DecidablePred (MarkedOn isIncome key) :=
  fun isTaxable => inferInstanceAs (Decidable (isIncome key.account ∧ isTaxable = true))

section Legs

variable {isIncome : AccountId → Prop} [DecidablePred isIncome] {doc : LedgerDocument}
  {ctx : PostingContext}

theorem markedLegTotal_of_unmarked {legs : List Leg} (unmarked : Unmarked legs) :
    markedLegTotal (MarkedOn isIncome) legs = 0 := by
  apply total_eq_zero
  rintro leg legMem ⟨-, isTaxable⟩
  rw [unmarked leg legMem] at isTaxable
  cases isTaxable

theorem markedLegTotal_revenueLine {running result : RunningLegs} {line : DocLine}
    (step : revenueLine doc ctx running line = .ok result) :
    markedLegTotal (MarkedOn isIncome) result.1 =
      markedLegTotal (MarkedOn isIncome) running.1 - line.marked isIncome := by
  obtain ⟨legs, total⟩ := running
  unfold revenueLine at step
  cases lineKind : line.kind <;> simp only [lineKind] at step
  case item =>
      simp only [bind_eq_ok_iff, pure_eq_ok_iff] at step
      obtain ⟨item, _, «class», _, tax, _, sum, _, cost, costs, rfl⟩ := step
      have costNothing : markedLegTotal (MarkedOn isIncome) cost = 0 :=
        markedLegTotal_of_unmarked (postInventoryCogs_unmarked costs)
      rw [DocLine.marked_item lineKind]
      cases line.isTaxable
      · simp [costNothing, MarkedOn]
      · by_cases income : isIncome (acct Chart.salesIncome)
        · simp [costNothing, MarkedOn, income]
          omega
        · simp [costNothing, MarkedOn, income]
  case shipping =>
      simp only [bind_eq_ok_iff, pure_eq_ok_iff] at step
      obtain ⟨item, _, «class», _, tax, _, sum, _, rfl⟩ := step
      rw [DocLine.marked_shipping lineKind]
      cases line.isTaxable
      · simp [MarkedOn]
      · by_cases income : isIncome (acct Chart.shippingIncome)
        · simp [MarkedOn, income]
          omega
        · simp [MarkedOn, income]
  case discount =>
      simp only [bind_eq_ok_iff, pure_eq_ok_iff] at step
      obtain ⟨item, _, «class», _, sum, _, rfl⟩ := step
      simp [MarkedOn, DocLine.marked, DocLine.IsMarked, lineKind]
  all_goals
    rw [pure_eq_ok_iff] at step
    subst step
    simp [DocLine.marked, DocLine.IsMarked, lineKind]

theorem markedLegTotal_revenueLegs {result : RunningLegs}
    (builds : revenueLegs doc ctx = .ok result) :
    markedLegTotal (MarkedOn isIncome) result.1 = -(doc.lines.map fun line => line.marked isIncome).sum := by
  unfold revenueLegs at builds
  rw [bind_eq_ok_iff] at builds
  obtain ⟨running, folds, closes⟩ := builds
  have lines : markedLegTotal (MarkedOn isIncome) running.1 =
      -(doc.lines.map fun line => line.marked isIncome).sum := by
    apply foldlM_invariant (fun consumed (running : RunningLegs) =>
      markedLegTotal (MarkedOn isIncome) running.1 = -(consumed.map fun line => line.marked isIncome).sum)
      ?_ (by simp) folds
    intro consumed line before after same step
    rw [markedLegTotal_revenueLine step, same]
    simp only [List.map_append, List.sum_append, List.map_singleton, List.sum_singleton]
    omega
  rcases taxLeg_eq_ok closes with same | ⟨amount, added⟩
  · rw [same, lines]
  · rw [added]
    simp [MarkedOn, lines]

theorem markedLegTotal_postingLegs {legs : List Leg}
    (builds : postingLegs doc ctx = .ok legs) :
    markedLegTotal (MarkedOn isIncome) legs = -doc.markedBase isIncome := by
  unfold LedgerDocument.markedBase
  cases isSale : doc.kind.isSale with
  | false =>
    rw [markedLegTotal_of_unmarked (postingLegs_unmarked isSale builds)]
    simp
  | true =>
    unfold postingLegs at builds
    rw [if_pos rfl]
    cases docKind : doc.kind <;> simp only [docKind] at builds
    case invoice =>
        simp only [postInvoice, bind_eq_ok_iff, pure_eq_ok_iff] at builds
        obtain ⟨running, revenue, rfl⟩ := builds
        simp [markedLegTotal_revenueLegs revenue, MarkedOn]
    case salesReceipt =>
        simp only [postSalesReceipt, bind_eq_ok_iff, pure_eq_ok_iff] at builds
        obtain ⟨running, revenue, rfl⟩ := builds
        simp [markedLegTotal_revenueLegs revenue, MarkedOn]
    all_goals
      rw [docKind] at isSale
      cases isSale

theorem markedLineTotal_of_post {version : Nat}
    {entry : JournalEntry} (posts : post doc version ctx = .ok (.entry entry)) :
    markedLineTotal (MarkedOn isIncome) entry.lines =
      if doc.isVoided then doc.markedBase isIncome else -doc.markedBase isIncome := by
  obtain ⟨legs, lines, derivation⟩ := post_eq_entry posts
  have merged := markedLineTotal_mergeLegs (MarkedOn isIncome) derivation.merges
  rw [markedLegTotal_postingLegs derivation.builds] at merged
  rw [derivation.entryEq]
  unfold applyVoid
  cases doc.isVoided
  · exact merged
  · change markedLineTotal (MarkedOn isIncome) (lines.map JournalLine.swapped) = _
    rw [markedLineTotal_swapped, merged]
    simp

end Legs

/-! ### The documents of a period -/

/-- A document that an entry posts, or takes back again. -/
structure PostedDocument where
  doc : LedgerDocument
  takenBack : Bool

namespace PostedDocument

variable (posted : PostedDocument)

/-- The entry has the lines that the document posts, swapped when it takes them
back. -/
def Posts (posted : PostedDocument) (entry : JournalEntry) : Prop :=
  ∃ version ctx derived, post posted.doc version ctx = .ok (.entry derived) ∧
    entry.lines.Perm
      (if posted.takenBack then derived.lines.map JournalLine.swapped else derived.lines)

/-- An amount of the document as the entry counts it: negated when the document is
voided, and again when it is taken back. -/
def count (amount : Int) : Int :=
  if posted.doc.isVoided = posted.takenBack then amount else -amount

def base : Int :=
  posted.count posted.doc.signedBase

def unmarkedBase (isIncome : AccountId → Prop) [DecidablePred isIncome] : Int :=
  posted.count (posted.doc.unmarkedBase isIncome)

theorem count_add (first second : Int) :
    posted.count (first + second) = posted.count first + posted.count second := by
  unfold count
  split_ifs <;> omega

variable {posted} {isIncome : AccountId → Prop} [DecidablePred isIncome]

theorem Posts.markedLineTotal_eq {entry : JournalEntry}
    (posts : posted.Posts entry) :
    -markedLineTotal (MarkedOn isIncome) entry.lines = posted.base - posted.unmarkedBase isIncome := by
  obtain ⟨version, ctx, derived, derives, sameLines⟩ := posts
  have lines := total_perm
    (fun line : JournalLine => MarkedOn isIncome line.key line.isTaxable) JournalLine.net sameLines
  change markedLineTotal _ _ = markedLineTotal _ _ at lines
  have total : markedLineTotal (MarkedOn isIncome) derived.lines = _ :=
    markedLineTotal_of_post derives
  have split := posted.doc.markedBase_add_unmarkedBase isIncome
  have counted : posted.base - posted.unmarkedBase isIncome = posted.count (posted.doc.markedBase isIncome) := by
    unfold base unmarkedBase
    rw [← split, count_add]
    omega
  rw [counted, lines]
  unfold count
  cases posted.takenBack
  · rw [if_neg Bool.false_ne_true, total]
    cases posted.doc.isVoided <;> simp
  · rw [if_pos rfl, markedLineTotal_swapped, total]
    cases posted.doc.isVoided <;> simp

end PostedDocument

namespace Ledger

def entriesBetween (ledger : Ledger) (start finish : Date) : List JournalEntry :=
  (ledger.journal.map PostedEntry.entry).filter fun entry =>
    start ≤ entry.entryDate ∧ entry.entryDate ≤ finish

/-- The entries of a period post these documents or take them back, and any other
marks no line taxable. -/
def PostsBetween (ledger : Ledger) (start finish : Date) (documents : List PostedDocument) :
    Prop :=
  ∃ entries others, (ledger.entriesBetween start finish).Perm (entries ++ others) ∧
    List.Forall₂ PostedDocument.Posts documents entries ∧
      ∀ entry ∈ others, ∀ line ∈ entry.lines, line.isTaxable = false

def IsIncome (ledger : Ledger) (account : AccountId) : Prop :=
  (ledger.accountRow account).map Account.classification = some .income

instance (ledger : Ledger) : DecidablePred ledger.IsIncome :=
  fun account => inferInstanceAs
    (Decidable ((ledger.accountRow account).map Account.classification = some .income))

end Ledger

section Report

variable {ledger : Ledger} {start finish : Date} {amount : Money}
  {documents : List PostedDocument}

theorem total_taxableBetween (entry : JournalEntry) :
    total (fun line => taxableBetween ledger start finish (entry, line)) JournalLine.net
        entry.lines =
      if start ≤ entry.entryDate ∧ entry.entryDate ≤ finish then
        markedLineTotal (MarkedOn ledger.IsIncome) entry.lines else 0 := by
  split_ifs with inPeriod
  · apply total_congr
    intro line lineMem
    exact ⟨⟨And.right, fun marked => ⟨inPeriod, marked⟩⟩, fun _ => rfl⟩
  · exact total_eq_zero _ _ fun line lineMem selected => absurd selected.1 inPeriod

theorem lineLevelTaxable_eq (reports : lineLevelTaxable ledger start finish = .ok amount) :
    amount.minor = -((ledger.entriesBetween start finish).map fun entry =>
      markedLineTotal (MarkedOn ledger.IsIncome) entry.lines).sum := by
  unfold lineLevelTaxable at reports
  simp only [bind_eq_ok_iff] at reports
  obtain ⟨debit, debits, credit, credits, subtracts⟩ := reports
  rw [sumColumn_eq_ok_iff] at debits credits
  rw [liftM_money_eq_ok_iff', Money.checkedSub_eq_ok_iff, debits, credits, ← neg_sub,
    debits_sub_credits] at subtracts
  rw [subtracts]
  congr 1
  unfold netOfLines Ledger.lines Ledger.entriesBetween
  rw [total_flatMap, List.filter_map, List.map_map, sum_map_filter]
  apply congrArg List.sum
  apply List.map_congr_left
  intro row rowMem
  simp only [Function.comp_apply, decide_eq_true_eq]
  rw [total_map]
  exact total_taxableBetween row.entry

theorem sum_markedLineTotal {entries : List JournalEntry}
    (posts : List.Forall₂ PostedDocument.Posts documents entries) :
    -(entries.map fun entry => markedLineTotal (MarkedOn ledger.IsIncome) entry.lines).sum =
      (documents.map PostedDocument.base).sum -
        (documents.map fun posted => posted.unmarkedBase ledger.IsIncome).sum := by
  induction posts with
  | nil => rfl
  | cons here rest ih =>
    have first := @PostedDocument.Posts.markedLineTotal_eq _ ledger.IsIncome _ _ here
    simp only [List.map_cons, List.sum_cons]
    omega

theorem lineLevelTaxable_eq_bases_iff (posts : ledger.PostsBetween start finish documents)
    (reports : lineLevelTaxable ledger start finish = .ok amount) :
    amount.minor = (documents.map PostedDocument.base).sum ↔
      (documents.map fun posted => posted.unmarkedBase ledger.IsIncome).sum = 0 := by
  obtain ⟨entries, others, rearranged, posted, unmarked⟩ := posts
  have netted := lineLevelTaxable_eq reports
  have nothing : (others.map fun entry =>
      markedLineTotal (MarkedOn ledger.IsIncome) entry.lines).sum = 0 := by
    apply List.sum_eq_zero
    intro value valueMem
    obtain ⟨entry, entryMem, rfl⟩ := List.mem_map.mp valueMem
    apply total_eq_zero
    rintro line lineMem ⟨-, isTaxable⟩
    rw [unmarked entry entryMem line lineMem] at isTaxable
    cases isTaxable
  rw [(rearranged.map _).sum_eq, List.map_append, List.sum_append, nothing] at netted
  have bases := @sum_markedLineTotal ledger _ _ posted
  omega

end Report

section Example

/-- A taxable item of 100 dollars at 10 dollars off. -/
def discountedSale : LedgerDocument where
  documentId := "invoice-1"
  kind := .invoice
  txnDate := ⟨2026, 5, 4, Eq.refl true⟩
  contact := some ⟨.customer, "c1"⟩
  headerClass := some ⟨"foam"⟩
  lines :=
    [{ lineNo := 1, kind := .item, amount := .fromMinor 10000, isTaxable := true },
      { lineNo := 2, kind := .discount, amount := .fromMinor 1000, isTaxable := true }]

/-- The sale as it is saved, with its number, its due date and its tax. -/
def discountedInvoice : LedgerDocument :=
  { discountedSale with
    number := some "1001"
    dueDate := some ⟨2026, 5, 4, Eq.refl true⟩
    tax := some ⟨.fromMinor 596, .fromMinor 9000, .ofParts 6625 5⟩ }

def discountedBook : Ledger :=
  (Ledger.createCompany "aquamentor").after
    [.upsertContact { contactId := "c1", kind := .customer, displayName := "Ada" },
      .createDocument discountedSale "bookkeeper"]

def Posting.entries : Posting → List JournalEntry
  | .nonPosting => []
  | .entry derived => [derived]

theorem discountedBook_postsBetween :
    discountedBook.PostsBetween ⟨2026, 4, 1, Eq.refl true⟩ ⟨2026, 6, 30, Eq.refl true⟩
      [⟨discountedInvoice, false⟩] := by
  obtain ⟨posting, posts, entriesEq⟩ := exists_ok_of_map_toOption
    (show (post discountedInvoice 1 {}).toOption.map Posting.entries =
      some (discountedBook.entriesBetween ⟨2026, 4, 1, Eq.refl true⟩
        ⟨2026, 6, 30, Eq.refl true⟩) by decide +kernel)
  cases posting with
  | nonPosting =>
    exact absurd entriesEq (by decide +kernel)
  | entry derived =>
    refine ⟨[derived], [], by rw [← entriesEq]; rfl, ?_, by simp⟩
    exact .cons ⟨1, {}, derived, posts, List.Perm.refl _⟩ .nil

/-- The tax is computed on 90 dollars, and the report finds 100. -/
theorem taxableSales_of_discountedBook :
    ¬ ∀ (ledger : Ledger) (start finish : Date) (documents : List PostedDocument)
      (amount : Money), Reachable ledger → ledger.PostsBetween start finish documents →
        lineLevelTaxable ledger start finish = .ok amount →
          amount.minor = (documents.map PostedDocument.base).sum := by
  intro always
  have reachable : Reachable discountedBook := ⟨_, _, rfl⟩
  have found : lineLevelTaxable discountedBook ⟨2026, 4, 1, Eq.refl true⟩
      ⟨2026, 6, 30, Eq.refl true⟩ = .ok (.fromMinor 10000) := by
    decide +kernel
  have agrees := always _ _ _ _ _ reachable discountedBook_postsBetween found
  exact absurd agrees (by decide +kernel)

theorem lineLevelTaxable_of_discountedBook :
    (Money.fromMinor 10000).minor =
        (([⟨discountedInvoice, false⟩] : List PostedDocument).map PostedDocument.base).sum ↔
      (([⟨discountedInvoice, false⟩] : List PostedDocument).map fun posted =>
        posted.unmarkedBase discountedBook.IsIncome).sum = 0 :=
  lineLevelTaxable_eq_bases_iff discountedBook_postsBetween (by decide +kernel)

end Example

end QuickBooks
