import QuickBooks.OpenItems

/-!
# What an open item is worth

An open item repeats its document and is worth what the document is for less
what has been used of it: the applications to an invoice or a bill, and to a
credit its own applications less those to it.  A document with nothing left is
no item.
-/

namespace QuickBooks

open ExceptPrograms

variable {docs : List LedgerDocument} {book : Book} {asOf : Date}
  {names : List (String × String)} {doc : LedgerDocument} {item : OpenDocument}

/-- An item repeats the particulars of its document. -/
structure ItemOf (names : List (String × String)) (doc : LedgerDocument)
    (item : OpenDocument) : Prop where
  documentId : item.documentId = doc.documentId
  kind : item.kind = doc.kind
  number : item.number = doc.number
  contactId : item.contactId = (doc.contact.map ContactRef.id).getD ""
  contactName : item.contactName = (names.lookup item.contactId).getD item.contactId
  txnDate : item.txnDate = doc.txnDate
  notZero : item.open.minor ≠ 0

/-- What is left of a document that opens an item. -/
structure Remainder (docs : List LedgerDocument) (book : Book) (asOf : Date)
    (doc : LedgerDocument) (isCredit : Bool) (remaining : ℤ) : Prop where
  intro ::
  sums : ∃ gross fromPayments, documentTotal doc = .ok gross ∧
    paidTo docs book asOf doc.documentId = .ok fromPayments ∧
      if isCredit then ∃ own, consumedBy docs book asOf doc.documentId = .ok own ∧
        remaining = gross.minor - (own.minor - fromPayments.minor)
      else remaining = gross.minor - fromPayments.minor

/-- A remainder that is not zero opens an item worth it, with the sign of a
credit turned. -/
def OpensFor (names : List (String × String)) (doc : LedgerDocument) (isCredit : Bool)
    (remaining : ℤ) (result : Option OpenDocument) : Prop :=
  (result = none ∧ remaining = 0) ∨
    ∃ item, result = some item ∧ ItemOf names doc item ∧
      item.dueDate = doc.dueDate.getD doc.txnDate ∧
        item.open.minor = if isCredit then -remaining else remaining

theorem openItem_of_bill {result : Option OpenDocument}
    (opens : book.opens doc.kind = some false)
    (found : openItem docs book asOf names doc = .ok result) :
    ∃ remaining, Remainder docs book asOf doc false remaining ∧
      OpensFor names doc false remaining result := by
  have notPrepaid : ¬ (book = .payable ∧ doc.kind = .billPayment) := by
    rintro ⟨rfl, same⟩
    rw [same] at opens
    simp [Book.opens] at opens
  simp only [openItem, if_neg notPrepaid, opens, Bool.false_eq_true, if_false,
    pure_bind] at found
  simp only [bind_eq_ok_iff] at found
  obtain ⟨gross, totals, fromPayments, paid, remaining, less, found⟩ := found
  rw [Money.checkedSub_eq_ok_iff] at less
  refine ⟨remaining.minor, ⟨gross, fromPayments, totals, paid, by simpa using less⟩, ?_⟩
  split_ifs at found with nothing
  · rw [pure_eq_ok_iff] at found
    exact .inl ⟨found.symm, Money.isZero_iff.mp nothing⟩
  · rw [pure_eq_ok_iff] at found
    rw [Money.isZero_iff] at nothing
    exact .inr ⟨_, found.symm, ⟨rfl, rfl, rfl, rfl, rfl, rfl, nothing⟩, rfl, by simp⟩

theorem openItem_of_credit {result : Option OpenDocument}
    (opens : book.opens doc.kind = some true)
    (found : openItem docs book asOf names doc = .ok result) :
    ∃ remaining, Remainder docs book asOf doc true remaining ∧
      OpensFor names doc true remaining result := by
  have notPrepaid : ¬ (book = .payable ∧ doc.kind = .billPayment) := by
    rintro ⟨rfl, same⟩
    rw [same] at opens
    simp [Book.opens] at opens
  simp only [openItem, if_neg notPrepaid, opens, if_true] at found
  simp only [bind_eq_ok_iff] at found
  obtain ⟨gross, totals, fromPayments, paid, own, consumed, used, uses, remaining,
    less, found⟩ := found
  rw [Money.checkedSub_eq_ok_iff] at less uses
  refine ⟨remaining.minor, ⟨gross, fromPayments, totals, paid, ?_⟩, ?_⟩
  · rw [if_pos rfl]
    exact ⟨own, consumed, by rw [less, uses]⟩
  split_ifs at found with nothing
  · rw [pure_eq_ok_iff] at found
    exact .inl ⟨found.symm, Money.isZero_iff.mp nothing⟩
  · simp only [bind_eq_ok_iff, pure_eq_ok_iff] at found
    obtain ⟨total, -, open', negated, found⟩ := found
    rw [Money.checkedNeg_eq_ok_iff] at negated
    rw [Money.isZero_iff] at nothing
    refine .inr ⟨_, found.symm, ⟨rfl, rfl, rfl, rfl, rfl, rfl, ?_⟩, rfl, by simpa using negated⟩
    rw [negated]
    omega

theorem openItem_of_opens {isCredit : Bool} {result : Option OpenDocument}
    (opens : book.opens doc.kind = some isCredit)
    (found : openItem docs book asOf names doc = .ok result) :
    ∃ remaining, Remainder docs book asOf doc isCredit remaining ∧
      OpensFor names doc isCredit remaining result := by
  cases isCredit with
  | false => exact openItem_of_bill opens found
  | true => exact openItem_of_credit opens found

theorem openItem_itemOf (found : openItem docs book asOf names doc = .ok (some item)) :
    ItemOf names doc item := by
  cases opens : book.opens doc.kind with
  | some isCredit =>
    obtain ⟨remaining, -, worth⟩ := openItem_of_opens opens found
    rcases worth with ⟨absent, -⟩ | ⟨other, same, itemOf, -⟩
    · cases absent
    · cases same
      exact itemOf
  | none =>
    simp only [openItem, opens] at found
    split_ifs at found with prepaid
    · rw [bind_eq_ok_iff] at found
      obtain ⟨remainder, -, found⟩ := found
      split_ifs at found with nothing
      · rw [pure_eq_ok_iff] at found
        cases found
      · rw [bind_eq_ok_iff] at found
        obtain ⟨prepaid, negated, found⟩ := found
        rw [pure_eq_ok_iff] at found
        cases found
        rw [Money.checkedNeg_eq_ok_iff] at negated
        rw [Money.isZero_iff] at nothing
        refine ⟨rfl, rfl, rfl, rfl, rfl, rfl, ?_⟩
        change prepaid.minor ≠ 0
        omega
    · rw [pure_eq_ok_iff] at found
      cases found

theorem openItems_itemOf {items : List OpenDocument}
    (found : openItems docs book asOf names = .ok items) (itemMem : item ∈ items) :
    ∃ doc ∈ docs, inWindow asOf doc = true ∧ ItemOf names doc item ∧
      openItem docs book asOf names doc = .ok (some item) := by
  unfold openItems at found
  rw [check_bind_eq_ok_iff, bind_eq_ok_iff] at found
  obtain ⟨-, results, runs, found⟩ := found
  rw [pure_eq_ok_iff] at found
  subst found
  obtain ⟨result, resultMem, present⟩ := List.mem_filterMap.mp itemMem
  obtain ⟨doc, docMem, opens⟩ := exists_of_mem_mapM runs resultMem
  rw [id] at present
  rw [present] at opens
  obtain ⟨inDocs, window⟩ := List.mem_filter.mp docMem
  exact ⟨doc, inDocs, window, openItem_itemOf opens, opens⟩

theorem openDocuments_eq_ok_iff {ledger : Ledger} {items : List OpenDocument} :
    openDocuments ledger book asOf = .ok items ↔
      openItems (latestDocuments ledger book.docTypes Date.last) book asOf
        (contactNames ledger) = .ok items :=
  mapError_eq_ok_iff

end QuickBooks
