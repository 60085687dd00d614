import QuickBooks.NewestVersions
import QuickBooks.OpenItemSums
import QuickBooks.ProducerHistories

/-!
# Open balances of a ledger

What the open items report of a ledger says of one document, read off the newest
versions: an invoice or a bill is open for its worth less what is settled to it,
and a credit for its worth less its own applications and plus what payments record
against it.  A saved version moves both by what it applies.
-/

namespace QuickBooks

open ExceptPrograms KeyedTotals
open Ledger

section Newest

variable {ledger : Ledger} {kinds : List DocKind} {doc : LedgerDocument}

theorem Ledger.WellFormed.documentAt_of_mem (wellFormed : ledger.WellFormed)
    {row : DocumentVersion} (rowMem : row ∈ ledger.documentVersions) :
    ledger.documentAt row.documentId row.version = some row.document := by
  have distinct : ((ledger.versionsOf row.documentId).map DocumentVersion.version).Nodup := by
    rw [wellFormed.versionNumbers]
    exact List.nodup_range'
  unfold documentAt
  cases found : ledger.documentVersions.find? fun other =>
      other.documentId = row.documentId ∧ other.version = row.version with
  | none =>
    rw [List.find?_eq_none] at found
    exact absurd (decide_eq_true ⟨rfl, rfl⟩) (found row rowMem)
  | some other =>
    have same := List.find?_some found
    rw [decide_eq_true_eq] at same
    obtain ⟨sameId, sameVersion⟩ := same
    have otherMem : other ∈ ledger.versionsOf row.documentId :=
      List.mem_filter.mpr ⟨List.mem_of_find?_eq_some found, decide_eq_true sameId⟩
    have rowVersion : row ∈ ledger.versionsOf row.documentId :=
      List.mem_filter.mpr ⟨rowMem, decide_eq_true rfl⟩
    rw [List.inj_on_of_nodup_map distinct otherMem rowVersion sameVersion, Option.map_some]

theorem mem_latestDocuments (wellFormed : ledger.WellFormed) :
    doc ∈ latestDocuments ledger kinds Date.last ↔
      doc.kind ∈ kinds ∧ doc.isVoided = false ∧
        ledger.latestDocumentPayload doc.documentId = some doc := by
  unfold latestDocuments
  simp only [List.mem_filter, List.mem_map, List.mem_insertionSort, Bool.not_eq_true',
    decide_eq_true_eq]
  constructor
  · rintro ⟨⟨row, ⟨rowMem, kindMem, -, newest⟩, rfl⟩, stands⟩
    refine ⟨kindMem, stands, ?_⟩
    have saved := wellFormed.documentAt_of_mem rowMem
    unfold isNewest at newest
    rw [of_decide_eq_true newest, ← wellFormed.versionDocuments row rowMem] at saved
    exact saved
  · rintro ⟨kindMem, stands, latest⟩
    unfold latestDocumentPayload documentAt at latest
    obtain ⟨row, found, rfl⟩ := Option.map_eq_some_iff.mp latest
    have same := List.find?_some found
    rw [decide_eq_true_eq] at same
    obtain ⟨sameId, sameVersion⟩ := same
    refine ⟨⟨row, ⟨List.mem_of_find?_eq_some found, kindMem, Date.le_last _, ?_⟩, rfl⟩, stands⟩
    unfold isNewest
    rw [sameVersion, sameId, decide_eq_true_eq]

theorem sum_latestDocuments (measure : LedgerDocument → Int) :
    ((latestDocuments ledger kinds Date.last).map measure).sum =
      newestTotal (fun doc => if doc.kind ∈ kinds ∧ doc.isVoided = false then measure doc else 0)
        ledger := by
  unfold latestDocuments newestTotal
  rw [sum_map_filter, total_map, total_perm _ _ (List.perm_insertionSort _ _), total_filter]
  unfold total
  congr 1
  apply List.map_congr_left
  intro row rowMem
  have inTime : row.document.txnDate ≤ Date.last := Date.le_last _
  by_cases newest : ledger.isNewest row = true <;>
    by_cases kindMem : row.document.kind ∈ kinds <;>
      simp [newest, kindMem, inTime]

end Newest

section Settlements

/-- What one document settles of a target. -/
def Book.settledBy (book : Book) (target : String) (doc : LedgerDocument) : Int :=
  if book.settles doc.kind = true ∧ doc.isVoided = false then
    total (fun application => application.targetDocumentId = target)
      (fun application => application.amount.minor) (moneyApplications doc)
  else 0

def settledTo (ledger : Ledger) (book : Book) (target : String) : Int :=
  newestTotal (book.settledBy target) ledger

def ownUse (doc : LedgerDocument) : Int :=
  ((moneyApplications doc).map fun application => application.amount.minor).sum

variable {ledger : Ledger} {book : Book} {doc : LedgerDocument}

theorem Book.kind_mem_of_settles (settles : book.settles doc.kind = true) :
    doc.kind ∈ book.docTypes := by
  cases book <;> cases kind : doc.kind <;> simp [Book.settles, kind] at settles <;>
    simp [Book.docTypes]

theorem Book.kind_mem_of_opens (opens : (book.opens doc.kind).isSome) :
    doc.kind ∈ book.docTypes := by
  cases book <;> cases kind : doc.kind <;> simp [Book.opens, kind] at opens <;>
    simp [Book.docTypes]

theorem Book.not_isContract_of_opens {isCredit : Bool}
    (opens : book.opens doc.kind = some isCredit) : doc.kind.isContract = false := by
  cases book <;> cases kind : doc.kind <;> simp [Book.opens, kind] at opens <;> rfl

theorem Book.settles_of_credit (opens : book.opens doc.kind = some true) :
    book.settles doc.kind = true := by
  cases book <;> cases kind : doc.kind <;> simp [Book.opens, kind] at opens <;>
    simp [Book.settles]

theorem inWindow_last (doc : LedgerDocument) :
    inWindow Date.last doc = true ↔ doc.isVoided = false := by
  unfold inWindow
  rw [decide_eq_true_eq]
  exact and_iff_right (Date.le_last _)

theorem sum_settling (measure : LedgerDocument → Int) :
    ((settling (latestDocuments ledger book.docTypes Date.last) book Date.last).map
        measure).sum =
      newestTotal (fun doc => if book.settles doc.kind = true ∧ doc.isVoided = false then
        measure doc else 0) ledger := by
  unfold settling
  rw [sum_map_filter]
  unfold total
  rw [sum_latestDocuments]
  congr 1
  ext doc
  simp only [Bool.and_eq_true, inWindow_last]
  by_cases settles : book.settles doc.kind = true
  · by_cases stands : doc.isVoided = false <;>
      simp [settles, stands, Book.kind_mem_of_settles settles]
  · simp [settles]

theorem minor_paidTo {target : String} {sum : Money}
    (paid : paidTo (latestDocuments ledger book.docTypes Date.last) book Date.last target =
      .ok sum) : sum.minor = settledTo ledger book target := by
  unfold paidTo at paid
  rw [Money.minor_checkedSum paid, List.map_map]
  rw [sum_map_filter, total_flatMap, sum_settling]
  unfold settledTo
  congr 1
  ext doc
  unfold Book.settledBy
  simp only [decide_eq_true_eq]
  rfl

theorem newestTotal_of_document (wellFormed : ledger.WellFormed) (documentId : String)
    (measure : LedgerDocument → Int) :
    newestTotal (fun doc => if doc.documentId = documentId then measure doc else 0) ledger =
      latestMeasure measure ledger documentId := by
  rw [← total_newest_of_document measure wellFormed]
  unfold newestTotal total
  congr 1
  apply List.map_congr_left
  intro row rowMem
  dsimp only
  rw [wellFormed.versionDocuments row rowMem]
  by_cases newest : ledger.isNewest row = true <;>
    by_cases same : row.documentId = documentId <;> simp [newest, same]

theorem minor_consumedBy (wellFormed : ledger.WellFormed)
    (latest : ledger.latestDocumentPayload doc.documentId = some doc)
    (stands : doc.isVoided = false) (opens : book.opens doc.kind = some true) {sum : Money}
    (consumed : consumedBy (latestDocuments ledger book.docTypes Date.last) book Date.last
      doc.documentId = .ok sum) : sum.minor = ownUse doc := by
  unfold consumedBy at consumed
  rw [bind_eq_ok_iff] at consumed
  obtain ⟨used, uses, sums⟩ := consumed
  have each : used.map Money.minor =
      ((settling (latestDocuments ledger book.docTypes Date.last) book Date.last).filter
        fun credit => credit.documentId = doc.documentId ∧
          book.opens credit.kind = some true).map ownUse := by
    apply map_eq_of_mapM _ uses
    intro credit result adds
    rw [Money.minor_checkedSum adds, List.map_map]
    rfl
  rw [Money.minor_checkedSum sums, each, sum_map_filter]
  unfold total
  rw [sum_settling]
  have alone := newestTotal_of_document wellFormed doc.documentId fun credit =>
    if book.opens credit.kind = some true ∧ credit.isVoided = false then ownUse credit else 0
  unfold latestMeasure at alone
  rw [latest, Option.map_some, Option.getD_some, if_pos ⟨opens, stands⟩] at alone
  rw [← alone]
  congr 1
  ext credit
  simp only [decide_eq_true_eq]
  by_cases isCredit : book.opens credit.kind = some true
  · have settles := Book.settles_of_credit isCredit
    by_cases same : credit.documentId = doc.documentId <;>
      by_cases kept : credit.isVoided = false <;> simp [isCredit, settles, same, kept]
  · simp [isCredit]

end Settlements

section Items

variable {docs : List LedgerDocument} {book : Book} {asOf : Date}
  {names : List (String × String)} {doc : LedgerDocument} {items : List OpenDocument}

theorem mem_openItems_iff (found : openItems docs book asOf names = .ok items)
    {item : OpenDocument} :
    item ∈ items ↔ ∃ doc ∈ docs, inWindow asOf doc = true ∧
      openItem docs book asOf names doc = .ok (some item) := by
  constructor
  · intro itemMem
    obtain ⟨doc, docMem, within, -, opens⟩ := openItems_itemOf found itemMem
    exact ⟨doc, docMem, within, opens⟩
  · rintro ⟨doc, docMem, within, opens⟩
    unfold openItems at found
    rw [check_bind_eq_ok_iff, bind_eq_ok_iff] at found
    obtain ⟨-, results, runs, found⟩ := found
    rw [pure_eq_ok_iff] at found
    subst found
    obtain ⟨result, resultMem, opensResult⟩ :=
      exists_mem_of_mapM runs (List.mem_filter.mpr ⟨docMem, within⟩)
    rw [opens, Except.ok.injEq] at opensResult
    subst opensResult
    exact List.mem_filterMap.mpr ⟨_, resultMem, rfl⟩

theorem exists_openItem (found : openItems docs book asOf names = .ok items)
    (docMem : doc ∈ docs) (within : inWindow asOf doc = true) :
    ∃ result, openItem docs book asOf names doc = .ok result := by
  unfold openItems at found
  rw [check_bind_eq_ok_iff, bind_eq_ok_iff] at found
  obtain ⟨-, results, runs, -⟩ := found
  obtain ⟨result, -, opens⟩ := exists_mem_of_mapM runs (List.mem_filter.mpr ⟨docMem, within⟩)
  exact ⟨result, opens⟩

theorem find?_openItems (found : openItems docs book asOf names = .ok items)
    (docMem : doc ∈ docs) (within : inWindow asOf doc = true)
    (alone : ∀ other ∈ docs, other.documentId = doc.documentId → other = doc)
    {result : Option OpenDocument} (opens : openItem docs book asOf names doc = .ok result) :
    (items.find? fun item => item.documentId = doc.documentId) = result := by
  have same : ∀ item ∈ items, item.documentId = doc.documentId → result = some item := by
    intro item itemMem sameId
    obtain ⟨other, otherMem, -, otherOpens⟩ := (mem_openItems_iff found).mp itemMem
    rw [alone other otherMem
      ((openItem_itemOf otherOpens).documentId.symm.trans sameId), opens] at otherOpens
    exact Except.ok.inj otherOpens
  cases listed : items.find? fun item => item.documentId = doc.documentId with
  | some item =>
    have sameId := List.find?_some listed
    rw [decide_eq_true_eq] at sameId
    exact (same item (List.mem_of_find?_eq_some listed) sameId).symm
  | none =>
    cases result with
    | none => rfl
    | some item =>
      rw [List.find?_eq_none] at listed
      have itemMem := (mem_openItems_iff found).mpr ⟨doc, docMem, within, opens⟩
      exact absurd (decide_eq_true (openItem_itemOf opens).documentId) (listed item itemMem)

def reported (items : List OpenDocument) (documentId : String) : Int :=
  ((items.find? fun item => item.documentId = documentId).map fun item =>
    item.open.minor).getD 0

end Items

section Balances

def documentWorth (doc : LedgerDocument) : Int :=
  lineAmounts [.item, .shipping, .account] doc - lineAmounts [.discount] doc + taxAmount doc

/-- What is left of a document that opens on a book. -/
def leftOf (ledger : Ledger) (book : Book) (doc : LedgerDocument) : Int :=
  if book.opens doc.kind = some true then
    documentWorth doc - ownUse doc + settledTo ledger book doc.documentId
  else documentWorth doc - settledTo ledger book doc.documentId

variable {ledger : Ledger} {book : Book} {doc : LedgerDocument} {items : List OpenDocument}

theorem remainder_eq_leftOf (wellFormed : ledger.WellFormed)
    (latest : ledger.latestDocumentPayload doc.documentId = some doc)
    (stands : doc.isVoided = false) {isCredit : Bool} {remaining : Int}
    (opens : book.opens doc.kind = some isCredit)
    (remainder : Remainder (latestDocuments ledger book.docTypes Date.last) book Date.last doc
      isCredit remaining) : remaining = leftOf ledger book doc := by
  obtain ⟨gross, fromPayments, totals, paid, rest⟩ := remainder.sums
  have grossEq : gross.minor = documentWorth doc := minor_documentTotal totals
  have paidEq := minor_paidTo paid
  unfold leftOf
  cases isCredit with
  | false =>
    rw [if_neg Bool.false_ne_true] at rest
    rw [opens, if_neg (by simp), rest, grossEq, paidEq]
  | true =>
    rw [if_pos rfl] at rest
    obtain ⟨own, consumed, rest⟩ := rest
    have ownEq := minor_consumedBy wellFormed latest stands opens consumed
    rw [opens, if_pos rfl, rest, grossEq, paidEq, ownEq]
    omega

theorem latestDocuments_alone (wellFormed : ledger.WellFormed) {kinds : List DocKind}
    (latest : ledger.latestDocumentPayload doc.documentId = some doc) :
    ∀ other ∈ latestDocuments ledger kinds Date.last, other.documentId = doc.documentId →
      other = doc := by
  intro other otherMem sameId
  obtain ⟨-, -, otherLatest⟩ := (mem_latestDocuments wellFormed).mp otherMem
  rw [sameId, latest, Option.some.injEq] at otherLatest
  exact otherLatest.symm

theorem reported_eq_leftOf (wellFormed : ledger.WellFormed)
    (found : openDocuments ledger book Date.last = .ok items)
    (latest : ledger.latestDocumentPayload doc.documentId = some doc)
    (stands : doc.isVoided = false) {isCredit : Bool}
    (opens : book.opens doc.kind = some isCredit) :
    reported items doc.documentId =
      if isCredit then -leftOf ledger book doc else leftOf ledger book doc := by
  rw [openDocuments_eq_ok_iff] at found
  have kindMem : doc.kind ∈ book.docTypes := Book.kind_mem_of_opens (by rw [opens]; rfl)
  have docMem := (mem_latestDocuments wellFormed).mpr ⟨kindMem, stands, latest⟩
  have within := (inWindow_last doc).mpr stands
  obtain ⟨result, opensResult⟩ := exists_openItem found docMem within
  have listed := find?_openItems found docMem within
    (latestDocuments_alone wellFormed latest) opensResult
  obtain ⟨remaining, remainder, worth⟩ := openItem_of_opens opens opensResult
  rw [← remainder_eq_leftOf wellFormed latest stands opens remainder]
  unfold reported
  rw [listed]
  rcases worth with ⟨rfl, rfl⟩ | ⟨item, rfl, -, -, openEq⟩
  · simp
  · exact openEq

end Balances

section Saved

variable {ledger : Ledger} {book : Book} {doc old : LedgerDocument} {command : CommandMeta}

/-- A saved version settles of a target what it applies, and no longer what the
version before it applied. -/
theorem settledTo_recordVersion (wellFormed : ledger.WellFormed)
    (latest : ledger.latestDocumentPayload doc.documentId = some old) (target : String) :
    settledTo (ledger.recordVersion doc command) book target =
      settledTo ledger book target - book.settledBy target old + book.settledBy target doc := by
  unfold settledTo
  rw [newestTotal_recordVersion _ wellFormed]
  unfold latestMeasure
  rw [latest, Option.map_some, Option.getD_some]

theorem latestDocuments_recordVersion_of_not_mem (wellFormed : ledger.WellFormed)
    {kinds : List DocKind} (latest : ledger.latestDocumentPayload doc.documentId = some old)
    (oldKind : old.kind ∉ kinds) (docKind : doc.kind ∉ kinds) :
    latestDocuments (ledger.recordVersion doc command) kinds Date.last =
      latestDocuments ledger kinds Date.last := by
  have rows : ∀ row ∈ ledger.documentVersions,
      decide (row.document.kind ∈ kinds ∧ row.document.txnDate ≤ Date.last ∧
          (ledger.recordVersion doc command).isNewest row = true) =
        decide (row.document.kind ∈ kinds ∧ row.document.txnDate ≤ Date.last ∧
          ledger.isNewest row = true) := by
    intro row rowMem
    rw [decide_eq_decide]
    unfold isNewest
    rw [decide_eq_true_eq, decide_eq_true_eq]
    by_cases same : row.documentId = doc.documentId
    · have older := ledger.version_le_previousVersion rowMem
      rw [same] at older
      rw [same, previousVersion_recordVersion]
      constructor
      · rintro ⟨-, -, newest⟩
        omega
      · rintro ⟨kindMem, -, newest⟩
        have saved := wellFormed.documentAt_of_mem rowMem
        rw [newest, same] at saved
        rw [Option.some.inj (saved.symm.trans latest)] at kindMem
        exact absurd kindMem oldKind
    · rw [previousVersion_recordVersion_other ledger doc command (Ne.symm same)]
  have added : ∀ (newest : DocumentVersion → Prop) [DecidablePred newest]
      (row : DocumentVersion), row.document = doc →
        [row].filter (fun row => decide (row.document.kind ∈ kinds ∧
          row.document.txnDate ≤ Date.last ∧ newest row)) = [] := by
    rintro newest _ row rfl
    simp [docKind]
  unfold latestDocuments
  change ((((ledger.documentVersions ++ [_]).filter _).insertionSort _).map _).filter _ = _
  rw [List.filter_append, added _ _ rfl, List.append_nil, List.filter_congr rows]

end Saved

section Congruence

variable {docs docs' : List LedgerDocument} {book : Book}
  {names : List (String × String)} {doc : LedgerDocument}

theorem notYetApplied_last (docs : List LedgerDocument) (doc : LedgerDocument) :
    notYetApplied docs Date.last doc = .ok doc.unapplied := by
  unfold notYetApplied
  have never : ∀ id, (dateOf docs id).any (fun date => decide (Date.last < date)) = false := by
    intro id
    rw [Option.any_eq_false]
    intro date _
    rw [decide_eq_false_iff_not, not_lt]
    exact Date.le_last date
  simp only [never, Bool.false_eq_true, if_false]
  induction moneyApplications doc with
  | nil => rfl
  | cons application rest ih =>
    rw [List.foldlM_cons, pure_bind]
    exact ih

theorem openItem_congr
    (paid : (book.opens doc.kind).isSome → paidTo docs book Date.last doc.documentId =
      paidTo docs' book Date.last doc.documentId)
    (consumed : book.opens doc.kind = some true → consumedBy docs book Date.last doc.documentId =
      consumedBy docs' book Date.last doc.documentId) :
    openItem docs book Date.last names doc = openItem docs' book Date.last names doc := by
  unfold openItem
  rw [notYetApplied_last, notYetApplied_last]
  cases opens : book.opens doc.kind with
  | none => rfl
  | some isCredit =>
    rw [opens] at paid consumed
    rw [paid rfl]
    cases isCredit with
    | false => rfl
    | true => rw [consumed rfl]

end Congruence

section Reports

variable {ledger ledger' : Ledger} {book : Book} {items items' : List OpenDocument}

theorem exists_remainder (wellFormed : ledger.WellFormed)
    (found : openDocuments ledger book Date.last = .ok items) {doc : LedgerDocument}
    (latest : ledger.latestDocumentPayload doc.documentId = some doc)
    (stands : doc.isVoided = false) {isCredit : Bool}
    (opens : book.opens doc.kind = some isCredit) :
    ∃ remaining, Remainder (latestDocuments ledger book.docTypes Date.last) book Date.last doc
      isCredit remaining := by
  have kindMem : doc.kind ∈ book.docTypes := Book.kind_mem_of_opens (by rw [opens]; rfl)
  have docMem := (mem_latestDocuments wellFormed).mpr ⟨kindMem, stands, latest⟩
  obtain ⟨result, opensResult⟩ := exists_openItem (openDocuments_eq_ok_iff.mp found) docMem
    ((inWindow_last doc).mpr stands)
  obtain ⟨remaining, remainder, -⟩ := openItem_of_opens opens opensResult
  exact ⟨remaining, remainder⟩

/-- Where nothing that a document's item depends on differs, two reports have the
same item. -/
theorem mem_of_mem_report (wellFormed : ledger.WellFormed) (wellFormed' : ledger'.WellFormed)
    (names : contactNames ledger' = contactNames ledger)
    (found : openDocuments ledger book Date.last = .ok items)
    (found' : openDocuments ledger' book Date.last = .ok items') {item : OpenDocument}
    (sameLatest : ledger'.latestDocumentPayload item.documentId =
      ledger.latestDocumentPayload item.documentId)
    (sameSettled : settledTo ledger' book item.documentId =
      settledTo ledger book item.documentId)
    (itemMem : item ∈ items) : item ∈ items' := by
  obtain ⟨doc, docMem, within, opens⟩ :=
    (mem_openItems_iff (openDocuments_eq_ok_iff.mp found)).mp itemMem
  obtain ⟨kindMem, stands, latest⟩ := (mem_latestDocuments wellFormed).mp docMem
  have sameId : item.documentId = doc.documentId := (openItem_itemOf opens).documentId
  rw [sameId] at sameLatest sameSettled
  have latest' := sameLatest.trans latest
  have sums : ∀ isCredit, book.opens doc.kind = some isCredit →
      paidTo (latestDocuments ledger' book.docTypes Date.last) book Date.last doc.documentId =
          paidTo (latestDocuments ledger book.docTypes Date.last) book Date.last
            doc.documentId ∧
        (isCredit = true →
          consumedBy (latestDocuments ledger' book.docTypes Date.last) book Date.last
              doc.documentId =
            consumedBy (latestDocuments ledger book.docTypes Date.last) book Date.last
              doc.documentId) := by
    intro isCredit isOpen
    obtain ⟨_, remainder⟩ := exists_remainder wellFormed found latest stands isOpen
    obtain ⟨_, remainder'⟩ := exists_remainder wellFormed' found' latest' stands isOpen
    obtain ⟨_, paid, -, paidEq, rest⟩ := remainder.sums
    obtain ⟨_, paid', -, paidEq', rest'⟩ := remainder'.sums
    refine ⟨?_, ?_⟩
    · rw [paidEq, paidEq', Except.ok.injEq]
      apply Money.ext
      rw [minor_paidTo paidEq, minor_paidTo paidEq', sameSettled]
    · rintro rfl
      obtain ⟨own, ownEq, -⟩ := rest
      obtain ⟨own', ownEq', -⟩ := rest'
      rw [ownEq, ownEq', Except.ok.injEq]
      apply Money.ext
      rw [minor_consumedBy wellFormed latest stands isOpen ownEq,
        minor_consumedBy wellFormed' latest' stands isOpen ownEq']
  apply (mem_openItems_iff (openDocuments_eq_ok_iff.mp found')).mpr
  refine ⟨doc, (mem_latestDocuments wellFormed').mpr ⟨kindMem, stands, latest'⟩, within, ?_⟩
  rw [names, ← opens]
  apply openItem_congr
  · intro isOpen
    obtain ⟨isCredit, opensCredit⟩ := Option.isSome_iff_exists.mp isOpen
    exact (sums isCredit opensCredit).1
  · intro isCredit
    exact (sums true isCredit).2 rfl

theorem mem_report_iff (wellFormed : ledger.WellFormed) (wellFormed' : ledger'.WellFormed)
    (names : contactNames ledger' = contactNames ledger)
    (found : openDocuments ledger book Date.last = .ok items)
    (found' : openDocuments ledger' book Date.last = .ok items') {item : OpenDocument}
    (sameLatest : ledger'.latestDocumentPayload item.documentId =
      ledger.latestDocumentPayload item.documentId)
    (sameSettled : settledTo ledger' book item.documentId =
      settledTo ledger book item.documentId) : item ∈ items' ↔ item ∈ items :=
  ⟨mem_of_mem_report wellFormed' wellFormed names.symm found' found sameLatest.symm
      sameSettled.symm,
    mem_of_mem_report wellFormed wellFormed' names found found' sameLatest sameSettled⟩

end Reports

end QuickBooks
