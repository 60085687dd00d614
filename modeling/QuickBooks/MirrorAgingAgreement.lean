import QuickBooks.ExportedIds
import QuickBooks.MirrorTables
import Mathlib.Data.Rat.Floor
import Mathlib.Data.String.Basic

/-!
# Where the two aging reports agree

Each report's amount of a contact in a bucket is a sum over the documents.  The two count the
same of a document that is open with a positive balance, states its contact, is not dated after
the day of the report and whose due date is written as the mirror writes dates.
-/

/-!
## Two aging reports of the mirror

Open invoices or bills by contact and by days past due.  One report goes through the documents
and adds each to the row of its contact; the other is one query that groups the documents and
sums what falls in each bucket.
-/

namespace QuickBooks

namespace Mirror

open ExceptPrograms

/-- How the texts of dates are read: as a calendar date, and by the database as a number of
days. -/
structure DateReaders where
  parseDate : String → Option Date
  julianDay : String → Option ℚ

inductive AgingBucket where
  | current
  | d1_30
  | d31_60
  | d61_90
  | over90
deriving DecidableEq

def bucketFor (daysPastDue : ℤ) : AgingBucket :=
  if daysPastDue ≤ 0 then .current
  else if daysPastDue ≤ 30 then .d1_30
  else if daysPastDue ≤ 60 then .d31_60
  else if daysPastDue ≤ 90 then .d61_90
  else .over90

structure AgingBuckets where
  current : Money
  d1_30 : Money
  d31_60 : Money
  d61_90 : Money
  over90 : Money

namespace AgingBuckets

def zero : AgingBuckets :=
  ⟨.zero, .zero, .zero, .zero, .zero⟩

def slot (buckets : AgingBuckets) : AgingBucket → Money
  | .current => buckets.current
  | .d1_30 => buckets.d1_30
  | .d31_60 => buckets.d31_60
  | .d61_90 => buckets.d61_90
  | .over90 => buckets.over90

def withSlot (buckets : AgingBuckets) (amount : Money) : AgingBucket → AgingBuckets
  | .current => { buckets with current := amount }
  | .d1_30 => { buckets with d1_30 := amount }
  | .d31_60 => { buckets with d31_60 := amount }
  | .d61_90 => { buckets with d61_90 := amount }
  | .over90 => { buckets with over90 := amount }

@[simp]
theorem slot_withSlot (buckets : AgingBuckets) (amount : Money) (bucket other : AgingBucket) :
    (buckets.withSlot amount bucket).slot other =
      if bucket = other then amount else buckets.slot other := by
  cases bucket <;> cases other <;> rfl

@[simp]
theorem minor_slot_zero (bucket : AgingBucket) : (zero.slot bucket).minor = 0 := by
  cases bucket <;> rfl

def add (buckets : AgingBuckets) (bucket : AgingBucket) (amount : Money) :
    Except MoneyError AgingBuckets := do
  let held ← (buckets.slot bucket).checkedAdd amount
  return buckets.withSlot held bucket

def total (buckets : AgingBuckets) : Except MoneyError Money :=
  Money.checkedSum
    [buckets.current, buckets.d1_30, buckets.d31_60, buckets.d61_90, buckets.over90]

end AgingBuckets

/-! ### The report by documents -/

structure ContactAging where
  contactId : String
  contactName : String
  buckets : AgingBuckets
  total : Money

structure AgingReport where
  asOf : Date
  rows : List ContactAging
  totals : AgingBuckets

section ByDocuments

variable (readers : DateReaders)

def dueOf (row : DocumentRow) : Option Date :=
  (row.dueDate.bind readers.parseDate).or (readers.parseDate row.txnDate)

def bucketOfRow (asOf : Date) (row : DocumentRow) : AgingBucket :=
  match dueOf readers row with
  | none => .current
  | some due => bucketFor (asOf.dayNumber - due.dayNumber)

def contactOf (row : DocumentRow) : String :=
  row.contactId.getD ""

def addDocument (asOf : Date) (state : List ContactAging × AgingBuckets) (row : DocumentRow) :
    Except MoneyError (List ContactAging × AgingBuckets) := do
  let balance := row.balance.getD .zero
  let bucket := bucketOfRow readers asOf row
  let contactId := contactOf row
  let entry := (state.1.find? fun entry => entry.contactId = contactId).getD
    ⟨contactId, row.contactName.getD contactId, .zero, .zero⟩
  let buckets ← entry.buckets.add bucket balance
  let total ← buckets.total
  let totals ← state.2.add bucket balance
  return (KeyedTables.upsert ContactAging.contactId { entry with buckets, total } state.1, totals)

def openRows (tables : MirrorTables) (docType : DocumentType) : List DocumentRow :=
  (tables.documents.filter fun document =>
    document.docType = docType ∧ document.isDeleted = false ∧
      ∃ balance ∈ document.balance, 0 < balance.minor).map tables.documentRow

def agingBefore (first second : ContactAging) : Bool :=
  second.total.minor < first.total.minor ∨
    first.total.minor = second.total.minor ∧ first.contactId ≤ second.contactId

def agingReport (tables : MirrorTables) (docType : DocumentType) (asOf : Date) :
    Except MoneyError AgingReport := do
  let (rows, totals) ← (openRows tables docType).foldlM (addDocument readers asOf) ([], .zero)
  return ⟨asOf, rows.mergeSort agingBefore, totals⟩

def arAging (tables : MirrorTables) (asOf : Date) : Except MoneyError AgingReport :=
  agingReport readers tables .invoice asOf

def apAging (tables : MirrorTables) (asOf : Date) : Except MoneyError AgingReport :=
  agingReport readers tables .bill asOf

end ByDocuments

/-! ### The report by one query -/

inductive AgingSide where
  | receivable
  | payable

namespace AgingSide

def docType : AgingSide → DocumentType
  | receivable => .invoice
  | payable => .bill

def contactType : AgingSide → ContactKind
  | receivable => .customer
  | payable => .vendor

end AgingSide

structure AgedContact where
  contactId : String
  contactName : Option String
  buckets : AgingBuckets
  total : Money
  documents : ℕ

section ByQuery

variable (readers : DateReaders)

def truncated (days : ℚ) : ℤ :=
  if 0 ≤ days then ⌊days⌋ else ⌈days⌉

/-- The days past due; null when the database cannot read one of the dates. -/
def lateDays (asOf : String) (document : ParsedDocument) : Option ℤ := do
  let today ← readers.julianDay asOf
  let due ← readers.julianDay (document.dueDate.getD document.txnDate)
  return truncated (today - due)

/-- What is open of a document: what the query selects. -/
def openBalance (side : AgingSide) (asOf : String) (document : ParsedDocument) :
    Option (String × Money) := do
  let balance ← document.balance
  let contactId ← document.contactId
  if document.docType = side.docType ∧ document.isDeleted = false ∧ balance.minor ≠ 0 ∧
      document.txnDate ≤ asOf then
    some (contactId, balance)
  else none

/-- The sum of the balances of a contact whose days past due are in a bucket; a null is in
none. -/
def bucketSum (documents : List ParsedDocument) (side : AgingSide) (asOf : String)
    (contactId : String) (selects : Option ℤ → Bool) : Except MoneyError Money :=
  Money.checkedSum (documents.filterMap fun document =>
    match openBalance side asOf document with
    | some (id, balance) =>
      if id = contactId then
        some (if selects (lateDays readers asOf document) then balance else .zero)
      else none
    | none => none)

def inBucket (bucket : AgingBucket) (late : Option ℤ) : Bool :=
  late.map bucketFor = some bucket

def agedContact (tables : MirrorTables) (side : AgingSide) (asOf contactId : String) :
    Except MoneyError AgedContact := do
  let sum := fun bucket =>
    bucketSum readers tables.documents side asOf contactId (inBucket bucket)
  let current ← sum .current
  let d1_30 ← sum .d1_30
  let d31_60 ← sum .d31_60
  let d61_90 ← sum .d61_90
  let over90 ← sum .over90
  let total ← bucketSum readers tables.documents side asOf contactId fun _ => true
  return {
    contactId
    contactName := tables.contactName (some side.contactType) (some contactId)
    buckets := ⟨current, d1_30, d31_60, d61_90, over90⟩
    total
    documents := tables.documents.countP fun document =>
      (openBalance side asOf document).any fun found => found.1 = contactId }

/-- A missing name is before all others. -/
def nameBefore : Option String → Option String → Bool
  | none, _ => true
  | some _, none => false
  | some name, some other => decide (name ≤ other)

/-- Larger totals first, then by name. -/
def agedBefore (first second : AgedContact) : Bool :=
  second.total.minor < first.total.minor ∨
    first.total.minor = second.total.minor ∧
      nameBefore first.contactName second.contactName = true

def openContacts (tables : MirrorTables) (side : AgingSide) (asOf : String) : List String :=
  (tables.documents.filterMap fun document =>
    (openBalance side asOf document).map Prod.fst).dedup

def aging (tables : MirrorTables) (side : AgingSide) (asOf : String) :
    Except MoneyError (List AgedContact) := do
  let rows ← (openContacts tables side asOf).mapM (agedContact readers tables side asOf)
  return rows.mergeSort agedBefore

end ByQuery

end Mirror

end QuickBooks

namespace QuickBooks

namespace Mirror

open ExceptPrograms KeyedTotals KeyedTables

variable {readers : DateReaders} {tables : MirrorTables}

/-- What the readers promise of the texts that are dates. -/
structure DateReaders.Documented (readers : DateReaders) : Prop where
  parse : ∀ date : Date, readers.parseDate date.render = some date
  julian : ∃ epoch : ℚ, ∀ date : Date, readers.julianDay date.render = some (epoch + date.dayNumber)

/-! ### The report by documents -/

def amountIn (rows : List ContactAging) (contactId : String) (bucket : AgingBucket) :
    ℤ :=
  total (fun row => row.contactId = contactId) (fun row => (row.buckets.slot bucket).minor) rows

section ByDocuments

variable {asOf : Date}

/-- A row for every contact, holding what the documents so far have in each bucket. -/
structure Aged (readers : DateReaders) (asOf : Date) (documents : List DocumentRow)
    (rows : List ContactAging) : Prop where
  nodup : (rows.map ContactAging.contactId).Nodup
  amount : ∀ contactId bucket,
    ((rows.find? fun row => row.contactId = contactId).map
      fun row => (row.buckets.slot bucket).minor).getD 0 =
    total (fun row => contactOf row = contactId ∧ bucketOfRow readers asOf row = bucket)
      (fun row => (row.balance.getD .zero).minor) documents

theorem aged_addDocument {documents : List DocumentRow} {row : DocumentRow}
    {state after : List ContactAging × AgingBuckets}
    (aged : Aged readers asOf documents state.1)
    (adds : addDocument readers asOf state row = .ok after) :
    Aged readers asOf (documents ++ [row]) after.1 := by
  unfold addDocument at adds
  simp only [bind_eq_ok_iff, pure_eq_ok_iff] at adds
  obtain ⟨buckets, added, sum, -, totals, -, rfl⟩ := adds
  refine ⟨nodup_upsert aged.nodup, fun contactId bucket => ?_⟩
  have before := aged.amount contactId bucket
  rw [find?_upsert, total_append, total_cons, total_nil, add_zero, ← before]
  simp only [AgingBuckets.add, bind_eq_ok_iff, pure_eq_ok_iff, Money.checkedAdd_eq_ok_iff] at added
  obtain ⟨held, minor, rfl⟩ := added
  have entryOf : ∀ entry, entry = (state.1.find? fun entry => entry.contactId = contactOf row).getD
      ⟨contactOf row, row.contactName.getD (contactOf row), .zero, .zero⟩ →
      entry.contactId = contactOf row ∧ (entry.buckets.slot bucket).minor =
        ((state.1.find? fun entry => entry.contactId = contactOf row).map
          fun row => (row.buckets.slot bucket).minor).getD 0 := by
    rintro entry rfl
    cases found : state.1.find? fun entry => entry.contactId = contactOf row with
    | none => simp
    | some entry =>
      have same := List.find?_some found
      exact ⟨of_decide_eq_true same, rfl⟩
  obtain ⟨entryId, entrySlot⟩ := entryOf _ rfl
  simp only [entryId]
  by_cases here : contactOf row = contactId
  · subst here
    rw [if_pos rfl, ← entrySlot]
    by_cases inBucket : bucketOfRow readers asOf row = bucket
    · simp only [Option.map_some, Option.getD_some, AgingBuckets.slot_withSlot, inBucket,
        if_true, and_self]
      rw [minor, inBucket]
    · simp [inBucket]
  · simp [here]

theorem aged_of_agingReport {docType : DocumentType} {report : AgingReport}
    (computed : agingReport readers tables docType asOf = .ok report) :
    ∃ rows, report.rows.Perm rows ∧ Aged readers asOf (openRows tables docType) rows := by
  unfold agingReport at computed
  simp only [bind_eq_ok_iff, pure_eq_ok_iff] at computed
  obtain ⟨⟨rows, totals⟩, folded, rfl⟩ := computed
  refine ⟨rows, List.mergeSort_perm _ _, ?_⟩
  have begun : Aged readers asOf [] [] := ⟨List.nodup_nil, fun _ _ => rfl⟩
  exact foldlM_invariant
    (fun consumed (state : List ContactAging × AgingBuckets) => Aged readers asOf consumed state.1)
    (fun _ _ _ _ aged adds => aged_addDocument aged adds) begun folded

/-- What a document is worth to a contact's bucket in the report by documents. -/
def shareByDocuments (readers : DateReaders) (tables : MirrorTables) (docType : DocumentType)
    (asOf : Date) (contactId : String) (bucket : AgingBucket) (document : ParsedDocument) : ℤ :=
  if (document.docType = docType ∧ document.isDeleted = false ∧
      ∃ balance ∈ document.balance, 0 < balance.minor) ∧
      document.contactId.getD "" = contactId ∧
      bucketOfRow readers asOf (tables.documentRow document) = bucket then
    (document.balance.getD .zero).minor
  else 0

theorem amountIn_agingReport {docType : DocumentType} {report : AgingReport}
    (computed : agingReport readers tables docType asOf = .ok report) (contactId : String)
    (bucket : AgingBucket) :
    amountIn report.rows contactId bucket =
      (tables.documents.map
        (shareByDocuments readers tables docType asOf contactId bucket)).sum := by
  obtain ⟨rows, perm, aged⟩ := aged_of_agingReport computed
  have alone : rows.Pairwise fun first second =>
      decide (first.contactId = contactId) = true → decide (second.contactId = contactId) = true →
        False := by
    refine (List.pairwise_map.1 aged.nodup).imp ?_
    intro first second distinct firstIs secondIs
    exact distinct ((of_decide_eq_true firstIs).trans (of_decide_eq_true secondIs).symm)
  have found := total_eq_find? (fun row : ContactAging => decide (row.contactId = contactId))
    (fun row => (row.buckets.slot bucket).minor) alone
  simp only [decide_eq_true_eq] at found
  rw [amountIn, total_perm _ _ perm, found, aged.amount, openRows, total_map, total_filter]
  unfold total shareByDocuments
  congr 1
  refine List.map_congr_left fun document _ => if_congr ?_ rfl rfl
  rw [and_comm]
  rfl

end ByDocuments

/-! ### The report by one query -/

def queriedIn (rows : List AgedContact) (contactId : String) (bucket : AgingBucket) : ℤ :=
  total (fun row => row.contactId = contactId) (fun row => (row.buckets.slot bucket).minor) rows

section ByQuery

variable {side : AgingSide} {asOf : String}

/-- What a document is worth to a contact's sum in the query. -/
def shareByQuery (readers : DateReaders) (side : AgingSide) (asOf contactId : String)
    (selects : Option ℤ → Bool) (document : ParsedDocument) : ℤ :=
  match openBalance side asOf document with
  | some (id, balance) =>
    if id = contactId ∧ selects (lateDays readers asOf document) = true then balance.minor else 0
  | none => 0

theorem minor_bucketSum {documents : List ParsedDocument} {contactId : String}
    {selects : Option ℤ → Bool} {sum : Money}
    (summed : bucketSum readers documents side asOf contactId selects = .ok sum) :
    sum.minor = (documents.map (shareByQuery readers side asOf contactId selects)).sum := by
  rw [Money.minor_checkedSum summed]
  clear summed
  induction documents with
  | nil => rfl
  | cons document documents ih =>
    rw [List.filterMap_cons, List.map_cons, List.sum_cons, ← ih, shareByQuery]
    cases openBalance side asOf document with
    | none => simp
    | some found =>
      obtain ⟨id, balance⟩ := found
      by_cases same : id = contactId
      · by_cases selected : selects (lateDays readers asOf document) = true
        · simp [same, selected]
        · simp [same, selected]
      · simp [same]

theorem slot_agedContact {contactId : String} {row : AgedContact}
    (computed : agedContact readers tables side asOf contactId = .ok row) :
    row.contactId = contactId ∧ ∀ bucket, (row.buckets.slot bucket).minor =
      (tables.documents.map
        (shareByQuery readers side asOf contactId (inBucket bucket))).sum := by
  unfold agedContact at computed
  simp only [bind_eq_ok_iff, pure_eq_ok_iff] at computed
  obtain ⟨current, currentSum, d1_30, d1_30Sum, d31_60, d31_60Sum, d61_90, d61_90Sum, over90,
    over90Sum, total, -, rfl⟩ := computed
  refine ⟨rfl, fun bucket => ?_⟩
  cases bucket with
  | current => exact minor_bucketSum currentSum
  | d1_30 => exact minor_bucketSum d1_30Sum
  | d31_60 => exact minor_bucketSum d31_60Sum
  | d61_90 => exact minor_bucketSum d61_90Sum
  | over90 => exact minor_bucketSum over90Sum

theorem mem_openContacts {contactId : String} :
    contactId ∈ openContacts tables side asOf ↔
      ∃ document ∈ tables.documents, ∃ balance,
        openBalance side asOf document = some (contactId, balance) := by
  simp [openContacts]

theorem queriedIn_aging {rows : List AgedContact}
    (computed : aging readers tables side asOf = .ok rows) (contactId : String)
    (bucket : AgingBucket) :
    queriedIn rows contactId bucket =
      (tables.documents.map
        (shareByQuery readers side asOf contactId (inBucket bucket))).sum := by
  unfold aging at computed
  simp only [bind_eq_ok_iff, pure_eq_ok_iff, mapM_eq_ok_iff] at computed
  obtain ⟨grouped, perContact, rfl⟩ := computed
  let share := fun id => (tables.documents.map
    (shareByQuery readers side asOf id (inBucket bucket))).sum
  have byContact : total (fun id => id = contactId) share (openContacts tables side asOf) =
      total (fun row => row.contactId = contactId) (fun row => (row.buckets.slot bucket).minor)
        grouped := by
    refine total_forall₂ perContact fun id row computed => ?_
    obtain ⟨same, slots⟩ := slot_agedContact computed
    exact ⟨by rw [same], (slots bucket).symm⟩
  rw [queriedIn, total_perm _ _ (List.mergeSort_perm _ _), ← byContact]
  have nodup : (openContacts tables side asOf).Nodup := List.nodup_dedup _
  by_cases listed : contactId ∈ openContacts tables side asOf
  · rw [total_of_unique _ _ nodup listed fun _ _ same => same, if_pos rfl]
  · have none : total (fun id => id = contactId) share (openContacts tables side asOf) = 0 := by
      apply total_eq_zero
      rintro id mem rfl
      exact absurd mem listed
    rw [none]
    refine (List.sum_eq_zero ?_).symm
    rw [List.forall_mem_map]
    intro document mem
    unfold shareByQuery
    split
    · next id balance opens =>
      rw [if_neg]
      rintro ⟨rfl, -⟩
      exact listed (mem_openContacts.2 ⟨document, mem, balance, opens⟩)
    · rfl

end ByQuery

/-! ### Agreement -/

/-- The report by documents of a side. -/
def AgingSide.byDocuments (readers : DateReaders) (tables : MirrorTables) (asOf : Date) :
    AgingSide → Except MoneyError AgingReport
  | .receivable => arAging readers tables asOf
  | .payable => apAging readers tables asOf

/-- A document that is open, if at all, with a positive balance, of a contact, not after the
day of the report and with dates as the mirror writes them. -/
def IsRegular (asOf : Date) (document : ParsedDocument) : Prop :=
  ∀ balance, document.balance = some balance → balance.minor ≠ 0 →
    0 < balance.minor ∧ document.contactId.isSome ∧ document.txnDate ≤ asOf.render ∧
      ∃ date : Date, document.dueDate.getD document.txnDate = date.render

theorem bucketOfRow_of_render (documented : readers.Documented) {asOf due : Date}
    {document : ParsedDocument} (dated : document.dueDate.getD document.txnDate = due.render) :
    bucketOfRow readers asOf (tables.documentRow document) =
      bucketFor (asOf.dayNumber - due.dayNumber) := by
  have read : dueOf readers (tables.documentRow document) = some due := by
    cases given : document.dueDate with
    | none =>
      rw [given, Option.getD_none] at dated
      simp [dueOf, MirrorTables.documentRow, given, dated, documented.parse]
    | some text =>
      rw [given, Option.getD_some] at dated
      simp [dueOf, MirrorTables.documentRow, given, dated, documented.parse]
  rw [bucketOfRow, read]

theorem lateDays_of_render (documented : readers.Documented) {asOf due : Date}
    {document : ParsedDocument} (dated : document.dueDate.getD document.txnDate = due.render) :
    lateDays readers asOf.render document =
      some ((asOf.dayNumber : ℤ) - due.dayNumber) := by
  obtain ⟨epoch, days⟩ := documented.julian
  have difference : epoch + asOf.dayNumber - (epoch + due.dayNumber) =
      (((asOf.dayNumber : ℤ) - due.dayNumber : ℤ) : ℚ) := by
    push_cast
    ring
  simp only [lateDays, dated, days, Option.bind_eq_bind, Option.bind_some, difference, truncated,
    Int.floor_intCast, Int.ceil_intCast, ite_self]
  rfl

theorem share_eq_of_regular (documented : readers.Documented) {asOf : Date} (side : AgingSide)
    {contactId : String} (bucket : AgingBucket) {document : ParsedDocument}
    (regular : document.docType = side.docType → document.isDeleted = false →
      document.contactId.getD "" = contactId → IsRegular asOf document) :
    shareByDocuments readers tables side.docType asOf contactId bucket document =
      shareByQuery readers side asOf.render contactId (inBucket bucket) document := by
  unfold shareByDocuments shareByQuery openBalance
  cases balanceOf : document.balance with
  | none => simp
  | some balance =>
    by_cases listed : document.docType = side.docType ∧ document.isDeleted = false ∧
        document.contactId.getD "" = contactId ∧ balance.minor ≠ 0
    · obtain ⟨ofSide, live, ofContact, notZero⟩ := listed
      obtain ⟨positive, hasContact, inTime, due, dated⟩ :=
        regular ofSide live ofContact balance balanceOf notZero
      obtain ⟨id, contact⟩ := Option.isSome_iff_exists.1 hasContact
      have same : id = contactId := by
        rw [contact] at ofContact
        exact ofContact
      simp [contact, same, ofSide, live, notZero, inTime, positive,
        bucketOfRow_of_render documented dated, inBucket, lateDays_of_render documented dated]
    · rw [if_neg]
      · cases contact : document.contactId with
        | none => simp
        | some id =>
          rw [contact] at listed
          simp only [Option.bind_eq_bind, Option.bind_some]
          split_ifs with opens
          · refine (if_neg ?_).symm
            rintro ⟨same, -⟩
            exact listed ⟨opens.1, opens.2.1, same, opens.2.2.1⟩
          · rfl
      · rintro ⟨⟨ofSide, live, held, heldIs, positive⟩, ofContact, -⟩
        cases heldIs
        exact listed ⟨ofSide, live, ofContact, positive.ne'⟩

/-- The reports agree about every contact whose documents are regular. -/
theorem aging_agrees (documented : readers.Documented) (side : AgingSide) (asOf : Date)
    {report : AgingReport} {rows : List AgedContact}
    (byDocuments : side.byDocuments readers tables asOf = .ok report)
    (byQuery : aging readers tables side asOf.render = .ok rows) (contactId : String)
    (regular : ∀ document ∈ tables.documents, document.docType = side.docType →
      document.isDeleted = false → document.contactId.getD "" = contactId →
      IsRegular asOf document) :
    ∀ bucket, amountIn report.rows contactId bucket = queriedIn rows contactId bucket := by
  intro bucket
  have computed : agingReport readers tables side.docType asOf = .ok report := by
    cases side <;> exact byDocuments
  rw [amountIn_agingReport computed, queriedIn_aging byQuery]
  congr 1
  exact List.map_congr_left fun document mem =>
    share_eq_of_regular documented side bucket (regular document mem)

/-- The dates of the mirror read back, and no other text. -/
noncomputable def mirrorDates : DateReaders :=
  open Classical in
  let parse (text : String) : Option Date :=
    if found : ∃ date : Date, date.render = text then some found.choose else none
  { parseDate := parse
    julianDay := fun text => (parse text).map fun date => (date.dayNumber : ℚ) + 3442119 / 2 }

theorem mirrorDates_documented : mirrorDates.Documented := by
  have parse : ∀ date : Date, mirrorDates.parseDate date.render = some date := by
    intro date
    have found : ∃ other : Date, other.render = date.render := ⟨date, rfl⟩
    have same := Bank.render_injective found.choose_spec
    simp only [mirrorDates, dif_pos found, same]
  refine ⟨parse, 3442119 / 2, fun date => ?_⟩
  change (mirrorDates.parseDate date.render).map _ = _
  rw [parse, Option.map_some, add_comm]

def firstOfOctober : Date := ⟨2026, 10, 1, Eq.refl true⟩

def middleOfOctober : Date := ⟨2026, 10, 15, Eq.refl true⟩

def firstOfNovember : Date := ⟨2026, 11, 1, Eq.refl true⟩

/-- An invoice with an open balance. -/
def openInvoice (contactId : Option String) (txnDate : Date) (dueDate : Option String)
    (balance : Money) : ParsedDocument where
  qboId := "1"
  docType := .invoice
  docNumber := none
  txnDate := txnDate.render
  dueDate := dueDate
  contactId := contactId
  contactType := some .customer
  classId := none
  total := balance
  balance := some balance
  docStatus := none
  poNumber := none
  privateNote := none
  customerMemo := none
  currency := none
  isDeleted := false
  lines := []
  links := []

def mirrorOf (document : ParsedDocument) : MirrorTables :=
  ⟨[document], [], []⟩

def hundredAndQuarter : Money :=
  (Money.ofMinor? 12500).getD .zero

def octoberMirror : MirrorTables :=
  mirrorOf (openInvoice (some "7") firstOfOctober none hundredAndQuarter)

theorem exists_byDocuments_octoberMirror (readers : DateReaders) :
    ∃ report, AgingSide.byDocuments readers octoberMirror middleOfOctober .receivable =
      .ok report := by
  let row := octoberMirror.documentRow (openInvoice (some "7") firstOfOctober none hundredAndQuarter)
  have rows : openRows octoberMirror .invoice = [row] := rfl
  simp only [AgingSide.byDocuments, arAging, agingReport, rows, List.foldlM_cons, List.foldlM_nil,
    addDocument]
  generalize bucketOfRow readers middleOfOctober row = bucket
  cases bucket <;> exact ⟨_, rfl⟩

theorem exists_byQuery_octoberMirror (readers : DateReaders) :
    ∃ rows, aging readers octoberMirror .receivable middleOfOctober.render = .ok rows := by
  have sums : ∀ selects, ∃ sum, bucketSum readers octoberMirror.documents .receivable
      middleOfOctober.render "7" selects = .ok sum := by
    intro selects
    have opens : openBalance .receivable middleOfOctober.render
        (openInvoice (some "7") firstOfOctober none hundredAndQuarter) =
          some ("7", hundredAndQuarter) := by
      decide +kernel
    simp only [bucketSum, octoberMirror, mirrorOf, List.filterMap_cons, opens, if_true,
      List.filterMap_nil]
    generalize selects _ = chosen
    cases chosen <;> exact ⟨_, rfl⟩
  have contacts : openContacts octoberMirror .receivable middleOfOctober.render = ["7"] := by
    decide +kernel
  have one : ∃ row, agedContact readers octoberMirror .receivable middleOfOctober.render "7" =
      .ok row := by
    choose sum summed using sums
    simp only [agedContact, summed]
    exact ⟨_, rfl⟩
  obtain ⟨row, computed⟩ := one
  simp only [aging, contacts, List.mapM_cons, computed, List.mapM_nil]
  exact ⟨_, rfl⟩

/-- An invoice that both reports show as due for two weeks. -/
theorem aging_agrees_twoWeeksLate :
    ∃ report rows,
      AgingSide.byDocuments mirrorDates octoberMirror middleOfOctober .receivable = .ok report ∧
        aging mirrorDates octoberMirror .receivable middleOfOctober.render = .ok rows ∧
        ∀ bucket, amountIn report.rows "7" bucket = queriedIn rows "7" bucket := by
  obtain ⟨report, byDocuments⟩ := exists_byDocuments_octoberMirror mirrorDates
  obtain ⟨rows, byQuery⟩ := exists_byQuery_octoberMirror mirrorDates
  refine ⟨report, rows, byDocuments, byQuery, ?_⟩
  refine aging_agrees mirrorDates_documented .receivable middleOfOctober byDocuments byQuery "7" ?_
  intro document mem _ _ _ balance held _
  cases List.mem_singleton.1 mem
  cases held
  exact ⟨by decide +kernel, rfl, by decide +kernel, firstOfOctober, rfl⟩

/-! ### Where they part -/

/-- The readers on the dates of these invoices. -/
def autumnDates : DateReaders where
  parseDate text :=
    [firstOfOctober, middleOfOctober, firstOfNovember].find? fun date => date.render = text
  julianDay text :=
    if text = "2026-10-01" then some (4922629 / 2)
    else if text = "2026-10-15" then some (4922657 / 2)
    else if text = "2026-11-01" then some (4922691 / 2)
    else none

/-- What both reports say of a mirror of one document, for a contact's current bucket. -/
def currentOf (document : ParsedDocument) (contactId : String) : Option (ℤ × ℤ) := do
  let report ← (arAging autumnDates (mirrorOf document) middleOfOctober).toOption
  let rows ← (aging autumnDates (mirrorOf document) .receivable middleOfOctober.render).toOption
  return (amountIn report.rows contactId .current, queriedIn rows contactId .current)

/-- A negative balance, a missing contact, a transaction after the day and a due date that is
no date: one report counts each and the other does not. -/
theorem aging_disagrees :
    currentOf (openInvoice (some "7") firstOfOctober (some "2026-11-01")
        ((Money.ofMinor? (-12500)).getD .zero)) "7" = some (0, -12500) ∧
      currentOf (openInvoice none firstOfOctober (some "2026-11-01") hundredAndQuarter) "" =
        some (12500, 0) ∧
      currentOf (openInvoice (some "7") firstOfNovember none hundredAndQuarter) "7" =
        some (12500, 0) ∧
      currentOf (openInvoice (some "7") middleOfOctober (some "soon") hundredAndQuarter) "7" =
        some (12500, 0) := by
  decide +kernel

end Mirror

end QuickBooks
