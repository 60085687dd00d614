import QuickBooks.LedgerHistories
import QuickBooks.OpenItemSums
import QuickBooks.TalliedTables
import Mathlib.Data.String.Basic

/-!
# Where the aging adds up

Every row of the report, and every statement, is the sum of one contact's open
items by bucket.  The report lists the rows with a total and leaves out the
others, whose buckets stay in its totals and are printed on the statements: what
the listed rows lack is what the contacts with no total have in each bucket.
-/

/-!
## Aging and statements

The open items of a book by contact and by days past due.  The report adds each
item to the row of its contact and to the totals, and then lists the rows whose
total is not zero; the statement of a customer adds that customer's items to a
row of its own.
-/

namespace QuickBooks

open ExceptPrograms KeyedTotals OrderedTables

inductive AgingBucket where
  | current
  | days1_30
  | days31_60
  | days61_90
  | over90
deriving DecidableEq

/-- The bucket of a number of days past due. -/
def bucketOf (daysPastDue : ℤ) : AgingBucket :=
  if daysPastDue ≤ 0 then .current
  else if daysPastDue ≤ 30 then .days1_30
  else if daysPastDue ≤ 60 then .days31_60
  else if daysPastDue ≤ 90 then .days61_90
  else .over90

/-- One contact's open balance by days past due. -/
structure AgingRow where
  contactId : String
  contactName : String
  current : Money := Money.zero
  days1_30 : Money := Money.zero
  days31_60 : Money := Money.zero
  days61_90 : Money := Money.zero
  over90 : Money := Money.zero
  total : Money := Money.zero
deriving DecidableEq

namespace AgingRow

def bucket (row : AgingRow) : AgingBucket → Money
  | .current => row.current
  | .days1_30 => row.days1_30
  | .days31_60 => row.days31_60
  | .days61_90 => row.days61_90
  | .over90 => row.over90

/-- The row with another amount in a bucket. -/
def withBucket (row : AgingRow) (amount : Money) : AgingBucket → AgingRow
  | .current => { row with current := amount }
  | .days1_30 => { row with days1_30 := amount }
  | .days31_60 => { row with days31_60 := amount }
  | .days61_90 => { row with days61_90 := amount }
  | .over90 => { row with over90 := amount }

/-- Add an amount to the bucket that the days past due fall in, and to the
total. -/
def add (row : AgingRow) (daysPastDue : ℤ) (amount : Money) :
    Except MoneyError AgingRow := do
  let held ← (row.bucket (bucketOf daysPastDue)).checkedAdd amount
  let total ← row.total.checkedAdd amount
  return { row.withBucket held (bucketOf daysPastDue) with total }

def buckets (row : AgingRow) : ℤ :=
  row.current.minor + row.days1_30.minor + row.days31_60.minor +
    row.days61_90.minor + row.over90.minor

def IsEmpty (row : AgingRow) : Prop :=
  (∀ bucket, (row.bucket bucket).minor = 0) ∧ row.total.minor = 0

end AgingRow

def daysPastDue (asOf : Date) (item : OpenDocument) : ℤ :=
  (asOf.dayNumber : ℤ) - item.dueDate.dayNumber

def addItem (asOf : Date) (row : AgingRow) (item : OpenDocument) :
    Except MoneyError AgingRow :=
  row.add (daysPastDue asOf item) item.open

def blankRow (item : OpenDocument) : AgingRow where
  contactId := item.contactId
  contactName := item.contactName

structure Aging where
  book : Book
  asOf : Date
  rows : List AgingRow
  totals : AgingRow

/-- Add an open item to its contact's row and to the totals. -/
def addToAging (asOf : Date) (state : OrderedTable String AgingRow × AgingRow)
    (item : OpenDocument) :
    Except MoneyError (OrderedTable String AgingRow × AgingRow) := do
  let byContact ← state.1.alterM item.contactId fun held =>
    addItem asOf (held.getD (blankRow item)) item
  let totals ← addItem asOf state.2 item
  return (byContact, totals)

/-- Rows by name without regard to case, and by id. -/
def rowBefore (toLowercase : String → String) (first second : AgingRow) : Bool :=
  toLowercase first.contactName < toLowercase second.contactName ∨
    (toLowercase first.contactName = toLowercase second.contactName ∧
      first.contactId ≤ second.contactId)

/-- What is open on a book at a date, one row for each contact with a total. -/
def aging (toLowercase : String → String) (ledger : Ledger) (book : Book)
    (asOf : Date) : Except BooksError Aging := do
  let items ← openDocuments ledger book asOf
  let (byContact, totals) ← (items.foldlM (addToAging asOf)
    (OrderedTable.empty, { contactId := "", contactName := "Total" })).mapError
      BooksError.money
  let rows := (byContact.entries.map Prod.snd).filter fun row => !row.total.isZero
  return {
    book, asOf
    rows := rows.insertionSort fun first second => rowBefore toLowercase first second
    totals }

inductive RenderError where
  | books (failure : BooksError)
  | money (failure : MoneyError)
  | unknownContact (id : String)
  | notACustomer (name : String)

section Printing

def grouped (digits : List Char) : List Char :=
  digits.zipIdx.flatMap fun (digit, index) =>
    if 0 < index ∧ (digits.length - index) % 3 = 0 then [',', digit] else [digit]

def usd (amount : Money) : String :=
  (if amount.minor < 0 then "-" else "") ++ "$" ++
    String.ofList (grouped (toString (amount.minor.natAbs / 100)).toList) ++ "." ++
    Date.padded 2 (amount.minor.natAbs % 100)

example : usd (.fromMinor 123456789) = "$1,234,567.89" := by decide +kernel

def printedDate (date : Date) : String :=
  Date.padded 2 date.month ++ "/" ++ Date.padded 2 date.day ++ "/" ++
    Date.padded 4 date.year

def fileLabel : DocKind → String
  | .invoice => "Invoice"
  | .estimate => "Estimate"
  | .salesReceipt => "Sales Receipt"
  | .creditMemo => "Credit Memo"
  | .purchaseOrder => "Purchase Order"
  | _ => "Document"

structure SheetRow where
  cells : List String
  detail : Option String
deriving DecidableEq

structure TotalLine where
  label : String
  value : String
  emphasis : Bool
deriving DecidableEq

/-- The printed statement, without its address block and its layout. -/
structure Sheet where
  title : String
  details : List (String × String)
  columns : List String
  rows : List SheetRow
  emptyText : Option String
  totals : List TotalLine

def statementRow (asOf : Date) (item : OpenDocument) : SheetRow :=
  let days := daysPastDue asOf item
  let label := fileLabel item.kind
  let description := match item.number with
    | some number => label ++ " #" ++ number
    | none => label
  let detail :=
    if item.kind = .creditMemo then "Credit available"
    else if 0 < days then
      toString days ++ " day" ++ (if days = 1 then "" else "s") ++ " past due"
    else "Current"
  { cells := [printedDate item.txnDate, description, printedDate item.dueDate,
      usd item.total, usd item.open]
    detail := some detail }

def statementTotals (row : AgingRow) : List TotalLine :=
  [⟨"Current", usd row.current, false⟩,
    ⟨"1-30 Days Past Due", usd row.days1_30, false⟩,
    ⟨"31-60 Days Past Due", usd row.days31_60, false⟩,
    ⟨"61-90 Days Past Due", usd row.days61_90, false⟩,
    ⟨"Over 90 Days Past Due", usd row.over90, false⟩,
    ⟨"TOTAL DUE", usd row.total, true⟩]

end Printing

def AgingRow.pastDue (row : AgingRow) : Except MoneyError Money :=
  Money.checkedSum [row.days1_30, row.days31_60, row.days61_90, row.over90]

/-- The sheet of a customer's items, aged in a row. -/
def sheetOf (contact : Contact) (asOf : Date) (items : List OpenDocument)
    (aging : AgingRow) (pastDue : Money) : Sheet where
  title := "STATEMENT"
  details := [("Statement Date", printedDate asOf),
    ("Customer", contact.displayName), ("Total Due", usd aging.total),
    ("Past Due", usd pastDue)]
  columns := ["DATE", "DESCRIPTION", "DUE DATE", "AMOUNT", "OPEN BALANCE"]
  rows := items.map (statementRow asOf)
  emptyText := some ("No open items as of " ++ printedDate asOf ++ ".")
  totals := statementTotals aging

/-- A customer's open items and their aging as of a date. -/
def statementSheet (ledger : Ledger) (contactId : String) (asOf : Date) :
    Except RenderError (Sheet × AgingRow) := do
  let contact ← orRefuse (.unknownContact contactId)
    (ledger.contacts.find? fun contact => contact.contactId = contactId)
  ensure (contact.kind = .customer) (.notACustomer contact.displayName)
  let found ← (openDocuments ledger .receivable asOf).mapError RenderError.books
  let items := found.filter fun item => item.contactId = contactId
  let aging ← (items.foldlM (addItem asOf)
    { contactId := contact.contactId, contactName := contact.displayName }).mapError
      RenderError.money
  let pastDue ← aging.pastDue.mapError RenderError.money
  return (sheetOf contact asOf items aging pastDue, aging)

end QuickBooks

namespace QuickBooks

open ExceptPrograms KeyedTotals OrderedTables

variable {asOf : Date} {items : List OpenDocument}

section Rows

/-- A row has taken up items: its total and its buckets grew by them. -/
structure AgesInto (asOf : Date) (items : List OpenDocument)
    (before after : AgingRow) : Prop where
  contactId : after.contactId = before.contactId
  total : after.total.minor = before.total.minor +
    (items.map fun item => item.open.minor).sum
  bucket : ∀ bucket, (after.bucket bucket).minor = (before.bucket bucket).minor +
    KeyedTotals.total (fun item => bucketOf (daysPastDue asOf item) = bucket)
      (fun item => item.open.minor) items
  buckets : after.buckets - before.buckets = after.total.minor - before.total.minor

theorem AgesInto.refl (row : AgingRow) : AgesInto asOf [] row row :=
  ⟨rfl, by simp, by simp, by omega⟩

theorem addItem_agesInto {row after : AgingRow} {item : OpenDocument}
    (added : addItem asOf row item = .ok after) : AgesInto asOf [item] row after := by
  unfold addItem AgingRow.add at added
  rw [bind_eq_ok_iff] at added
  obtain ⟨held, addedBucket, added⟩ := added
  rw [bind_eq_ok_iff] at added
  obtain ⟨total, addedTotal, added⟩ := added
  rw [pure_eq_ok_iff] at added
  subst added
  rw [Money.checkedAdd_eq_ok_iff] at addedBucket addedTotal
  cases here : bucketOf (daysPastDue asOf item)
  all_goals
    rw [here] at addedBucket
    simp only [AgingRow.bucket] at addedBucket
    constructor
    · rfl
    · simpa using addedTotal
    · intro bucket
      cases bucket <;>
        simp [AgingRow.withBucket, AgingRow.bucket, here, addedBucket]
    · simp only [AgingRow.withBucket, AgingRow.buckets]
      omega

theorem AgesInto.append {first second : List OpenDocument} {row middle after : AgingRow}
    (earlier : AgesInto asOf first row middle) (later : AgesInto asOf second middle after) :
    AgesInto asOf (first ++ second) row after where
  contactId := later.contactId.trans earlier.contactId
  total := by
    rw [later.total, earlier.total, List.map_append, List.sum_append]
    omega
  bucket bucket := by
    rw [later.bucket, earlier.bucket, total_append]
    omega
  buckets := by
    have firstBuckets := earlier.buckets
    have secondBuckets := later.buckets
    omega

theorem agesInto_of_foldlM {row after : AgingRow}
    (succeeds : items.foldlM (addItem asOf) row = .ok after) :
    AgesInto asOf items row after :=
  foldlM_invariant (fun consumed state => AgesInto asOf consumed row state)
    (fun _ _ _ _ holds step => holds.append (addItem_agesInto step))
    (AgesInto.refl row) succeeds

end Rows

section Contacts

def nameIn (ledger : Ledger) (contactId : String) : String :=
  ((contactNames ledger).lookup contactId).getD contactId

/-- The row of a contact: all its open items added to a blank row. -/
def rowOf (ledger : Ledger) (asOf : Date) (items : List OpenDocument)
    (contactId : String) : Except MoneyError AgingRow :=
  (items.filter fun item => item.contactId = contactId).foldlM (addItem asOf)
    { contactId, contactName := nameIn ledger contactId }

def balance (items : List OpenDocument) (contactId : String) : ℤ :=
  total (fun item => item.contactId = contactId) (fun item => item.open.minor) items

/-- What is open for a contact in a bucket. -/
def bucketBalance (asOf : Date) (items : List OpenDocument) (contactId : String)
    (bucket : AgingBucket) : ℤ :=
  total (fun item => bucketOf (daysPastDue asOf item) = bucket ∧
    item.contactId = contactId) (fun item => item.open.minor) items

/-- What a row has of the open items of a contact. -/
structure RowSums (asOf : Date) (items : List OpenDocument) (id : String)
    (row : AgingRow) : Prop where
  contactId : row.contactId = id
  total : row.total.minor = balance items id
  bucket : ∀ bucket, (row.bucket bucket).minor = bucketBalance asOf items id bucket
  buckets : row.buckets = row.total.minor

theorem rowSums_of_foldlM {contactId name : String} {row : AgingRow}
    (succeeds : (items.filter fun item => item.contactId = contactId).foldlM
      (addItem asOf) { contactId, contactName := name } = .ok row) :
    RowSums asOf items contactId row := by
  have ages := agesInto_of_foldlM succeeds
  constructor
  · exact ages.contactId
  · rw [ages.total, balance, ← total_of_forall (fun _ => True) _ fun _ _ => trivial,
      total_filter]
    simp
  · intro bucket
    rw [ages.bucket, bucketBalance, total_filter]
    cases bucket <;> simp [AgingRow.bucket]
  · have sums := ages.buckets
    simpa [AgingRow.buckets] using sums

theorem rowOf_sums {ledger : Ledger} {contactId : String} {row : AgingRow}
    (found : rowOf ledger asOf items contactId = .ok row) :
    RowSums asOf items contactId row :=
  rowSums_of_foldlM found

theorem openDocuments_contactName {ledger : Ledger} {book : Book}
    (found : openDocuments ledger book asOf = .ok items) {item : OpenDocument}
    (itemMem : item ∈ items) : item.contactName = nameIn ledger item.contactId := by
  rw [openDocuments_eq_ok_iff] at found
  obtain ⟨doc, -, -, itemOf, -⟩ := openItems_itemOf found itemMem
  exact itemOf.contactName

end Contacts

section Loop

variable {start after : OrderedTable String AgingRow × AgingRow}

theorem foldlM_addToAging (succeeds : items.foldlM (addToAging asOf) start = .ok after) :
    items.foldlM (fun table item => table.alterM item.contactId fun held =>
        addItem asOf (held.getD (blankRow item)) item) start.1 = .ok after.1 ∧
      items.foldlM (addItem asOf) start.2 = .ok after.2 := by
  induction items generalizing start with
  | nil =>
    rw [List.foldlM_nil, pure_eq_ok_iff] at succeeds
    subst succeeds
    exact ⟨rfl, rfl⟩
  | cons item items ih =>
    rw [List.foldlM_cons, bind_eq_ok_iff] at succeeds
    obtain ⟨middle, step, rest⟩ := succeeds
    unfold addToAging at step
    rw [bind_eq_ok_iff] at step
    obtain ⟨byContact, altered, step⟩ := step
    rw [bind_eq_ok_iff] at step
    obtain ⟨totals, added, step⟩ := step
    rw [pure_eq_ok_iff] at step
    subst step
    obtain ⟨tableRest, totalsRest⟩ := ih rest
    rw [List.foldlM_cons, List.foldlM_cons, bind_eq_ok_iff, bind_eq_ok_iff]
    exact ⟨⟨byContact, altered, tableRest⟩, totals, added, totalsRest⟩

theorem foldlM_some {row : AgingRow} {held : Option AgingRow}
    (succeeds : items.foldlM (fun held item => some <$>
      addItem asOf (held.getD (blankRow item)) item) (some row) = .ok held) :
    ∃ result, held = some result ∧ items.foldlM (addItem asOf) row = .ok result := by
  induction items generalizing row with
  | nil =>
    rw [List.foldlM_nil, pure_eq_ok_iff] at succeeds
    exact ⟨row, succeeds.symm, rfl⟩
  | cons item items ih =>
    rw [List.foldlM_cons, bind_eq_ok_iff] at succeeds
    obtain ⟨middle, step, rest⟩ := succeeds
    obtain ⟨next, added, rfl⟩ := map_eq_ok_iff.mp step
    obtain ⟨result, isSome, folded⟩ := ih rest
    refine ⟨result, isSome, ?_⟩
    rw [List.foldlM_cons, bind_eq_ok_iff]
    exact ⟨next, added, folded⟩

theorem foldlM_none {id name : String} {held : Option AgingRow}
    (ofContact : ∀ item ∈ items, item.contactId = id ∧ item.contactName = name)
    (succeeds : items.foldlM (fun held item => some <$>
      addItem asOf (held.getD (blankRow item)) item) none = .ok held) :
    items.foldlM (addItem asOf) { contactId := id, contactName := name } =
        .ok (held.getD { contactId := id, contactName := name }) ∧
      (held.isSome ↔ items ≠ []) := by
  cases items with
  | nil =>
    rw [List.foldlM_nil, pure_eq_ok_iff] at succeeds
    subst succeeds
    exact ⟨rfl, by simp⟩
  | cons item items =>
    have blank : blankRow item = { contactId := id, contactName := name } := by
      unfold blankRow
      rw [(ofContact item List.mem_cons_self).1, (ofContact item List.mem_cons_self).2]
    rw [List.foldlM_cons, bind_eq_ok_iff] at succeeds
    obtain ⟨middle, step, rest⟩ := succeeds
    obtain ⟨next, added, rfl⟩ := map_eq_ok_iff.mp step
    obtain ⟨result, rfl, folded⟩ := foldlM_some rest
    rw [Option.getD_none, blank] at added
    rw [List.foldlM_cons, bind_eq_ok_iff]
    exact ⟨⟨next, added, folded⟩, by simp⟩

end Loop

section Report

variable {toLowercase : String → String} {ledger : Ledger} {book : Book} {report : Aging}

/-- How the report is filled: a table with each contact's row, and the totals. -/
structure Filled (ledger : Ledger) (asOf : Date) (items : List OpenDocument)
    (table : OrderedTable String AgingRow) (report : Aging) : Prop where
  listed : report.rows.Perm
    ((table.entries.map Prod.snd).filter fun row => !row.total.isZero)
  row : ∀ id, rowOf ledger asOf items id =
    .ok ((table.get? id).getD { contactId := id, contactName := nameIn ledger id })
  present : ∀ id, (table.get? id).isSome ↔ ∃ item ∈ items, item.contactId = id
  totals : ∀ bucket, (report.totals.bucket bucket).minor =
    KeyedTotals.total (fun item => bucketOf (daysPastDue asOf item) = bucket)
      (fun item => item.open.minor) items

theorem aging_filled (computed : aging toLowercase ledger book asOf = .ok report)
    (found : openDocuments ledger book asOf = .ok items) :
    (report.book = book ∧ report.asOf = asOf) ∧
      ∃ table, Filled ledger asOf items table report := by
  unfold aging at computed
  rw [found] at computed
  rw [bind_eq_ok_iff] at computed
  obtain ⟨_, same, computed⟩ := computed
  cases same
  rw [bind_eq_ok_iff] at computed
  obtain ⟨⟨table, totals⟩, looped, computed⟩ := computed
  rw [pure_eq_ok_iff] at computed
  subst computed
  rw [mapError_eq_ok_iff] at looped
  obtain ⟨tableLoop, totalsLoop⟩ := foldlM_addToAging looped
  have ofContact (id : String) : ∀ item ∈ items.filter (fun item => item.contactId = id),
      item.contactId = id ∧ item.contactName = nameIn ledger id := by
    intro item itemMem
    obtain ⟨inItems, ofContact⟩ := List.mem_filter.mp itemMem
    rw [decide_eq_true_eq] at ofContact
    exact ⟨ofContact, ofContact ▸ openDocuments_contactName found inItems⟩
  have contactRow (id : String) :=
    foldlM_none (ofContact id) (OrderedTable.get?_foldlM_alterM tableLoop id)
  refine ⟨⟨rfl, rfl⟩, table, ?_, ?_, ?_, ?_⟩
  · exact List.perm_insertionSort _ _
  · intro id
    exact (contactRow id).1
  · intro id
    rw [(contactRow id).2]
    simp [List.filter_eq_nil_iff]
  · intro bucket
    rw [(agesInto_of_foldlM totalsLoop).bucket]
    cases bucket <;> simp [AgingRow.bucket]

namespace Filled

variable {table : OrderedTable String AgingRow}

theorem rowOf_of_get? (filled : Filled ledger asOf items table report) {id : String}
    {row : AgingRow} (here : table.get? id = some row) :
    rowOf ledger asOf items id = .ok row := by
  rw [filled.row, here]
  rfl

theorem mem_rows_iff (filled : Filled ledger asOf items table report) {row : AgingRow} :
    row ∈ report.rows ↔
      ∃ id, rowOf ledger asOf items id = .ok row ∧ row.total.minor ≠ 0 := by
  rw [filled.listed.mem_iff, List.mem_filter, List.mem_map]
  constructor
  · rintro ⟨⟨⟨id, _⟩, entryMem, rfl⟩, notZero⟩
    refine ⟨id, filled.rowOf_of_get? (OrderedTable.mem_entries.mp entryMem), ?_⟩
    simpa [Money.isZero] using notZero
  · rintro ⟨id, found, notZero⟩
    refine ⟨⟨(id, row), ?_, rfl⟩, by simpa [Money.isZero] using notZero⟩
    rw [OrderedTable.mem_entries]
    rw [filled.row] at found
    cases here : table.get? id with
    | none =>
      rw [here] at found
      cases found
      exact absurd rfl notZero
    | some held =>
      rw [here] at found
      cases found
      rfl

theorem tallies (filled : Filled ledger asOf items table report) (bucket : AgingBucket) :
    Tallies (fun row => (row.bucket bucket).minor) table
      (fun item => some item.contactId)
      (fun item => if bucketOf (daysPastDue asOf item) = bucket then item.open.minor
        else 0) items where
  isSome_iff id := by
    rw [filled.present]
    simp
  total_eq id := by
    have sums := (rowOf_sums (filled.row id)).bucket bucket
    have amounts : KeyedTotals.total (fun item => some item.contactId = some id)
        (fun item => if bucketOf (daysPastDue asOf item) = bucket then item.open.minor
          else 0) items = bucketBalance asOf items id bucket := by
      unfold bucketBalance KeyedTotals.total
      congr 1
      apply List.map_congr_left
      intro item _
      by_cases inBucket : bucketOf (daysPastDue asOf item) = bucket <;>
        simp [inBucket]
    rw [amounts, ← sums]
    cases table.get? id with
    | none => cases bucket <;> rfl
    | some row => rfl

theorem sum_rows (filled : Filled ledger asOf items table report) (bucket : AgingBucket) :
    (report.rows.map fun row => (row.bucket bucket).minor).sum =
      KeyedTotals.total (fun item => bucketOf (daysPastDue asOf item) = bucket ∧
        balance items item.contactId ≠ 0) (fun item => item.open.minor) items := by
  have entries := (filled.tallies bucket).total_entries fun id => balance items id ≠ 0
  have listed : (report.rows.map fun row => (row.bucket bucket).minor).sum =
      KeyedTotals.total (fun entry : String × AgingRow => balance items entry.1 ≠ 0)
        (fun entry => (entry.2.bucket bucket).minor) table.entries := by
    rw [(filled.listed.map _).sum_eq, List.filter_map, List.map_map,
      sum_map_filter]
    apply total_congr
    rintro ⟨id, row⟩ entryMem
    have sums := (rowOf_sums
      (filled.rowOf_of_get? (OrderedTable.mem_entries.mp entryMem))).total
    refine ⟨?_, fun _ => rfl⟩
    simp [Money.isZero, sums]
  rw [listed, entries]
  unfold KeyedTotals.total
  congr 1
  apply List.map_congr_left
  intro item _
  by_cases inBucket : bucketOf (daysPastDue asOf item) = bucket <;>
    simp [inBucket]

end Filled

end Report

section Statements

variable {ledger : Ledger} {contactId : String} {sheet : Sheet} {printed : AgingRow}

theorem lookup_of_find? {contacts : List Contact} {contact : Contact}
    (found : contacts.find? (fun contact => contact.contactId = contactId) =
      some contact) :
    (contacts.map fun contact => (contact.contactId, contact.displayName)).lookup
      contactId = some contact.displayName := by
  induction contacts with
  | nil => cases found
  | cons head rest ih =>
    by_cases here : head.contactId = contactId
    · rw [List.find?_cons_of_pos (by simpa using here)] at found
      cases found
      simp [here]
    · rw [List.find?_cons_of_neg (by simpa using here)] at found
      have different : (contactId == head.contactId) = false := by
        simpa using Ne.symm here
      simpa [List.lookup_cons, different] using ih found

def IsCustomer (ledger : Ledger) (contactId : String) : Prop :=
  ∃ contact, ledger.contacts.find? (fun contact => contact.contactId = contactId) =
    some contact ∧ contact.kind = .customer

/-- A statement prints the row of its customer, and has its totals. -/
structure Prints (ledger : Ledger) (asOf : Date) (items : List OpenDocument)
    (contactId : String) (sheet : Sheet) (printed : AgingRow) : Prop where
  customer : IsCustomer ledger contactId
  row : rowOf ledger asOf items contactId = .ok printed
  pastDue : ∃ pastDue, printed.pastDue = .ok pastDue
  totals : sheet.totals = statementTotals printed

theorem statementSheet_prints
    (found : openDocuments ledger .receivable asOf = .ok items)
    (prints : statementSheet ledger contactId asOf = .ok (sheet, printed)) :
    Prints ledger asOf items contactId sheet printed := by
  unfold statementSheet at prints
  rw [found] at prints
  rw [bind_eq_ok_iff] at prints
  obtain ⟨contact, known, prints⟩ := prints
  rw [orRefuse_eq_ok_iff] at known
  rw [check_bind_eq_ok_iff, ensure_eq_ok_iff, decide_eq_true_eq] at prints
  obtain ⟨customer, prints⟩ := prints
  rw [bind_eq_ok_iff] at prints
  obtain ⟨_, same, prints⟩ := prints
  cases same
  rw [bind_eq_ok_iff] at prints
  obtain ⟨row, folded, prints⟩ := prints
  rw [bind_eq_ok_iff] at prints
  obtain ⟨pastDue, summed, prints⟩ := prints
  rw [pure_eq_ok_iff] at prints
  cases prints
  have sameId : contact.contactId = contactId := by
    simpa using List.find?_some known
  rw [mapError_eq_ok_iff] at folded summed
  refine ⟨⟨contact, known, customer⟩, ?_, ⟨pastDue, summed⟩, rfl⟩
  rw [sameId] at folded
  rw [rowOf, nameIn, contactNames, lookup_of_find? known]
  exact folded

theorem exists_statementSheet
    (found : openDocuments ledger .receivable asOf = .ok items)
    (customer : IsCustomer ledger contactId)
    (row : rowOf ledger asOf items contactId = .ok printed)
    (summed : ∃ pastDue, printed.pastDue = .ok pastDue) :
    ∃ sheet, statementSheet ledger contactId asOf = .ok (sheet, printed) := by
  obtain ⟨contact, known, isCustomer⟩ := customer
  obtain ⟨pastDue, pastDueEq⟩ := summed
  have sameId : contact.contactId = contactId := by
    simpa using List.find?_some known
  rw [rowOf, nameIn, contactNames, lookup_of_find? known] at row
  refine ⟨sheetOf contact asOf
    (items.filter fun item => item.contactId = contactId) printed pastDue, ?_⟩
  unfold statementSheet
  rw [found, bind_eq_ok_iff]
  refine ⟨contact, orRefuse_eq_ok_iff.mpr known, ?_⟩
  rw [check_bind_eq_ok_iff, ensure_eq_ok_iff, decide_eq_true_eq]
  refine ⟨isCustomer, ?_⟩
  rw [bind_eq_ok_iff]
  refine ⟨items, rfl, ?_⟩
  rw [bind_eq_ok_iff]
  refine ⟨printed, mapError_eq_ok_iff.mpr (sameId ▸ row), ?_⟩
  rw [bind_eq_ok_iff]
  exact ⟨pastDue, mapError_eq_ok_iff.mpr pastDueEq, rfl⟩

end Statements

section Claims

variable {toLowercase : String → String} {ledger : Ledger} {book : Book} {report : Aging}

/-- The rows sum up their buckets and their contacts' open items, the totals
sum up the listed rows, and every customer's statement is the customer's row,
empty exactly where there is none. -/
structure AddsUp (ledger : Ledger) (items : List OpenDocument) (report : Aging) :
    Prop where
  rows : ∀ row ∈ report.rows, row.buckets = row.total.minor ∧
    row.total.minor = balance items row.contactId
  totals : ∀ bucket, (report.totals.bucket bucket).minor =
    (report.rows.map fun row => (row.bucket bucket).minor).sum
  statements : report.book = .receivable → ∀ contactId sheet printed,
    statementSheet ledger contactId report.asOf = .ok (sheet, printed) →
      sheet.totals = statementTotals printed ∧
      (∀ row ∈ report.rows, row.contactId = contactId → printed = row) ∧
      (printed.IsEmpty ↔ ∀ row ∈ report.rows, row.contactId ≠ contactId)

/-- The amounts that a statement sums as past due stay in range. -/
def PastDueFits (asOf : Date) (items : List OpenDocument) (contactId : String) : Prop :=
  CheckedIntegers.RunningSumFits (-9223372036854775808) 9223372036854775807 0
    [bucketBalance asOf items contactId .days1_30,
      bucketBalance asOf items contactId .days31_60,
      bucketBalance asOf items contactId .days61_90,
      bucketBalance asOf items contactId .over90]

/-- What contacts have open cancels in each bucket, where it cancels in total:
over all of them together, and for each customer that gets a statement. -/
structure CancelsByBucket (ledger : Ledger) (items : List OpenDocument) (book : Book)
    (asOf : Date) : Prop where
  together : ∀ bucket, KeyedTotals.total (fun item =>
      bucketOf (daysPastDue asOf item) = bucket ∧ balance items item.contactId = 0)
    (fun item => item.open.minor) items = 0
  each : book = .receivable → ∀ contactId, IsCustomer ledger contactId →
    balance items contactId = 0 → PastDueFits asOf items contactId →
      ∀ bucket, bucketBalance asOf items contactId bucket = 0

theorem exists_pastDue_iff {row : AgingRow} {contactId : String}
    (sums : RowSums asOf items contactId row) :
    (∃ pastDue, row.pastDue = .ok pastDue) ↔ PastDueFits asOf items contactId := by
  unfold AgingRow.pastDue PastDueFits
  rw [Money.exists_checkedSum_iff, ← sums.bucket, ← sums.bucket, ← sums.bucket,
    ← sums.bucket]
  simp only [List.map_cons, List.map_nil, AgingRow.bucket]

theorem RowSums.isEmpty_iff {row : AgingRow} {contactId : String}
    (sums : RowSums asOf items contactId row) :
    row.IsEmpty ↔ ∀ bucket, bucketBalance asOf items contactId bucket = 0 := by
  unfold AgingRow.IsEmpty
  rw [← sums.buckets]
  simp only [← sums.bucket]
  constructor
  · rintro ⟨empty, -⟩
    exact empty
  · intro empty
    refine ⟨empty, ?_⟩
    have bucketSums := And.intro (empty .current) (And.intro (empty .days1_30)
      (And.intro (empty .days31_60) (And.intro (empty .days61_90) (empty .over90))))
    simp only [AgingRow.bucket] at bucketSums
    unfold AgingRow.buckets
    omega

theorem Filled.totals_eq_iff {table : OrderedTable String AgingRow}
    (filled : Filled ledger asOf items table report) (bucket : AgingBucket) :
    (report.totals.bucket bucket).minor =
        (report.rows.map fun row => (row.bucket bucket).minor).sum ↔
      KeyedTotals.total (fun item =>
        bucketOf (daysPastDue asOf item) = bucket ∧ balance items item.contactId = 0)
        (fun item => item.open.minor) items = 0 := by
  rw [filled.totals, filled.sum_rows,
    total_split _ _ fun item => balance items item.contactId = 0]
  simp only [ne_eq]
  omega

theorem Filled.no_row_iff {table : OrderedTable String AgingRow}
    (filled : Filled ledger asOf items table report) (contactId : String) :
    (∀ row ∈ report.rows, row.contactId ≠ contactId) ↔ balance items contactId = 0 := by
  have sums := rowOf_sums (filled.row contactId)
  constructor
  · intro unlisted
    by_contra hasTotal
    rw [← sums.total] at hasTotal
    exact unlisted _ (filled.mem_rows_iff.mpr ⟨contactId, filled.row contactId, hasTotal⟩)
      sums.contactId
  · rintro zero row rowMem rfl
    obtain ⟨id, found, notZero⟩ := filled.mem_rows_iff.mp rowMem
    have rowSums := rowOf_sums found
    rw [rowSums.contactId, ← rowSums.total] at zero
    exact notZero zero

/-- The report adds up exactly when the items of the contacts without a total
cancel in each bucket. -/
theorem aging_addsUp_iff (computed : aging toLowercase ledger book asOf = .ok report)
    (found : openDocuments ledger book asOf = .ok items) :
    AddsUp ledger items report ↔ CancelsByBucket ledger items book asOf := by
  obtain ⟨⟨rfl, rfl⟩, table, filled⟩ := aging_filled computed found
  constructor
  · intro addsUp
    refine ⟨fun bucket => (filled.totals_eq_iff bucket).mp (addsUp.totals bucket), ?_⟩
    intro receivable contactId customer zero fits
    rw [receivable] at found
    have sums := rowOf_sums (filled.row contactId)
    obtain ⟨sheet, prints⟩ := exists_statementSheet found customer
      (filled.row contactId) ((exists_pastDue_iff sums).mpr fits)
    obtain ⟨-, -, empty⟩ := addsUp.statements receivable contactId sheet _ prints
    exact sums.isEmpty_iff.mp (empty.mpr ((filled.no_row_iff contactId).mpr zero))
  · intro cancels
    refine ⟨?_, fun bucket => (filled.totals_eq_iff bucket).mpr (cancels.together bucket),
      ?_⟩
    · intro row rowMem
      obtain ⟨id, rowFound, -⟩ := filled.mem_rows_iff.mp rowMem
      have sums := rowOf_sums rowFound
      exact ⟨sums.buckets, by rw [sums.total, sums.contactId]⟩
    · intro receivable contactId sheet printed prints
      rw [receivable] at found
      have spec := statementSheet_prints found prints
      have sums := rowOf_sums spec.row
      refine ⟨spec.totals, ?_, ?_⟩
      · rintro row rowMem rfl
        obtain ⟨id, listed, -⟩ := filled.mem_rows_iff.mp rowMem
        have rowFound := spec.row
        rw [(rowOf_sums listed).contactId, listed] at rowFound
        exact (Except.ok.inj rowFound).symm
      · rw [filled.no_row_iff contactId, sums.isEmpty_iff]
        constructor
        · intro empty
          rw [← sums.total]
          exact (sums.isEmpty_iff.mpr empty).2
        · intro zero
          exact cancels.each receivable contactId spec.customer zero
            ((exists_pastDue_iff sums).mp spec.pastDue)

end Claims

section Example

def lateInvoice : LedgerDocument where
  documentId := "invoice-1"
  kind := .invoice
  txnDate := ⟨2026, 1, 5, Eq.refl true⟩
  dueDate := some ⟨2026, 1, 15, Eq.refl true⟩
  contact := some ⟨.customer, "c1"⟩
  headerClass := some ⟨"foam"⟩
  lines := [{ lineNo := 1, kind := .item, amount := .fromMinor 10000 }]

def laterCredit : LedgerDocument where
  documentId := "credit-1"
  kind := .creditMemo
  txnDate := ⟨2026, 6, 10, Eq.refl true⟩
  contact := some ⟨.customer, "c1"⟩
  headerClass := some ⟨"foam"⟩
  lines := [{ lineNo := 1, kind := .item, amount := .fromMinor 10000 }]

/-- A customer with an invoice long overdue and a new credit of its amount. -/
def creditedBook : Ledger :=
  (Ledger.createCompany "aquamentor").after
    [.upsertContact { contactId := "c1", kind := .customer, displayName := "Ada" },
      .saveAndPostDocument lateInvoice [] "bookkeeper",
      .saveAndPostDocument laterCredit [] "bookkeeper"]

/-- Before the credit the report has the customer's row, and adds up. -/
theorem aging_addsUp_beforeCredit :
    ∃ report items,
      aging id creditedBook .receivable ⟨2026, 3, 15, Eq.refl true⟩ = .ok report ∧
      openDocuments creditedBook .receivable ⟨2026, 3, 15, Eq.refl true⟩ = .ok items ∧
      report.rows.length = 1 ∧
      (AddsUp creditedBook items report ↔
        CancelsByBucket creditedBook items .receivable ⟨2026, 3, 15, Eq.refl true⟩) := by
  obtain ⟨report, computed, single⟩ := exists_ok_of_map_toOption
    (show (aging id creditedBook .receivable ⟨2026, 3, 15, Eq.refl true⟩).toOption.map
      (fun report => report.rows.length) = some 1 by decide +kernel)
  obtain ⟨items, found, -⟩ := exists_ok_of_map_toOption
    (show (openDocuments creditedBook .receivable
      ⟨2026, 3, 15, Eq.refl true⟩).toOption.map (fun _ => ()) = some () by decide +kernel)
  exact ⟨report, items, computed, found, single, aging_addsUp_iff computed found⟩

/-- After it the customer has no row, and the totals keep the overdue amount. -/
theorem aging_creditedBook_does_not_add_up :
    ¬ ∀ (toLowercase : String → String) (ledger : Ledger), Reachable ledger →
      ∀ book asOf report items, aging toLowercase ledger book asOf = .ok report →
        openDocuments ledger book asOf = .ok items → AddsUp ledger items report := by
  intro always
  obtain ⟨report, computed, left⟩ := exists_ok_of_map_toOption
    (show (aging id creditedBook .receivable ⟨2026, 6, 15, Eq.refl true⟩).toOption.map
      (fun report => (report.rows, report.totals.over90)) =
        some ([], .fromMinor 10000) by decide +kernel)
  obtain ⟨items, found, -⟩ := exists_ok_of_map_toOption
    (show (openDocuments creditedBook .receivable
      ⟨2026, 6, 15, Eq.refl true⟩).toOption.map (fun _ => ()) = some () by decide +kernel)
  have reachable : Reachable creditedBook := ⟨_, _, rfl⟩
  have addsUp := always id creditedBook reachable _ _ report items computed found
  rw [Prod.mk.injEq] at left
  have overdue := addsUp.totals .over90
  rw [left.1] at overdue
  simp only [AgingRow.bucket, left.2] at overdue
  exact absurd overdue (by decide)

end Example

end QuickBooks
