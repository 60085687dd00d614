import QuickBooks.AllocatedNumbers
import QuickBooks.TypedMoney

/-!
# What a payment plan applies

Spreading in order never takes more than there is, and pays each document in full
while the money lasts.  Listed applications are what their texts read as.  Both are
exact as long as the exact sum of what is applied is an amount.
-/

/-!
## Payments and where they go

The money of a payment goes on open documents: on those the draft lists, each within
its balance, or on all of them in the order given until it runs out.  The sum of what
is applied is taken by an operator that panics on overflow in one build and wraps
around in the other.
-/

namespace QuickBooks

open CheckedIntegers DecimalNumbers ExceptPrograms

/-- What becomes of the result of an operation on amounts. -/
def Build.settle (build : Build) (number : Int) : Option Money :=
  match build with
  | .checked => Money.ofMinor? number
  | .wrapping =>
    some ⟨⟨wrapInt64 number, (wrapInt64_bounds number).1, (wrapInt64_bounds number).2⟩⟩

def Build.sum (build : Build) (amounts : List Money) : Option Money :=
  amounts.foldlM (fun total amount => build.settle (total.minor + amount.minor)) Money.zero

namespace Compose

structure OpenInvoice where
  qboId : String
  docNumber : Option String
  balance : Money

structure PaymentApplication where
  invoiceId : String
  amount : String

structure PaymentDraft where
  customerId : String
  txnDate : String
  amount : String
  applications : Option (List PaymentApplication)

structure BillPaymentDraft where
  vendorId : String
  txnDate : String
  amount : String
  accountId : String
  applications : Option (List PaymentApplication)

/-- How a payment lands: what goes on each document, and what is left. -/
structure PaymentPlan where
  total : Money
  applied : List (String × Money)
  unapplied : Money
deriving DecidableEq

def showMoney (value : Money) : String :=
  value.toDecimal.render

def least (first second : Money) : Money :=
  if first.minor ≤ second.minor then first else second

/-- Spread an amount across documents in the order given, paying each in full until
the money runs out. -/
def applyOldestFirst (build : Build) : List OpenInvoice → Money → Option (List (String × Money))
  | [], _ => some []
  | invoice :: rest, left =>
    if left.minor ≤ 0 then some []
    else
      let take := least left invoice.balance
      if 0 < take.minor then
        (build.settle (left.minor - take.minor)).bind fun left =>
          (applyOldestFirst build rest left).map fun later => (invoice.qboId, take) :: later
      else applyOldestFirst build rest left

section Plan

variable (build : Build) (library : TextLibrary) (documents : List OpenInvoice)

/-- What one application that is not zero adds. -/
def applyAmount (noun : String) (out : List (String × Money)) (invoiceId : String)
    (amount : Money) : Except Failure (List (String × Money)) := do
  ensure (decide (0 ≤ amount.minor)) (invalid "an applied amount cannot be negative")
  let openDoc ← orRefuse (invalid (noun ++ " " ++ invoiceId ++ " is not open"))
    (documents.find? fun doc => doc.qboId = invoiceId)
  let name := openDoc.docNumber.getD openDoc.qboId
  ensure (!(out.any fun entry => entry.1 = openDoc.qboId))
    (invalid (noun ++ " " ++ name ++ " is listed twice"))
  ensure (decide (amount.minor ≤ openDoc.balance.minor))
    (invalid (noun ++ " " ++ name ++ " has " ++ showMoney openDoc.balance ++ " open; " ++
      showMoney amount ++ " is more than that"))
  return out ++ [(openDoc.qboId, amount)]

def applyOne (noun : String) (out : List (String × Money)) (application : PaymentApplication) :
    Except Failure (List (String × Money)) := do
  let amount ← cents library application.amount "applied amount"
  if amount.minor = 0 then return out
  else applyAmount documents noun out application.invoiceId amount

/-- Where the money goes. -/
def appliedOf (noun : String) (total : Money) :
    Option (List PaymentApplication) → Except Failure (List (String × Money))
  | none => orRefuse .panicked (applyOldestFirst build documents total)
  | some applications => applications.foldlM (applyOne library documents noun) []

/-- The amount of a draft and where it goes, before the sum is taken. -/
def planned (txnDate amount : String) (applications : Option (List PaymentApplication))
    (noun : String) : Except Failure (Money × List (String × Money)) := do
  let _ ← refusing (date library txnDate "date")
  let total ← cents library amount "amount"
  ensure (decide (0 < total.minor)) (invalid "a payment needs an amount above zero")
  let applied ← appliedOf build library documents noun total applications
  return (total, applied)

def plan (txnDate amount : String) (applications : Option (List PaymentApplication))
    (noun verb : String) : Except Failure PaymentPlan := do
  let (total, applied) ← planned build library documents txnDate amount applications noun
  let appliedTotal ← orRefuse .panicked (build.sum (applied.map Prod.snd))
  ensure (decide (appliedTotal.minor ≤ total.minor))
    (invalid (showMoney appliedTotal ++ " is applied but only " ++ showMoney total ++ " was " ++
      verb))
  let unapplied ← orRefuse .panicked (build.settle (total.minor - appliedTotal.minor))
  return { total, applied, unapplied }

/-- Check a draft against the customer's open invoices and decide where the money
goes. -/
def planPayment (draft : PaymentDraft) : Except Failure PaymentPlan := do
  ensure (!isBlank draft.customerId) (invalid "choose a customer")
  plan build library documents draft.txnDate draft.amount draft.applications "invoice" "received"

/-- The same rules on the vendor side, plus one: the whole amount must go on bills. -/
def planBillPayment (draft : BillPaymentDraft) : Except Failure PaymentPlan := do
  ensure (!isBlank draft.vendorId) (invalid "choose a vendor")
  ensure (!isBlank draft.accountId) (invalid "choose the account it is paid from")
  let plan ← plan build library documents draft.txnDate draft.amount draft.applications
    "bill" "paid"
  ensure (decide (plan.unapplied.minor = 0))
    (invalid (showMoney plan.unapplied ++
      " is not on any bill; a payment to a vendor must go on bills in full"))
  return plan

end Plan

end Compose

end QuickBooks

namespace QuickBooks

open CheckedIntegers DecimalNumbers ExceptPrograms

/-! ### Operations of the two builds -/

namespace Build

variable {build : Build}

theorem settle_eq_some_iff {number : Int} (fits : Money.Fits number) {result : Money} :
    build.settle number = some result ↔ result.minor = number := by
  cases build with
  | checked => exact Money.ofMinor?_eq_some_iff
  | wrapping =>
    unfold settle
    simp only [Option.some.injEq, Money.ext_iff_minor]
    change wrapInt64 number = result.minor ↔ result.minor = number
    rw [wrapInt64_of_inRange fits.1 fits.2, eq_comm]

theorem exists_settle {number : Int} (fits : Money.Fits number) :
    ∃ result, build.settle number = some result ∧ result.minor = number := by
  obtain ⟨result, minorEq⟩ := Money.exists_minor_eq fits
  exact ⟨result, (settle_eq_some_iff fits).mpr minorEq, minorEq⟩

theorem exists_sum {amounts : List Money} (nonneg : ∀ amount ∈ amounts, 0 ≤ amount.minor)
    (fits : (amounts.map Money.minor).sum ≤ 9223372036854775807) :
    ∃ total, build.sum amounts = some total ∧ total.minor = (amounts.map Money.minor).sum := by
  have runs : ∀ start : Money, 0 ≤ start.minor →
      start.minor + (amounts.map Money.minor).sum ≤ 9223372036854775807 →
        ∃ total, amounts.foldlM
          (fun total amount => build.settle (total.minor + amount.minor)) start = some total ∧
            total.minor = start.minor + (amounts.map Money.minor).sum := by
    clear fits
    induction amounts with
    | nil =>
      intro start _ _
      exact ⟨start, rfl, by simp⟩
    | cons amount amounts ih =>
      intro start startNonneg fits
      have restNonneg : 0 ≤ (amounts.map Money.minor).sum := by
        apply List.sum_nonneg
        intro number numberMem
        obtain ⟨other, otherMem, rfl⟩ := List.mem_map.mp numberMem
        exact nonneg other (by simp [otherMem])
      have amountNonneg := nonneg amount (by simp)
      rw [List.map_cons, List.sum_cons] at fits
      have stepFits : Money.Fits (start.minor + amount.minor) := ⟨by omega, by omega⟩
      obtain ⟨next, settles, nextEq⟩ : ∃ next,
          build.settle (start.minor + amount.minor) = some next ∧
            next.minor = start.minor + amount.minor :=
        exists_settle stepFits
      obtain ⟨total, sums, totalEq⟩ := ih
        (fun other otherMem => nonneg other (by simp [otherMem])) next (by omega) (by omega)
      refine ⟨total, ?_, ?_⟩
      · rw [List.foldlM_cons, settles]
        exact sums
      · rw [totalEq, nextEq, List.map_cons, List.sum_cons, add_assoc]
  obtain ⟨total, sums, totalEq⟩ := runs Money.zero (le_refl 0) (by
    change 0 + _ ≤ _
    omega)
  refine ⟨total, sums, ?_⟩
  rw [totalEq]
  exact zero_add _

end Build

namespace Compose

variable {build : Build} {library : TextLibrary} {documents : List OpenInvoice}

theorem minor_least (first second : Money) :
    (least first second).minor = min first.minor second.minor := by
  unfold least
  split_ifs with less
  · rw [min_eq_left less]
  · rw [min_eq_right (by omega)]

def appliedTo (applied : List (String × Money)) (qboId : String) : Int :=
  (applied.lookup qboId).elim 0 Money.minor

/-! ### In the order given -/

theorem applyOldestFirst_cons {invoice : OpenInvoice} (positive : 0 < invoice.balance.minor)
    {left : Money} {applied : List (String × Money)} :
    applyOldestFirst build (invoice :: documents) left = some applied ↔
      (left.minor ≤ 0 ∧ applied = []) ∨
        (0 < left.minor ∧ ∃ rest later,
          rest.minor = left.minor - min left.minor invoice.balance.minor ∧
            applyOldestFirst build documents rest = some later ∧
              applied = (invoice.qboId, least left invoice.balance) :: later) := by
  rw [applyOldestFirst]
  by_cases ranOut : left.minor ≤ 0
  · rw [if_pos ranOut]
    simp [ranOut, eq_comm]
  · have taken : 0 < (least left invoice.balance).minor := by
      rw [minor_least]
      omega
    have fits : Money.Fits (left.minor - min left.minor invoice.balance.minor) := by
      obtain ⟨lower, upper⟩ := left.fits_minor
      constructor <;> omega
    rw [if_neg ranOut]
    dsimp only
    rw [if_pos taken]
    simp only [Option.bind_eq_some_iff, Option.map_eq_some_iff, Build.settle_eq_some_iff fits,
      minor_least, ranOut, false_and, false_or, not_le.mp ranOut, true_and]
    constructor
    · rintro ⟨rest, restEq, later, spreads, rfl⟩
      exact ⟨rest, later, restEq, spreads, rfl⟩
    · rintro ⟨rest, later, restEq, spreads, rfl⟩
      exact ⟨rest, restEq, later, spreads, rfl⟩

/-- What is applied: within each document, in their order, and no more than there
is. -/
theorem applyOldestFirst_spec (positive : ∀ doc ∈ documents, 0 < doc.balance.minor)
    {left : Money} (nonneg : 0 ≤ left.minor) {applied : List (String × Money)}
    (spreads : applyOldestFirst build documents left = some applied) :
    (∀ entry ∈ applied, 0 < entry.2.minor ∧
      ∃ doc ∈ documents, doc.qboId = entry.1 ∧ entry.2.minor ≤ doc.balance.minor) ∧
    (applied.map Prod.fst).Sublist (documents.map OpenInvoice.qboId) ∧
    (applied.map fun entry => entry.2.minor).sum ≤ left.minor := by
  induction documents generalizing left applied with
  | nil =>
    cases spreads
    exact ⟨by simp, by simp, by simpa using nonneg⟩
  | cons invoice documents ih =>
    have here := positive invoice (by simp)
    obtain ⟨-, rfl⟩ | ⟨someLeft, rest, later, restEq, below, rfl⟩ :=
      (applyOldestFirst_cons here).mp spreads
    · exact ⟨by simp, by simp, by simpa using nonneg⟩
    · have taken := minor_least left invoice.balance
      obtain ⟨within, ordered, bounded⟩ :=
        ih (fun doc docMem => positive doc (by simp [docMem])) (by omega) below
      refine ⟨?_, ?_, ?_⟩
      · rintro entry (_ | ⟨_, entryMem⟩)
        · have some : 0 < (least left invoice.balance).minor := by omega
          have fits : (least left invoice.balance).minor ≤ invoice.balance.minor := by omega
          exact ⟨some, invoice, by simp, rfl, fits⟩
        · obtain ⟨entryPositive, doc, docMem, docEq, docWithin⟩ := within entry entryMem
          exact ⟨entryPositive, doc, by simp [docMem], docEq, docWithin⟩
      · exact ordered.cons_cons invoice.qboId
      · rw [List.map_cons, List.sum_cons]
        dsimp only
        omega

theorem appliedTo_cons (entry : String × Money) (applied : List (String × Money))
    (qboId : String) :
    appliedTo (entry :: applied) qboId =
      if qboId = entry.1 then entry.2.minor else appliedTo applied qboId := by
  unfold appliedTo
  rw [List.lookup_cons]
  by_cases same : qboId = entry.1
  · simp [same]
  · simp [same, beq_eq_false_iff_ne.mpr same]

theorem appliedTo_applyOldestFirst (positive : ∀ doc ∈ documents, 0 < doc.balance.minor)
    (distinct : (documents.map OpenInvoice.qboId).Nodup) {left : Money}
    {applied : List (String × Money)}
    (spreads : applyOldestFirst build documents left = some applied)
    {before after : List OpenInvoice} {doc : OpenInvoice}
    (split : documents = before ++ doc :: after) :
    appliedTo applied doc.qboId =
      max 0 (min (left.minor - (before.map fun earlier => earlier.balance.minor).sum)
        doc.balance.minor) := by
  induction before generalizing documents left applied with
  | nil =>
    subst split
    have here := positive doc (by simp)
    simp only [List.map_nil, List.sum_nil, sub_zero]
    obtain ⟨ranOut, rfl⟩ | ⟨someLeft, rest, later, -, -, rfl⟩ :=
      (applyOldestFirst_cons here).mp spreads
    · change (0 : Int) = _
      omega
    · rw [appliedTo_cons, if_pos rfl, minor_least]
      omega
  | cons earlier before ih =>
    subst split
    have here := positive earlier (by simp)
    have beforeNonneg : 0 ≤ (before.map fun earlier => earlier.balance.minor).sum := by
      apply List.sum_nonneg
      intro number numberMem
      obtain ⟨other, otherMem, rfl⟩ := List.mem_map.mp numberMem
      exact (positive other (by simp [otherMem])).le
    rw [List.cons_append, List.map_cons, List.nodup_cons] at distinct
    simp only [List.map_cons, List.sum_cons]
    obtain ⟨ranOut, rfl⟩ | ⟨someLeft, rest, later, restEq, below, rfl⟩ :=
      (applyOldestFirst_cons here).mp spreads
    · change (0 : Int) = _
      omega
    · have other : doc.qboId ≠ earlier.qboId := by
        intro same
        apply distinct.1
        simp [← same]
      have applies := ih (fun other otherMem => positive other (by simp [otherMem]))
        distinct.2 below rfl
      have docPositive := positive doc (by simp)
      rw [appliedTo_cons, if_neg other, applies]
      omega

/-! ### As listed -/

def added (application : PaymentApplication) (amount : Money) : List (String × Money) :=
  if amount.minor = 0 then [] else [(application.invoiceId, amount)]

def listed (applications : List PaymentApplication) (amounts : List Money) :
    List (String × Money) :=
  (List.zipWith added applications amounts).flatten

/-- Amounts above zero within open documents, no document twice. -/
structure Listable (documents : List OpenInvoice) (entries : List (String × Money)) : Prop where
  within : ∀ entry ∈ entries, 0 < entry.2.minor ∧
    ∃ doc ∈ documents, doc.qboId = entry.1 ∧ entry.2.minor ≤ doc.balance.minor
  once : (entries.map Prod.fst).Nodup

theorem Listable.nil : Listable documents [] :=
  ⟨by simp, by simp⟩

theorem Listable.left {before after : List (String × Money)}
    (whole : Listable documents (before ++ after)) : Listable documents before where
  within entry entryMem := whole.within entry (by simp [entryMem])
  once := by
    have distinct := whole.once
    rw [List.map_append] at distinct
    exact distinct.of_append_left

theorem listable_snoc {out : List (String × Money)} (listable : Listable documents out)
    {invoiceId : String} {amount : Money} :
    Listable documents (out ++ [(invoiceId, amount)]) ↔
      0 < amount.minor ∧ invoiceId ∉ out.map Prod.fst ∧
        ∃ doc ∈ documents, doc.qboId = invoiceId ∧ amount.minor ≤ doc.balance.minor := by
  constructor
  · rintro ⟨within, once⟩
    obtain ⟨positive, there⟩ := within (invoiceId, amount) (by simp)
    refine ⟨positive, ?_, there⟩
    rw [List.map_append, List.nodup_append] at once
    intro before
    exact once.2.2 invoiceId before invoiceId (by simp) rfl
  · rintro ⟨positive, fresh, there⟩
    constructor
    · intro entry entryMem
      rcases List.mem_append.mp entryMem with before | last
      · exact listable.within entry before
      · obtain rfl := List.mem_singleton.mp last
        exact ⟨positive, there⟩
    · rw [List.map_append]
      refine List.Nodup.append listable.once (by simp) ?_
      simpa using fresh

theorem applyAmount_eq_ok_iff (distinct : (documents.map OpenInvoice.qboId).Nodup)
    {noun invoiceId : String} {amount : Money} {out after : List (String × Money)} :
    applyAmount documents noun out invoiceId amount = .ok after ↔
      0 ≤ amount.minor ∧ invoiceId ∉ out.map Prod.fst ∧
        (∃ doc ∈ documents, doc.qboId = invoiceId ∧ amount.minor ≤ doc.balance.minor) ∧
          after = out ++ [(invoiceId, amount)] := by
  simp only [applyAmount, bind_eq_ok_iff, ensure_eq_ok_iff, orRefuse_eq_ok_iff, pure_eq_ok_iff,
    decide_eq_true_eq, Bool.not_eq_true', List.any_eq_false]
  constructor
  · rintro ⟨-, nonneg, doc, found, -, fresh, -, within, rfl⟩
    have same : doc.qboId = invoiceId := by simpa using List.find?_some found
    subst same
    refine ⟨nonneg, ?_, ⟨doc, List.mem_of_find?_eq_some found, rfl, within⟩, rfl⟩
    intro there
    obtain ⟨entry, entryMem, entryEq⟩ := List.mem_map.mp there
    exact fresh entry entryMem entryEq
  · rintro ⟨nonneg, fresh, ⟨doc, docMem, rfl, within⟩, rfl⟩
    have found := KeyedTables.find?_eq_some_of_nodup distinct docMem
    refine ⟨(), nonneg, doc, found, (), ?_, (), within, rfl⟩
    intro entry entryMem entryEq
    exact fresh (List.mem_map.mpr ⟨entry, entryMem, entryEq⟩)

theorem applyOne_eq_ok_iff (distinct : (documents.map OpenInvoice.qboId).Nodup)
    {noun : String} {application : PaymentApplication} {out after : List (String × Money)}
    (listable : Listable documents out) :
    applyOne library documents noun out application = .ok after ↔
      ∃ amount, cents library application.amount "applied amount" = .ok amount ∧
        after = out ++ added application amount ∧ Listable documents after := by
  simp only [applyOne, bind_eq_ok_iff]
  refine exists_congr fun amount => and_congr_right fun _ => ?_
  unfold added
  by_cases isZero : amount.minor = 0
  · rw [if_pos isZero, if_pos isZero, pure_eq_ok_iff, List.append_nil]
    constructor
    · rintro rfl
      exact ⟨rfl, listable⟩
    · rintro ⟨rfl, -⟩
      rfl
  · rw [if_neg isZero, if_neg isZero, applyAmount_eq_ok_iff distinct]
    constructor
    · rintro ⟨nonneg, fresh, there, rfl⟩
      exact ⟨rfl, (listable_snoc listable).mpr ⟨by omega, fresh, there⟩⟩
    · rintro ⟨rfl, whole⟩
      obtain ⟨positive, fresh, there⟩ := (listable_snoc listable).mp whole
      exact ⟨positive.le, fresh, there, rfl⟩

theorem foldlM_applyOne_iff (distinct : (documents.map OpenInvoice.qboId).Nodup) {noun : String}
    {applications : List PaymentApplication} {out applied : List (String × Money)}
    (listable : Listable documents out) :
    applications.foldlM (applyOne library documents noun) out = .ok applied ↔
      ∃ amounts, List.Forall₂ (fun application amount =>
          cents library application.amount "applied amount" = .ok amount) applications amounts ∧
        applied = out ++ listed applications amounts ∧ Listable documents applied := by
  induction applications generalizing out with
  | nil =>
    simp only [List.foldlM_nil, pure_eq_ok_iff, List.forall₂_nil_left_iff, exists_eq_left]
    constructor
    · rintro rfl
      exact ⟨(List.append_nil out).symm, listable⟩
    · rintro ⟨rfl, -⟩
      exact (List.append_nil out).symm
  | cons application applications ih =>
    simp only [List.foldlM_cons, bind_eq_ok_iff, applyOne_eq_ok_iff distinct listable]
    constructor
    · rintro ⟨next, ⟨amount, reads, rfl, nextListable⟩, runs⟩
      obtain ⟨amounts, readsRest, rfl, whole⟩ := (ih nextListable).mp runs
      refine ⟨amount :: amounts, .cons reads readsRest, ?_, whole⟩
      simp [listed]
    · rintro ⟨amounts, reads, rfl, whole⟩
      obtain ⟨amount, amounts, here, rest, rfl⟩ := List.forall₂_cons_left_iff.mp reads
      have split : out ++ listed (application :: applications) (amount :: amounts) =
          (out ++ added application amount) ++ listed applications amounts := by
        simp [listed]
      have first : Listable documents (out ++ added application amount) := by
        rw [split] at whole
        exact whole.left
      exact ⟨_, ⟨amount, here, rfl, first⟩, (ih first).mpr ⟨amounts, rest, split, whole⟩⟩

/-! ### Plans -/

/-- What a plan promises. -/
structure SoundPlan (documents : List OpenInvoice) (plan : PaymentPlan) : Prop where
  within : ∀ entry ∈ plan.applied, 0 < entry.2.minor ∧
    ∃ doc ∈ documents, doc.qboId = entry.1 ∧ entry.2.minor ≤ doc.balance.minor
  once : (plan.applied.map Prod.fst).Nodup
  sums : (plan.applied.map fun entry => entry.2.minor).sum + plan.unapplied.minor =
    plan.total.minor
  nonneg : 0 ≤ plan.unapplied.minor

/-- The money goes on the documents in their order; one is left short only if what is
after it gets nothing. -/
structure Greedy (documents : List OpenInvoice) (plan : PaymentPlan) : Prop where
  ordered : (plan.applied.map Prod.fst).Sublist (documents.map OpenInvoice.qboId)
  inTurn : ∀ before doc after, documents = before ++ doc :: after →
    appliedTo plan.applied doc.qboId =
      max 0 (min (plan.total.minor - (before.map fun earlier => earlier.balance.minor).sum)
        doc.balance.minor)
  short : ∀ before doc after, documents = before ++ doc :: after →
    appliedTo plan.applied doc.qboId < doc.balance.minor →
      ∀ later ∈ after, appliedTo plan.applied later.qboId = 0

/-- What a draft comes to once it is begun: a plan that is sound, and a sum that is
exact. -/
structure PlansExactly (build : Build) (library : TextLibrary) (documents : List OpenInvoice)
    (txnDate amount : String) (applications : Option (List PaymentApplication))
    (noun : String) (begun : Prop) (result : Except Failure PaymentPlan) : Prop where
  sound : ∀ plan, result = .ok plan → SoundPlan documents plan
  greedy : ∀ plan, result = .ok plan → applications = none → Greedy documents plan
  exactSum : begun → ∀ total applied,
    planned build library documents txnDate amount applications noun = .ok (total, applied) →
      ∃ sum, build.sum (applied.map Prod.snd) = some sum ∧
        sum.minor = (applied.map fun entry => entry.2.minor).sum

/-- The listed amounts of a draft that is read and whose applications can be listed
add up to an amount. -/
def SumFits (library : TextLibrary) (documents : List OpenInvoice) (txnDate amount : String)
    (applications : Option (List PaymentApplication)) : Prop :=
  ∀ found amounts total, applications = some found → (library.dateFromYmd txnDate).isSome →
    cents library amount "amount" = .ok total → 0 < total.minor →
      List.Forall₂ (fun application amount =>
        cents library application.amount "applied amount" = .ok amount) found amounts →
        Listable documents (listed found amounts) →
          ((listed found amounts).map fun entry => entry.2.minor).sum ≤ 9223372036854775807

theorem date_eq_ok_iff {raw what text : String} :
    date library raw what = .ok text ↔
      ∃ day, library.dateFromYmd raw = some day ∧ day.render = text := by
  change Date.render <$> orRefuse _ _ = Except.ok text ↔ _
  rw [map_eq_ok_iff]
  simp only [orRefuse_eq_ok_iff]

section Exact

variable {txnDate amount noun verb : String} {applications : Option (List PaymentApplication)}

theorem planned_eq_ok_iff {total : Money} {applied : List (String × Money)} :
    planned build library documents txnDate amount applications noun = .ok (total, applied) ↔
      (library.dateFromYmd txnDate).isSome ∧ cents library amount "amount" = .ok total ∧
        0 < total.minor ∧
          appliedOf build library documents noun total applications = .ok applied := by
  simp only [planned, bind_eq_ok_iff, refusing, mapError_eq_ok_iff, date_eq_ok_iff,
    ensure_eq_ok_iff, decide_eq_true_eq, pure_eq_ok_iff, Prod.mk.injEq,
    Option.isSome_iff_exists]
  constructor
  · rintro ⟨text, ⟨day, reads, textEq⟩, found, isAmount, checked, positive, taken, applies,
      totalEq, appliedEq⟩
    subst totalEq
    subst appliedEq
    exact ⟨⟨day, reads⟩, isAmount, positive, applies⟩
  · rintro ⟨⟨day, reads⟩, isAmount, positive, applies⟩
    exact ⟨day.render, ⟨day, reads, rfl⟩, total, isAmount, (), positive, applied, applies, rfl,
      rfl⟩

theorem plan_eq_ok_iff {found : PaymentPlan} :
    plan build library documents txnDate amount applications noun verb = .ok found ↔
      planned build library documents txnDate amount applications noun =
        .ok (found.total, found.applied) ∧
      ∃ sum, build.sum (found.applied.map Prod.snd) = some sum ∧
        sum.minor ≤ found.total.minor ∧
          build.settle (found.total.minor - sum.minor) = some found.unapplied := by
  simp only [plan, bind_eq_ok_iff, orRefuse_eq_ok_iff, ensure_eq_ok_iff, decide_eq_true_eq,
    pure_eq_ok_iff]
  constructor
  · rintro ⟨⟨total, applied⟩, plans, sum, sums, -, within, unapplied, rest, rfl⟩
    exact ⟨plans, sum, sums, within, rest⟩
  · rintro ⟨plans, sum, sums, within, rest⟩
    exact ⟨_, plans, sum, sums, (), within, found.unapplied, rest, rfl⟩

theorem listable_of_planned (positive : ∀ doc ∈ documents, 0 < doc.balance.minor)
    (distinct : (documents.map OpenInvoice.qboId).Nodup) {total : Money}
    {applied : List (String × Money)}
    (plans : planned build library documents txnDate amount applications noun =
      .ok (total, applied)) : Listable documents applied := by
  obtain ⟨-, -, someTotal, applies⟩ := planned_eq_ok_iff.mp plans
  cases applications with
  | none =>
    obtain ⟨within, ordered, -⟩ :=
      applyOldestFirst_spec positive someTotal.le (orRefuse_eq_ok_iff.mp applies)
    exact ⟨within, ordered.nodup distinct⟩
  | some found =>
    obtain ⟨amounts, -, -, listable⟩ := (foldlM_applyOne_iff distinct Listable.nil).mp applies
    exact listable

theorem sum_of_planned (positive : ∀ doc ∈ documents, 0 < doc.balance.minor)
    (distinct : (documents.map OpenInvoice.qboId).Nodup)
    (fits : SumFits library documents txnDate amount applications) {total : Money}
    {applied : List (String × Money)}
    (plans : planned build library documents txnDate amount applications noun =
      .ok (total, applied)) :
    (applied.map fun entry => entry.2.minor).sum ≤ 9223372036854775807 := by
  obtain ⟨isDate, isAmount, someTotal, applies⟩ := planned_eq_ok_iff.mp plans
  cases applications with
  | none =>
    obtain ⟨-, -, bounded⟩ :=
      applyOldestFirst_spec positive someTotal.le (orRefuse_eq_ok_iff.mp applies)
    exact bounded.trans total.fits_minor.2
  | some found =>
    obtain ⟨amounts, reads, rfl, listable⟩ :=
      (foldlM_applyOne_iff distinct Listable.nil).mp applies
    exact fits found amounts total rfl isDate isAmount someTotal reads listable

theorem exists_sum_of_planned (positive : ∀ doc ∈ documents, 0 < doc.balance.minor)
    (distinct : (documents.map OpenInvoice.qboId).Nodup)
    (fits : SumFits library documents txnDate amount applications) {total : Money}
    {applied : List (String × Money)}
    (plans : planned build library documents txnDate amount applications noun =
      .ok (total, applied)) :
    ∃ sum, build.sum (applied.map Prod.snd) = some sum ∧
      sum.minor = (applied.map fun entry => entry.2.minor).sum := by
  have listable := listable_of_planned positive distinct plans
  have bounded := sum_of_planned positive distinct fits plans
  have mapped : (applied.map Prod.snd).map Money.minor =
      applied.map fun entry => entry.2.minor := by
    rw [List.map_map]
    rfl
  rw [← mapped] at bounded ⊢
  apply Build.exists_sum _ bounded
  intro amount amountMem
  obtain ⟨entry, entryMem, rfl⟩ := List.mem_map.mp amountMem
  exact (listable.within entry entryMem).1.le

theorem sound_of_sumFits (positive : ∀ doc ∈ documents, 0 < doc.balance.minor)
    (distinct : (documents.map OpenInvoice.qboId).Nodup)
    (fits : SumFits library documents txnDate amount applications) {found : PaymentPlan}
    (runs : plan build library documents txnDate amount applications noun verb = .ok found) :
    SoundPlan documents found := by
  obtain ⟨plans, sum, sums, bounded, rest⟩ := plan_eq_ok_iff.mp runs
  have listable := listable_of_planned positive distinct plans
  obtain ⟨exactly, sumsTo, minorEq⟩ := exists_sum_of_planned positive distinct fits plans
  obtain rfl := Option.some.inj (sums.symm.trans sumsTo)
  have sumNonneg : 0 ≤ (found.applied.map fun entry => entry.2.minor).sum := by
    apply List.sum_nonneg
    intro number numberMem
    obtain ⟨entry, entryMem, rfl⟩ := List.mem_map.mp numberMem
    exact (listable.within entry entryMem).1.le
  have upper := found.total.fits_minor.2
  have unappliedEq := (Build.settle_eq_some_iff ⟨by omega, by omega⟩).mp rest
  exact ⟨listable.within, listable.once, by omega, by omega⟩

theorem greedy_of_plan (positive : ∀ doc ∈ documents, 0 < doc.balance.minor)
    (distinct : (documents.map OpenInvoice.qboId).Nodup) {found : PaymentPlan}
    (runs : plan build library documents txnDate amount none noun verb = .ok found) :
    Greedy documents found := by
  obtain ⟨plans, -⟩ := plan_eq_ok_iff.mp runs
  obtain ⟨-, -, someTotal, applies⟩ := planned_eq_ok_iff.mp plans
  have spreads := orRefuse_eq_ok_iff.mp applies
  obtain ⟨-, ordered, -⟩ := applyOldestFirst_spec positive someTotal.le spreads
  have inTurn : ∀ before doc after, documents = before ++ doc :: after →
      appliedTo found.applied doc.qboId =
        max 0 (min (found.total.minor - (before.map fun earlier => earlier.balance.minor).sum)
          doc.balance.minor) :=
    fun before doc after split =>
      appliedTo_applyOldestFirst positive distinct spreads split
  refine ⟨ordered, inTurn, ?_⟩
  rintro before doc after rfl isShort later laterMem
  obtain ⟨between, beyond, rfl⟩ := List.append_of_mem laterMem
  have split : before ++ doc :: (between ++ later :: beyond) =
      (before ++ doc :: between) ++ later :: beyond := by simp
  have betweenNonneg : 0 ≤ (between.map fun earlier => earlier.balance.minor).sum := by
    apply List.sum_nonneg
    intro number numberMem
    obtain ⟨other, otherMem, rfl⟩ := List.mem_map.mp numberMem
    exact (positive other (by simp [otherMem])).le
  have docPositive := positive doc (by simp)
  have docTakes := inTurn before doc _ rfl
  have laterTakes := inTurn _ later beyond split
  rw [List.map_append, List.sum_append, List.map_cons, List.sum_cons] at laterTakes
  omega

theorem plansExactly_iff (positive : ∀ doc ∈ documents, 0 < doc.balance.minor)
    (distinct : (documents.map OpenInvoice.qboId).Nodup) {begun : Prop}
    {result : Except Failure PaymentPlan}
    (accepts : ∀ found, result = .ok found → begun ∧
      plan build library documents txnDate amount applications noun verb = .ok found) :
    PlansExactly build library documents txnDate amount applications noun begun result ↔
      (begun → SumFits library documents txnDate amount applications) := by
  constructor
  · rintro exactly isBegun found amounts total rfl isDate isAmount someTotal reads listable
    have applies : appliedOf build library documents noun total (some found) =
        .ok (listed found amounts) :=
      (foldlM_applyOne_iff distinct Listable.nil).mpr ⟨amounts, reads, rfl, listable⟩
    obtain ⟨sum, -, sumEq⟩ := exactly.exactSum isBegun total (listed found amounts)
      (planned_eq_ok_iff.mpr ⟨isDate, isAmount, someTotal, applies⟩)
    rw [← sumEq]
    exact sum.fits_minor.2
  · intro fits
    constructor
    · intro found runs
      obtain ⟨isBegun, plans⟩ := accepts found runs
      exact sound_of_sumFits positive distinct (fits isBegun) plans
    · rintro found runs rfl
      exact greedy_of_plan positive distinct (accepts found runs).2
    · intro isBegun total applied plans
      exact exists_sum_of_planned positive distinct (fits isBegun) plans

end Exact

theorem planPayment_eq_ok_iff {draft : PaymentDraft} {found : PaymentPlan} :
    planPayment build library documents draft = .ok found ↔
      isBlank draft.customerId = false ∧
        plan build library documents draft.txnDate draft.amount draft.applications
          "invoice" "received" = .ok found := by
  simp [planPayment, bind_eq_ok_iff, ensure_eq_ok_iff]

theorem planBillPayment_eq_ok_iff {draft : BillPaymentDraft} {found : PaymentPlan} :
    planBillPayment build library documents draft = .ok found ↔
      (isBlank draft.vendorId = false ∧ isBlank draft.accountId = false) ∧
        plan build library documents draft.txnDate draft.amount draft.applications
          "bill" "paid" = .ok found ∧ found.unapplied.minor = 0 := by
  simp only [planBillPayment, bind_eq_ok_iff, ensure_eq_ok_iff, pure_eq_ok_iff,
    Bool.not_eq_true', decide_eq_true_eq]
  constructor
  · rintro ⟨-, someVendor, -, someAccount, plans, runs, -, none, rfl⟩
    exact ⟨⟨someVendor, someAccount⟩, runs, none⟩
  · rintro ⟨⟨someVendor, someAccount⟩, runs, none⟩
    exact ⟨(), someVendor, (), someAccount, found, runs, (), none, rfl⟩

/-- A payment is planned exactly where the sum of its listed amounts is one. -/
theorem paymentPlans_iff (build : Build) (library : TextLibrary) (documents : List OpenInvoice)
    (positive : ∀ doc ∈ documents, 0 < doc.balance.minor)
    (distinct : (documents.map OpenInvoice.qboId).Nodup) :
    (∀ draft : PaymentDraft,
      PlansExactly build library documents draft.txnDate draft.amount draft.applications
          "invoice" (isBlank draft.customerId = false)
          (planPayment build library documents draft) ↔
        (isBlank draft.customerId = false →
          SumFits library documents draft.txnDate draft.amount draft.applications)) ∧
    ∀ draft : BillPaymentDraft,
      PlansExactly build library documents draft.txnDate draft.amount draft.applications
          "bill" (isBlank draft.vendorId = false ∧ isBlank draft.accountId = false)
          (planBillPayment build library documents draft) ∧
        (∀ found, planBillPayment build library documents draft = .ok found →
          found.unapplied.minor = 0) ↔
        (isBlank draft.vendorId = false ∧ isBlank draft.accountId = false →
          SumFits library documents draft.txnDate draft.amount draft.applications) := by
  constructor
  · intro draft
    exact plansExactly_iff positive distinct fun found runs => planPayment_eq_ok_iff.mp runs
  · intro draft
    have base : PlansExactly build library documents draft.txnDate draft.amount
          draft.applications "bill"
          (isBlank draft.vendorId = false ∧ isBlank draft.accountId = false)
          (planBillPayment build library documents draft) ↔
        (isBlank draft.vendorId = false ∧ isBlank draft.accountId = false →
          SumFits library documents draft.txnDate draft.amount draft.applications) := by
      apply plansExactly_iff positive distinct
      intro found runs
      obtain ⟨isBegun, plans, -⟩ := planBillPayment_eq_ok_iff.mp runs
      exact ⟨isBegun, plans⟩
    rw [← base]
    constructor
    · rintro ⟨exactly, -⟩
      exact exactly
    · intro exactly
      refine ⟨exactly, ?_⟩
      intro found runs
      exact (planBillPayment_eq_ok_iff.mp runs).2.2

/-! ### Two documents -/

def twoInvoices : List OpenInvoice :=
  [⟨"1", some "1001", .fromMinor 10000⟩, ⟨"2", none, .fromMinor 5000⟩]

theorem twoInvoices_planned :
    PlansExactly .wrapping numeralLibrary twoInvoices "2024-05-01" "120.00" none "invoice"
      (isBlank "7" = false)
      (planPayment .wrapping numeralLibrary twoInvoices ⟨"7", "2024-05-01", "120.00", none⟩) := by
  refine ((paymentPlans_iff .wrapping numeralLibrary twoInvoices (by decide) (by decide)).1
    ⟨"7", "2024-05-01", "120.00", none⟩).mpr ?_
  rintro - found amounts total ⟨⟩

def largestInvoices : List OpenInvoice :=
  [⟨"1", none, .fromMinor 9223372036854775807⟩, ⟨"2", none, .fromMinor 9223372036854775807⟩]

def largestDraft : PaymentDraft :=
  ⟨"7", "2024-05-01", "1.00",
    some [⟨"1", "92233720368547758.07"⟩, ⟨"2", "92233720368547758.07"⟩]⟩

def largestPlan : PaymentPlan :=
  ⟨.fromMinor 100, [("1", .fromMinor 9223372036854775807), ("2", .fromMinor 9223372036854775807)],
    .fromMinor 102⟩

/-- The sum wraps around to minus two cents, and the draft is accepted. -/
theorem largestDraft_wraps :
    planPayment .wrapping numeralLibrary largestInvoices largestDraft = .ok largestPlan ∧
      ¬PlansExactly .wrapping numeralLibrary largestInvoices "2024-05-01" "1.00"
        largestDraft.applications "invoice" (isBlank "7" = false)
        (planPayment .wrapping numeralLibrary largestInvoices largestDraft) := by
  have reads : (planPayment .wrapping numeralLibrary largestInvoices largestDraft).toOption =
      some largestPlan := by
    decide +kernel
  have plans : planPayment .wrapping numeralLibrary largestInvoices largestDraft =
      .ok largestPlan := by
    simpa using reads
  refine ⟨plans, ?_⟩
  intro exactly
  exact absurd (exactly.sound largestPlan plans).sums (by decide)

end Compose

end QuickBooks
