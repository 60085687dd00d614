import QuickBooks.AccountMapping

/-!
# The numbers of mapped accounts

No two mapped accounts share a number.  The numbers stay in the bands of the
accounts' classifications, and those of flagged accounts in the last ten
numbers of their band, exactly for the charts that leave every account room
there: nothing stops the search for a free number at the end of a band.
-/

namespace QuickBooks

namespace Classification

/-- The first and the last number of the band, as the seed chart fills it: the
expenses have the sevens too. -/
def band : Classification → ℕ × ℕ
  | asset => (1000, 1999)
  | liability => (2000, 2999)
  | equity => (3000, 3999)
  | income => (4000, 4999)
  | cogs => (5000, 5999)
  | expense => (6000, 7999)

/-- The numbers kept for unmapped accounts, x990 to x999. -/
def unmappedBand : Classification → ℕ × ℕ
  | asset => (1990, 1999)
  | liability => (2990, 2999)
  | equity => (3990, 3999)
  | income => (4990, 4999)
  | cogs => (5990, 5999)
  | expense => (6990, 6999)

def slots (classification : Classification) (needsMapping : Bool) : ℕ × ℕ :=
  if needsMapping then classification.unmappedBand else classification.band

theorem unmappedBand_within (classification : Classification) :
    classification.band.1 ≤ classification.unmappedBand.1 ∧
      classification.unmappedBand.2 ≤ classification.band.2 := by
  cases classification <;> decide

end Classification

namespace AccountMapping

open FirstFreeNumbers

/-! ### The placements of a chart -/

namespace Placement

def firstNumber (placement : Placement) : ℕ :=
  parseNumber placement.base

def slots (placement : Placement) : ℕ × ℕ :=
  placement.classification.slots placement.needsMapping

end Placement

/-- The placement that the first pass makes of an account, if any. -/
def firstPlacement (account : ParsedAccount) : Option Placement :=
  match numberingRule account with
  | .place base classification needsMapping =>
    some ⟨account, base, classification, needsMapping⟩
  | _ => none

def isBank (account : ParsedAccount) : Bool :=
  match numberingRule account with
  | .bank => true
  | _ => false

def isCard (account : ParsedAccount) : Bool :=
  match numberingRule account with
  | .card => true
  | _ => false

/-- All requests for numbers, in the order in which they are served. -/
def placements (replicaAccounts : List ParsedAccount) : List Placement :=
  let ordered := replicaAccounts.insertionSort fun first second =>
    first.qboId ≤ second.qboId
  ordered.filterMap firstPlacement ++
    ((ordered.filter isBank).insertionSort sortsBefore).map bankPlacement ++
    ((ordered.filter isCard).insertionSort sortsBefore).map cardPlacement

theorem foldl_firstPass (accounts : List ParsedAccount) (pass : FirstPass) :
    accounts.foldl FirstPass.step pass =
      { numbering := (accounts.filterMap firstPlacement).foldl Numbering.assign pass.numbering
        bankPending := pass.bankPending ++ accounts.filter isBank
        cardPending := pass.cardPending ++ accounts.filter isCard } := by
  induction accounts generalizing pass with
  | nil => simp
  | cons account rest induction =>
    rw [List.foldl_cons, induction]
    cases rule : numberingRule account with
    | place base classification needsMapping =>
      simp [FirstPass.step, firstPlacement, isBank, isCard, rule]
    | bank => simp [FirstPass.step, firstPlacement, isBank, isCard, rule]
    | card => simp [FirstPass.step, firstPlacement, isBank, isCard, rule]

theorem mapAccounts_eq (replicaAccounts : List ParsedAccount) :
    mapAccounts replicaAccounts =
      ((placements replicaAccounts).foldl Numbering.assign ⟨[], []⟩).mapped := by
  simp only [mapAccounts, placements, foldl_firstPass, List.nil_append, List.foldl_append,
    List.foldl_map]

def StartsInside (placement : Placement) : Prop :=
  placement.slots.1 ≤ placement.firstNumber

theorem seeded_startsInside {seeded : AccountSeed} (member : seeded ∈ Chart.seedChart) :
    (seeded.classification.slots false).1 ≤ parseNumber seeded.number := by
  revert seeded
  decide +kernel

theorem unmappedSlot_startsInside (classification : Classification) :
    (classification.slots true).1 ≤ parseNumber classification.unmappedSlot := by
  cases classification <;> decide +kernel

theorem acctNumSeedMatch_mem {account : ParsedAccount} {seed : List AccountSeed}
    {seeded : AccountSeed} (matched : acctNumSeedMatch account seed = some seeded) :
    seeded ∈ seed := by
  rw [acctNumSeedMatch, Option.bind_eq_some_iff] at matched
  rcases matched with ⟨raw, -, found⟩
  split at found
  · exact List.mem_of_find?_eq_some found
  · cases found

theorem expenseKeywordMatch_mem {account : ParsedAccount} {number : String}
    (matched : expenseKeywordMatch account = some number) :
    number ∈ expenseKeywords.map Prod.snd := by
  rw [expenseKeywordMatch] at matched
  split at matched
  · cases matched
  · rw [Option.map_eq_some_iff] at matched
    rcases matched with ⟨row, found, rfl⟩
    exact List.mem_map_of_mem (List.mem_of_find?_eq_some found)

/-- The numbers and classifications that the single-slot rules name. -/
def fixedSlots : List (String × Classification) :=
  [(Chart.accountsReceivable, .asset), (Chart.undepositedFunds, .asset),
    (Chart.accountsPayable, .liability), (Chart.salesTaxPayable, .liability),
    (Chart.inventoryRaw, .asset), (Chart.inventoryFinished, .asset),
    (Chart.inventoryAdjustment, .cogs), (Chart.cogs, .cogs),
    (Chart.shippingIncome, .income), (Chart.salesIncome, .income),
    (Chart.discountsGiven, .income), (Chart.otherIncome, .income),
    (Chart.openingBalanceEquity, .equity), (Chart.retainedEarnings, .equity),
    (Chart.ownerCapital, .equity)] ++
    expenseKeywords.map fun row => (row.2, .expense)

def NamesFixedSlot (resolved : Option (String × Classification)) : Prop :=
  ∀ slot, resolved = some slot → slot ∈ fixedSlots

namespace NamesFixedSlot

theorem single {slot : String × Classification} (member : slot ∈ fixedSlots) :
    NamesFixedSlot (some slot) := by
  intro named same
  rw [← Option.some.inj same]
  exact member

theorem ite {condition : Prop} [Decidable condition]
    {first second : Option (String × Classification)} (then_case : NamesFixedSlot first)
    (else_case : NamesFixedSlot second) :
    NamesFixedSlot (if condition then first else second) := by
  by_cases holds : condition
  · rw [if_pos holds]
    exact then_case
  · rw [if_neg holds]
    exact else_case

theorem keyword (account : ParsedAccount) :
    NamesFixedSlot ((expenseKeywordMatch account).map fun number => (number, .expense)) := by
  intro slot resolved
  rw [Option.map_eq_some_iff] at resolved
  rcases resolved with ⟨number, matched, rfl⟩
  rcases List.mem_map.mp (expenseKeywordMatch_mem matched) with ⟨row, member, rfl⟩
  exact List.mem_append_right _ (List.mem_map_of_mem member)

end NamesFixedSlot

theorem resolveFixed_namesFixedSlot (account : ParsedAccount) :
    NamesFixedSlot (resolveFixed account) := by
  rw [resolveFixed]
  repeat' apply NamesFixedSlot.ite
  all_goals first
    | exact NamesFixedSlot.single (by decide +kernel)
    | exact NamesFixedSlot.keyword account

theorem fixedSlot_startsInside {slot : String × Classification}
    (member : slot ∈ fixedSlots) : (slot.2.slots false).1 ≤ parseNumber slot.1 := by
  revert slot
  decide +kernel

theorem firstPlacement_startsInside {account : ParsedAccount} {placement : Placement}
    (placed : firstPlacement account = some placement) : StartsInside placement := by
  rw [firstPlacement, numberingRule] at placed
  cases seedMatch : acctNumSeedMatch account Chart.seedChart with
  | some seeded =>
    rw [seedMatch] at placed
    cases placed
    exact seeded_startsInside (acctNumSeedMatch_mem seedMatch)
  | none =>
    rw [seedMatch] at placed
    by_cases bank : matchesKind account "Bank"
    · simp [bank] at placed
    by_cases card : matchesKind account "CreditCard"
    · simp [bank, card] at placed
    cases resolved : resolveFixed account with
    | some slot =>
      simp only [bank, card, resolved] at placed
      cases placed
      exact fixedSlot_startsInside (resolveFixed_namesFixedSlot account slot resolved)
    | none =>
      simp only [bank, card, resolved] at placed
      cases placed
      exact unmappedSlot_startsInside _

/-- Every account asks for a number that its band, or its tail, begins at or
before. -/
theorem placements_startInside (replicaAccounts : List ParsedAccount) :
    ∀ placement ∈ placements replicaAccounts, StartsInside placement := by
  intro placement member
  simp only [placements, List.mem_append, List.mem_map, List.mem_filterMap] at member
  rcases member with (⟨account, -, placed⟩ | ⟨account, -, rfl⟩) | ⟨account, -, rfl⟩
  · exact firstPlacement_startsInside placed
  · change (1000 : ℕ) ≤ parseNumber Chart.checking
    decide +kernel
  · change (2000 : ℕ) ≤ parseNumber Chart.creditCard
    decide +kernel

/-! ### Serving the placements -/

/-- The base and the number of every placement. -/
def served (requests : List Placement) : List (ℕ × ℕ) :=
  requests.foldl (fun done placement => done ++
    [(placement.firstNumber,
      firstFree toString (done.map fun request => toString request.2)
        placement.firstNumber)]) []

theorem served_concat (requests : List Placement) (placement : Placement) :
    served (requests ++ [placement]) = served requests ++
      [(placement.firstNumber,
        firstFree toString ((served requests).map fun request => toString request.2)
          placement.firstNumber)] := by
  rw [served, List.foldl_concat]
  rfl

theorem filled_served (requests : List Placement) : Filled (served requests) := by
  induction requests using List.reverseRecOn with
  | nil => exact Filled.nil
  | append_singleton requests placement induction =>
    rw [served_concat]
    exact induction.concat numeral_injective placement.firstNumber

theorem served_bases (requests : List Placement) :
    (served requests).map Prod.fst = requests.map Placement.firstNumber := by
  induction requests using List.reverseRecOn with
  | nil => rfl
  | append_singleton requests placement induction =>
    rw [served_concat, List.map_append, List.map_append, induction]
    rfl

def numbered (requests : List Placement) : Numbering :=
  requests.foldl Numbering.assign ⟨[], []⟩

theorem numbered_concat (requests : List Placement) (placement : Placement) :
    numbered (requests ++ [placement]) = (numbered requests).assign placement := by
  rw [numbered, List.foldl_concat]
  rfl

theorem numbered_used (requests : List Placement) :
    (numbered requests).used =
      (served requests).map fun request => toString request.2 := by
  induction requests using List.reverseRecOn with
  | nil => rfl
  | append_singleton requests placement induction =>
    rw [numbered_concat, served_concat, List.map_append, ← induction]
    rfl

theorem numbered_numbers (requests : List Placement) :
    (numbered requests).mapped.map (fun account => account.ledgerNumber.number) =
      (numbered requests).used := by
  induction requests using List.reverseRecOn with
  | nil => rfl
  | append_singleton requests placement induction =>
    rw [numbered_concat]
    change ((numbered requests).mapped ++ [_]).map _ = (numbered requests).used ++ [_]
    rw [List.map_append, induction]
    rfl

theorem numbered_distinct (requests : List Placement) :
    ((numbered requests).mapped.map fun account => account.ledgerNumber.number).Nodup := by
  rw [numbered_numbers, numbered_used]
  have labelled : (served requests).map (fun request => toString request.2) =
      ((served requests).map Prod.snd).map toString := by
    rw [List.map_map]
    rfl
  rw [labelled]
  exact (filled_served requests).distinct.map numeral_injective

/-! ### Bands -/

/-- The account's number lies in the band of its classification, and in the
tail of the band when the account is flagged. -/
def NumberedWithin (account : MappedAccount) : Prop :=
  ∃ n : ℕ, account.ledgerNumber.number = toString n ∧
    account.classification.band.1 ≤ n ∧ n ≤ account.classification.band.2 ∧
    (account.needsMapping = true →
      account.classification.unmappedBand.1 ≤ n ∧ n ≤ account.classification.unmappedBand.2)

structure WellNumbered (mapped : List MappedAccount) : Prop where
  distinct : (mapped.map fun account => account.ledgerNumber.number).Nodup
  banded : ∀ account ∈ mapped, NumberedWithin account

/-- Every request, after the earlier ones, finds a number among those it may
get. -/
def LeaveRoom (requests : List Placement) : Prop :=
  ∀ earlier placement later, requests = earlier ++ placement :: later →
    RoomFor (earlier.map Placement.firstNumber) placement.firstNumber placement.slots.2

theorem leaveRoom_concat (requests : List Placement) (placement : Placement) :
    LeaveRoom (requests ++ [placement]) ↔ LeaveRoom requests ∧
      RoomFor (requests.map Placement.firstNumber) placement.firstNumber
        placement.slots.2 := by
  constructor
  · intro room
    refine ⟨?_, room requests placement [] rfl⟩
    intro earlier inner later split
    apply room earlier inner (later ++ [placement])
    rw [split, List.append_assoc]
    rfl
  · rintro ⟨room, last⟩ earlier inner later split
    rcases List.eq_nil_or_concat later with rfl | ⟨front, final, rfl⟩
    · have parts := List.append_inj' split rfl
      rw [← parts.1, ← List.head_eq_of_cons_eq parts.2]
      exact last
    · rw [List.concat_eq_append, ← List.cons_append, ← List.append_assoc] at split
      exact room earlier inner front (List.append_inj' split rfl).1

theorem numberedWithin_iff {account : MappedAccount} {n : ℕ}
    (number_eq : account.ledgerNumber.number = toString n)
    (inside : (account.classification.slots account.needsMapping).1 ≤ n) :
    NumberedWithin account ↔
      n ≤ (account.classification.slots account.needsMapping).2 := by
  have tail := account.classification.unmappedBand_within
  constructor
  · rintro ⟨m, same, -, below, flagged⟩
    rw [number_eq] at same
    rw [numeral_injective same]
    cases flag : account.needsMapping with
    | true => exact (flagged flag).2
    | false => exact below
  · intro below
    refine ⟨n, number_eq, ?_⟩
    cases flag : account.needsMapping with
    | true =>
      rw [flag] at inside below
      exact ⟨tail.1.trans inside, le_trans below tail.2, fun _ => ⟨inside, below⟩⟩
    | false =>
      rw [flag] at inside below
      exact ⟨inside, below, fun impossible => by cases impossible⟩

theorem numbered_banded_iff (requests : List Placement)
    (inside : ∀ placement ∈ requests, StartsInside placement) :
    (∀ account ∈ (numbered requests).mapped, NumberedWithin account) ↔
      LeaveRoom requests := by
  induction requests using List.reverseRecOn with
  | nil =>
    constructor
    · intro _ earlier placement later impossible
      exact absurd impossible (by simp)
    · intro _ account member
      cases member
  | append_singleton requests placement induction =>
    have earlier := induction fun other member =>
      inside other (List.mem_append_left _ member)
    have starts := inside placement (by simp)
    let number := firstFree toString ((served requests).map fun request => toString request.2)
      placement.firstNumber
    have landed : placement.slots.1 ≤ number :=
      starts.trans (le_firstFree toString _ placement.firstNumber)
    let latest : MappedAccount :=
      { sourceRef := placement.account.qboId
        ledgerNumber := ⟨toString number⟩
        name := placement.account.name
        classification := placement.classification
        needsMapping := placement.needsMapping }
    have grown : (numbered (requests ++ [placement])).mapped =
        (numbered requests).mapped ++ [latest] := by
      rw [numbered_concat, Numbering.assign, numbered_used]
      rfl
    have room : NumberedWithin latest ↔
        RoomFor (requests.map Placement.firstNumber) placement.firstNumber
          placement.slots.2 := by
      have own : NumberedWithin latest ↔ number ≤ placement.slots.2 :=
        numberedWithin_iff rfl landed
      rw [own, ← served_bases]
      exact (filled_served requests).firstFree_le_iff_roomFor numeral_injective
        placement.firstNumber placement.slots.2
    rw [leaveRoom_concat, ← earlier, ← room, grown]
    simp only [List.mem_append, List.mem_singleton, or_imp, forall_and, forall_eq]

/-- The chart is numbered within its bands exactly when every account, in the
order in which numbers are given out, has room between the number its rule
names and the last number it may get. -/
theorem mapAccounts_wellNumbered_iff (replicaAccounts : List ParsedAccount) :
    WellNumbered (mapAccounts replicaAccounts) ↔
      LeaveRoom (placements replicaAccounts) := by
  have banded := numbered_banded_iff (placements replicaAccounts)
    (placements_startInside replicaAccounts)
  rw [← banded, mapAccounts_eq]
  constructor
  · intro wellNumbered
    exact wellNumbered.banded
  · intro within
    exact ⟨numbered_distinct (placements replicaAccounts), within⟩

/-- A chart of eleven other current assets, which no rule matches. -/
def crowdedChart : List ParsedAccount :=
  ["11", "12", "13", "14", "15", "16", "17", "18", "19", "20", "21"].map fun qboId =>
    { qboId
      name := "Other asset " ++ qboId
      acctNum := none
      accountType := some "Other Current Asset"
      accountSubtype := none
      classification := some "Asset" }

/-- Ten unmapped accounts fill the tail of the assets; the eleventh gets the
number of the payables. -/
theorem crowdedChart_spills :
    (∃ account ∈ mapAccounts crowdedChart, account.classification = .asset ∧
      account.ledgerNumber.number = Chart.accountsPayable) ∧
      ¬ WellNumbered (mapAccounts crowdedChart) := by
  have spilled : (⟨"21", ⟨"2000"⟩, "Other asset 21", .asset, true⟩ : MappedAccount) ∈
      mapAccounts crowdedChart := by decide +kernel
  refine ⟨⟨_, spilled, rfl, rfl⟩, ?_⟩
  intro wellNumbered
  rcases wellNumbered.banded _ spilled with ⟨n, same, -, below, -⟩
  have number : n = 2000 := numeral_injective (same.symm.trans (by decide +kernel))
  rw [number] at below
  exact absurd below (by decide)

end AccountMapping

end QuickBooks
