import QuickBooks.BalanceSheetEquation
import QuickBooks.TrialBalanceSums
import QuickBooks.OrderedTables
import Mathlib.Data.String.Basic

/-!
# What the parallel run establishes

The two sides of a group are totals over the rows it covers: their balances,
and the QuickBooks rows that their source references map to.  So the run
reports no must-match failure exactly when the two totals of every group that
must match agree: the checking account, the card, the receivables, the
payables, the sales tax, the income and the equity.
-/

/-!
## The trial balance against QuickBooks

The parallel run compares the trial balance of the ledger with the one fetched
from QuickBooks, group of accounts by group.  An account's QuickBooks side is
what its source reference maps to.  A group that must match and does not is a
failure; opening balance equity and the accounts that still need a mapping are
left out.
-/

namespace QuickBooks

open OrderedTables

inductive Tier where
  | must
  | may
  | skip
deriving DecidableEq

/-- The accounts of a group: given numbers, or all numbers that start alike. -/
inductive Members where
  | numbers (listed : List String)
  | startingWith (start : String)
deriving DecidableEq

structure AccountGroup where
  label : String
  tier : Tier
  members : Members
deriving DecidableEq

structure TierRules where
  groups : List AccountGroup
  skipNumbers : List String

namespace TierRules

def group (label : String) (tier : Tier) (numbers : List String) : AccountGroup :=
  ⟨label, tier, .numbers numbers⟩

def prefixGroup (label : String) (tier : Tier) (start : String) : AccountGroup :=
  ⟨label, tier, .startingWith start⟩

/-- The tiers of the parallel run. -/
def standard : TierRules where
  groups :=
    [group "Bank — Checking (1100)" .must ["1100"],
      group "Credit card (2100)" .must ["2100"],
      group "Accounts receivable (1200+2300)" .must ["1200", "2300"],
      group "Accounts payable (2000+2050)" .must ["2000", "2050"],
      group "Sales tax payable (2200)" .must ["2200"],
      prefixGroup "Total income (4xxx)" .must "4",
      prefixGroup "Total equity (3xxx)" .must "3",
      group "Inventory, raw materials (1300)" .may ["1300"],
      group "Inventory, finished goods (1310)" .may ["1310"],
      group "Cost of goods sold (5000)" .may ["5000"],
      group "Manufacturing variance (5100)" .may ["5100"],
      group "Parts and labour applied (5300)" .may ["5300"],
      group "Undeposited funds (1150)" .may ["1150"],
      group "Sales income (4100)" .may ["4100"],
      group "Shipping income (4300)" .may ["4300"],
      group "Discounts given (4900)" .may ["4900"],
      group "Returns and allowances (4950)" .may ["4950"]]
  skipNumbers := ["3950"]

end TierRules

structure TbDiffRow where
  label : String
  tier : Tier
  ledgerAmount : Money
  qboAmount : Money
  delta : Money
deriving DecidableEq

structure TbDiff where
  rows : List TbDiffRow
  mustFailures : List String
  mayUnexplained : List String
deriving DecidableEq

def Members.Covers : Members → String → Prop
  | .numbers listed, number => number ∈ listed
  | .startingWith start, number => start.toList <+: number.toList

instance (members : Members) : DecidablePred members.Covers :=
  fun number => match members with
    | .numbers listed => inferInstanceAs (Decidable (number ∈ listed))
    | .startingWith start => inferInstanceAs (Decidable (start.toList <+: number.toList))

namespace TrialBalance

def numbers (sheet : TrialBalance) : List String :=
  (sheet.rows.map TrialBalanceRow.number).dedup.insertionSort fun first second =>
    first ≤ second

def rowByNumber (sheet : TrialBalance) (number : String) : Option TrialBalanceRow :=
  sheet.rows.reverse.find? fun row => row.number = number

end TrialBalance

def Members.numbersIn (sheet : TrialBalance) : Members → List String
  | .numbers listed => listed
  | .startingWith start => sheet.numbers.filter (Members.startingWith start).Covers

def addQboRow (qboById : OrderedTable String Money) (row : QboTbRow) :
    Except MoneyError (OrderedTable String Money) :=
  qboById.alterM row.qboAccountId fun sum => (sum.getD Money.zero).checkedAdd row.balance

/-- Add the two sides of one number of a group. -/
def addNumber (rules : TierRules) (sheet : TrialBalance)
    (qboById : OrderedTable String Money) (sums : Money × Money) (number : String) :
    Except MoneyError (Money × Money) :=
  if number ∈ rules.skipNumbers then return sums
  else match sheet.rowByNumber number with
    | none => return sums
    | some row =>
      if row.needsMapping then return sums
      else do
        let ledgerAmount ← sums.1.checkedAdd row.balance
        match row.sourceRef.bind qboById.get? with
        | none => return (ledgerAmount, sums.2)
        | some amount => do
          let qboAmount ← sums.2.checkedAdd amount
          return (ledgerAmount, qboAmount)

def groupRow (rules : TierRules) (sheet : TrialBalance)
    (qboById : OrderedTable String Money) (group : AccountGroup) :
    Except MoneyError TbDiffRow := do
  let sums ← (group.members.numbersIn sheet).foldlM (addNumber rules sheet qboById)
    (Money.zero, Money.zero)
  let delta ← sums.1.checkedSub sums.2
  return { label := group.label, tier := group.tier,
           ledgerAmount := sums.1, qboAmount := sums.2, delta }

def differing (tier : Tier) (rows : List TbDiffRow) : List String :=
  (rows.filter fun row => row.tier = tier ∧ !row.delta.isZero).map TbDiffRow.label

/-- The rows that are expected to differ and that no group covers. -/
def skippedRows (rules : TierRules) (sheet : TrialBalance) : List TbDiffRow :=
  let covered := rules.groups.flatMap fun group => group.members.numbersIn sheet
  (sheet.rows.filter fun row =>
    row.number ∉ covered ∧ (row.number ∈ rules.skipNumbers ∨ row.needsMapping)).map
      fun row =>
        { label := row.number ++ " " ++ row.name, tier := .skip,
          ledgerAmount := row.balance, qboAmount := Money.zero, delta := Money.zero }

/-- The rows of the groups, in their order. -/
def groupRows (sheet : TrialBalance) (qbo : List QboTbRow) (rules : TierRules) :
    Except MoneyError (List TbDiffRow) := do
  let qboById ← qbo.foldlM addQboRow OrderedTable.empty
  rules.groups.mapM (groupRow rules sheet qboById)

def tbDiff (sheet : TrialBalance) (qbo : List QboTbRow) (rules : TierRules) :
    Except LedgerError TbDiff := do
  let rows ← groupRows sheet qbo rules
  return { rows := rows ++ skippedRows rules sheet
           mustFailures := differing .must rows
           mayUnexplained := differing .may rows }

end QuickBooks

namespace QuickBooks

open ExceptPrograms KeyedTotals OrderedTables

/-- The QuickBooks balance that maps to a row. -/
def mappedBalance (qbo : List QboTbRow) (row : TrialBalanceRow) : Int :=
  match row.sourceRef with
  | none => 0
  | some sourceRef =>
    total (fun qboRow => qboRow.qboAccountId = sourceRef)
      (fun qboRow => qboRow.balance.minor) qbo

def TierRules.Counts (rules : TierRules) (row : TrialBalanceRow) : Prop :=
  row.number ∉ rules.skipNumbers ∧ row.needsMapping = false

instance (rules : TierRules) : DecidablePred rules.Counts :=
  fun row => inferInstanceAs
    (Decidable (row.number ∉ rules.skipNumbers ∧ row.needsMapping = false))

/-- The diffed rows with the given numbers total the same on both sides. -/
def TotalsAgree (rules : TierRules) (covers : String → Prop) [DecidablePred covers]
    (sheet : TrialBalance) (qbo : List QboTbRow) : Prop :=
  total (fun row => rules.Counts row ∧ covers row.number)
      (fun row => row.balance.minor) sheet.rows =
    total (fun row => rules.Counts row ∧ covers row.number) (mappedBalance qbo) sheet.rows

section QboSide

variable {qbo : List QboTbRow} {qboById : OrderedTable String Money}

theorem qboById_sums (folded : qbo.foldlM addQboRow OrderedTable.empty = .ok qboById)
    (account : String) :
    ((qboById.get? account).map Money.minor).getD 0 =
      total (fun row => row.qboAccountId = account) (fun row => row.balance.minor) qbo := by
  refine foldlM_invariant (fun consumed (table : OrderedTable String Money) =>
    ((table.get? account).map Money.minor).getD 0 =
      total (fun row => row.qboAccountId = account) (fun row => row.balance.minor) consumed)
    ?_ rfl folded
  intro consumed row before after holds adds
  obtain ⟨sum, sumEq, rfl⟩ := OrderedTable.alterM_eq_ok_iff.mp adds
  rw [Money.checkedAdd_eq_ok_iff] at sumEq
  rw [OrderedTable.get?_insert, total_append, total_cons, total_nil, ← holds]
  split_ifs with same
  · subst same
    rw [Option.map_some, Option.getD_some, sumEq]
    cases before.get? row.qboAccountId <;> simp
  · simp

theorem mapped_of_sums (folded : qbo.foldlM addQboRow OrderedTable.empty = .ok qboById)
    (row : TrialBalanceRow) :
    ((row.sourceRef.bind qboById.get?).map Money.minor).getD 0 = mappedBalance qbo row := by
  unfold mappedBalance
  cases row.sourceRef with
  | none => rfl
  | some sourceRef => exact qboById_sums folded sourceRef

end QboSide

section Groups

variable {rules : TierRules} {sheet : TrialBalance} {qbo : List QboTbRow}
  {qboById : OrderedTable String Money}

def sideOf (rules : TierRules) (sheet : TrialBalance) (amount : TrialBalanceRow → Int)
    (number : String) : Int :=
  total (fun row => rules.Counts row ∧ row.number = number) amount sheet.rows

theorem rowByNumber_eq_none {number : String} (absent : sheet.rowByNumber number = none) :
    ∀ row ∈ sheet.rows, row.number ≠ number := by
  intro row rowMem
  unfold TrialBalance.rowByNumber at absent
  rw [List.find?_eq_none] at absent
  simpa using absent row (List.mem_reverse.mpr rowMem)

theorem sideOf_eq_zero {amount : TrialBalanceRow → Int} {number : String}
    (uncounted : ∀ row ∈ sheet.rows, row.number = number → ¬rules.Counts row) :
    sideOf rules sheet amount number = 0 :=
  total_eq_zero _ _ fun row rowMem selected =>
    absurd selected.1 (uncounted row rowMem selected.2)

theorem rowByNumber_eq_some (distinct : (sheet.rows.map TrialBalanceRow.number).Nodup)
    {number : String} {row : TrialBalanceRow} (found : sheet.rowByNumber number = some row) :
    row ∈ sheet.rows ∧ row.number = number ∧
      ∀ other ∈ sheet.rows, other.number = number → other = row := by
  unfold TrialBalance.rowByNumber at found
  have rowMem := List.mem_reverse.mp (List.mem_of_find?_eq_some found)
  have sameNumber := List.find?_some found
  rw [decide_eq_true_eq] at sameNumber
  refine ⟨rowMem, sameNumber, ?_⟩
  intro other otherMem otherNumber
  exact List.inj_on_of_nodup_map distinct otherMem rowMem (otherNumber.trans sameNumber.symm)

theorem sideOf_row (distinct : (sheet.rows.map TrialBalanceRow.number).Nodup)
    {amount : TrialBalanceRow → Int} {number : String} {row : TrialBalanceRow}
    (found : sheet.rowByNumber number = some row) :
    sideOf rules sheet amount number = if rules.Counts row then amount row else 0 := by
  obtain ⟨rowMem, sameNumber, only⟩ := rowByNumber_eq_some distinct found
  unfold sideOf
  rw [total_of_unique _ _ distinct.of_map rowMem fun other otherMem selected =>
    only other otherMem selected.2]
  simp [sameNumber]

theorem addNumber_eq_ok (distinct : (sheet.rows.map TrialBalanceRow.number).Nodup)
    (folded : qbo.foldlM addQboRow OrderedTable.empty = .ok qboById)
    {before after : Money × Money} {number : String}
    (adds : addNumber rules sheet qboById before number = .ok after) :
    after.1.minor = before.1.minor +
        sideOf rules sheet (fun row => row.balance.minor) number ∧
      after.2.minor = before.2.minor + sideOf rules sheet (mappedBalance qbo) number := by
  unfold addNumber at adds
  by_cases isSkipped : number ∈ rules.skipNumbers
  · rw [if_pos isSkipped, pure_eq_ok_iff] at adds
    have uncounted : ∀ row ∈ sheet.rows, row.number = number → ¬rules.Counts row :=
      fun row _ sameNumber counts => counts.1 (sameNumber ▸ isSkipped)
    rw [sideOf_eq_zero uncounted, sideOf_eq_zero uncounted, ← adds]
    simp
  rw [if_neg isSkipped] at adds
  cases found : sheet.rowByNumber number with
  | none =>
    rw [found, pure_eq_ok_iff] at adds
    have uncounted : ∀ row ∈ sheet.rows, row.number = number → ¬rules.Counts row :=
      fun row rowMem sameNumber => absurd sameNumber (rowByNumber_eq_none found row rowMem)
    rw [sideOf_eq_zero uncounted, sideOf_eq_zero uncounted, ← adds]
    simp
  | some row =>
    obtain ⟨-, sameNumber, -⟩ := rowByNumber_eq_some distinct found
    rw [found] at adds
    dsimp only at adds
    rw [sideOf_row distinct found, sideOf_row distinct found]
    split_ifs at adds with needsMapping
    · rw [pure_eq_ok_iff] at adds
      have uncounted : ¬rules.Counts row := fun counts => by
        simp [counts.2] at needsMapping
      rw [if_neg uncounted, if_neg uncounted, ← adds]
      simp
    · have counts : rules.Counts row := ⟨sameNumber ▸ isSkipped, by simpa using needsMapping⟩
      rw [if_pos counts, if_pos counts, ← mapped_of_sums folded row]
      obtain ⟨ledgerAmount, ledgerSum, adds⟩ := bind_eq_ok_iff.mp adds
      rw [Money.checkedAdd_eq_ok_iff] at ledgerSum
      cases mapped : row.sourceRef.bind qboById.get? with
      | none =>
        rw [mapped] at adds
        dsimp only at adds
        rw [pure_eq_ok_iff] at adds
        rw [← adds]
        exact ⟨ledgerSum, by simp⟩
      | some amount =>
        rw [mapped] at adds
        obtain ⟨qboAmount, qboSum, result⟩ := bind_eq_ok_iff.mp adds
        rw [Money.checkedAdd_eq_ok_iff] at qboSum
        rw [pure_eq_ok_iff] at result
        rw [← result]
        exact ⟨ledgerSum, qboSum⟩

theorem foldlM_addNumber (distinct : (sheet.rows.map TrialBalanceRow.number).Nodup)
    (folded : qbo.foldlM addQboRow OrderedTable.empty = .ok qboById)
    {numbers : List String} (numbersDistinct : numbers.Nodup) {sums : Money × Money}
    (adds : numbers.foldlM (addNumber rules sheet qboById) (Money.zero, Money.zero) =
      .ok sums) :
    sums.1.minor = total (fun row => rules.Counts row ∧ row.number ∈ numbers)
        (fun row => row.balance.minor) sheet.rows ∧
      sums.2.minor = total (fun row => rules.Counts row ∧ row.number ∈ numbers)
        (mappedBalance qbo) sheet.rows := by
  have consumed := foldlM_invariant (fun consumed (sums : Money × Money) =>
    sums.1.minor =
        (consumed.map (sideOf rules sheet fun row => row.balance.minor)).sum ∧
      sums.2.minor = (consumed.map (sideOf rules sheet (mappedBalance qbo))).sum)
    (fun consumed number before after holds step => by
      obtain ⟨ledgerSum, qboSum⟩ := addNumber_eq_ok distinct folded step
      rw [ledgerSum, qboSum, holds.1, holds.2]
      simp)
    ⟨rfl, rfl⟩ adds
  unfold sideOf at consumed
  rwa [sum_total_fibers rules.Counts _ TrialBalanceRow.number numbersDistinct,
    sum_total_fibers rules.Counts _ TrialBalanceRow.number numbersDistinct] at consumed

theorem mem_numbersIn {members : Members} {row : TrialBalanceRow} (rowMem : row ∈ sheet.rows) :
    row.number ∈ members.numbersIn sheet ↔ members.Covers row.number := by
  cases members with
  | numbers listed => exact Iff.rfl
  | startingWith start =>
    unfold Members.numbersIn TrialBalance.numbers
    rw [List.mem_filter, List.mem_insertionSort, List.mem_dedup, decide_eq_true_eq]
    exact and_iff_right (List.mem_map_of_mem rowMem)

def Members.Distinct : Members → Prop
  | .numbers listed => listed.Nodup
  | .startingWith _ => True

theorem numbersIn_nodup {members : Members} (distinct : members.Distinct) :
    (members.numbersIn sheet).Nodup := by
  cases members with
  | numbers listed => exact distinct
  | startingWith start =>
    unfold Members.numbersIn TrialBalance.numbers
    exact ((List.perm_insertionSort _ _).nodup_iff.mpr (List.nodup_dedup _)).filter _

theorem groupRow_eq_ok (distinct : (sheet.rows.map TrialBalanceRow.number).Nodup)
    (folded : qbo.foldlM addQboRow OrderedTable.empty = .ok qboById)
    {group : AccountGroup} (groupDistinct : group.members.Distinct) {row : TbDiffRow}
    (computed : groupRow rules sheet qboById group = .ok row) :
    row.label = group.label ∧ row.tier = group.tier ∧
      (row.delta.isZero = true ↔ TotalsAgree rules group.members.Covers sheet qbo) := by
  unfold groupRow at computed
  obtain ⟨sums, sumsEq, computed⟩ := bind_eq_ok_iff.mp computed
  obtain ⟨delta, difference, result⟩ := bind_eq_ok_iff.mp computed
  rw [pure_eq_ok_iff] at result
  rw [Money.checkedSub_eq_ok_iff] at difference
  subst result
  refine ⟨rfl, rfl, ?_⟩
  obtain ⟨ledgerSum, qboSum⟩ :=
    foldlM_addNumber distinct folded (numbersIn_nodup groupDistinct) sumsEq
  have covers : ∀ amount : TrialBalanceRow → Int,
      total (fun row => rules.Counts row ∧ row.number ∈ group.members.numbersIn sheet)
          amount sheet.rows =
        total (fun row => rules.Counts row ∧ group.members.Covers row.number)
          amount sheet.rows :=
    fun amount => total_congr fun row rowMem =>
      ⟨and_congr_right fun _ => mem_numbersIn rowMem, fun _ => rfl⟩
  rw [covers] at ledgerSum qboSum
  unfold TotalsAgree
  rw [Money.isZero_iff, difference, ledgerSum, qboSum, sub_eq_zero]

theorem mem_differing {tier : Tier} {rows : List TbDiffRow} {label : String} :
    label ∈ differing tier rows ↔
      ∃ row ∈ rows, row.tier = tier ∧ row.delta.isZero = false ∧ row.label = label := by
  unfold differing
  simp [and_assoc]

theorem mustFailures_nil_iff (distinct : (sheet.rows.map TrialBalanceRow.number).Nodup)
    (groupsDistinct : ∀ group ∈ rules.groups, group.members.Distinct) {diff : TbDiff}
    (computed : tbDiff sheet qbo rules = .ok diff) :
    diff.mustFailures = [] ↔ ∀ group ∈ rules.groups, group.tier = .must →
      TotalsAgree rules group.members.Covers sheet qbo := by
  unfold tbDiff groupRows at computed
  obtain ⟨rows, rowsEq, result⟩ := bind_eq_ok_iff.mp computed
  rw [pure_eq_ok_iff] at result
  subst result
  rw [liftM_money_eq_ok_iff', bind_eq_ok_iff] at rowsEq
  obtain ⟨qboById, folded, rowsEq⟩ := rowsEq
  dsimp only
  rw [List.eq_nil_iff_forall_not_mem]
  constructor
  · intro noFailure group groupMem isMust
    obtain ⟨row, rowMem, computed⟩ := exists_mem_of_mapM rowsEq groupMem
    obtain ⟨-, sameTier, agrees⟩ :=
      groupRow_eq_ok distinct folded (groupsDistinct group groupMem) computed
    rw [← agrees]
    by_contra differs
    exact noFailure row.label (mem_differing.mpr
      ⟨row, rowMem, sameTier.trans isMust, Bool.eq_false_iff.mpr differs, rfl⟩)
  · intro agree label labelMem
    obtain ⟨row, rowMem, isMust, differs, -⟩ := mem_differing.mp labelMem
    obtain ⟨group, groupMem, computed⟩ := exists_of_mem_mapM rowsEq rowMem
    obtain ⟨-, sameTier, agrees⟩ :=
      groupRow_eq_ok distinct folded (groupsDistinct group groupMem) computed
    rw [agrees.mpr (agree group groupMem (sameTier.symm.trans isMust))] at differs
    exact absurd differs (by decide)

end Groups

section Standard

variable {ledger : Ledger} {asOf : Date} {sheet : TrialBalance} {qbo : List QboTbRow}

theorem TotalsAgree.congr {rules : TierRules} {covers covers' : String → Prop}
    [DecidablePred covers] [DecidablePred covers']
    (same : ∀ number, covers number ↔ covers' number) :
    TotalsAgree rules covers sheet qbo ↔ TotalsAgree rules covers' sheet qbo := by
  have sameTotals : ∀ amount : TrialBalanceRow → Int,
      total (fun row => rules.Counts row ∧ covers row.number) amount sheet.rows =
        total (fun row => rules.Counts row ∧ covers' row.number) amount sheet.rows :=
    fun amount => total_congr fun row _ =>
      ⟨and_congr_right fun _ => same row.number, fun _ => rfl⟩
  unfold TotalsAgree
  rw [sameTotals, sameTotals]

/-- What must match to the cent, each as a total over the accounts that need no
mapping. -/
structure MustMatch (sheet : TrialBalance) (qbo : List QboTbRow) : Prop where
  checking : TotalsAgree .standard (fun number => number = "1100") sheet qbo
  creditCard : TotalsAgree .standard (fun number => number = "2100") sheet qbo
  receivable : TotalsAgree .standard (fun number => number = "1200" ∨ number = "2300")
    sheet qbo
  payable : TotalsAgree .standard (fun number => number = "2000" ∨ number = "2050")
    sheet qbo
  salesTax : TotalsAgree .standard (fun number => number = "2200") sheet qbo
  income : TotalsAgree .standard (fun number => "4".toList <+: number.toList) sheet qbo
  equity : TotalsAgree .standard (fun number => "3".toList <+: number.toList) sheet qbo

theorem mustGroups_agree_iff :
    (∀ group ∈ TierRules.standard.groups, group.tier = .must →
        TotalsAgree .standard group.members.Covers sheet qbo) ↔ MustMatch sheet qbo := by
  have one (listed : String) :
      TotalsAgree .standard (Members.numbers [listed]).Covers sheet qbo ↔
        TotalsAgree .standard (fun number => number = listed) sheet qbo :=
    TotalsAgree.congr fun number => List.mem_singleton
  have two (first second : String) :
      TotalsAgree .standard (Members.numbers [first, second]).Covers sheet qbo ↔
        TotalsAgree .standard (fun number => number = first ∨ number = second) sheet qbo :=
    TotalsAgree.congr fun number => by simp [Members.Covers]
  have lead (start : String) :
      TotalsAgree .standard (Members.startingWith start).Covers sheet qbo ↔
        TotalsAgree .standard (fun number => start.toList <+: number.toList) sheet qbo :=
    TotalsAgree.congr fun number => Iff.rfl
  constructor
  · intro agree
    have must : ∀ label members,
        (⟨label, .must, members⟩ : AccountGroup) ∈ TierRules.standard.groups →
          TotalsAgree .standard members.Covers sheet qbo :=
      fun label members groupMem => agree _ groupMem rfl
    exact ⟨(one _).mp (must _ _ (.head _)), (one _).mp (must _ _ (.tail _ (.head _))),
      (two _ _).mp (must _ _ (.tail _ (.tail _ (.head _)))),
      (two _ _).mp (must _ _ (.tail _ (.tail _ (.tail _ (.head _))))),
      (one _).mp (must _ _ (.tail _ (.tail _ (.tail _ (.tail _ (.head _)))))),
      (lead _).mp (must _ _ (.tail _ (.tail _ (.tail _ (.tail _ (.tail _ (.head _))))))),
      (lead _).mp
        (must _ _ (.tail _ (.tail _ (.tail _ (.tail _ (.tail _ (.tail _ (.head _))))))))⟩
  · intro agree group groupMem isMust
    simp only [TierRules.standard, List.mem_cons, List.not_mem_nil, or_false] at groupMem
    rcases groupMem with rfl | rfl | rfl | rfl | rfl | rfl | rfl | rfl | rfl | rfl | rfl |
      rfl | rfl | rfl | rfl | rfl | rfl
    · exact (one _).mpr agree.checking
    · exact (one _).mpr agree.creditCard
    · exact (two _ _).mpr agree.receivable
    · exact (two _ _).mpr agree.payable
    · exact (one _).mpr agree.salesTax
    · exact (lead _).mpr agree.income
    · exact (lead _).mpr agree.equity
    all_goals exact absurd isMust (by decide)

theorem standard_distinct : ∀ group ∈ TierRules.standard.groups, group.members.Distinct := by
  intro group groupMem
  simp only [TierRules.standard, List.mem_cons, List.not_mem_nil, or_false] at groupMem
  rcases groupMem with rfl | rfl | rfl | rfl | rfl | rfl | rfl | rfl | rfl | rfl | rfl |
    rfl | rfl | rfl | rfl | rfl | rfl <;>
  · simp [TierRules.group, TierRules.prefixGroup, Members.Distinct]

theorem trialBalance_numbers (computed : trialBalance ledger asOf = .ok sheet) :
    sheet.rows.map TrialBalanceRow.number = ledger.listAccounts.map Account.number := by
  unfold trialBalance at computed
  obtain ⟨raw, rawEq, folded⟩ := bind_eq_ok_iff.mp computed
  have rowNumbers : sheet.rows.map TrialBalanceRow.number =
      raw.map fun sums => sums.1.number := by
    refine foldlM_invariant (fun consumed (sheet : TrialBalance) =>
      sheet.rows.map TrialBalanceRow.number = consumed.map fun sums => sums.1.number)
      ?_ rfl folded
    intro consumed sums before after holds adds
    obtain ⟨account, debit, credit⟩ := sums
    unfold addTrialBalanceRow at adds
    simp only [bind_eq_ok_iff, liftM_money_eq_ok_iff', pure_eq_ok_iff] at adds
    obtain ⟨balance, -, debits, -, credits, -, rfl⟩ := adds
    rw [List.map_append, List.map_append, holds]
    rfl
  rw [rowNumbers]
  exact map_eq_of_mapM (fun account sums sumsEq => by
    rw [(accountSums_eq_ok sumsEq).1]) rawEq

theorem Ledger.WellFormed.trialBalance_numbers_nodup (wellFormed : ledger.WellFormed)
    (computed : trialBalance ledger asOf = .ok sheet) :
    (sheet.rows.map TrialBalanceRow.number).Nodup := by
  have numbersOfIds : ledger.listAccounts.map Account.number =
      (ledger.listAccounts.map Account.accountId).map AccountId.number := by
    rw [List.map_map]
    exact List.map_congr_left fun row rowMem =>
      wellFormed.accountNumbers row (Ledger.mem_listAccounts.mp rowMem)
  rw [trialBalance_numbers computed, numbersOfIds]
  exact wellFormed.listAccounts_nodup.map AccountId.number_injective

end Standard

/-- For the trial balance of a reachable ledger and any rows of QuickBooks, the
run reports no must-match failure exactly when all that must match does. -/
theorem parallelRun_passes_iff {ledger : Ledger} (reachable : Reachable ledger)
    {asOf : Date} {sheet : TrialBalance} (shown : trialBalance ledger asOf = .ok sheet)
    {qbo : List QboTbRow} {diff : TbDiff} (computed : tbDiff sheet qbo .standard = .ok diff) :
    diff.mustFailures = [] ↔ MustMatch sheet qbo := by
  rw [← mustGroups_agree_iff]
  exact mustFailures_nil_iff (reachable.wellFormed.trialBalance_numbers_nodup shown)
    standard_distinct computed

/-- Sales on an account that QuickBooks books on another. -/
def movedIncome : LedgerDocument where
  documentId := "entry-1"
  kind := .journalEntry
  txnDate := ⟨2026, 11, 2, Eq.refl true⟩
  lines :=
    [{ lineNo := 1, kind := .journal, amount := .fromMinor 10000,
       account := some (acct Chart.undepositedFunds), posting := some .debit },
      { lineNo := 2, kind := .journal, amount := .fromMinor 10000, «class» := some ⟨"foam"⟩,
        account := some ⟨"4130"⟩, posting := some .credit }]

def ledgerOfMovedIncome : Ledger :=
  (Ledger.createCompany "aquamentor").after
    [.addAccount "4130" "Foam sales" .income false (some "qbo-1") false,
      .addAccount "4140" "Sign sales" .income false (some "qbo-2") false,
      .saveAndPostDocument movedIncome [] "bookkeeper"]

def qboOfMovedIncome : List QboTbRow :=
  [⟨"qbo-2", "Sign sales", .fromMinor (-10000)⟩, ⟨"qbo-9", "Savings", .fromMinor 500⟩]

/-- What the run does not see of a sheet: an income account that differs, and a
QuickBooks row with a balance and no account. -/
def PassesDiffering (qbo : List QboTbRow) (sheet : TrialBalance) : Prop :=
  (tbDiff sheet qbo .standard).toOption.map TbDiff.mustFailures = some [] ∧
    (∃ row ∈ sheet.rows, row.classification = .income ∧ row.needsMapping = false ∧
      row.balance.minor ≠ mappedBalance qbo row) ∧
    ∃ qboRow ∈ qbo, qboRow.balance ≠ Money.zero ∧
      ∀ row ∈ sheet.rows, row.sourceRef ≠ some qboRow.qboAccountId

instance (qbo : List QboTbRow) : DecidablePred (PassesDiffering qbo) :=
  fun sheet => by
    unfold PassesDiffering
    infer_instance

/-- No failure is reported although both income accounts differ and a QuickBooks
row has no account. -/
theorem movedIncome_passes :
    Reachable ledgerOfMovedIncome ∧
      ∃ sheet, trialBalance ledgerOfMovedIncome ⟨2026, 12, 31, Eq.refl true⟩ = .ok sheet ∧
        PassesDiffering qboOfMovedIncome sheet := by
  refine ⟨⟨_, _, rfl⟩, ?_⟩
  obtain ⟨sheet, shown, passes⟩ := exists_ok_of_map_toOption
    (show (trialBalance ledgerOfMovedIncome ⟨2026, 12, 31, Eq.refl true⟩).toOption.map
      (fun sheet => decide (PassesDiffering qboOfMovedIncome sheet)) = some true
        by decide +kernel)
  exact ⟨sheet, shown, of_decide_eq_true passes⟩

/-- On the same ledger the income as a whole agrees, as all that must match. -/
theorem parallelRun_passes_iff_movedIncome :
    ∃ sheet diff, trialBalance ledgerOfMovedIncome ⟨2026, 12, 31, Eq.refl true⟩ = .ok sheet ∧
      tbDiff sheet qboOfMovedIncome .standard = .ok diff ∧
      (diff.mustFailures = [] ↔ MustMatch sheet qboOfMovedIncome) := by
  obtain ⟨sheet, shown, passes⟩ := exists_ok_of_map_toOption
    (show (trialBalance ledgerOfMovedIncome ⟨2026, 12, 31, Eq.refl true⟩).toOption.map
      (fun sheet => (tbDiff sheet qboOfMovedIncome .standard).toOption.isSome) = some true
        by decide +kernel)
  obtain ⟨diff, computed⟩ := Option.isSome_iff_exists.mp passes
  cases diffs : tbDiff sheet qboOfMovedIncome .standard with
  | error failure => simp [diffs, Except.toOption] at computed
  | ok diff =>
    exact ⟨sheet, diff, shown, diffs, parallelRun_passes_iff ⟨_, _, rfl⟩ shown diffs⟩

end QuickBooks
