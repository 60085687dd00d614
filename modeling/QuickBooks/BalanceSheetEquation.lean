import QuickBooks.LedgerHistories
import QuickBooks.ReportSums
import Mathlib.Data.List.Dedup

/-!
# The balance sheet equation

All entries dated up to a day net to zero.  The sheet counts the lines on
assets, liabilities and equity, and folds in the net income of the calendar
year of its date.  What it leaves out is the net income of earlier years, so
the two sides agree exactly when the earlier years' income, cost of goods sold
and expenses have been closed out to zero.
-/

namespace QuickBooks

open ExceptPrograms KeyedTotals

def onProfitAndLoss (ledger : Ledger) (posted : JournalEntry × JournalLine) : Prop :=
  (ledger.accountRow posted.2.account).any
    (fun row => row.classification.isProfitAndLoss) = true

instance (ledger : Ledger) : DecidablePred (onProfitAndLoss ledger) :=
  fun posted => inferInstanceAs (Decidable ((ledger.accountRow posted.2.account).any
    (fun row => row.classification.isProfitAndLoss) = true))

def netIncomeBefore (ledger : Ledger) (day : Date) : Int :=
  -netOfLines (fun posted => posted.1.entryDate < day ∧ onProfitAndLoss ledger posted)
    ledger

namespace Ledger

section Classification

variable {ledger : Ledger}

def sheetAccounts (ledger : Ledger) : List Account :=
  ledger.listAccounts.filter fun account => !account.classification.isProfitAndLoss

theorem WellFormed.mem_sheetAccounts (wellFormed : ledger.WellFormed)
    {posted : JournalEntry × JournalLine} (postedMem : posted ∈ ledger.lines) :
    posted.2.account ∈ (sheetAccounts ledger).map Account.accountId ↔
      ¬onProfitAndLoss ledger posted := by
  obtain ⟨row, rowMem, sameId⟩ := wellFormed.account_of_line postedMem
  have found := wellFormed.accountRow_of_mem rowMem
  rw [sameId] at found
  unfold onProfitAndLoss sheetAccounts
  rw [found, List.mem_map, Option.any_some]
  constructor
  · rintro ⟨listed, listedMem, listedId⟩
    obtain ⟨listedRow, outside⟩ := List.mem_filter.mp listedMem
    have sameRow := List.inj_on_of_nodup_map wellFormed.accountIds
      (mem_listAccounts.mp listedRow) rowMem (listedId.trans sameId.symm)
    rw [← sameRow]
    simpa using outside
  · intro outside
    refine ⟨row, List.mem_filter.mpr ⟨mem_listAccounts.mpr rowMem, ?_⟩, sameId⟩
    simpa using outside

/-- A group of the profit and loss names a used account and class, and its row
is the one of that account. -/
theorem mem_profitAndLossGroups {start finish : Date} {group : Account × Option ClassId} :
    group ∈ profitAndLossGroups ledger start finish ↔
      (group.1.accountId, group.2) ∈ usedGroups ledger start finish ∧
        ledger.accountRow group.1.accountId = some group.1 ∧
        group.1.classification.isProfitAndLoss = true := by
  unfold profitAndLossGroups
  rw [List.mem_insertionSort, List.mem_filterMap]
  constructor
  · rintro ⟨⟨account, «class»⟩, used, groupEq⟩
    obtain ⟨row, rowEq, rfl⟩ := Option.map_eq_some_iff.mp groupEq
    obtain ⟨found, isProfit⟩ := Option.filter_eq_some_iff.mp rowEq
    obtain ⟨-, sameId⟩ := accountRow_eq_some found
    dsimp only
    rw [sameId]
    exact ⟨used, found, isProfit⟩
  · rintro ⟨used, found, isProfit⟩
    refine ⟨(group.1.accountId, group.2), used, ?_⟩
    dsimp only
    rw [Option.map_eq_some_iff]
    exact ⟨group.1, Option.filter_eq_some_iff.mpr ⟨found, isProfit⟩, rfl⟩

theorem profitAndLossGroups_nodup (start finish : Date) :
    ((profitAndLossGroups ledger start finish).map
      fun group => (group.1.accountId, group.2)).Nodup := by
  unfold profitAndLossGroups
  rw [((List.perm_insertionSort _ _).map _).nodup_iff, List.map_filterMap]
  have distinct : (usedGroups ledger start finish).Nodup := List.nodup_dedup _
  refine distinct.filterMap ?_
  intro first second key firstEq secondEq
  have keyOf : ∀ group : AccountId × Option ClassId, ∀ named,
      named ∈ (((ledger.accountRow group.1).filter fun row =>
        row.classification.isProfitAndLoss).map fun row => (row, group.2)).map
          (fun group => (group.1.accountId, group.2)) → group = named := by
    intro group named namedEq
    obtain ⟨labelled, labelledEq, rfl⟩ := Option.map_eq_some_iff.mp namedEq
    obtain ⟨row, rowEq, rfl⟩ := Option.map_eq_some_iff.mp labelledEq
    obtain ⟨found, -⟩ := Option.filter_eq_some_iff.mp rowEq
    obtain ⟨-, sameId⟩ := accountRow_eq_some found
    dsimp only
    rw [sameId]
  rw [keyOf first key firstEq, keyOf second key secondEq]

theorem WellFormed.mem_profitAndLossGroups_iff (wellFormed : ledger.WellFormed)
    {start finish : Date} {posted : JournalEntry × JournalLine}
    (postedMem : posted ∈ ledger.lines)
    (between : start ≤ posted.1.entryDate ∧ posted.1.entryDate ≤ finish) :
    (posted.2.account, posted.2.class) ∈ (profitAndLossGroups ledger start finish).map
        (fun group => (group.1.accountId, group.2)) ↔
      onProfitAndLoss ledger posted := by
  obtain ⟨row, rowMem, sameId⟩ := wellFormed.account_of_line postedMem
  have found := wellFormed.accountRow_of_mem rowMem
  rw [sameId] at found
  unfold onProfitAndLoss
  rw [found, Option.any_some, List.mem_map]
  constructor
  · rintro ⟨group, groupMem, groupEq⟩
    obtain ⟨-, groupFound, isProfit⟩ := mem_profitAndLossGroups.mp groupMem
    rw [(Prod.mk.inj groupEq).1, found, Option.some_inj] at groupFound
    rw [groupFound]
    exact isProfit
  · intro isProfit
    refine ⟨(row, posted.2.class), mem_profitAndLossGroups.mpr ⟨?_, ?_, isProfit⟩, ?_⟩
    · unfold usedGroups
      rw [List.mem_dedup]
      refine List.mem_map.mpr ⟨posted, List.mem_filter.mpr ⟨postedMem, ?_⟩, ?_⟩
      · simpa using between
      · rw [sameId]
    · rw [sameId]
      exact found
    · rw [sameId]

end Classification

section Totals

variable {ledger : Ledger} {asOf : Date}

theorem sum_accountSums {accounts : List Account}
    (distinct : (accounts.map Account.accountId).Nodup)
    {raw : List (Account × Money × Money)}
    (computed : accounts.mapM (accountSums ledger asOf) = .ok raw) :
    (raw.map fun sums => sums.2.1.minor - sums.2.2.minor).sum =
      netOfLines (fun posted => posted.1.entryDate ≤ asOf ∧
        posted.2.account ∈ accounts.map Account.accountId) ledger := by
  have nets := map_eq_of_mapM
    (fun account sums sumsEq => (accountSums_eq_ok sumsEq).2) computed
  rw [nets]
  exact sum_postedThrough distinct asOf JournalLine.net

theorem sum_groupSums {start finish : Date} {groups : List (Account × Option ClassId)}
    (distinct : (groups.map fun group => (group.1.accountId, group.2)).Nodup)
    {raw : List ((Account × Option ClassId) × Money × Money)}
    (computed : groups.mapM (groupSums ledger start finish) = .ok raw) :
    (raw.map fun sums => sums.2.1.minor - sums.2.2.minor).sum =
      netOfLines (fun posted =>
        (start ≤ posted.1.entryDate ∧ posted.1.entryDate ≤ finish) ∧
          (posted.2.account, posted.2.class) ∈
            groups.map fun group => (group.1.accountId, group.2)) ledger := by
  have nets := map_eq_of_mapM
    (fun group sums sumsEq => (groupSums_eq_ok sumsEq).2) computed
  have fibers := sum_total_fibers
    (fun posted : JournalEntry × JournalLine =>
      start ≤ posted.1.entryDate ∧ posted.1.entryDate ≤ finish)
    (fun posted => posted.2.net) (fun posted => (posted.2.account, posted.2.class))
    distinct ledger.lines
  rw [List.map_map] at fibers
  rw [nets]
  refine fibers.trans ?_
  unfold netOfLines
  congr

theorem WellFormed.netIncome_eq (wellFormed : ledger.WellFormed) {start finish : Date}
    {results : ProfitAndLoss} (computed : profitAndLoss ledger start finish = .ok results) :
    results.netIncome.minor =
      -netOfLines (fun posted =>
        (start ≤ posted.1.entryDate ∧ posted.1.entryDate ≤ finish) ∧
          onProfitAndLoss ledger posted) ledger := by
  unfold profitAndLoss at computed
  obtain ⟨raw, rawEq, computed⟩ := bind_eq_ok_iff.mp computed
  obtain ⟨sections, folded, computed⟩ := bind_eq_ok_iff.mp computed
  obtain ⟨grossMargin, grossEq, computed⟩ := bind_eq_ok_iff.mp computed
  obtain ⟨netIncome, netEq, result⟩ := bind_eq_ok_iff.mp computed
  rw [pure_eq_ok_iff] at result
  subst result
  rw [liftM_money_eq_ok_iff', Money.checkedSub_eq_ok_iff] at grossEq netEq
  have sum := Sections.net_foldlM folded
  rw [sum_groupSums (profitAndLossGroups_nodup start finish) rawEq] at sum
  have listed : netOfLines (fun posted =>
        (start ≤ posted.1.entryDate ∧ posted.1.entryDate ≤ finish) ∧
          (posted.2.account, posted.2.class) ∈
            (profitAndLossGroups ledger start finish).map
              fun group => (group.1.accountId, group.2)) ledger =
      netOfLines (fun posted =>
        (start ≤ posted.1.entryDate ∧ posted.1.entryDate ≤ finish) ∧
          onProfitAndLoss ledger posted) ledger := by
    apply total_congr
    intro posted postedMem
    refine ⟨and_congr_right fun between => ?_, fun _ => rfl⟩
    rw [wellFormed.mem_profitAndLossGroups_iff postedMem between]
  rw [listed] at sum
  simp only [Sections.net, BySection.empty, Money.minor_zero] at sum
  rw [netEq, grossEq]
  omega

theorem WellFormed.sheetSections_net (wellFormed : ledger.WellFormed)
    {raw : List (Account × Money × Money)} {sections : SheetSections}
    (computed : (sheetAccounts ledger).mapM (accountSums ledger asOf) = .ok raw)
    (folded : raw.foldlM SheetSections.add
      ⟨BalanceSheetSection.empty, BalanceSheetSection.empty, BalanceSheetSection.empty⟩ =
        .ok sections) :
    sections.net = netOfLines (fun posted => posted.1.entryDate ≤ asOf ∧
      ¬onProfitAndLoss ledger posted) ledger := by
  have distinct : ((sheetAccounts ledger).map Account.accountId).Nodup :=
    wellFormed.listAccounts_nodup.sublist (List.filter_sublist.map _)
  have sum := SheetSections.net_foldlM folded
  rw [sum_accountSums distinct computed] at sum
  rw [sum]
  simp only [SheetSections.net, BalanceSheetSection.empty, Money.minor_zero, sub_zero,
    zero_add]
  apply total_congr
  intro posted postedMem
  exact ⟨and_congr_right fun _ => wellFormed.mem_sheetAccounts postedMem, fun _ => rfl⟩

theorem WellFormed.balanceSheet_gap (wellFormed : ledger.WellFormed) {sheet : BalanceSheet}
    (computed : balanceSheet ledger asOf = .ok sheet) :
    sheet.assets.total.minor - sheet.totalLiabilitiesAndEquity.minor =
      netIncomeBefore ledger asOf.startOfYear := by
  unfold balanceSheet at computed
  obtain ⟨raw, rawEq, computed⟩ := bind_eq_ok_iff.mp computed
  obtain ⟨sections, folded, computed⟩ := bind_eq_ok_iff.mp computed
  obtain ⟨results, resultsEq, computed⟩ := bind_eq_ok_iff.mp computed
  obtain ⟨equityTotal, equityEq, computed⟩ := bind_eq_ok_iff.mp computed
  obtain ⟨rightSide, rightEq, result⟩ := bind_eq_ok_iff.mp computed
  rw [pure_eq_ok_iff] at result
  subst result
  rw [liftM_money_eq_ok_iff', Money.checkedAdd_eq_ok_iff] at equityEq rightEq
  have sheetNet := wellFormed.sheetSections_net rawEq folded
  have income := wellFormed.netIncome_eq resultsEq
  -- all lines up to the day, split by account and then by year
  have everything := wellFormed.netOfLines_through asOf
  unfold netOfLines at everything
  rw [total_split _ _ (onProfitAndLoss ledger), total_split _ _
    (fun posted => asOf.startOfYear ≤ posted.1.entryDate)] at everything
  have thisYear : total (fun posted => (posted.1.entryDate ≤ asOf ∧
        onProfitAndLoss ledger posted) ∧ asOf.startOfYear ≤ posted.1.entryDate)
        (fun posted => posted.2.net) ledger.lines =
      netOfLines (fun posted =>
        (asOf.startOfYear ≤ posted.1.entryDate ∧ posted.1.entryDate ≤ asOf) ∧
          onProfitAndLoss ledger posted) ledger :=
    total_congr fun posted _ => ⟨by tauto, fun _ => rfl⟩
  have earlierYears : total (fun posted => (posted.1.entryDate ≤ asOf ∧
        onProfitAndLoss ledger posted) ∧ ¬asOf.startOfYear ≤ posted.1.entryDate)
        (fun posted => posted.2.net) ledger.lines =
      netOfLines (fun posted => posted.1.entryDate < asOf.startOfYear ∧
        onProfitAndLoss ledger posted) ledger := by
    apply total_congr
    intro posted _
    have earlier : posted.1.entryDate < asOf.startOfYear → posted.1.entryDate ≤ asOf :=
      fun before => before.le.trans asOf.startOfYear_le
    refine ⟨?_, fun _ => rfl⟩
    rw [not_le]
    tauto
  rw [thisYear, earlierYears] at everything
  unfold SheetSections.net at sheetNet
  unfold netIncomeBefore
  unfold netOfLines at sheetNet income everything ⊢
  dsimp only at rightEq ⊢
  omega

end Totals

end Ledger

section Equation

variable {ledger : Ledger} {asOf : Date} {sheet : BalanceSheet}

/-- The two sides of a balance sheet agree exactly when the earlier years have
no net income left in their accounts. -/
theorem balanceSheet_balances_iff (reachable : Reachable ledger)
    (computed : balanceSheet ledger asOf = .ok sheet) :
    sheet.assets.total = sheet.totalLiabilitiesAndEquity ↔
      netIncomeBefore ledger asOf.startOfYear = 0 := by
  rw [Money.ext_iff_minor, ← reachable.wellFormed.balanceSheet_gap computed]
  omega

end Equation

/-- A cash sale of 2026. -/
def saleOf2026 : LedgerDocument where
  documentId := "sale-1"
  kind := .salesReceipt
  txnDate := ⟨2026, 11, 2, Eq.refl true⟩
  contact := some ⟨.customer, "c1"⟩
  headerClass := some ⟨"foam"⟩
  lines := [{ lineNo := 1, kind := .item, amount := .fromMinor 10000 }]

def ledgerOf2026 : Ledger :=
  (Ledger.createCompany "aquamentor").after [.saveAndPostDocument saleOf2026 [] "bookkeeper"]

theorem ledgerOf2026_reachable : Reachable ledgerOf2026 :=
  ⟨_, _, rfl⟩

/-- In the next year the sale's income is in no section of the sheet. -/
theorem sheetOf2027_does_not_balance :
    Reachable ledgerOf2026 ∧
      ∃ sheet, balanceSheet ledgerOf2026 ⟨2027, 6, 30, Eq.refl true⟩ = .ok sheet ∧
        sheet.assets.total ≠ sheet.totalLiabilitiesAndEquity := by
  refine ⟨ledgerOf2026_reachable, ?_⟩
  obtain ⟨sheet, computed, totals⟩ := exists_ok_of_map_toOption
    (show (balanceSheet ledgerOf2026 ⟨2027, 6, 30, Eq.refl true⟩).toOption.map
        (fun sheet => (sheet.assets.total, sheet.totalLiabilitiesAndEquity)) =
      some (.fromMinor 10000, .fromMinor 0) by decide +kernel)
  rw [Prod.mk.injEq] at totals
  refine ⟨sheet, computed, ?_⟩
  rw [totals.1, totals.2]
  decide

/-- In the year of the sale nothing is left out. -/
theorem sheetOf2026_balances :
    ∃ sheet, balanceSheet ledgerOf2026 ⟨2026, 12, 31, Eq.refl true⟩ = .ok sheet ∧
      (sheet.assets.total = sheet.totalLiabilitiesAndEquity ↔
        netIncomeBefore ledgerOf2026 (Date.startOfYear ⟨2026, 12, 31, Eq.refl true⟩) = 0) := by
  obtain ⟨sheet, computed, -⟩ := exists_ok_of_map_toOption
    (show (balanceSheet ledgerOf2026 ⟨2026, 12, 31, Eq.refl true⟩).toOption.map
      (fun _ => ()) = some () by decide +kernel)
  exact ⟨sheet, computed, balanceSheet_balances_iff ledgerOf2026_reachable computed⟩

/-- The net incomes of two periods that follow one another add up to that of both together. -/
theorem netIncome_adds_up {ledger : Ledger} (reachable : Reachable ledger)
    {start middle next finish : Date}
    (follows : ∀ day : Date, day ≤ middle ↔ day < next) (starts : start ≤ next)
    (ends : middle ≤ finish) {first second whole : ProfitAndLoss}
    (firstIs : profitAndLoss ledger start middle = .ok first)
    (secondIs : profitAndLoss ledger next finish = .ok second)
    (wholeIs : profitAndLoss ledger start finish = .ok whole) :
    whole.netIncome.minor = first.netIncome.minor + second.netIncome.minor := by
  have wellFormed := reachable.wellFormed
  rw [wellFormed.netIncome_eq firstIs, wellFormed.netIncome_eq secondIs,
    wellFormed.netIncome_eq wholeIs]
  unfold netOfLines
  rw [total_split _ _ (fun posted => posted.1.entryDate ≤ middle), neg_add]
  congr 2 <;> refine total_congr fun posted _ => ⟨?_, fun _ => rfl⟩
  · constructor
    · rintro ⟨⟨⟨atLeast, -⟩, onResult⟩, early⟩
      exact ⟨⟨atLeast, early⟩, onResult⟩
    · rintro ⟨⟨atLeast, early⟩, onResult⟩
      exact ⟨⟨⟨atLeast, early.trans ends⟩, onResult⟩, early⟩
  · rw [follows posted.1.entryDate, not_lt]
    constructor
    · rintro ⟨⟨⟨-, atMost⟩, onResult⟩, late⟩
      exact ⟨⟨late, atMost⟩, onResult⟩
    · rintro ⟨⟨late, atMost⟩, onResult⟩
      exact ⟨⟨⟨starts.trans late, atMost⟩, onResult⟩, late⟩

/-- A sale's income is that of its year, and there is none in the half year after it. -/
theorem netIncome_adds_up_saleOf2026 :
    ∃ first second whole : ProfitAndLoss,
      profitAndLoss ledgerOf2026 ⟨2026, 1, 1, Eq.refl true⟩ ⟨2026, 12, 31, Eq.refl true⟩ =
        .ok first ∧
      profitAndLoss ledgerOf2026 ⟨2027, 1, 1, Eq.refl true⟩ ⟨2027, 6, 30, Eq.refl true⟩ =
        .ok second ∧
      whole.netIncome.minor = first.netIncome.minor + second.netIncome.minor := by
  obtain ⟨first, firstIs, -⟩ := exists_ok_of_map_toOption (show (profitAndLoss ledgerOf2026
    ⟨2026, 1, 1, Eq.refl true⟩ ⟨2026, 12, 31, Eq.refl true⟩).toOption.map (fun _ => ()) =
      some () by decide +kernel)
  obtain ⟨second, secondIs, -⟩ := exists_ok_of_map_toOption (show (profitAndLoss ledgerOf2026
    ⟨2027, 1, 1, Eq.refl true⟩ ⟨2027, 6, 30, Eq.refl true⟩).toOption.map (fun _ => ()) =
      some () by decide +kernel)
  obtain ⟨whole, wholeIs, -⟩ := exists_ok_of_map_toOption (show (profitAndLoss ledgerOf2026
    ⟨2026, 1, 1, Eq.refl true⟩ ⟨2027, 6, 30, Eq.refl true⟩).toOption.map (fun _ => ()) =
      some () by decide +kernel)
  refine ⟨first, second, whole, firstIs, secondIs,
    netIncome_adds_up ledgerOf2026_reachable (fun day => ?_) (by decide) (by decide) firstIs
      secondIs wholeIs⟩
  have inRange := day.bounds
  rw [Date.le_iff_code, ← not_le, Date.le_iff_code]
  simp only [Date.code]
  omega

end QuickBooks
