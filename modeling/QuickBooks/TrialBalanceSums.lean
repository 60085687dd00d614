import QuickBooks.ReportSums

/-!
# What the trial balance shows

The amounts that the trial balance shows for an account are the sums of the
lines posted to it, and zero for an account without a row.  The trial balance
succeeds exactly when the debits of all lines add up to an amount of money.
Both depend on the posted lines alone.
-/

namespace QuickBooks

open ExceptPrograms KeyedTotals

theorem AccountId.number_injective : Function.Injective AccountId.number := by
  rintro ⟨first⟩ ⟨second⟩ rfl
  rfl

/-- The debit, the credit and the balance that rows show for an account. -/
def amountsIn (rows : List SnapshotRow) (account : AccountId) : Money × Money × Money :=
  match rows.find? fun row => row.accountId = account with
  | some row => (row.debit, row.credit, row.balance)
  | none => (Money.zero, Money.zero, Money.zero)

def TrialBalance.amounts (sheet : TrialBalance) : AccountId → Money × Money × Money :=
  amountsIn (sheet.rows.map TrialBalanceRow.toSnapshot)

def sumThrough (amount : JournalLine → Money) (asOf : Date) (account : AccountId)
    (ledger : Ledger) : Int :=
  total (postedThrough asOf account) (fun posted => (amount posted.2).minor) ledger.lines

def totalThrough (amount : JournalLine → Money) (asOf : Date) (ledger : Ledger) : Int :=
  total (fun posted => posted.1.entryDate ≤ asOf)
    (fun posted => (amount posted.2).minor) ledger.lines

/-- The amounts are those of the posted lines. -/
structure ShowsThrough (ledger : Ledger) (asOf : Date) (account : AccountId)
    (amounts : Money × Money × Money) : Prop where
  debit : amounts.1.minor = sumThrough JournalLine.debit asOf account ledger
  credit : amounts.2.1.minor = sumThrough JournalLine.credit asOf account ledger
  balance : amounts.2.2.minor = sumThrough JournalLine.debit asOf account ledger -
    sumThrough JournalLine.credit asOf account ledger

theorem ShowsThrough.unique {ledger : Ledger} {asOf : Date} {account : AccountId}
    {first second : Money × Money × Money} (firstShows : ShowsThrough ledger asOf account first)
    (secondShows : ShowsThrough ledger asOf account second) : first = second := by
  obtain ⟨debit, credit, balance⟩ := first
  obtain ⟨debit', credit', balance'⟩ := second
  have sameDebit : debit = debit' :=
    Money.ext (firstShows.debit.trans secondShows.debit.symm)
  have sameCredit : credit = credit' :=
    Money.ext (firstShows.credit.trans secondShows.credit.symm)
  have sameBalance : balance = balance' :=
    Money.ext (firstShows.balance.trans secondShows.balance.symm)
  rw [sameDebit, sameCredit, sameBalance]

namespace Ledger

variable {ledger : Ledger} {asOf : Date}

section Sides

theorem WellFormed.side_nonneg (wellFormed : ledger.WellFormed)
    {posted : JournalEntry × JournalLine} (postedMem : posted ∈ ledger.lines) :
    0 ≤ posted.2.debit.minor ∧ 0 ≤ posted.2.credit.minor := by
  obtain ⟨row, rowMem, sameEntry, lineMem⟩ := mem_lines.mp postedMem
  rw [← sameEntry] at lineMem
  obtain ⟨-, sides, -⟩ := JournalEntry.isBalanced_spec (wellFormed.balanced row rowMem)
  exact JournalEntry.nonneg_of_sideOk (sides posted.2 lineMem)

theorem sumThrough_le (asOf : Date) (amount : JournalLine → Money)
    (nonneg : ∀ posted ∈ ledger.lines, 0 ≤ (amount posted.2).minor)
    (account : AccountId) :
    0 ≤ sumThrough amount asOf account ledger ∧
      sumThrough amount asOf account ledger ≤ totalThrough amount asOf ledger :=
  ⟨total_nonneg _ _ nonneg, total_le_total nonneg fun _ selected => selected.1⟩

theorem WellFormed.sum_sumThrough (wellFormed : ledger.WellFormed)
    (amount : JournalLine → Money) :
    (ledger.listAccounts.map fun account =>
      sumThrough amount asOf account.accountId ledger).sum =
        totalThrough amount asOf ledger := by
  unfold sumThrough totalThrough
  rw [sum_postedThrough wellFormed.listAccounts_nodup asOf fun line => (amount line).minor]
  apply total_congr
  intro posted postedMem
  have listed : posted.2.account ∈ ledger.listAccounts.map Account.accountId := by
    obtain ⟨row, rowMem, sameId⟩ := wellFormed.account_of_line postedMem
    rw [← sameId]
    exact List.mem_map_of_mem (mem_listAccounts.mpr rowMem)
  exact ⟨and_iff_left listed, fun _ => rfl⟩

theorem WellFormed.totalThrough_credit (wellFormed : ledger.WellFormed) (asOf : Date) :
    totalThrough JournalLine.credit asOf ledger =
      totalThrough JournalLine.debit asOf ledger := by
  have balanced := wellFormed.netOfLines_through asOf
  rw [← debits_sub_credits] at balanced
  unfold totalThrough
  omega

theorem WellFormed.sumThrough_of_unlisted (wellFormed : ledger.WellFormed) (asOf : Date)
    (amount : JournalLine → Money) {account : AccountId}
    (unlisted : ∀ row ∈ ledger.accounts, row.accountId ≠ account) :
    sumThrough amount asOf account ledger = 0 := by
  apply total_eq_zero
  intro posted postedMem selected
  obtain ⟨row, rowMem, sameId⟩ := wellFormed.account_of_line postedMem
  exact absurd (sameId.trans selected.2) (unlisted row rowMem)

end Sides

section Rows

theorem sumColumn_account_eq_ok_iff {amount : JournalLine → Money} {account : AccountId}
    {sum : Money} :
    sumColumn amount (postedThrough asOf account) ledger = .ok sum ↔
      sum.minor = sumThrough amount asOf account ledger :=
  sumColumn_eq_ok_iff

theorem accountSums_eq_ok_iff {account : Account} {sums : Account × Money × Money} :
    accountSums ledger asOf account = .ok sums ↔
      sums.1 = account ∧
        sums.2.1.minor = sumThrough JournalLine.debit asOf account.accountId ledger ∧
        sums.2.2.minor = sumThrough JournalLine.credit asOf account.accountId ledger := by
  obtain ⟨listed, debit, credit⟩ := sums
  unfold accountSums
  simp only [bind_eq_ok_iff, pure_eq_ok_iff, sumColumn_account_eq_ok_iff, Prod.mk.injEq]
  constructor
  · rintro ⟨debit, debitSum, credit, creditSum, rfl, rfl, rfl⟩
    exact ⟨rfl, debitSum, creditSum⟩
  · rintro ⟨rfl, debitSum, creditSum⟩
    exact ⟨debit, debitSum, credit, creditSum, rfl, rfl, rfl⟩

theorem addTrialBalanceRow_eq_ok {before after : TrialBalance}
    {sums : Account × Money × Money} (added : addTrialBalanceRow before sums = .ok after) :
    ∃ row, after.rows = before.rows ++ [row] ∧ row.accountId = sums.1.accountId ∧
      row.debit = sums.2.1 ∧ row.credit = sums.2.2 ∧
      row.balance.minor = sums.2.1.minor - sums.2.2.minor ∧
      after.totalDebits.minor = before.totalDebits.minor + sums.2.1.minor ∧
      after.totalCredits.minor = before.totalCredits.minor + sums.2.2.minor := by
  obtain ⟨account, debit, credit⟩ := sums
  unfold addTrialBalanceRow at added
  simp only [bind_eq_ok_iff, liftM_money_eq_ok_iff', pure_eq_ok_iff,
    Money.checkedSub_eq_ok_iff, Money.checkedAdd_eq_ok_iff] at added
  obtain ⟨balance, balanceEq, debits, debitsEq, credits, creditsEq, rfl⟩ := added
  exact ⟨_, rfl, rfl, rfl, rfl, balanceEq, debitsEq, creditsEq⟩

/-- The rows are one for each of the sums, and the totals their sums. -/
structure Tabulates (consumed : List (Account × Money × Money)) (sheet : TrialBalance) :
    Prop where
  rowOf : ∀ row ∈ sheet.rows, ∃ sums ∈ consumed, row.accountId = sums.1.accountId ∧
    row.debit = sums.2.1 ∧ row.credit = sums.2.2 ∧
    row.balance.minor = sums.2.1.minor - sums.2.2.minor
  listed : ∀ sums ∈ consumed, ∃ row ∈ sheet.rows, row.accountId = sums.1.accountId
  debits : sheet.totalDebits.minor = (consumed.map fun sums => sums.2.1.minor).sum
  credits : sheet.totalCredits.minor = (consumed.map fun sums => sums.2.2.minor).sum

theorem tabulates_foldlM {raw : List (Account × Money × Money)} {sheet : TrialBalance}
    (folded : raw.foldlM addTrialBalanceRow ⟨[], Money.zero, Money.zero, []⟩ = .ok sheet) :
    Tabulates raw sheet := by
  apply foldlM_invariant Tabulates _ _ folded
  · intro consumed sums before after holds step
    obtain ⟨row, rowsEq, sameId, debit, credit, balance, debits, credits⟩ :=
      addTrialBalanceRow_eq_ok step
    refine ⟨?_, ?_, ?_, ?_⟩
    · intro shown shownMem
      rw [rowsEq] at shownMem
      rcases List.mem_append.mp shownMem with old | new
      · obtain ⟨source, sourceMem, shows⟩ := holds.rowOf shown old
        exact ⟨source, List.mem_append_left _ sourceMem, shows⟩
      · rw [List.mem_singleton.mp new]
        exact ⟨sums, by simp, sameId, debit, credit, balance⟩
    · intro source sourceMem
      rw [rowsEq]
      rcases List.mem_append.mp sourceMem with old | new
      · obtain ⟨shown, shownMem, shows⟩ := holds.listed source old
        exact ⟨shown, List.mem_append_left _ shownMem, shows⟩
      · rw [List.mem_singleton.mp new]
        exact ⟨row, by simp, sameId⟩
    · rw [debits, holds.debits]
      simp
    · rw [credits, holds.credits]
      simp
  · exact ⟨by simp, by simp, rfl, rfl⟩

theorem exists_foldlM_addTrialBalanceRow {raw : List (Account × Money × Money)}
    (nonneg : ∀ sums ∈ raw, 0 ≤ sums.2.1.minor ∧ 0 ≤ sums.2.2.minor)
    (start : TrialBalance)
    (startNonneg : 0 ≤ start.totalDebits.minor ∧ 0 ≤ start.totalCredits.minor)
    (debitsFit : start.totalDebits.minor + (raw.map fun sums => sums.2.1.minor).sum ≤
      9223372036854775807)
    (creditsFit : start.totalCredits.minor + (raw.map fun sums => sums.2.2.minor).sum ≤
      9223372036854775807) :
    ∃ finish, raw.foldlM addTrialBalanceRow start = .ok finish := by
  induction raw generalizing start with
  | nil => exact ⟨start, rfl⟩
  | cons sums raw ih =>
    obtain ⟨account, debit, credit⟩ := sums
    obtain ⟨debitNonneg, creditNonneg⟩ := nonneg _ List.mem_cons_self
    have restNonneg : ∀ sums ∈ raw, 0 ≤ sums.2.1.minor ∧ 0 ≤ sums.2.2.minor :=
      fun sums sumsMem => nonneg sums (List.mem_cons_of_mem _ sumsMem)
    have debitsRest : 0 ≤ (raw.map fun sums => sums.2.1.minor).sum := by
      apply List.sum_nonneg
      intro value valueMem
      obtain ⟨sums, sumsMem, rfl⟩ := List.mem_map.mp valueMem
      exact (restNonneg sums sumsMem).1
    have creditsRest : 0 ≤ (raw.map fun sums => sums.2.2.minor).sum := by
      apply List.sum_nonneg
      intro value valueMem
      obtain ⟨sums, sumsMem, rfl⟩ := List.mem_map.mp valueMem
      exact (restNonneg sums sumsMem).2
    rw [List.map_cons, List.sum_cons] at debitsFit creditsFit
    dsimp only at debitNonneg creditNonneg debitsFit creditsFit
    obtain ⟨balance, balanceEq⟩ : ∃ balance, debit.checkedSub credit = .ok balance := by
      rw [Money.exists_checkedSub_iff]
      constructor <;> omega
    obtain ⟨debits, debitsEq⟩ : ∃ debits, start.totalDebits.checkedAdd debit = .ok debits := by
      rw [Money.exists_checkedAdd_iff]
      constructor <;> omega
    obtain ⟨credits, creditsEq⟩ : ∃ credits,
        start.totalCredits.checkedAdd credit = .ok credits := by
      rw [Money.exists_checkedAdd_iff]
      constructor <;> omega
    obtain ⟨next, added⟩ : ∃ next,
        addTrialBalanceRow start (account, debit, credit) = .ok next := by
      unfold addTrialBalanceRow
      simp only [bind_eq_ok_iff, liftM_money_eq_ok_iff', pure_eq_ok_iff]
      exact ⟨_, balance, balanceEq, debits, debitsEq, credits, creditsEq, rfl⟩
    obtain ⟨row, -, -, -, -, -, debitsNext, creditsNext⟩ := addTrialBalanceRow_eq_ok added
    dsimp only at debitsNext creditsNext
    obtain ⟨finish, folded⟩ := ih restNonneg next (by omega) (by omega) (by omega)
    refine ⟨finish, ?_⟩
    rw [List.foldlM_cons, bind_eq_ok_iff]
    exact ⟨next, added, folded⟩

end Rows

section Sheet

theorem trialBalance_eq_ok {sheet : TrialBalance}
    (computed : trialBalance ledger asOf = .ok sheet) :
    ∃ raw, ledger.listAccounts.mapM (accountSums ledger asOf) = .ok raw ∧
      Tabulates raw sheet := by
  unfold trialBalance at computed
  obtain ⟨raw, rawEq, folded⟩ := bind_eq_ok_iff.mp computed
  exact ⟨raw, rawEq, tabulates_foldlM folded⟩

theorem WellFormed.showsThrough (wellFormed : ledger.WellFormed) {sheet : TrialBalance}
    (computed : trialBalance ledger asOf = .ok sheet) (account : AccountId) :
    ShowsThrough ledger asOf account (sheet.amounts account) := by
  obtain ⟨raw, rawEq, tabulates⟩ := trialBalance_eq_ok computed
  have rawSums : ∀ sums ∈ raw, ∃ row ∈ ledger.listAccounts,
      accountSums ledger asOf row = .ok sums :=
    fun sums sumsMem => exists_of_mem_mapM rawEq sumsMem
  unfold TrialBalance.amounts amountsIn
  cases found : (sheet.rows.map TrialBalanceRow.toSnapshot).find?
      fun row => decide (row.accountId = account) with
  | some shown =>
    have sameId := List.find?_some found
    rw [decide_eq_true_eq] at sameId
    obtain ⟨row, rowMem, rfl⟩ := List.mem_map.mp (List.mem_of_find?_eq_some found)
    obtain ⟨sums, sumsMem, rowId, debit, credit, balance⟩ := tabulates.rowOf row rowMem
    obtain ⟨source, -, sourceSums⟩ := rawSums sums sumsMem
    obtain ⟨sourceEq, debitSum, creditSum⟩ := accountSums_eq_ok_iff.mp sourceSums
    have rowAccount : source.accountId = account := by
      rw [← sourceEq, ← rowId]
      exact sameId
    rw [rowAccount] at debitSum creditSum
    constructor
    · exact (congrArg Money.minor debit).trans debitSum
    · exact (congrArg Money.minor credit).trans creditSum
    · rw [← debitSum, ← creditSum]
      exact balance
  | none =>
    have unlisted : ∀ row ∈ ledger.accounts, row.accountId ≠ account := by
      intro row rowMem sameId
      obtain ⟨sums, sumsMem, rowSums⟩ :=
        exists_mem_of_mapM rawEq (mem_listAccounts.mpr rowMem)
      obtain ⟨sumsEq, -, -⟩ := accountSums_eq_ok_iff.mp rowSums
      obtain ⟨shown, shownMem, shownId⟩ := tabulates.listed sums sumsMem
      rw [List.find?_eq_none] at found
      apply found _ (List.mem_map_of_mem shownMem)
      rw [decide_eq_true_eq, ← sameId, ← sumsEq, ← shownId]
      rfl
    have noDebits := wellFormed.sumThrough_of_unlisted asOf JournalLine.debit unlisted
    have noCredits := wellFormed.sumThrough_of_unlisted asOf JournalLine.credit unlisted
    constructor
    · exact noDebits.symm
    · exact noCredits.symm
    · rw [noDebits, noCredits]
      rfl

theorem WellFormed.trialBalance_totals (wellFormed : ledger.WellFormed)
    {sheet : TrialBalance} (computed : trialBalance ledger asOf = .ok sheet) :
    sheet.totalDebits.minor = totalThrough JournalLine.debit asOf ledger ∧
      sheet.totalCredits.minor = totalThrough JournalLine.credit asOf ledger := by
  obtain ⟨raw, rawEq, tabulates⟩ := trialBalance_eq_ok computed
  constructor
  · rw [tabulates.debits, map_eq_of_mapM (fun account sums sumsEq =>
      (accountSums_eq_ok_iff.mp sumsEq).2.1) rawEq]
    exact wellFormed.sum_sumThrough JournalLine.debit
  · rw [tabulates.credits, map_eq_of_mapM (fun account sums sumsEq =>
      (accountSums_eq_ok_iff.mp sumsEq).2.2) rawEq]
    exact wellFormed.sum_sumThrough JournalLine.credit

theorem WellFormed.trialBalance_succeeds_iff (wellFormed : ledger.WellFormed)
    (asOf : Date) :
    (∃ sheet, trialBalance ledger asOf = .ok sheet) ↔
      totalThrough JournalLine.debit asOf ledger ≤ 9223372036854775807 := by
  constructor
  · rintro ⟨sheet, computed⟩
    rw [← (wellFormed.trialBalance_totals computed).1]
    exact sheet.totalDebits.cents.le_upper
  · intro fits
    have creditsEq := wellFormed.totalThrough_credit asOf
    have debitBounds := sumThrough_le asOf JournalLine.debit
      fun posted postedMem => (wellFormed.side_nonneg postedMem).1
    have creditBounds := sumThrough_le asOf JournalLine.credit
      fun posted postedMem => (wellFormed.side_nonneg postedMem).2
    obtain ⟨raw, rawEq⟩ : ∃ raw,
        ledger.listAccounts.mapM (accountSums ledger asOf) = .ok raw := by
      apply exists_mapM_ok
      intro account _
      have debits := debitBounds account.accountId
      have credits := creditBounds account.accountId
      exact ⟨(account,
          .fromMinor (sumThrough JournalLine.debit asOf account.accountId ledger) (decide_eq_true (by omega)),
          .fromMinor (sumThrough JournalLine.credit asOf account.accountId ledger) (decide_eq_true (by omega))),
        accountSums_eq_ok_iff.mpr ⟨rfl, rfl, rfl⟩⟩
    have debitSums : (raw.map fun sums => sums.2.1.minor).sum =
        totalThrough JournalLine.debit asOf ledger := by
      rw [map_eq_of_mapM (fun account sums sumsEq =>
        (accountSums_eq_ok_iff.mp sumsEq).2.1) rawEq]
      exact wellFormed.sum_sumThrough JournalLine.debit
    have creditSums : (raw.map fun sums => sums.2.2.minor).sum =
        totalThrough JournalLine.credit asOf ledger := by
      rw [map_eq_of_mapM (fun account sums sumsEq =>
        (accountSums_eq_ok_iff.mp sumsEq).2.2) rawEq]
      exact wellFormed.sum_sumThrough JournalLine.credit
    have nonneg : ∀ sums ∈ raw, 0 ≤ sums.2.1.minor ∧ 0 ≤ sums.2.2.minor := by
      intro sums sumsMem
      obtain ⟨account, -, sumsEq⟩ := exists_of_mem_mapM rawEq sumsMem
      obtain ⟨-, debit, credit⟩ := accountSums_eq_ok_iff.mp sumsEq
      rw [debit, credit]
      exact ⟨(debitBounds account.accountId).1, (creditBounds account.accountId).1⟩
    obtain ⟨sheet, folded⟩ := exists_foldlM_addTrialBalanceRow nonneg
      ⟨[], Money.zero, Money.zero, []⟩ ⟨le_rfl, le_rfl⟩
      (by simpa [debitSums] using fits) (by simpa [creditSums, creditsEq] using fits)
    refine ⟨sheet, ?_⟩
    unfold trialBalance
    rw [bind_eq_ok_iff]
    exact ⟨raw, rawEq, folded⟩

end Sheet

end Ledger

end QuickBooks
