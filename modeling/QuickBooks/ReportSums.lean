import QuickBooks.WellFormedLedgers

/-!
# What the reports add up

Every report is a fold over sums of posted lines.  The sums of one account are
the debits and the credits of its lines; the totals of the balance sheet and of
the profit and loss are nets of the lines on the accounts they list.  In a
well-formed ledger every posted line is on exactly one listed account, so the
totals are nets of lines selected by date and by kind of account alone.
-/

namespace QuickBooks

open ExceptPrograms KeyedTotals

def netOfLines (selects : JournalEntry × JournalLine → Prop) [DecidablePred selects]
    (ledger : Ledger) : Int :=
  total selects (fun posted => posted.2.net) ledger.lines

namespace Ledger

section Lines

variable {ledger : Ledger}

theorem WellFormed.accountRow_of_mem (wellFormed : ledger.WellFormed) {row : Account}
    (rowMem : row ∈ ledger.accounts) : ledger.accountRow row.accountId = some row := by
  obtain ⟨found, foundEq⟩ := accountRow_isSome rowMem
  obtain ⟨foundMem, sameId⟩ := accountRow_eq_some foundEq
  rw [foundEq, List.inj_on_of_nodup_map wellFormed.accountIds foundMem rowMem sameId]

theorem mem_lines {posted : JournalEntry × JournalLine} :
    posted ∈ ledger.lines ↔
      ∃ row ∈ ledger.journal, row.entry = posted.1 ∧ posted.2 ∈ posted.1.lines := by
  unfold Ledger.lines
  rw [List.mem_flatMap]
  constructor
  · rintro ⟨row, rowMem, postedMem⟩
    obtain ⟨line, lineMem, rfl⟩ := List.mem_map.mp postedMem
    exact ⟨row, rowMem, rfl, lineMem⟩
  · rintro ⟨row, rowMem, sameEntry, lineMem⟩
    refine ⟨row, rowMem, List.mem_map.mpr ⟨posted.2, ?_, ?_⟩⟩
    · rw [sameEntry]
      exact lineMem
    · rw [sameEntry]

theorem WellFormed.account_of_line (wellFormed : ledger.WellFormed)
    {posted : JournalEntry × JournalLine} (postedMem : posted ∈ ledger.lines) :
    ∃ row ∈ ledger.accounts, row.accountId = posted.2.account := by
  obtain ⟨row, rowMem, sameEntry, lineMem⟩ := mem_lines.mp postedMem
  rw [← sameEntry] at lineMem
  have passes := wellFormed.classRule row rowMem posted.2 lineMem
  exact ((checkClassRule_eq_ok_iff wellFormed.accountNumbers).mp passes).1

theorem mem_listAccounts {row : Account} :
    row ∈ ledger.listAccounts ↔ row ∈ ledger.accounts :=
  List.mem_insertionSort _

theorem WellFormed.listAccounts_nodup (wellFormed : ledger.WellFormed) :
    (ledger.listAccounts.map Account.accountId).Nodup :=
  (((List.perm_insertionSort _ _).map _).nodup_iff).mpr wellFormed.accountIds

theorem WellFormed.netOfLines_through (wellFormed : ledger.WellFormed) (asOf : Date) :
    netOfLines (fun posted => posted.1.entryDate ≤ asOf) ledger = 0 := by
  unfold netOfLines lines
  rw [total_flatMap]
  apply List.sum_eq_zero
  intro value valueMem
  obtain ⟨row, rowMem, rfl⟩ := List.mem_map.mp valueMem
  rw [total_map]
  by_cases included : row.entry.entryDate ≤ asOf
  · obtain ⟨-, -, sameTotal⟩ := JournalEntry.isBalanced_spec (wellFormed.balanced row rowMem)
    unfold JournalLine.net
    rw [total_sub, total_of_forall _ _ fun _ _ => included,
      total_of_forall _ _ fun _ _ => included, sameTotal, sub_self]
  · exact total_eq_zero _ _ fun _ _ selected => absurd selected included

theorem sum_postedThrough {accounts : List Account}
    (distinct : (accounts.map Account.accountId).Nodup) (asOf : Date)
    (amount : JournalLine → Int) :
    (accounts.map fun account => total (postedThrough asOf account.accountId)
      (fun posted => amount posted.2) ledger.lines).sum =
      total (fun posted => posted.1.entryDate ≤ asOf ∧
        posted.2.account ∈ accounts.map Account.accountId)
        (fun posted => amount posted.2) ledger.lines := by
  have fibers := sum_total_fibers
    (fun posted : JournalEntry × JournalLine => posted.1.entryDate ≤ asOf)
    (fun posted => amount posted.2) (fun posted => posted.2.account) distinct ledger.lines
  rw [List.map_map] at fibers
  exact fibers

end Lines

end Ledger

section Sums

variable {ledger : Ledger} {asOf : Date}

theorem sumColumn_eq_ok_iff {amount : JournalLine → Money}
    {selects : JournalEntry × JournalLine → Prop} [DecidablePred selects]
    {sum : Money} :
    sumColumn amount selects ledger = .ok sum ↔
      sum.minor = total selects (fun posted => (amount posted.2).minor) ledger.lines := by
  unfold sumColumn
  rw [orRefuse_eq_ok_iff, Money.ofMinor?_eq_some_iff]

theorem debits_sub_credits (selects : JournalEntry × JournalLine → Prop)
    [DecidablePred selects] :
    total selects (fun posted => posted.2.debit.minor) ledger.lines -
        total selects (fun posted => posted.2.credit.minor) ledger.lines =
      netOfLines selects ledger := by
  unfold netOfLines JournalLine.net
  rw [total_sub]

theorem accountSums_eq_ok {account : Account} {sums : Account × Money × Money}
    (computed : accountSums ledger asOf account = .ok sums) :
    sums.1 = account ∧
      sums.2.1.minor - sums.2.2.minor =
        netOfLines (postedThrough asOf account.accountId) ledger := by
  unfold accountSums at computed
  obtain ⟨debit, debitSum, rest⟩ := bind_eq_ok_iff.mp computed
  obtain ⟨credit, creditSum, result⟩ := bind_eq_ok_iff.mp rest
  rw [pure_eq_ok_iff] at result
  subst result
  rw [sumColumn_eq_ok_iff] at debitSum creditSum
  exact ⟨rfl, by rw [debitSum, creditSum, debits_sub_credits]⟩

theorem groupSums_eq_ok {start finish : Date} {group : Account × Option ClassId}
    {sums : (Account × Option ClassId) × Money × Money}
    (computed : groupSums ledger start finish group = .ok sums) :
    sums.1 = group ∧
      sums.2.1.minor - sums.2.2.minor =
        netOfLines (postedBetween start finish (group.1.accountId, group.2)) ledger := by
  unfold groupSums at computed
  obtain ⟨debit, debitSum, rest⟩ := bind_eq_ok_iff.mp computed
  obtain ⟨credit, creditSum, result⟩ := bind_eq_ok_iff.mp rest
  rw [pure_eq_ok_iff] at result
  subst result
  rw [sumColumn_eq_ok_iff] at debitSum creditSum
  exact ⟨rfl, by rw [debitSum, creditSum, debits_sub_credits]⟩

end Sums

section Folds

def SheetSections.net (sections : SheetSections) : Int :=
  sections.assets.total.minor - sections.liabilities.total.minor -
    sections.equity.total.minor

def Sections.net (sections : Sections) : Int :=
  sections.income.total.minor - sections.cogs.total.minor -
    sections.expense.total.minor

theorem BalanceSheetSection.total_add {before after : BalanceSheetSection}
    {account : Account} {amount : Money}
    (added : before.add account amount = .ok after) :
    after.total.minor = before.total.minor + amount.minor := by
  unfold BalanceSheetSection.add at added
  split_ifs at added with isZero
  · rw [pure_eq_ok_iff] at added
    subst added
    rw [Money.isZero_iff.mp isZero, add_zero]
  · obtain ⟨total, sum, result⟩ := bind_eq_ok_iff.mp added
    rw [pure_eq_ok_iff] at result
    subst result
    rw [liftM_money_eq_ok_iff', Money.checkedAdd_eq_ok_iff] at sum
    exact sum

theorem BySection.total_add {before after : BySection} {account : AccountId}
    {«class» : Option ClassId} {amount : Money}
    (added : before.add account «class» amount = .ok after) :
    after.total.minor = before.total.minor + amount.minor := by
  unfold BySection.add at added
  obtain ⟨byAccount, -, rest⟩ := bind_eq_ok_iff.mp added
  obtain ⟨byClass, -, rest⟩ := bind_eq_ok_iff.mp rest
  obtain ⟨total, sum, result⟩ := bind_eq_ok_iff.mp rest
  rw [pure_eq_ok_iff] at result
  subst result
  rw [liftM_money_eq_ok_iff', Money.checkedAdd_eq_ok_iff] at sum
  exact sum

theorem SheetSections.net_add {before after : SheetSections}
    {sums : Account × Money × Money} (added : before.add sums = .ok after) :
    after.net = before.net + (sums.2.1.minor - sums.2.2.minor) := by
  obtain ⟨account, debit, credit⟩ := sums
  unfold SheetSections.add at added
  dsimp only at added ⊢
  split at added <;>
  · obtain ⟨amount, difference, rest⟩ := bind_eq_ok_iff.mp added
    obtain ⟨filed, filedEq, result⟩ := bind_eq_ok_iff.mp rest
    rw [pure_eq_ok_iff] at result
    subst result
    rw [liftM_money_eq_ok_iff', Money.checkedSub_eq_ok_iff] at difference
    have moved := BalanceSheetSection.total_add filedEq
    simp only [SheetSections.net, moved, difference]
    omega

theorem Sections.net_add {before after : Sections}
    {sums : (Account × Option ClassId) × Money × Money}
    (added : before.add sums = .ok after) :
    after.net = before.net - (sums.2.1.minor - sums.2.2.minor) := by
  obtain ⟨⟨account, «class»⟩, debit, credit⟩ := sums
  unfold Sections.add at added
  dsimp only at added ⊢
  split at added <;>
  · obtain ⟨amount, difference, rest⟩ := bind_eq_ok_iff.mp added
    obtain ⟨filed, filedEq, result⟩ := bind_eq_ok_iff.mp rest
    rw [pure_eq_ok_iff] at result
    subst result
    rw [liftM_money_eq_ok_iff', Money.checkedSub_eq_ok_iff] at difference
    have moved := BySection.total_add filedEq
    simp only [Sections.net, moved, difference]
    omega

theorem SheetSections.net_foldlM {raw : List (Account × Money × Money)}
    {start finish : SheetSections}
    (folded : raw.foldlM SheetSections.add start = .ok finish) :
    finish.net = start.net + (raw.map fun sums => sums.2.1.minor - sums.2.2.minor).sum := by
  apply foldlM_invariant (fun consumed sections => sections.net =
    start.net + (consumed.map fun sums => sums.2.1.minor - sums.2.2.minor).sum) _ _ folded
  · intro consumed sums before after holds step
    rw [SheetSections.net_add step, holds]
    simp
    omega
  · simp

theorem Sections.net_foldlM {raw : List ((Account × Option ClassId) × Money × Money)}
    {start finish : Sections} (folded : raw.foldlM Sections.add start = .ok finish) :
    finish.net = start.net - (raw.map fun sums => sums.2.1.minor - sums.2.2.minor).sum := by
  apply foldlM_invariant (fun consumed sections => sections.net =
    start.net - (consumed.map fun sums => sums.2.1.minor - sums.2.2.minor).sum) _ _ folded
  · intro consumed sums before after holds step
    rw [Sections.net_add step, holds]
    simp
    omega
  · simp

end Folds

end QuickBooks
