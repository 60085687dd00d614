import QuickBooks.BalanceSheetEquation
import QuickBooks.GeneralLedger
import QuickBooks.TrialBalanceSums

/-!
# The general ledger agrees with the trial balance

The rows of one account, in the order of their dates, fill its section: what
was posted before the first day is carried in, and every listed line leaves the
partial sum.  The rows through the last day are the lines that the trial
balance of that day sums up, so the closing balance is the account's balance
there.
-/

namespace QuickBooks

open ConsecutiveGroups ExceptPrograms KeyedTotals

def GlLineRow.net (row : GlLineRow) : Int :=
  row.debit.minor - row.credit.minor

def GlLine.net (line : GlLine) : Int :=
  line.debit.minor - line.credit.minor

@[simp]
theorem GlLineRow.net_listed (row : GlLineRow) (balance : Money) :
    (row.listed balance).net = row.net :=
  rfl

@[simp]
theorem GlLineRow.runningBalance_listed (row : GlLineRow) (balance : Money) :
    (row.listed balance).runningBalance = balance :=
  rfl

section Rows

variable {ledger : Ledger} {entryText : Nat → String} {finish : Date}
  {account : Option AccountId}

namespace Ledger

theorem WellFormed.joined_account (wellFormed : ledger.WellFormed) {joined : JoinedLine}
    (joinedMem : joined ∈ ledger.joinedLines) :
    joined.account ∈ ledger.accounts ∧
      joined.account.accountId = joined.line.account ∧
      joined.account.number = joined.account.accountId.number := by
  obtain ⟨posted, -, lineMem⟩ := List.mem_flatMap.mp joinedMem
  obtain ⟨line, -, found⟩ := List.mem_filterMap.mp lineMem
  obtain ⟨row, rowEq, rfl⟩ := Option.map_eq_some_iff.mp found
  obtain ⟨rowMem, sameId⟩ := accountRow_eq_some rowEq
  exact ⟨rowMem, sameId, wellFormed.accountNumbers row rowMem⟩

theorem WellFormed.joinedLines_map (wellFormed : ledger.WellFormed) :
    ledger.joinedLines.map (fun joined => (joined.posted.entry, joined.line)) =
      ledger.lines := by
  unfold joinedLines lines
  rw [List.map_flatMap]
  apply List.flatMap_congr
  intro posted postedMem
  rw [List.map_filterMap]
  have joins : ∀ line ∈ posted.entry.lines,
      ((ledger.accountRow line.account).map fun row => JoinedLine.mk row posted line).map
        (fun joined => (joined.posted.entry, joined.line)) = some (posted.entry, line) := by
    intro line lineMem
    have passes := wellFormed.classRule posted postedMem line lineMem
    obtain ⟨row, rowMem, sameId⟩ :=
      ((checkClassRule_eq_ok_iff wellFormed.accountNumbers).mp passes).1
    rw [← sameId, wellFormed.accountRow_of_mem rowMem]
    rfl
  rw [List.filterMap_congr joins, List.filterMap_eq_map']

theorem mem_glLines {row : GlLineRow} :
    row ∈ ledger.glLines entryText finish account ↔
      ∃ joined ∈ ledger.joinedLines, joined.Selected finish account ∧
        joined.toRow = row := by
  unfold glLines
  simp only [List.mem_map, List.mem_insertionSort, List.mem_filter, decide_eq_true_eq,
    and_assoc]

theorem WellFormed.glLines_sorted (wellFormed : ledger.WellFormed)
    (entryText : Nat → String) (finish : Date) (account : Option AccountId) :
    (ledger.glLines entryText finish account).Pairwise fun first second =>
      first.accountId.number ≤ second.accountId.number ∧
        (first.accountId = second.accountId → first.entryDate ≤ second.entryDate) := by
  unfold glLines
  rw [List.pairwise_map]
  have total : Std.Total fun first second : JoinedLine =>
      first.order entryText ≤ second.order entryText := ⟨fun _ _ => le_total _ _⟩
  have transitive : IsTrans JoinedLine fun first second =>
      first.order entryText ≤ second.order entryText := ⟨fun _ _ _ => le_trans⟩
  have sorted := List.pairwise_insertionSort
    (fun first second : JoinedLine => first.order entryText ≤ second.order entryText)
    (ledger.joinedLines.filter (JoinedLine.Selected finish account ·))
  refine sorted.imp_of_mem ?_
  intro first second firstMem secondMem before
  rw [List.mem_insertionSort, List.mem_filter] at firstMem secondMem
  obtain ⟨-, -, firstNumber⟩ := wellFormed.joined_account firstMem.1
  obtain ⟨-, -, secondNumber⟩ := wellFormed.joined_account secondMem.1
  unfold JoinedLine.order at before
  rw [Prod.Lex.toLex_le_toLex, firstNumber, secondNumber] at before
  dsimp only [JoinedLine.toRow]
  rcases before with less | ⟨same, rest⟩
  · refine ⟨less.le, fun sameId => ?_⟩
    rw [sameId] at less
    exact absurd less (lt_irrefl _)
  · refine ⟨same.le, fun _ => ?_⟩
    rw [Prod.Lex.toLex_le_toLex] at rest
    rcases rest with less | ⟨same, -⟩
    · exact less.le
    · exact same.le

theorem WellFormed.total_rows (wellFormed : ledger.WellFormed) (entryText : Nat → String)
    (finish : Date) {key : AccountId} (admits : ∀ given ∈ account, key = given)
    (onDate : Date → Prop) [DecidablePred onDate] (amount : GlLineRow → Int)
    (side : JournalLine → Int)
    (same : ∀ joined : JoinedLine, amount joined.toRow = side joined.line) :
    total (fun row => onDate row.entryDate) amount
      ((ledger.glLines entryText finish account).filter fun row => row.accountId = key) =
      total (fun posted => postedThrough finish key posted ∧ onDate posted.1.entryDate)
        (fun posted => side posted.2) ledger.lines := by
  unfold glLines
  rw [total_filter, total_map, total_perm _ _ (List.perm_insertionSort _ _), total_filter,
    ← wellFormed.joinedLines_map, total_map]
  apply total_congr
  intro joined joinedMem
  obtain ⟨-, sameId, -⟩ := wellFormed.joined_account joinedMem
  refine ⟨?_, fun _ => same joined⟩
  unfold JoinedLine.Selected postedThrough
  dsimp only [JoinedLine.toRow]
  rw [sameId]
  constructor
  · rintro ⟨⟨dated, sameKey⟩, through, -⟩
    exact ⟨⟨through, sameKey⟩, dated⟩
  · rintro ⟨⟨through, sameKey⟩, dated⟩
    refine ⟨⟨dated, sameKey⟩, through, ?_⟩
    intro given givenMem
    rw [sameKey]
    exact admits given givenMem

theorem WellFormed.sum_rows (wellFormed : ledger.WellFormed) (entryText : Nat → String)
    (finish : Date) {key : AccountId} (admits : ∀ given ∈ account, key = given)
    (amount : GlLineRow → Int) (side : JournalLine → Int)
    (same : ∀ joined : JoinedLine, amount joined.toRow = side joined.line) :
    (((ledger.glLines entryText finish account).filter
      fun row => row.accountId = key).map amount).sum =
      total (postedThrough finish key) (fun posted => side posted.2) ledger.lines := by
  have totals := wellFormed.total_rows entryText finish admits (fun _ => True) amount side same
  rw [total_of_forall _ _ fun _ _ => trivial] at totals
  rw [totals]
  exact total_congr fun _ _ => ⟨and_iff_left trivial, fun _ => rfl⟩

end Ledger

end Rows

section Section

variable {start : Date} {rows : List GlLineRow} {row : GlLineRow}
  {glSection after : GlAccountSection}

namespace GlAccountSection

/-- What the rows of one account leave in its section. -/
structure FilledBy (start : Date) (rows : List GlLineRow)
    (glSection : GlAccountSection) : Prop where
  opening : glSection.openingBalance.minor =
    total (fun row => row.entryDate < start) GlLineRow.net rows
  listed : List.Forall₂ (fun row line => line = row.listed line.runningBalance)
    (rows.filter fun row => ¬row.entryDate < start) glSection.lines
  running : ∀ earlier line later, glSection.lines = earlier ++ line :: later →
    line.runningBalance.minor =
      glSection.openingBalance.minor + (earlier.map GlLine.net).sum + line.net
  closing : glSection.closingBalance.minor =
    glSection.openingBalance.minor + (glSection.lines.map GlLine.net).sum

theorem add_eq_ok (adds : glSection.add start row = .ok after) :
    ∃ balance : Money,
      (row.entryDate < start ∧
        balance.minor = glSection.openingBalance.minor + row.net ∧
        after = { glSection with openingBalance := balance, closingBalance := balance }) ∨
      (¬row.entryDate < start ∧
        balance.minor = glSection.closingBalance.minor + row.net ∧
        after = { glSection with
          lines := glSection.lines ++ [row.listed balance], closingBalance := balance }) := by
  unfold add at adds
  obtain ⟨amount, difference, adds⟩ := bind_eq_ok_iff.mp adds
  rw [mapError_eq_ok_iff, Money.checkedSub_eq_ok_iff] at difference
  split_ifs at adds with isBefore
  · obtain ⟨balance, sum, result⟩ := bind_eq_ok_iff.mp adds
    rw [mapError_eq_ok_iff, Money.checkedAdd_eq_ok_iff, difference] at sum
    rw [pure_eq_ok_iff] at result
    exact ⟨balance, .inl ⟨isBefore, sum, result.symm⟩⟩
  · obtain ⟨balance, sum, result⟩ := bind_eq_ok_iff.mp adds
    rw [mapError_eq_ok_iff, Money.checkedAdd_eq_ok_iff, difference] at sum
    rw [pure_eq_ok_iff] at result
    exact ⟨balance, .inr ⟨isBefore, sum, result.symm⟩⟩

theorem exists_add (glSection : GlAccountSection) (amountFits : Money.Fits row.net)
    (openingFits : row.entryDate < start →
      Money.Fits (glSection.openingBalance.minor + row.net))
    (closingFits : ¬row.entryDate < start →
      Money.Fits (glSection.closingBalance.minor + row.net)) :
    ∃ after, glSection.add start row = .ok after := by
  obtain ⟨amount, difference⟩ := Money.exists_checkedSub_iff.mpr amountFits
  have amountEq : amount.minor = row.net := Money.checkedSub_eq_ok_iff.mp difference
  rw [← amountEq] at openingFits closingFits
  by_cases isBefore : row.entryDate < start
  · obtain ⟨balance, sum⟩ := Money.exists_checkedAdd_iff.mpr (openingFits isBefore)
    refine ⟨{ glSection with openingBalance := balance, closingBalance := balance }, ?_⟩
    unfold add
    rw [bind_eq_ok_iff]
    refine ⟨amount, mapError_eq_ok_iff.mpr difference, ?_⟩
    rw [if_pos isBefore]
    exact bind_eq_ok_iff.mpr ⟨balance, mapError_eq_ok_iff.mpr sum, rfl⟩
  · obtain ⟨balance, sum⟩ := Money.exists_checkedAdd_iff.mpr (closingFits isBefore)
    refine ⟨{ glSection with
      lines := glSection.lines ++ [row.listed balance], closingBalance := balance }, ?_⟩
    unfold add
    rw [bind_eq_ok_iff]
    refine ⟨amount, mapError_eq_ok_iff.mpr difference, ?_⟩
    rw [if_neg isBefore]
    exact bind_eq_ok_iff.mpr ⟨balance, mapError_eq_ok_iff.mpr sum, rfl⟩

theorem filledBy_opened (start : Date) (row : GlLineRow) :
    (opened row).FilledBy start [] :=
  ⟨rfl, .nil, by simp [opened], rfl⟩

theorem FilledBy.add (filled : glSection.FilledBy start rows)
    (latest : ∀ earlier ∈ rows, earlier.entryDate ≤ row.entryDate)
    (adds : glSection.add start row = .ok after) : after.FilledBy start (rows ++ [row]) := by
  obtain ⟨balance, ⟨isBefore, balanceEq, rfl⟩ | ⟨isListed, balanceEq, rfl⟩⟩ := add_eq_ok adds
  · -- nothing is listed yet, since no earlier row is later than this one
    have noneListed : glSection.lines = [] := by
      have noRows : rows.filter (fun row => ¬row.entryDate < start) = [] := by
        rw [List.filter_eq_nil_iff]
        intro earlier earlierMem
        have dated := lt_of_le_of_lt (latest earlier earlierMem) isBefore
        simp [dated]
      have listed := filled.listed
      rw [noRows] at listed
      exact List.forall₂_nil_left_iff.mp listed
    constructor
    · rw [total_append, total_cons, total_nil, if_pos isBefore, add_zero, ← filled.opening]
      exact balanceEq
    · have listed := filled.listed
      rw [List.filter_append]
      simpa [isBefore] using listed
    · rintro earlier line later split
      simp [noneListed] at split
    · simp [noneListed]
  · have closing := filled.closing
    constructor
    · rw [total_append, total_cons, total_nil, if_neg isListed, add_zero, add_zero]
      exact filled.opening
    · rw [List.filter_append, List.filter_cons_of_pos (by simpa using isListed)]
      exact List.rel_append filled.listed (.cons rfl .nil)
    · intro earlier line later split
      dsimp only at split ⊢
      rcases List.append_eq_append_iff.mp split with ⟨between, earlierEq, rest⟩ | ⟨between, linesEq, rest⟩
      · cases between with
        | nil =>
          rw [List.nil_append, List.cons.injEq] at rest
          rw [← rest.1, earlierEq, List.append_nil]
          simp only [GlLineRow.runningBalance_listed, GlLineRow.net_listed]
          omega
        | cons head between => simp at rest
      · cases between with
        | nil =>
          rw [List.nil_append, List.cons.injEq] at rest
          rw [rest.1, ← List.append_nil earlier, ← linesEq]
          simp only [GlLineRow.runningBalance_listed, GlLineRow.net_listed]
          omega
        | cons head between =>
          rw [List.cons_append, List.cons.injEq] at rest
          rw [rest.1]
          exact filled.running earlier head between linesEq
    · dsimp only
      rw [List.map_append, List.sum_append, balanceEq, closing]
      simp
      omega

theorem filledBy_foldlM (sorted : rows.Pairwise fun first second =>
      first.entryDate ≤ second.entryDate)
    (folded : rows.foldlM (GlAccountSection.add start) (opened row) = .ok glSection) :
    glSection.FilledBy start rows := by
  refine foldlM_invariant (fun consumed glSection =>
    (consumed.Pairwise fun first second => first.entryDate ≤ second.entryDate) →
      glSection.FilledBy start consumed) ?_ ?_ folded sorted
  · intro consumed next before after holds adds sorted
    rw [List.pairwise_append] at sorted
    exact (holds sorted.1).add
      (fun earlier earlierMem => sorted.2.2 earlier earlierMem next (by simp)) adds
  · exact fun _ => filledBy_opened start row

theorem map_net_of_listed {lines : List GlLine}
    (listed : List.Forall₂ (fun row line => line = row.listed line.runningBalance)
      rows lines) : lines.map GlLine.net = rows.map GlLineRow.net := by
  induction listed with
  | nil => rfl
  | cons sameLine _ ih =>
    rw [List.map_cons, List.map_cons, ih, sameLine, GlLineRow.net_listed]

theorem FilledBy.sum_lines (filled : glSection.FilledBy start rows) :
    (glSection.lines.map GlLine.net).sum =
      total (fun row => ¬row.entryDate < start) GlLineRow.net rows := by
  rw [map_net_of_listed filled.listed,
    ← total_of_forall (fun _ => True) GlLineRow.net (fun _ _ => trivial), total_filter]
  exact total_congr fun _ _ => ⟨by simp, fun _ => rfl⟩

theorem FilledBy.closing_eq (filled : glSection.FilledBy start rows) :
    glSection.closingBalance.minor = (rows.map GlLineRow.net).sum := by
  have split := total_split (fun _ => True) GlLineRow.net
    (fun row : GlLineRow => row.entryDate < start) rows
  simp only [true_and] at split
  rw [total_of_forall _ _ fun _ _ => trivial] at split
  rw [filled.closing, filled.opening, filled.sum_lines, split]

theorem sum_net (rows : List GlLineRow) :
    (rows.map GlLineRow.net).sum =
      (rows.map fun row => row.debit.minor).sum -
        (rows.map fun row => row.credit.minor).sum := by
  induction rows with
  | nil => rfl
  | cons row rows ih =>
    simp only [List.map_cons, List.sum_cons, ih, GlLineRow.net]
    omega

theorem exists_foldlM_add (sorted : rows.Pairwise fun first second =>
      first.entryDate ≤ second.entryDate)
    (nonneg : ∀ row ∈ rows, 0 ≤ row.debit.minor ∧ 0 ≤ row.credit.minor)
    (debitsFit : (rows.map fun row => row.debit.minor).sum ≤ 9223372036854775807)
    (creditsFit : (rows.map fun row => row.credit.minor).sum ≤ 9223372036854775807) :
    ∃ glSection, rows.foldlM (GlAccountSection.add start) (opened row) = .ok glSection := by
  induction rows using List.reverseRecOn with
  | nil => exact ⟨_, rfl⟩
  | append_singleton rows next ih =>
    rw [List.pairwise_append] at sorted
    have rowsNonneg : ∀ row ∈ rows, 0 ≤ row.debit.minor ∧ 0 ≤ row.credit.minor :=
      fun row rowMem => nonneg row (List.mem_append_left _ rowMem)
    have nextNonneg := nonneg next (by simp)
    have debitsNonneg : 0 ≤ (rows.map fun row => row.debit.minor).sum :=
      List.sum_nonneg (by simpa using fun row rowMem => (rowsNonneg row rowMem).1)
    have creditsNonneg : 0 ≤ (rows.map fun row => row.credit.minor).sum :=
      List.sum_nonneg (by simpa using fun row rowMem => (rowsNonneg row rowMem).2)
    simp only [List.map_append, List.map_cons, List.map_nil, List.sum_append,
      List.sum_cons, List.sum_nil, add_zero] at debitsFit creditsFit
    obtain ⟨glSection, folded⟩ := ih sorted.1 rowsNonneg (by omega) (by omega)
    have filled := filledBy_foldlM sorted.1 folded
    have netFits : Money.Fits next.net := by
      unfold Money.Fits GlLineRow.net
      constructor <;> omega
    have sumFits : Money.Fits ((rows.map GlLineRow.net).sum + next.net) := by
      rw [sum_net]
      unfold Money.Fits GlLineRow.net
      constructor <;> omega
    have openingEq : next.entryDate < start →
        glSection.openingBalance.minor = (rows.map GlLineRow.net).sum := by
      intro isBefore
      rw [filled.opening]
      exact total_of_forall _ _ fun row rowMem =>
        lt_of_le_of_lt (sorted.2.2 row rowMem next (by simp)) isBefore
    obtain ⟨after, adds⟩ := exists_add glSection netFits
      (fun isBefore => (openingEq isBefore).symm ▸ sumFits)
      (fun _ => filled.closing_eq.symm ▸ sumFits)
    refine ⟨after, ?_⟩
    rw [List.foldlM_append, folded]
    change [next].foldlM (GlAccountSection.add start) glSection = .ok after
    rw [List.foldlM_cons, adds]
    rfl

end GlAccountSection

end Section

section Agreement

variable {ledger : Ledger} {entryText : Nat → String} {start finish : Date}
  {account : Option AccountId} {detail : GlDetail} {sheet : TrialBalance}

theorem keepsKeys_add (start : Date) :
    KeepsKeys GlLineRow.accountId GlAccountSection.accountId GlAccountSection.opened
      (GlAccountSection.add start) := by
  constructor
  · exact fun _ => rfl
  · intro glSection row after adds
    obtain ⟨balance, ⟨-, -, rfl⟩ | ⟨-, -, rfl⟩⟩ := GlAccountSection.add_eq_ok adds <;> rfl

/-- Every listed line leaves the partial sum, and the last one the closing
balance. -/
structure GlAccountSection.TiesOut (glSection : GlAccountSection) : Prop where
  running : ∀ earlier line later, glSection.lines = earlier ++ line :: later →
    line.runningBalance.minor =
      glSection.openingBalance.minor + (earlier.map GlLine.net).sum + line.net
  closing : glSection.closingBalance.minor =
    glSection.openingBalance.minor + (glSection.lines.map GlLine.net).sum

namespace Ledger

theorem groupsOf_generalLedger (wellFormed : ledger.WellFormed)
    (computed : generalLedger entryText ledger start finish account = .ok detail) :
    GroupsOf GlLineRow.accountId GlAccountSection.accountId GlAccountSection.opened
      (GlAccountSection.add start) (ledger.glLines entryText finish account)
      detail.sections := by
  unfold generalLedger at computed
  obtain ⟨sections, folded, result⟩ := bind_eq_ok_iff.mp computed
  rw [pure_eq_ok_iff] at result
  subst result
  exact groupsOf_of_foldlM (keepsKeys_add start) AccountId.number_injective
    ((wellFormed.glLines_sorted _ _ _).imp And.left) folded

theorem WellFormed.rows_sorted (wellFormed : ledger.WellFormed) (entryText : Nat → String)
    (finish : Date) (account : Option AccountId) (key : AccountId) :
    ((ledger.glLines entryText finish account).filter
      fun row => row.accountId = key).Pairwise
        fun first second => first.entryDate ≤ second.entryDate := by
  refine ((wellFormed.glLines_sorted _ _ _).filter _).imp_of_mem ?_
  intro first second firstMem secondMem before
  obtain ⟨-, firstKey⟩ := List.mem_filter.mp firstMem
  obtain ⟨-, secondKey⟩ := List.mem_filter.mp secondMem
  rw [decide_eq_true_eq] at firstKey secondKey
  exact before.2 (firstKey.trans secondKey.symm)

theorem section_filled (wellFormed : ledger.WellFormed)
    (computed : generalLedger entryText ledger start finish account = .ok detail)
    {glSection : GlAccountSection} (sectionMem : glSection ∈ detail.sections) :
    glSection.FilledBy start ((ledger.glLines entryText finish account).filter
        fun row => row.accountId = glSection.accountId) ∧
      (∃ row ∈ ledger.accounts, row.accountId = glSection.accountId) ∧
      ∀ given ∈ account, glSection.accountId = given := by
  obtain ⟨first, rest, rowsEq, folded⟩ :=
    (groupsOf_generalLedger wellFormed computed).holdsAll glSection sectionMem
  have sorted := wellFormed.rows_sorted entryText finish account glSection.accountId
  have firstMem : first ∈ (ledger.glLines entryText finish account).filter
      fun row => row.accountId = glSection.accountId := by
    rw [rowsEq]
    exact List.mem_cons_self
  rw [← rowsEq] at folded
  refine ⟨GlAccountSection.filledBy_foldlM sorted folded, ?_⟩
  obtain ⟨firstMem, sameKey⟩ := List.mem_filter.mp firstMem
  rw [decide_eq_true_eq] at sameKey
  obtain ⟨joined, joinedMem, selected, rfl⟩ := mem_glLines.mp firstMem
  obtain ⟨accountMem, -, -⟩ := wellFormed.joined_account joinedMem
  exact ⟨⟨joined.account, accountMem, sameKey⟩,
    fun given givenMem => sameKey.symm.trans (selected.2 given givenMem)⟩

theorem section_opening (wellFormed : ledger.WellFormed)
    (computed : generalLedger entryText ledger start finish account = .ok detail)
    {glSection : GlAccountSection} (sectionMem : glSection ∈ detail.sections) :
    glSection.openingBalance.minor =
      netOfLines (fun posted => postedThrough finish glSection.accountId posted ∧
        posted.1.entryDate < start) ledger := by
  obtain ⟨filled, -, admits⟩ := section_filled wellFormed computed sectionMem
  rw [filled.opening]
  exact wellFormed.total_rows entryText finish admits (fun date => date < start)
    GlLineRow.net JournalLine.net fun _ => rfl

theorem section_closing (wellFormed : ledger.WellFormed)
    (computed : generalLedger entryText ledger start finish account = .ok detail)
    {glSection : GlAccountSection} (sectionMem : glSection ∈ detail.sections) :
    glSection.closingBalance.minor =
      netOfLines (postedThrough finish glSection.accountId) ledger := by
  obtain ⟨filled, -, admits⟩ := section_filled wellFormed computed sectionMem
  rw [filled.closing_eq]
  exact wellFormed.sum_rows entryText finish admits GlLineRow.net JournalLine.net
    fun _ => rfl

theorem section_present (wellFormed : ledger.WellFormed)
    (computed : generalLedger entryText ledger start finish account = .ok detail)
    {posted : JournalEntry × JournalLine} (postedMem : posted ∈ ledger.lines)
    (through : posted.1.entryDate ≤ finish)
    (admits : ∀ given ∈ account, posted.2.account = given) :
    ∃ glSection ∈ detail.sections, glSection.accountId = posted.2.account := by
  rw [← wellFormed.joinedLines_map] at postedMem
  obtain ⟨joined, joinedMem, rfl⟩ := List.mem_map.mp postedMem
  obtain ⟨-, sameId, -⟩ := wellFormed.joined_account joinedMem
  have rowMem : joined.toRow ∈ ledger.glLines entryText finish account :=
    mem_glLines.mpr ⟨joined, joinedMem,
      ⟨through, fun given givenMem => sameId.trans (admits given givenMem)⟩, rfl⟩
  obtain ⟨glSection, sectionMem, sectionId⟩ :=
    (groupsOf_generalLedger wellFormed computed).present _ rowMem
  exact ⟨glSection, sectionMem, sectionId.trans sameId⟩

theorem exists_generalLedger (wellFormed : ledger.WellFormed)
    (computed : trialBalance ledger finish = .ok sheet) (entryText : Nat → String)
    (start : Date) (account : Option AccountId) :
    ∃ detail, generalLedger entryText ledger start finish account = .ok detail := by
  have fits := (wellFormed.trialBalance_succeeds_iff finish).mp ⟨sheet, computed⟩
  have creditsEq := wellFormed.totalThrough_credit finish
  have debitBounds := sumThrough_le finish JournalLine.debit
    fun posted postedMem => (wellFormed.side_nonneg postedMem).1
  have creditBounds := sumThrough_le finish JournalLine.credit
    fun posted postedMem => (wellFormed.side_nonneg postedMem).2
  have sidesNonneg : ∀ row ∈ ledger.glLines entryText finish account,
      0 ≤ row.debit.minor ∧ 0 ≤ row.credit.minor := by
    intro row rowMem
    obtain ⟨joined, joinedMem, -, rfl⟩ := mem_glLines.mp rowMem
    have postedMem : (joined.posted.entry, joined.line) ∈ ledger.lines := by
      rw [← wellFormed.joinedLines_map]
      exact List.mem_map_of_mem joinedMem
    exact wellFormed.side_nonneg postedMem
  obtain ⟨sections, folded⟩ := exists_foldlM_addToLast (keepsKeys_add start)
    AccountId.number_injective
    ((wellFormed.glLines_sorted entryText finish account).imp And.left) (by
      intro key first rest rowsEq
      have firstMem : first ∈ (ledger.glLines entryText finish account).filter
          fun row => row.accountId = key := by
        rw [rowsEq]
        exact List.mem_cons_self
      obtain ⟨firstMem, sameKey⟩ := List.mem_filter.mp firstMem
      rw [decide_eq_true_eq] at sameKey
      obtain ⟨joined, -, selected, rfl⟩ := mem_glLines.mp firstMem
      have admits : ∀ given ∈ account, key = given :=
        fun given givenMem => sameKey.symm.trans (selected.2 given givenMem)
      have debits := wellFormed.sum_rows entryText finish admits
        (fun row => row.debit.minor) (fun line => line.debit.minor) fun _ => rfl
      have credits := wellFormed.sum_rows entryText finish admits
        (fun row => row.credit.minor) (fun line => line.credit.minor) fun _ => rfl
      have debitsBound := debitBounds key
      have creditsBound := creditBounds key
      unfold sumThrough at debitsBound creditsBound
      rw [← rowsEq]
      apply GlAccountSection.exists_foldlM_add (wellFormed.rows_sorted _ _ _ _)
      · exact fun row rowMem => sidesNonneg row (List.mem_filter.mp rowMem).1
      · omega
      · omega)
  exact ⟨⟨sections⟩, bind_eq_ok_iff.mpr ⟨sections, folded, rfl⟩⟩

theorem row_balance (computed : trialBalance ledger finish = .ok sheet)
    {row : TrialBalanceRow} (rowMem : row ∈ sheet.rows) :
    row.balance.minor = netOfLines (postedThrough finish row.accountId) ledger := by
  obtain ⟨raw, rawEq, tabulates⟩ := trialBalance_eq_ok computed
  obtain ⟨sums, sumsMem, rowId, -, -, balance⟩ := tabulates.rowOf row rowMem
  obtain ⟨source, -, sourceSums⟩ := exists_of_mem_mapM rawEq sumsMem
  obtain ⟨sameAccount, net⟩ := accountSums_eq_ok sourceSums
  rw [balance, net, rowId, sameAccount]

theorem row_listed (computed : trialBalance ledger finish = .ok sheet) {listed : Account}
    (listedMem : listed ∈ ledger.accounts) :
    ∃ row ∈ sheet.rows, row.accountId = listed.accountId := by
  obtain ⟨raw, rawEq, tabulates⟩ := trialBalance_eq_ok computed
  obtain ⟨sums, sumsMem, sourceSums⟩ :=
    exists_mem_of_mapM rawEq (mem_listAccounts.mpr listedMem)
  obtain ⟨sameAccount, -⟩ := accountSums_eq_ok sourceSums
  obtain ⟨row, rowMem, rowId⟩ := tabulates.listed sums sumsMem
  rw [sameAccount] at rowId
  exact ⟨row, rowMem, rowId⟩

end Ledger

end Agreement

/-- The detail of a reachable ledger lists each account with lines once, every
section ties out, and where the trial balance of the last day succeeds, the
closing balances are its balances and no other balance stands. -/
theorem generalLedger_agrees {ledger : Ledger} (reachable : Reachable ledger)
    (entryText : Nat → String) (start finish : Date) (account : Option AccountId) :
    (∀ detail, generalLedger entryText ledger start finish account = .ok detail →
      (∀ posted ∈ ledger.lines, posted.1.entryDate ≤ finish →
        (∀ given ∈ account, posted.2.account = given) →
          ∃! glSection, glSection ∈ detail.sections ∧
            glSection.accountId = posted.2.account) ∧
      (detail.sections.map GlAccountSection.accountId).Nodup ∧
      ∀ glSection ∈ detail.sections, glSection.TiesOut ∧
        glSection.openingBalance.minor =
          netOfLines (fun posted => postedThrough finish glSection.accountId posted ∧
            posted.1.entryDate < start) ledger) ∧
    ∀ sheet, trialBalance ledger finish = .ok sheet →
      ∃ detail, generalLedger entryText ledger start finish account = .ok detail ∧
        (∀ glSection ∈ detail.sections, ∃ row ∈ sheet.rows,
          row.accountId = glSection.accountId ∧ row.balance = glSection.closingBalance) ∧
        ∀ row ∈ sheet.rows, row.balance ≠ Money.zero →
          (∀ given ∈ account, row.accountId = given) →
            ∃ glSection ∈ detail.sections, glSection.accountId = row.accountId ∧
              glSection.closingBalance = row.balance := by
  have wellFormed := reachable.wellFormed
  constructor
  · intro detail computed
    have groups := Ledger.groupsOf_generalLedger wellFormed computed
    refine ⟨?_, groups.distinct, ?_⟩
    · intro posted postedMem through admits
      obtain ⟨glSection, sectionMem, sectionId⟩ :=
        Ledger.section_present wellFormed computed postedMem through admits
      refine ⟨glSection, ⟨sectionMem, sectionId⟩, ?_⟩
      rintro other ⟨otherMem, otherId⟩
      exact List.inj_on_of_nodup_map groups.distinct otherMem sectionMem
        (otherId.trans sectionId.symm)
    · intro glSection sectionMem
      obtain ⟨filled, -, -⟩ := Ledger.section_filled wellFormed computed sectionMem
      exact ⟨⟨filled.running, filled.closing⟩,
        Ledger.section_opening wellFormed computed sectionMem⟩
  · intro sheet sheetComputed
    obtain ⟨detail, computed⟩ :=
      Ledger.exists_generalLedger wellFormed sheetComputed entryText start account
    refine ⟨detail, computed, ?_, ?_⟩
    · intro glSection sectionMem
      obtain ⟨-, ⟨listed, listedMem, listedId⟩, -⟩ :=
        Ledger.section_filled wellFormed computed sectionMem
      obtain ⟨row, rowMem, rowId⟩ := Ledger.row_listed sheetComputed listedMem
      refine ⟨row, rowMem, rowId.trans listedId, Money.ext ?_⟩
      rw [Ledger.row_balance sheetComputed rowMem,
        Ledger.section_closing wellFormed computed sectionMem]
      simp only [rowId, listedId]
    · intro row rowMem nonzero admits
      have balance := Ledger.row_balance sheetComputed rowMem
      obtain ⟨posted, postedMem, through, onAccount⟩ :
          ∃ posted ∈ ledger.lines, postedThrough finish row.accountId posted := by
        by_contra noLine
        apply nonzero
        apply Money.ext
        rw [balance]
        exact total_eq_zero _ _ fun posted postedMem selected =>
          absurd ⟨posted, postedMem, selected⟩ noLine
      obtain ⟨glSection, sectionMem, sectionId⟩ :=
        Ledger.section_present wellFormed computed postedMem through
          fun given givenMem => onAccount.trans (admits given givenMem)
      rw [onAccount] at sectionId
      refine ⟨glSection, sectionMem, sectionId, Money.ext ?_⟩
      rw [balance, Ledger.section_closing wellFormed computed sectionMem]
      simp only [sectionId]

/-- The sale of 2026 in the detail of the year: the closing balances are those
of the trial balance. -/
theorem generalLedger_agrees_saleOf2026 :
    ∃ sheet, trialBalance ledgerOf2026 ⟨2026, 12, 31, Eq.refl true⟩ = .ok sheet ∧
      ∃ detail, generalLedger toString ledgerOf2026 ⟨2026, 1, 1, Eq.refl true⟩
          ⟨2026, 12, 31, Eq.refl true⟩ none = .ok detail ∧
        ∀ glSection ∈ detail.sections, ∃ row ∈ sheet.rows,
          row.accountId = glSection.accountId ∧ row.balance = glSection.closingBalance := by
  obtain ⟨sheet, computed⟩ : ∃ sheet,
      trialBalance ledgerOf2026 ⟨2026, 12, 31, Eq.refl true⟩ = .ok sheet := by
    rw [ledgerOf2026_reachable.wellFormed.trialBalance_succeeds_iff]
    decide +kernel
  obtain ⟨detail, listed, closings, -⟩ := (generalLedger_agrees ledgerOf2026_reachable toString
    ⟨2026, 1, 1, Eq.refl true⟩ ⟨2026, 12, 31, Eq.refl true⟩ none).2 sheet computed
  exact ⟨sheet, computed, detail, listed, closings⟩

end QuickBooks
