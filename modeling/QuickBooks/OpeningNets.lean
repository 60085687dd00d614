import QuickBooks.OpeningBalance

/-!
# What the opening entry carries

Each row of the other book's trial balance puts its balance on the account it
is mapped to, whatever other rows are mapped there, and the plug takes the total
of all rows off opening balance equity.  The lines on the two sides are whole
rows, so the entry balances, and a line carries a class exactly where its
account needs one.
-/

namespace QuickBooks

open ExceptPrograms KeyedTotals

section Lines

variable (lineNo : Int) (account : AccountId) (amount : Money) («class» : Option ClassId)

@[simp]
theorem net_openingJournalLine (side : Side) :
    (openingJournalLine lineNo account side amount «class»).net =
      if side = .debit then amount.minor else -amount.minor := by
  cases side <;> simp [openingJournalLine, JournalLine.net]

theorem sideOk_openingJournalLine (side : Side) (positive : 0 < amount.minor) :
    JournalEntry.sideOk (openingJournalLine lineNo account side amount «class») = true := by
  rw [JournalEntry.sideOk_iff]
  cases side <;> simp [openingJournalLine, positive]

end Lines

def mappedTo (mapping : List MappedAccount) (number : String) (row : QboTbRow) : Prop :=
  (bySourceRef mapping row.qboAccountId).map MappedAccount.ledgerNumber = some (acct number)

instance (mapping : List MappedAccount) (number : String) :
    DecidablePred (mappedTo mapping number) :=
  fun _ => inferInstanceAs (Decidable (_ = some (acct number)))

def mappedTotal (mapping : List MappedAccount) (number : String) (rows : List QboTbRow) : Int :=
  total (mappedTo mapping number) (fun row => row.balance.minor) rows

def rowsTotal (rows : List QboTbRow) : Int :=
  (rows.map fun row => row.balance.minor).sum

def ClassedByAccount (line : JournalLine) : Prop :=
  line.class.isSome = requiresClass line.account

/-- What the lines built so far say about the rows that were read. -/
structure OpeningLines.Carries (mapping : List MappedAccount) (rows : List QboTbRow)
    (built : OpeningLines) : Prop where
  onAccounts : ∀ number,
    lineTotal (onAccount number) built.journalLines = mappedTotal mapping number rows
  debits : (built.journalLines.map fun line => line.debit.minor).sum = built.debitTotal.minor
  credits : (built.journalLines.map fun line => line.credit.minor).sum =
    built.creditTotal.minor
  difference : built.debitTotal.minor - built.creditTotal.minor = rowsTotal rows
  oneSided : (∀ row ∈ rows, row.balance.minor ≠ 0) →
    ∀ line ∈ built.journalLines, JournalEntry.sideOk line = true
  classed : ∀ line ∈ built.journalLines, ClassedByAccount line
  length : built.journalLines.length = rows.length

namespace OpeningLines.Carries

variable {mapping : List MappedAccount} {rows : List QboTbRow} {built result : OpeningLines}

theorem nil : Carries mapping [] ⟨[], [], Money.zero, Money.zero, 1⟩ where
  onAccounts _ := rfl
  debits := rfl
  credits := rfl
  difference := rfl
  oneSided := by simp
  classed := by simp
  length := rfl

/-- A line that is added carries its own balance on to everything that the lines
built before it say. -/
theorem append (carries : Carries mapping rows built) {row : QboTbRow} {side : Side}
    {account : AccountId} {amount : Money}
    (mapped : (bySourceRef mapping row.qboAccountId).map MappedAccount.ledgerNumber =
      some account)
    (positive : row.balance.minor ≠ 0 → 0 < amount.minor)
    (signed : (if side = .debit then amount.minor else -amount.minor) = row.balance.minor)
    {«class» : Option ClassId} (classed : «class».isSome = requiresClass account)
    (lines : result.journalLines = built.journalLines ++
      [openingJournalLine built.lineNo account side amount «class»])
    (debits : result.debitTotal.minor =
      built.debitTotal.minor + if side = .debit then amount.minor else 0)
    (credits : result.creditTotal.minor =
      built.creditTotal.minor + if side = .debit then 0 else amount.minor) :
    Carries mapping (rows ++ [row]) result where
  onAccounts number := by
    have selected : mappedTo mapping number row ↔ account = acct number := by
      unfold mappedTo
      rw [mapped, Option.some.injEq]
    have keyOf : (openingJournalLine built.lineNo account side amount «class»).key =
        ⟨account, «class», none⟩ :=
      rfl
    rw [lines, lineTotal_append, carries.onAccounts, mappedTotal, mappedTotal, total_append,
      lineTotal_cons, lineTotal_nil, total_cons, total_nil, net_openingJournalLine, signed,
      keyOf]
    simp only [onAccount_mk, selected]
  debits := by
    rw [lines, List.map_append, List.sum_append, carries.debits, debits]
    cases side <;> simp [openingJournalLine]
  credits := by
    rw [lines, List.map_append, List.sum_append, carries.credits, credits]
    cases side <;> simp [openingJournalLine]
  difference := by
    have before := carries.difference
    rw [rowsTotal, List.map_append, List.sum_append, ← rowsTotal, ← before, debits, credits,
      List.map_singleton, List.sum_singleton, ← signed]
    cases side <;> simp <;> omega
  oneSided nonzero line lineMem := by
    rw [lines, List.mem_append, List.mem_singleton] at lineMem
    rcases lineMem with old | rfl
    · exact carries.oneSided
        (fun other otherMem => nonzero other (List.mem_append_left _ otherMem)) line old
    · exact sideOk_openingJournalLine _ _ _ _ _ (positive (nonzero row (by simp)))
  classed line lineMem := by
    rw [lines, List.mem_append, List.mem_singleton] at lineMem
    rcases lineMem with old | rfl
    · exact carries.classed line old
    · exact classed
  length := by
    rw [lines, List.length_append, List.length_append, carries.length]
    rfl

theorem addRow {row : QboTbRow} (carries : Carries mapping rows built)
    (adds : built.addRow mapping row = .ok result) :
    Carries mapping (rows ++ [row]) result := by
  unfold OpeningLines.addRow at adds
  rw [bind_eq_ok_iff] at adds
  obtain ⟨mapped, found, adds⟩ := adds
  rw [orRefuse_eq_ok_iff] at found
  have account : (bySourceRef mapping row.qboAccountId).map MappedAccount.ledgerNumber =
      some mapped.ledgerNumber := by
    rw [found]
    rfl
  have classed : (if requiresClass mapped.ledgerNumber then
      some (⟨Chart.importFallbackClass.1⟩ : ClassId) else none).isSome =
        requiresClass mapped.ledgerNumber := by
    cases requiresClass mapped.ledgerNumber <;> rfl
  cases negative : row.balance.isNegative with
  | false =>
    have notNegative : ¬row.balance.minor < 0 := by
      rw [← Money.isNegative_iff, negative]
      exact Bool.false_ne_true
    simp only [negative, Bool.false_eq_true, if_false, if_true, bind_eq_ok_iff,
      pure_eq_ok_iff] at adds
    obtain ⟨_, rfl, debitTotal, debitAdds, _, rfl, rfl⟩ := adds
    have debitEq := Money.checkedAdd_eq_ok_iff.mp (mapError_eq_ok_iff.mp debitAdds)
    have signed : (if Side.debit = .debit then row.balance.minor else
        -row.balance.minor) = row.balance.minor :=
      rfl
    apply carries.append account _ signed classed rfl debitEq
    · simp
    · omega
  | true =>
    have isNegative : row.balance.minor < 0 := Money.isNegative_iff.mp negative
    simp only [negative, if_true, reduceCtorEq, if_false, bind_eq_ok_iff,
      pure_eq_ok_iff] at adds
    obtain ⟨amount, negates, _, rfl, creditTotal, creditAdds, rfl⟩ := adds
    have amountEq := Money.checkedNeg_eq_ok_iff.mp (mapError_eq_ok_iff.mp negates)
    have creditEq := Money.checkedAdd_eq_ok_iff.mp (mapError_eq_ok_iff.mp creditAdds)
    have signed : (if Side.credit = .debit then amount.minor else -amount.minor) =
        row.balance.minor := by
      simp [amountEq]
    apply carries.append account _ signed classed rfl _ creditEq
    · omega
    · simp

end OpeningLines.Carries

/-- The lines that take a difference off opening balance equity, one or none. -/
structure Plugs (difference : Int) (plug : List JournalLine) : Prop where
  onAccounts : ∀ number, lineTotal (onAccount number) plug =
    if number = Chart.openingBalanceEquity then -difference else 0
  debits : (plug.map fun line => line.debit.minor).sum = max 0 (-difference)
  credits : (plug.map fun line => line.credit.minor).sum = max 0 difference
  oneSided : ∀ line ∈ plug, JournalEntry.sideOk line = true
  classed : ∀ line ∈ plug, ClassedByAccount line
  length : plug.length = if difference = 0 then 0 else 1

theorem Plugs.single {lineNo : Int} {side : Side} {amount : Money} {difference : Int}
    (positive : 0 < amount.minor)
    (signed : (if side = .debit then amount.minor else -amount.minor) = -difference) :
    Plugs difference [openingJournalLine lineNo (acct Chart.openingBalanceEquity) side amount
      none] where
  onAccounts number := by
    have keyOf : (openingJournalLine lineNo (acct Chart.openingBalanceEquity) side amount
        none).key = ⟨acct Chart.openingBalanceEquity, none, none⟩ :=
      rfl
    have sameAccount : acct Chart.openingBalanceEquity = acct number ↔
        number = Chart.openingBalanceEquity := by
      rw [acct, acct, AccountId.mk.injEq]
      exact eq_comm
    rw [lineTotal_cons, lineTotal_nil, net_openingJournalLine, signed, keyOf, add_zero]
    simp only [onAccount_mk, sameAccount]
  debits := by
    cases side <;> simp [openingJournalLine] at signed ⊢ <;> omega
  credits := by
    cases side <;> simp [openingJournalLine] at signed ⊢ <;> omega
  oneSided line lineMem := by
    rw [List.mem_singleton.mp lineMem]
    exact sideOk_openingJournalLine _ _ _ _ _ positive
  classed line lineMem := by
    rw [List.mem_singleton.mp lineMem]
    change false = requiresClass (acct Chart.openingBalanceEquity)
    decide
  length := by
    rw [if_neg]
    · rfl
    · intro noDifference
      cases side <;> simp at signed <;> omega

theorem addPlug_plugs {built result : OpeningLines} (adds : built.addPlug = .ok result) :
    ∃ plug, result.journalLines = built.journalLines ++ plug ∧
      Plugs (built.debitTotal.minor - built.creditTotal.minor) plug := by
  unfold OpeningLines.addPlug at adds
  rw [bind_eq_ok_iff] at adds
  obtain ⟨difference, subtracts, adds⟩ := adds
  have differenceEq := Money.checkedSub_eq_ok_iff.mp (mapError_eq_ok_iff.mp subtracts)
  rw [← differenceEq]
  cases isZero : difference.isZero with
  | true =>
    have noDifference := Money.isZero_iff.mp isZero
    rw [isZero, if_pos rfl, pure_eq_ok_iff] at adds
    refine ⟨[], by rw [adds, List.append_nil], ?_⟩
    rw [noDifference]
    exact ⟨by simp, rfl, rfl, by simp, by simp, rfl⟩
  | false =>
    have someDifference : difference.minor ≠ 0 := by
      rw [Ne, ← Money.isZero_iff, isZero]
      exact Bool.false_ne_true
    cases negative : difference.isNegative with
    | true =>
      have isNegative := Money.isNegative_iff.mp negative
      simp only [isZero, negative, Bool.false_eq_true, if_false, if_true, bind_eq_ok_iff,
        pure_eq_ok_iff] at adds
      obtain ⟨amount, negates, rfl⟩ := adds
      have amountEq := Money.checkedNeg_eq_ok_iff.mp (mapError_eq_ok_iff.mp negates)
      refine ⟨_, rfl, Plugs.single ?_ ?_⟩
      · omega
      · simpa using amountEq
    | false =>
      have notNegative : ¬difference.minor < 0 := by
        rw [← Money.isNegative_iff, negative]
        exact Bool.false_ne_true
      simp only [isZero, negative, Bool.false_eq_true, if_false, bind_eq_ok_iff,
        pure_eq_ok_iff] at adds
      obtain ⟨_, rfl, rfl⟩ := adds
      refine ⟨_, rfl, Plugs.single ?_ ?_⟩
      · omega
      · simp

section Entry

variable {company : String} {asOf : Date} {qboTb : List QboTbRow}
  {mapping : List MappedAccount} {doc : LedgerDocument} {entry : JournalEntry}

def openingRows (qboTb : List QboTbRow) : List QboTbRow :=
  (qboTb.filter fun row => !row.balance.isZero).insertionSort
    fun first second => first.qboAccountId ≤ second.qboAccountId

theorem openingRows_perm (qboTb : List QboTbRow) :
    (openingRows qboTb).Perm (qboTb.filter fun row => !row.balance.isZero) :=
  List.perm_insertionSort _ _

theorem mem_openingRows {row : QboTbRow} :
    row ∈ openingRows qboTb ↔ row ∈ qboTb ∧ row.balance.minor ≠ 0 := by
  rw [(openingRows_perm qboTb).mem_iff, List.mem_filter, Bool.not_eq_true', ← Bool.not_eq_true,
    Money.isZero_iff]

theorem mappedTotal_openingRows (number : String) :
    mappedTotal mapping number (openingRows qboTb) = mappedTotal mapping number qboTb := by
  unfold mappedTotal
  rw [total_perm _ _ (openingRows_perm qboTb)]
  induction qboTb with
  | nil => rfl
  | cons row rows ih =>
    rw [total_cons, ← ih]
    cases isZero : row.balance.isZero with
    | true => simp [isZero, Money.isZero_iff.mp isZero]
    | false => simp [isZero]

theorem rowsTotal_openingRows : rowsTotal (openingRows qboTb) = rowsTotal qboTb := by
  unfold rowsTotal
  rw [((openingRows_perm qboTb).map _).sum_eq]
  induction qboTb with
  | nil => rfl
  | cons row rows ih =>
    rw [List.map_cons, List.sum_cons, ← ih]
    cases isZero : row.balance.isZero with
    | true => simp [isZero, Money.isZero_iff.mp isZero]
    | false => simp [isZero]

theorem openingBalanceEntry_lines
    (builds : openingBalanceEntry company asOf qboTb mapping = .ok (doc, entry)) :
    ∃ built plug, OpeningLines.Carries mapping (openingRows qboTb) built ∧
      Plugs (rowsTotal qboTb) plug ∧ entry.lines = built.journalLines ++ plug := by
  unfold openingBalanceEntry at builds
  rw [bind_eq_ok_iff] at builds
  obtain ⟨built, addsRows, builds⟩ := builds
  rw [bind_eq_ok_iff] at builds
  obtain ⟨result, plugs, builds⟩ := builds
  rw [pure_eq_ok_iff, Prod.mk.injEq] at builds
  obtain ⟨-, rfl⟩ := builds
  have carries : OpeningLines.Carries mapping (openingRows qboTb) built :=
    foldlM_invariant (OpeningLines.Carries mapping)
      (fun _ _ _ _ holds step => holds.addRow step) .nil addsRows
  obtain ⟨plug, lines, plugged⟩ := addPlug_plugs plugs
  rw [carries.difference, rowsTotal_openingRows] at plugged
  exact ⟨built, plug, carries, plugged, lines⟩

/-- The opening entry: the lines of the rows put on every account what is mapped
to it, the plug takes the total of the rows off opening balance equity, the two
sides are equal, and a line carries a class exactly where its account needs one.
The store takes it as balanced unless there is nothing to open. -/
theorem openingBalanceEntry_carriesRows
    (builds : openingBalanceEntry company asOf qboTb mapping = .ok (doc, entry)) :
    (∃ rowLines plug, entry.lines = rowLines ++ plug ∧
      (∀ number, lineTotal (onAccount number) rowLines = mappedTotal mapping number qboTb) ∧
      ∀ number, lineTotal (onAccount number) plug =
        if number = Chart.openingBalanceEquity then -rowsTotal qboTb else 0) ∧
      (entry.lines.map fun line => line.debit.minor).sum =
        (entry.lines.map fun line => line.credit.minor).sum ∧
      (entry.isBalanced = true ↔ ∃ row ∈ qboTb, row.balance.minor ≠ 0) ∧
      ∀ line ∈ entry.lines, line.class.isSome = requiresClass line.account := by
  obtain ⟨built, plug, carries, plugs, lines⟩ := openingBalanceEntry_lines builds
  have difference := carries.difference
  rw [rowsTotal_openingRows] at difference
  have debits : (entry.lines.map fun line => line.debit.minor).sum =
      built.debitTotal.minor + max 0 (-rowsTotal qboTb) := by
    rw [lines, List.map_append, List.sum_append, carries.debits, plugs.debits]
  have credits : (entry.lines.map fun line => line.credit.minor).sum =
      built.creditTotal.minor + max 0 (rowsTotal qboTb) := by
    rw [lines, List.map_append, List.sum_append, carries.credits, plugs.credits]
  have sameSum : (entry.lines.map fun line => line.debit.minor).sum =
      (entry.lines.map fun line => line.credit.minor).sum := by
    rw [debits, credits]
    omega
  refine ⟨⟨built.journalLines, plug, lines, ?_, plugs.onAccounts⟩, sameSum, ?_, ?_⟩
  · intro number
    rw [carries.onAccounts, mappedTotal_openingRows]
  · rw [JournalEntry.isBalanced_iff]
    constructor
    · rintro ⟨nonempty, -⟩
      by_contra noRow
      have noRows : openingRows qboTb = [] := by
        rw [List.eq_nil_iff_forall_not_mem]
        intro row rowMem
        exact noRow ⟨row, mem_openingRows.mp rowMem⟩
      have noTotal : rowsTotal qboTb = 0 := by
        rw [← rowsTotal_openingRows, noRows]
        rfl
      have noLines := carries.length
      have noPlug := plugs.length
      rw [noRows, List.length_nil, List.length_eq_zero_iff] at noLines
      rw [if_pos noTotal, List.length_eq_zero_iff] at noPlug
      rw [lines, noLines, noPlug] at nonempty
      exact nonempty rfl
    · rintro ⟨row, rowMem, nonzero⟩
      have debitFits := built.debitTotal.cents.le_upper
      have creditFits := built.creditTotal.cents.le_upper
      refine ⟨?_, ?_, sameSum, ?_⟩
      · intro noLines
        rw [lines, List.append_eq_nil_iff] at noLines
        have count := carries.length
        rw [noLines.1] at count
        have someRow := mem_openingRows.mpr ⟨rowMem, nonzero⟩
        rw [List.length_eq_zero_iff.mp count.symm] at someRow
        exact List.not_mem_nil someRow
      · intro line lineMem
        rw [lines, List.mem_append] at lineMem
        rcases lineMem with ofRow | ofPlug
        · exact carries.oneSided (fun row rowMem => (mem_openingRows.mp rowMem).2) line ofRow
        · exact plugs.oneSided line ofPlug
      · rw [debits]
        change built.debitTotal.cents.value + _ ≤ _
        unfold Money.minor at difference
        omega
  · intro line lineMem
    rw [lines, List.mem_append] at lineMem
    rcases lineMem with ofRow | ofPlug
    · exact carries.classed line ofRow
    · exact plugs.classed line ofPlug

end Entry

namespace TwoSidedOpening

/-- Two rows on one account, one on an income account and one on the equity account
that the plug is on. -/
def rows : List QboTbRow :=
  [⟨"35", "Checking", .fromMinor 50000⟩, ⟨"36", "Savings", .fromMinor (-12000)⟩,
    ⟨"79", "Sales", .fromMinor (-30000)⟩, ⟨"34", "Opening", .fromMinor 700⟩,
    ⟨"99", "Dormant", .fromMinor 0⟩]

def mapping : List MappedAccount :=
  [⟨"35", acct "1100", "Checking", .asset, false⟩, ⟨"36", acct "1100", "Savings", .asset, false⟩,
    ⟨"79", acct "4000", "Sales", .income, false⟩,
    ⟨"34", acct "3950", "Opening", .equity, false⟩]

theorem openingBalanceEntry_rows :
    ∃ doc entry, openingBalanceEntry "waterline" ⟨2026, 1, 1, rfl⟩ rows mapping =
        .ok (doc, entry) ∧
      lineTotal (onAccount "1100") entry.lines = 38000 ∧
      entry.isBalanced = true := by
  have succeeds : (openingBalanceEntry "waterline" ⟨2026, 1, 1, rfl⟩ rows mapping).toOption.map
      (fun opening => lineTotal (onAccount "1100") opening.2.lines) = some 38000 := by
    decide +kernel
  obtain ⟨⟨doc, entry⟩, builds, checking⟩ := exists_ok_of_map_toOption succeeds
  refine ⟨doc, entry, builds, checking, ?_⟩
  obtain ⟨-, -, balanced, -⟩ := openingBalanceEntry_carriesRows builds
  rw [balanced]
  exact ⟨⟨"35", "Checking", .fromMinor 50000⟩, by simp [rows], by decide⟩

end TwoSidedOpening

end QuickBooks
