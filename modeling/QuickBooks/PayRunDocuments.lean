import QuickBooks.PayRuns
import QuickBooks.TalliedTables
import Mathlib.Data.List.Dedup

/-!
# When a pay run has a document

A run has a document exactly when it is named, is not empty, is mapped
throughout, adds up within the range of amounts, states no net that differs
from its components and has something to post.  The document and the totals are
then those of the tallied lines.
-/

/-!
## What a pay run adds up to

Each line of a pay run is recorded once on each side it belongs to: as a wage
or an employer cost under its account and class, as a liability under its item,
in the net of its employee.  After all lines every table of the run's journal
tallies the lines, whatever their order and signs.
-/

namespace QuickBooks

open ExceptPrograms KeyedTotals OrderedTables OrderedTable

/-- The account and class that a line is debited to. -/
def PayrollConfig.debitKey (config : PayrollConfig) (line : PayLine) :
    Option (String ×ₗ String) :=
  (config.resolve line).bind fun mapping =>
    match line.section with
    | .earning => some (toLex (config.wagesAccountOf mapping, mapping.class))
    | .employerTax | .employerDeduction =>
      some (toLex (config.employerAccountOf mapping, mapping.class))
    | _ => none

def PayrollConfig.Maps (config : PayrollConfig) (line : PayLine) : Prop :=
  line.section ≠ .netPay → (config.resolve line).isSome

namespace PayLine

/-- The item that a line is owed under. -/
def owedItem (line : PayLine) : Option String :=
  match line.section with
  | .employeeTax | .employeeDeduction | .employerTax | .employerDeduction =>
    some (trimmed line.item)
  | _ => none

/-- What a line adds to the net pay of its employee. -/
def netEffect (line : PayLine) : Int :=
  match line.section with
  | .earning => line.amount.minor
  | .employeeTax | .employeeDeduction => -line.amount.minor
  | _ => 0

def statedEmployee (line : PayLine) : Option String :=
  if line.section = .netPay then some (trimmed line.employee) else none

def amountIn (sections : List Section) (line : PayLine) : Int :=
  if line.section ∈ sections then line.amount.minor else 0

end PayLine

namespace RunJournal

def debitItems (journal : RunJournal) (key : String ×ₗ String) : OrderedTable String Unit :=
  ((journal.debits.get? key).map Prod.snd).getD .empty

variable {before after journal : RunJournal} {config : PayrollConfig} {line : PayLine}

/-- A line is recorded under its debit key, its item, its employee's net and
its employee's stated net, and in the totals. -/
structure Recorded (line : PayLine) (debitKey : Option (String ×ₗ String))
    (owedItem : Option String) (netEffect : Int) (statedEmployee : Option String)
    (gross noncash employerCosts : Int) (before after : RunJournal) : Prop where
  debits : Records (fun slot : Money × OrderedTable String Unit => slot.1.minor)
    before.debits after.debits line.amount.minor debitKey
  items : ∀ key, after.debitItems key =
    if debitKey = some key then (before.debitItems key).insert (trimmed line.item) ()
    else before.debitItems key
  liabilities : Records Money.minor before.liabilities after.liabilities
    line.amount.minor owedItem
  computedNet : Records Money.minor before.computedNet after.computedNet
    netEffect (some (trimmed line.employee))
  statedNet : Records Money.minor before.statedNet after.statedNet
    line.amount.minor statedEmployee
  gross : after.totals.gross.minor = before.totals.gross.minor + gross
  noncash : after.totals.noncash.minor = before.totals.noncash.minor + noncash
  employerCosts : after.totals.employerCosts.minor =
    before.totals.employerCosts.minor + employerCosts

section Operations

variable {κ : Type} [LinearOrder κ] {table result : OrderedTable κ Money} {key : κ}
  {amount : Money}

theorem records_addAt (adds : addAt table key amount = .ok result) :
    Records Money.minor table result amount.minor (some key) := by
  unfold addAt at adds
  rw [alterM_eq_ok_iff] at adds
  obtain ⟨sum, adds, rfl⟩ := adds
  rw [Money.checkedAdd_eq_ok_iff] at adds
  refine ⟨sum, rfl, ?_⟩
  rw [adds]
  cases table.get? key <;> rfl

theorem records_subAt (subtracts : subAt table key amount = .ok result) :
    Records Money.minor table result (-amount.minor) (some key) := by
  unfold subAt at subtracts
  rw [alterM_eq_ok_iff] at subtracts
  obtain ⟨sum, subtracts, rfl⟩ := subtracts
  rw [Money.checkedSub_eq_ok_iff] at subtracts
  refine ⟨sum, rfl, ?_⟩
  rw [subtracts]
  cases table.get? key <;> rfl

theorem records_openNet :
    Records Money.minor journal.computedNet (journal.openNet line).computedNet 0
      (some (trimmed line.employee)) := by
  refine ⟨(journal.computedNet.get? (trimmed line.employee)).getD Money.zero, rfl, ?_⟩
  rw [add_zero]
  cases journal.computedNet.get? (trimmed line.employee) <;> rfl

theorem debit_spec {account «class» : String}
    (debits : journal.debit account «class» line = .ok after) :
    ∃ table, after = { journal with debits := table } ∧
      Records (fun slot : Money × OrderedTable String Unit => slot.1.minor)
        journal.debits table line.amount.minor (some (toLex (account, «class»))) ∧
      ∀ key, after.debitItems key =
        if toLex (account, «class») = key then
          (journal.debitItems key).insert (trimmed line.item) ()
        else journal.debitItems key := by
  unfold debit at debits
  simp only [bind_eq_ok_iff, pure_eq_ok_iff, alterM_eq_ok_iff,
    Money.checkedAdd_eq_ok_iff] at debits
  obtain ⟨table, ⟨slot, ⟨sum, adds, rfl⟩, rfl⟩, rfl⟩ := debits
  refine ⟨_, rfl, ⟨_, rfl, ?_⟩, ?_⟩
  · refine adds.trans ?_
    cases journal.debits.get? (toLex (account, «class»)) <;> rfl
  · intro key
    unfold debitItems
    rw [get?_insert]
    split_ifs with same
    · subst same
      cases journal.debits.get? (toLex (account, «class»)) <;> rfl
    · rfl

theorem owe_spec (owes : journal.owe line = .ok after) :
    ∃ table, after = { journal with liabilities := table } ∧
      Records Money.minor journal.liabilities table line.amount.minor
        (some (trimmed line.item)) := by
  unfold owe at owes
  simp only [bind_eq_ok_iff, pure_eq_ok_iff] at owes
  obtain ⟨table, adds, rfl⟩ := owes
  exact ⟨table, rfl, records_addAt adds⟩

theorem addNet_spec (adds : journal.addNet line = .ok after) :
    ∃ table, after = { journal with computedNet := table } ∧
      Records Money.minor journal.computedNet table line.amount.minor
        (some (trimmed line.employee)) := by
  unfold addNet at adds
  simp only [bind_eq_ok_iff, pure_eq_ok_iff] at adds
  obtain ⟨table, adds, rfl⟩ := adds
  exact ⟨table, rfl, records_addAt adds⟩

theorem subNet_spec (subtracts : journal.subNet line = .ok after) :
    ∃ table, after = { journal with computedNet := table } ∧
      Records Money.minor journal.computedNet table (-line.amount.minor)
        (some (trimmed line.employee)) := by
  unfold subNet at subtracts
  simp only [bind_eq_ok_iff, pure_eq_ok_iff] at subtracts
  obtain ⟨table, subtracts, rfl⟩ := subtracts
  exact ⟨table, rfl, records_subAt subtracts⟩

theorem state_spec (states : journal.state line = .ok after) :
    ∃ table, after = { journal with statedNet := table } ∧
      Records Money.minor journal.statedNet table line.amount.minor
        (some (trimmed line.employee)) := by
  unfold state at states
  simp only [bind_eq_ok_iff, pure_eq_ok_iff] at states
  obtain ⟨table, adds, rfl⟩ := states
  exact ⟨table, rfl, records_addAt adds⟩

end Operations

section Lines

variable {mapping : Mapping}

theorem recorded_stated (adds : (before.openNet line).state line = .ok after) :
    Recorded line none none 0 (some (trimmed line.employee)) 0 0 0 before after := by
  obtain ⟨table, rfl, records⟩ := state_spec adds
  exact ⟨rfl, fun _ => rfl, rfl, records_openNet, records, by simp [openNet],
    by simp [openNet], by simp [openNet]⟩

theorem recorded_earning (inSection : line.section = .earning)
    (adds : (before.openNet line).addMapped config mapping line = .ok after) :
    Recorded line (some (toLex (config.wagesAccountOf mapping, mapping.class))) none
      line.amount.minor none line.amount.minor 0 0 before after := by
  unfold addMapped addGross at adds
  simp only [inSection, bind_eq_ok_iff, pure_eq_ok_iff, Money.checkedAdd_eq_ok_iff] at adds
  obtain ⟨debited, debits, netted, nets, gross, counts, rfl⟩ := adds
  obtain ⟨table, rfl, records, items⟩ := debit_spec debits
  obtain ⟨nets, rfl, recordsNet⟩ := addNet_spec nets
  refine ⟨records, fun key => ?_, rfl, ?_, rfl, counts, by simp [openNet], by simp [openNet]⟩
  · simp only [Option.some.injEq]
    exact items key
  · simpa using records_openNet.trans recordsNet

theorem recorded_noncash (inSection : line.section = .noncashEarning)
    (adds : (before.openNet line).addMapped config mapping line = .ok after) :
    Recorded line none none 0 none 0 line.amount.minor 0 before after := by
  unfold addMapped addNoncash at adds
  simp only [inSection, bind_eq_ok_iff, pure_eq_ok_iff, Money.checkedAdd_eq_ok_iff] at adds
  obtain ⟨noncash, counts, rfl⟩ := adds
  exact ⟨rfl, fun _ => rfl, rfl, records_openNet, rfl, by simp [openNet], counts,
    by simp [openNet]⟩

theorem recorded_withheld
    (inSection : line.section = .employeeTax ∨ line.section = .employeeDeduction)
    (adds : (before.openNet line).addMapped config mapping line = .ok after) :
    Recorded line none (some (trimmed line.item)) (-line.amount.minor) none 0 0 0
      before after := by
  have runs : (do
      let journal ← (before.openNet line).owe line
      journal.subNet line) = .ok after := by
    unfold addMapped at adds
    rcases inSection with inSection | inSection <;> simpa only [inSection] using adds
  rw [bind_eq_ok_iff] at runs
  obtain ⟨owed, owes, subtracts⟩ := runs
  obtain ⟨liabilities, rfl, records⟩ := owe_spec owes
  obtain ⟨nets, rfl, recordsNet⟩ := subNet_spec subtracts
  refine ⟨rfl, fun _ => rfl, records, ?_, rfl, by simp [openNet], by simp [openNet],
    by simp [openNet]⟩
  simpa using records_openNet.trans recordsNet

theorem recorded_employer
    (inSection : line.section = .employerTax ∨ line.section = .employerDeduction)
    (adds : (before.openNet line).addMapped config mapping line = .ok after) :
    Recorded line (some (toLex (config.employerAccountOf mapping, mapping.class)))
      (some (trimmed line.item)) 0 none 0 0 line.amount.minor before after := by
  have runs : (do
      let journal ← (before.openNet line).debit (config.employerAccountOf mapping)
        mapping.class line
      let journal ← journal.owe line
      journal.addEmployerCosts line) = .ok after := by
    unfold addMapped at adds
    rcases inSection with inSection | inSection <;> simpa only [inSection] using adds
  unfold addEmployerCosts at runs
  simp only [bind_eq_ok_iff, pure_eq_ok_iff, Money.checkedAdd_eq_ok_iff] at runs
  obtain ⟨debited, debits, owed, owes, costs, counts, rfl⟩ := runs
  obtain ⟨table, rfl, records, items⟩ := debit_spec debits
  obtain ⟨liabilities, rfl, recordsOwed⟩ := owe_spec owes
  refine ⟨records, fun key => ?_, recordsOwed, records_openNet, rfl, by simp [openNet],
    by simp [openNet], counts⟩
  simp only [Option.some.injEq]
  exact items key

theorem recorded_addLine (maps : config.Maps line)
    (adds : addLine config before line = .ok after) :
    Recorded line (config.debitKey line) line.owedItem line.netEffect line.statedEmployee
      (line.amountIn [.earning]) (line.amountIn [.noncashEarning])
      (line.amountIn [.employerTax, .employerDeduction]) before after := by
  unfold addLine at adds
  dsimp only at adds
  split_ifs at adds with isNet
  · have notDebited : config.debitKey line = none := by
      unfold PayrollConfig.debitKey
      cases config.resolve line <;> simp [isNet]
    rw [notDebited]
    simpa [PayLine.owedItem, PayLine.netEffect, PayLine.statedEmployee, PayLine.amountIn,
      isNet] using recorded_stated adds
  · obtain ⟨mapping, resolved⟩ := Option.isSome_iff_exists.mp (maps isNet)
    simp only [resolved] at adds
    unfold PayrollConfig.debitKey
    rw [resolved, Option.bind_some]
    cases inSection : line.section
    case earning =>
        simpa [PayLine.owedItem, PayLine.netEffect, PayLine.statedEmployee,
          PayLine.amountIn, inSection] using recorded_earning inSection adds
    case noncashEarning =>
        simpa [PayLine.owedItem, PayLine.netEffect, PayLine.statedEmployee,
          PayLine.amountIn, inSection] using recorded_noncash inSection adds
    case employeeTax =>
        simpa [PayLine.owedItem, PayLine.netEffect, PayLine.statedEmployee,
          PayLine.amountIn, inSection] using recorded_withheld (.inl inSection) adds
    case employeeDeduction =>
        simpa [PayLine.owedItem, PayLine.netEffect, PayLine.statedEmployee,
          PayLine.amountIn, inSection] using recorded_withheld (.inr inSection) adds
    case employerTax =>
        simpa [PayLine.owedItem, PayLine.netEffect, PayLine.statedEmployee,
          PayLine.amountIn, inSection] using recorded_employer (.inl inSection) adds
    case employerDeduction =>
        simpa [PayLine.owedItem, PayLine.netEffect, PayLine.statedEmployee,
          PayLine.amountIn, inSection] using recorded_employer (.inr inSection) adds
    case netPay => exact absurd inSection isNet

end Lines

/-- The tables of a run's journal tally the lines, and the totals count them. -/
structure Journalled (config : PayrollConfig) (lines : List PayLine) (journal : RunJournal) :
    Prop where
  debits : Tallies (fun slot : Money × OrderedTable String Unit => slot.1.minor)
    journal.debits config.debitKey (fun line => line.amount.minor) lines
  items : ∀ key item, ((journal.debitItems key).get? item).isSome ↔
    ∃ line ∈ lines, config.debitKey line = some key ∧ trimmed line.item = item
  liabilities : Tallies Money.minor journal.liabilities PayLine.owedItem
    (fun line => line.amount.minor) lines
  computedNet : Tallies Money.minor journal.computedNet
    (fun line => some (trimmed line.employee)) PayLine.netEffect lines
  statedNet : Tallies Money.minor journal.statedNet PayLine.statedEmployee
    (fun line => line.amount.minor) lines
  gross : journal.totals.gross.minor = (lines.map (PayLine.amountIn [.earning])).sum
  noncash : journal.totals.noncash.minor =
    (lines.map (PayLine.amountIn [.noncashEarning])).sum
  employerCosts : journal.totals.employerCosts.minor =
    (lines.map (PayLine.amountIn [.employerTax, .employerDeduction])).sum

theorem Journalled.start : Journalled config [] empty :=
  ⟨.empty, by simp [empty, debitItems], .empty, .empty, .empty, by simp [empty],
    by simp [empty], by simp [empty]⟩

theorem Journalled.add {lines : List PayLine} (journalled : Journalled config lines before)
    (maps : config.Maps line) (adds : addLine config before line = .ok after) :
    Journalled config (lines ++ [line]) after := by
  have recorded := recorded_addLine maps adds
  refine ⟨journalled.debits.record recorded.debits, ?_,
    journalled.liabilities.record recorded.liabilities,
    journalled.computedNet.record recorded.computedNet,
    journalled.statedNet.record recorded.statedNet, ?_, ?_, ?_⟩
  · intro key item
    rw [recorded.items]
    split_ifs with debited
    · rw [get?_insert]
      by_cases same : trimmed line.item = item
      · simp [same, debited]
      · simp [same, journalled.items]
    · simp [journalled.items, debited]
  · simp [recorded.gross, journalled.gross]
  · simp [recorded.noncash, journalled.noncash]
  · simp [recorded.employerCosts, journalled.employerCosts]

theorem journalled_of_foldlM {lines : List PayLine} (maps : ∀ line ∈ lines, config.Maps line)
    (reads : lines.foldlM (addLine config) empty = .ok journal) :
    Journalled config lines journal := by
  refine foldlM_invariant (fun consumed journal =>
    (∀ line ∈ consumed, config.Maps line) → Journalled config consumed journal)
    ?_ (fun _ => .start) reads maps
  intro consumed line before after holds step mapped
  have earlier := holds fun other otherMem => mapped other (List.mem_append_left _ otherMem)
  exact earlier.add (mapped line (by simp)) step

end RunJournal

end QuickBooks

namespace QuickBooks

open ExceptPrograms KeyedTotals OrderedTables OrderedTable

/-- What a run's document and totals are made from. -/
structure BuiltFrom (run : PayRun) (config : PayrollConfig) (journal : RunJournal)
    (doc : LedgerDocument) (totals : RunTotals) : Prop where
  named : trimmed run.runId ≠ ""
  nonempty : run.lines ≠ []
  maps : ∀ line ∈ run.lines, config.Maps line
  reads : run.lines.foldlM (RunJournal.addLine config) .empty = .ok journal
  agrees : journal.netMismatch = none
  netPay : Money.checkedSum (journal.computedNet.entries.map Prod.snd) = .ok totals.netPay
  liabilities :
    Money.checkedSum (journal.liabilities.entries.map Prod.snd) = .ok totals.liabilities
  notNegative : 0 ≤ totals.netPay.minor
  posts : journal.totals.gross.minor ≠ 0 ∨ journal.totals.employerCosts.minor ≠ 0
  docEq : doc = run.journalEntry config (journal.docLines config totals.netPay)
  totalsEq : totals =
    { journal.totals with netPay := totals.netPay, liabilities := totals.liabilities }

@[simp]
theorem liftM_payRun_eq_ok_iff {α : Type} {program : Except MoneyError α} {result : α} :
    (liftM program : Except PayRunError α) = .ok result ↔ program = .ok result :=
  mapError_eq_ok_iff

theorem RunJournal.Journalled.netMismatch_eq_none_iff {config : PayrollConfig}
    {lines : List PayLine} {journal : RunJournal}
    (journalled : RunJournal.Journalled config lines journal) :
    journal.netMismatch = none ↔
      ∀ employee, (∃ line ∈ lines, line.statedEmployee = some employee) →
        total (fun line => line.statedEmployee = some employee)
            (fun line => line.amount.minor) lines =
          total (fun line => trimmed line.employee = employee) PayLine.netEffect lines := by
  have computed : ∀ employee, ((journal.computedNet.get? employee).getD Money.zero).minor =
      total (fun line => trimmed line.employee = employee) PayLine.netEffect lines := by
    intro employee
    have totalEq := journalled.computedNet.total_eq employee
    simp only [Option.some.injEq] at totalEq
    rw [← totalEq]
    cases journal.computedNet.get? employee <;> rfl
  unfold netMismatch
  rw [List.findSome?_eq_none_iff]
  constructor
  · intro agrees employee stated
    have present := (journalled.statedNet.isSome_iff employee).mpr stated
    obtain ⟨statedNet, statedHere⟩ := Option.isSome_iff_exists.mp present
    have same := agrees (employee, statedNet) (mem_entries.mpr statedHere)
    simp only [ite_eq_right_iff, reduceCtorEq, imp_false, not_not] at same
    rw [← journalled.statedNet.value_eq statedHere, same, computed]
  · rintro agrees ⟨employee, statedNet⟩ entryMem
    have statedHere := mem_entries.mp entryMem
    have stated := (journalled.statedNet.isSome_iff employee).mp (by rw [statedHere]; rfl)
    have same := agrees employee stated
    rw [← journalled.statedNet.value_eq statedHere, ← computed] at same
    have sameMoney : statedNet = (journal.computedNet.get? employee).getD Money.zero :=
      Money.ext same
    simp [← sameMoney]

section Built

variable {quoted : String → String} {run : PayRun} {config : PayrollConfig}
  {doc : LedgerDocument} {totals : RunTotals} {journal : RunJournal}

theorem unmappedLabels_eq_nil_iff {lines : List PayLine} :
    unmappedLabels quoted config lines = [] ↔ ∀ line ∈ lines, config.Maps line := by
  have sameLength : unmappedLabels quoted config lines = [] ↔
      (lines.filter fun line =>
        line.section ≠ .netPay ∧ (config.resolve line).isNone) = [] := by
    unfold unmappedLabels
    rw [← List.length_eq_zero_iff, List.length_insertionSort, List.length_eq_zero_iff,
      List.dedup_eq_nil, List.map_eq_nil_iff]
  rw [sameLength, List.filter_eq_nil_iff]
  refine forall₂_congr fun line lineMem => ?_
  unfold PayrollConfig.Maps
  cases config.resolve line <;> simp

theorem journalDocument_eq_ok_iff :
    journalDocument quoted run config = .ok (doc, totals) ↔
      ∃ journal, BuiltFrom run config journal doc totals := by
  have nothing : ∀ gross costs : Money, (!(gross.isZero && costs.isZero)) = true ↔
      gross.minor ≠ 0 ∨ costs.minor ≠ 0 := by
    intro gross costs
    rw [Bool.not_eq_true', Bool.and_eq_false_iff, ← Bool.not_eq_true, ← Bool.not_eq_true,
      Money.isZero_iff, Money.isZero_iff]
  have signs : ∀ netPay : Money, (!netPay.isNegative) = true ↔ 0 ≤ netPay.minor := by
    intro netPay
    rw [Bool.not_eq_true', ← Bool.not_eq_true, Money.isNegative_iff]
    omega
  unfold journalDocument
  simp only [check_bind_eq_ok_iff, ensure_eq_ok_iff, decide_eq_true_eq,
    unmappedLabels_eq_nil_iff]
  rw [bind_eq_ok_iff]
  constructor
  · rintro ⟨named, nonempty, maps, journal, reads, builds⟩
    rw [liftM_payRun_eq_ok_iff] at reads
    cases mismatch : journal.netMismatch with
    | some stated => simp [mismatch] at builds
    | none =>
      simp only [mismatch, bind_eq_ok_iff, ensure_eq_ok_iff, liftM_payRun_eq_ok_iff,
        pure_eq_ok_iff, Prod.mk.injEq, nothing, signs] at builds
      obtain ⟨netPay, nets, liabilities, owes, ⟨⟩, notNegative, ⟨⟩, posts, rfl, rfl⟩ := builds
      exact ⟨journal, named, nonempty, maps, reads, mismatch, nets, owes, notNegative,
        posts, rfl, rfl⟩
  · rintro ⟨journal, built⟩
    refine ⟨built.named, built.nonempty, built.maps, journal,
      liftM_payRun_eq_ok_iff.mpr built.reads, ?_⟩
    simp only [built.agrees, bind_eq_ok_iff, ensure_eq_ok_iff, liftM_payRun_eq_ok_iff,
      pure_eq_ok_iff, Prod.mk.injEq, nothing, signs]
    exact ⟨totals.netPay, built.netPay, totals.liabilities, built.liabilities, ⟨⟩,
      built.notNegative, ⟨⟩, built.posts, built.docEq.symm, built.totalsEq.symm⟩

namespace BuiltFrom

theorem journalled (built : BuiltFrom run config journal doc totals) :
    RunJournal.Journalled config run.lines journal :=
  RunJournal.journalled_of_foldlM built.maps built.reads

theorem minor_netPay (built : BuiltFrom run config journal doc totals) :
    totals.netPay.minor = (run.lines.map PayLine.netEffect).sum := by
  rw [Money.minor_checkedSum built.netPay, List.map_map]
  exact built.journalled.computedNet.sum_eq.trans (total_of_forall _ _ fun _ _ => rfl)

theorem minor_liabilities (built : BuiltFrom run config journal doc totals) :
    totals.liabilities.minor = (run.lines.map (PayLine.amountIn
      [.employeeTax, .employeeDeduction, .employerTax, .employerDeduction])).sum := by
  rw [Money.minor_checkedSum built.liabilities, List.map_map]
  refine built.journalled.liabilities.sum_eq.trans ?_
  unfold total
  congr 1
  apply List.map_congr_left
  intro line _
  unfold PayLine.owedItem PayLine.amountIn
  cases inSection : line.section <;> simp [inSection]

theorem stated_eq (built : BuiltFrom run config journal doc totals) {employee : String}
    (stated : ∃ line ∈ run.lines, line.statedEmployee = some employee) :
    total (fun line => line.statedEmployee = some employee) (fun line => line.amount.minor)
        run.lines =
      total (fun line => trimmed line.employee = employee) PayLine.netEffect run.lines :=
  built.journalled.netMismatch_eq_none_iff.mp built.agrees employee stated

end BuiltFrom

end Built

end QuickBooks
