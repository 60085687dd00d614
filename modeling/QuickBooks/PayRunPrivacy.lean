import QuickBooks.PayRunPostings
import Mathlib.Data.List.Rotate

/-!
# What a pay run keeps to itself

Two pay runs that differ in the names of their employees and in the order of
their lines, with the configuration renamed alike, have the same tallies under
every account, class and item.  Their documents and totals are therefore the
same; only sums that pass the range of amounts on the way can tell the order.
-/

/-!
## When the lines of a pay run add up

Every sum that the building of a run's document takes is over some of its
lines, so no sum can leave the range of amounts while the absolute amounts of
the lines are together within it.  A run within that bound has a document
exactly when its lines, taken as a whole, allow one.
-/

namespace QuickBooks

open ExceptPrograms KeyedTotals OrderedTables OrderedTable

namespace RunJournal

def absoluteTotal (lines : List PayLine) : Int :=
  (lines.map fun line => (line.amount.minor.natAbs : Int)).sum

theorem absoluteTotal_nonneg (lines : List PayLine) : 0 ≤ absoluteTotal lines := by
  apply List.sum_nonneg
  intro amount amountMem
  obtain ⟨line, -, rfl⟩ := List.mem_map.mp amountMem
  exact Int.natCast_nonneg _

theorem absoluteTotal_append (first second : List PayLine) :
    absoluteTotal (first ++ second) = absoluteTotal first + absoluteTotal second := by
  simp [absoluteTotal]

theorem absoluteTotal_cons (line : PayLine) (lines : List PayLine) :
    absoluteTotal (line :: lines) = line.amount.minor.natAbs + absoluteTotal lines := by
  simp [absoluteTotal]

theorem natAbs_sum_amountIn_le (sections : List Section) (lines : List PayLine) :
    ((lines.map (PayLine.amountIn sections)).sum.natAbs : Int) ≤ absoluteTotal lines := by
  induction lines with
  | nil => exact Int.le_refl 0
  | cons line lines ih =>
    rw [List.map_cons, List.sum_cons, absoluteTotal_cons]
    unfold PayLine.amountIn at ih ⊢
    split_ifs <;> omega

theorem sum_natAbs_netEffect_le (lines : List PayLine) :
    (lines.map fun line => (line.netEffect.natAbs : Int)).sum ≤ absoluteTotal lines := by
  induction lines with
  | nil => exact Int.le_refl 0
  | cons line lines ih =>
    rw [List.map_cons, List.sum_cons, absoluteTotal_cons]
    have here : (line.netEffect.natAbs : Int) ≤ line.amount.minor.natAbs := by
      unfold PayLine.netEffect
      cases line.section <;> dsimp only <;> omega
    omega

variable {config : PayrollConfig} {lines : List PayLine} {before : RunJournal} {line : PayLine}

section Operations

variable {κ : Type} [LinearOrder κ] {table : OrderedTable κ Money} {key : κ} {amount : Money}

theorem exists_addAt
    (fits : ((((table.get? key).map Money.minor).getD 0).natAbs : Int) + amount.minor.natAbs ≤
      9223372036854775807) : ∃ result, addAt table key amount = .ok result := by
  have sumEq : ((table.get? key).getD Money.zero).minor =
      ((table.get? key).map Money.minor).getD 0 := by
    cases table.get? key <;> rfl
  obtain ⟨sum, adds⟩ := Money.exists_checkedAdd_iff.mpr
    (show Money.Fits (((table.get? key).getD Money.zero).minor + amount.minor) by
      rw [sumEq]
      exact ⟨by omega, by omega⟩)
  exact ⟨_, alterM_eq_ok_iff.mpr ⟨sum, adds, rfl⟩⟩

theorem exists_subAt
    (fits : ((((table.get? key).map Money.minor).getD 0).natAbs : Int) + amount.minor.natAbs ≤
      9223372036854775807) : ∃ result, subAt table key amount = .ok result := by
  have sumEq : ((table.get? key).getD Money.zero).minor =
      ((table.get? key).map Money.minor).getD 0 := by
    cases table.get? key <;> rfl
  obtain ⟨sum, subtracts⟩ := Money.exists_checkedSub_iff.mpr
    (show Money.Fits (((table.get? key).getD Money.zero).minor - amount.minor) by
      rw [sumEq]
      exact ⟨by omega, by omega⟩)
  exact ⟨_, alterM_eq_ok_iff.mpr ⟨sum, subtracts, rfl⟩⟩

end Operations

section Lines

variable {mapping : Mapping} {journal : RunJournal}

def Room (sum : Int) (line : PayLine) : Prop :=
  (sum.natAbs : Int) + line.amount.minor.natAbs ≤ 9223372036854775807

/-- One more line fits in with whatever the journal has recorded. -/
structure RoomFor (line : PayLine) (journal : RunJournal) : Prop where
  debits : ∀ key, Room (((journal.debits.get? key).map
    fun slot : Money × OrderedTable String Unit => slot.1.minor).getD 0) line
  liabilities : ∀ key, Room (((journal.liabilities.get? key).map Money.minor).getD 0) line
  computedNet : ∀ key, Room (((journal.computedNet.get? key).map Money.minor).getD 0) line
  statedNet : ∀ key, Room (((journal.statedNet.get? key).map Money.minor).getD 0) line
  gross : Room journal.totals.gross.minor line
  noncash : Room journal.totals.noncash.minor line
  employerCosts : Room journal.totals.employerCosts.minor line

theorem RoomFor.openNet (room : RoomFor line journal) :
    RoomFor line (journal.openNet line) := by
  refine { room with computedNet := fun key => ?_ }
  unfold RunJournal.openNet
  rw [get?_insert]
  split_ifs with same
  · subst same
    have here := room.computedNet (trimmed line.employee)
    cases found : journal.computedNet.get? (trimmed line.employee) <;> rw [found] at here <;>
      exact here
  · exact room.computedNet key

theorem exists_checkedAdd {sum : Money} (room : Room sum.minor line) :
    ∃ result, sum.checkedAdd line.amount = .ok result := by
  unfold Room at room
  exact Money.exists_checkedAdd_iff.mpr ⟨by omega, by omega⟩

theorem exists_debit {account «class» : String}
    (room : Room (((journal.debits.get? (toLex (account, «class»))).map
      fun slot : Money × OrderedTable String Unit => slot.1.minor).getD 0) line) :
    ∃ table, journal.debit account «class» line = .ok { journal with debits := table } := by
  obtain ⟨sum, adds⟩ : ∃ sum, (((journal.debits.get? (toLex (account, «class»))).getD
      (Money.zero, .empty)).1).checkedAdd line.amount = .ok sum := by
    apply exists_checkedAdd
    cases found : journal.debits.get? (toLex (account, «class»)) <;> rw [found] at room <;>
      exact room
  unfold debit
  simp only [bind_eq_ok_iff, pure_eq_ok_iff, alterM_eq_ok_iff]
  exact ⟨_, _, ⟨_, ⟨sum, adds, rfl⟩, rfl⟩, rfl⟩

theorem exists_owe
    (room : Room (((journal.liabilities.get? (trimmed line.item)).map Money.minor).getD 0)
      line) :
    ∃ table, journal.owe line = .ok { journal with liabilities := table } := by
  obtain ⟨table, adds⟩ := exists_addAt room
  unfold owe
  rw [adds]
  exact ⟨table, rfl⟩

theorem exists_addNet
    (room : Room (((journal.computedNet.get? (trimmed line.employee)).map Money.minor).getD 0)
      line) :
    ∃ table, journal.addNet line = .ok { journal with computedNet := table } := by
  obtain ⟨table, adds⟩ := exists_addAt room
  unfold addNet
  rw [adds]
  exact ⟨table, rfl⟩

theorem exists_subNet
    (room : Room (((journal.computedNet.get? (trimmed line.employee)).map Money.minor).getD 0)
      line) :
    ∃ table, journal.subNet line = .ok { journal with computedNet := table } := by
  obtain ⟨table, subtracts⟩ := exists_subAt room
  unfold subNet
  rw [subtracts]
  exact ⟨table, rfl⟩

theorem exists_state
    (room : Room (((journal.statedNet.get? (trimmed line.employee)).map Money.minor).getD 0)
      line) :
    ∃ after, journal.state line = .ok after := by
  obtain ⟨table, adds⟩ := exists_addAt room
  unfold state
  rw [adds]
  exact ⟨_, rfl⟩

theorem exists_withhold (room : RoomFor line journal) :
    ∃ after, (do
      let journal ← journal.owe line
      journal.subNet line : Except MoneyError RunJournal) = .ok after := by
  obtain ⟨liabilities, owed⟩ := exists_owe (room.liabilities _)
  obtain ⟨nets, netted⟩ : ∃ nets, RunJournal.subNet { journal with liabilities } line =
      .ok { journal with liabilities, computedNet := nets } :=
    exists_subNet (room.computedNet _)
  rw [owed]
  exact ⟨_, netted⟩

theorem exists_employer (room : RoomFor line journal) {account «class» : String} :
    ∃ after, (do
      let journal ← journal.debit account «class» line
      let journal ← journal.owe line
      journal.addEmployerCosts line : Except MoneyError RunJournal) = .ok after := by
  obtain ⟨debits, debited⟩ := exists_debit (room.debits (toLex (account, «class»)))
  obtain ⟨liabilities, owed⟩ : ∃ liabilities, RunJournal.owe { journal with debits } line =
      .ok { journal with debits, liabilities } :=
    exists_owe (room.liabilities _)
  obtain ⟨costs, adds⟩ := exists_checkedAdd room.employerCosts
  obtain ⟨after, counted⟩ : ∃ after,
      RunJournal.addEmployerCosts { journal with debits, liabilities } line = .ok after := by
    unfold addEmployerCosts
    rw [adds]
    exact ⟨_, rfl⟩
  simp only [bind_eq_ok_iff]
  exact ⟨after, _, debited, _, owed, counted⟩

theorem exists_addMapped (room : RoomFor line journal) :
    ∃ after, journal.addMapped config mapping line = .ok after := by
  unfold addMapped
  cases line.section <;> dsimp only
  case earning =>
      obtain ⟨debits, debited⟩ := exists_debit
        (room.debits (toLex (config.wagesAccountOf mapping, mapping.class)))
      obtain ⟨nets, netted⟩ : ∃ nets, RunJournal.addNet { journal with debits } line =
          .ok { journal with debits, computedNet := nets } :=
        exists_addNet (room.computedNet _)
      obtain ⟨gross, adds⟩ := exists_checkedAdd room.gross
      obtain ⟨after, counted⟩ : ∃ after, RunJournal.addGross
          { journal with debits, computedNet := nets } line = .ok after := by
        unfold addGross
        rw [adds]
        exact ⟨_, rfl⟩
      simp only [bind_eq_ok_iff]
      exact ⟨after, _, debited, _, netted, counted⟩
  case noncashEarning =>
      obtain ⟨noncash, adds⟩ := exists_checkedAdd room.noncash
      unfold addNoncash
      rw [adds]
      exact ⟨_, rfl⟩
  case employeeTax =>
      exact exists_withhold room
  case employeeDeduction =>
      exact exists_withhold room
  case employerTax =>
      exact exists_employer room
  case employerDeduction =>
      exact exists_employer room
  case netPay => exact exists_state (room.statedNet _)

theorem Journalled.roomFor (journalled : Journalled config lines journal)
    (fits : absoluteTotal lines + line.amount.minor.natAbs ≤ 9223372036854775807) :
    RoomFor line journal := by
  have netRoom := sum_natAbs_netEffect_le lines
  have grossRoom := natAbs_sum_amountIn_le [.earning] lines
  have noncashRoom := natAbs_sum_amountIn_le [.noncashEarning] lines
  have costsRoom := natAbs_sum_amountIn_le [.employerTax, .employerDeduction] lines
  rw [← journalled.gross] at grossRoom
  rw [← journalled.noncash] at noncashRoom
  rw [← journalled.employerCosts] at costsRoom
  have within : ∀ {sum : Int}, (sum.natAbs : Int) ≤ absoluteTotal lines → Room sum line := by
    intro sum sumLe
    unfold Room
    omega
  exact ⟨fun key => within (journalled.debits.natAbs_getD_le key),
    fun key => within (journalled.liabilities.natAbs_getD_le key),
    fun key => within ((journalled.computedNet.natAbs_getD_le key).trans netRoom),
    fun key => within (journalled.statedNet.natAbs_getD_le key),
    within grossRoom, within noncashRoom, within costsRoom⟩

theorem exists_addLine (room : RoomFor line journal) :
    ∃ after, addLine config journal line = .ok after := by
  have opened := room.openNet
  unfold addLine
  dsimp only
  split_ifs with isNet
  · exact exists_state (opened.statedNet _)
  · cases config.resolve line with
    | none => exact ⟨_, rfl⟩
    | some mapping => exact exists_addMapped opened

theorem exists_journalled (maps : ∀ line ∈ lines, config.Maps line)
    (fits : absoluteTotal lines ≤ 9223372036854775807) :
    ∃ journal, lines.foldlM (addLine config) empty = .ok journal ∧
      Journalled config lines journal := by
  refine exists_foldlM_of_invariant (Journalled config) ?_ .start
  intro consumed line rest before split journalled
  have restNonneg := absoluteTotal_nonneg rest
  rw [split, absoluteTotal_append, absoluteTotal_cons] at fits
  have room : RoomFor line before := journalled.roomFor (by omega)
  obtain ⟨after, adds⟩ : ∃ after, addLine config before line = .ok after := exists_addLine room
  exact ⟨after, adds, journalled.add (maps line (by rw [split]; simp)) adds⟩

end Lines

end RunJournal

/-- What a run needs for a document when its amounts fit together. -/
structure Documentable (run : PayRun) (config : PayrollConfig) : Prop where
  named : trimmed run.runId ≠ ""
  nonempty : run.lines ≠ []
  maps : ∀ line ∈ run.lines, config.Maps line
  agrees : ∀ employee, (∃ line ∈ run.lines, line.statedEmployee = some employee) →
    total (fun line => line.statedEmployee = some employee) (fun line => line.amount.minor)
        run.lines =
      total (fun line => trimmed line.employee = employee) PayLine.netEffect run.lines
  notNegative : 0 ≤ (run.lines.map PayLine.netEffect).sum
  posts : (run.lines.map (PayLine.amountIn [.earning])).sum ≠ 0 ∨
    (run.lines.map (PayLine.amountIn [.employerTax, .employerDeduction])).sum ≠ 0

section Documents

variable {quoted : String → String} {run : PayRun} {config : PayrollConfig}

theorem documentable_of_built {journal : RunJournal} {doc : LedgerDocument}
    {totals : RunTotals} (built : BuiltFrom run config journal doc totals) :
    Documentable run config := by
  refine ⟨built.named, built.nonempty, built.maps, fun employee stated =>
    built.stated_eq stated, ?_, ?_⟩
  · rw [← built.minor_netPay]
    exact built.notNegative
  · rw [← built.journalled.gross, ← built.journalled.employerCosts]
    exact built.posts

theorem exists_journalDocument_iff
    (fits : RunJournal.absoluteTotal run.lines ≤ 9223372036854775807) :
    (∃ result, journalDocument quoted run config = .ok result) ↔ Documentable run config := by
  constructor
  · rintro ⟨⟨doc, totals⟩, builds⟩
    obtain ⟨journal, built⟩ := journalDocument_eq_ok_iff.mp builds
    exact documentable_of_built built
  · intro documentable
    obtain ⟨journal, reads, journalled⟩ :=
      RunJournal.exists_journalled documentable.maps fits
    obtain ⟨netPay, nets⟩ : ∃ netPay,
        Money.checkedSum (journal.computedNet.entries.map Prod.snd) = .ok netPay := by
      apply Money.exists_checkedSum_of_natAbs
      rw [List.map_map]
      exact (journalled.computedNet.sum_natAbs_le.trans
        (RunJournal.sum_natAbs_netEffect_le run.lines)).trans fits
    obtain ⟨liabilities, owes⟩ : ∃ liabilities,
        Money.checkedSum (journal.liabilities.entries.map Prod.snd) = .ok liabilities := by
      apply Money.exists_checkedSum_of_natAbs
      rw [List.map_map]
      exact journalled.liabilities.sum_natAbs_le.trans fits
    have agrees := journalled.netMismatch_eq_none_iff.mpr documentable.agrees
    refine ⟨(run.journalEntry config (journal.docLines config netPay),
      { journal.totals with netPay, liabilities }), journalDocument_eq_ok_iff.mpr
        ⟨journal, ⟨documentable.named, documentable.nonempty, documentable.maps, reads, agrees,
          nets, owes, ?_, ?_, rfl, rfl⟩⟩⟩
    · rw [Money.minor_checkedSum nets, List.map_map]
      refine le_of_le_of_eq documentable.notNegative ?_
      exact ((total_of_forall _ _ fun _ _ => rfl).symm.trans
        journalled.computedNet.sum_eq.symm)
    · rw [journalled.gross, journalled.employerCosts]
      exact documentable.posts

end Documents

end QuickBooks

namespace QuickBooks

open ExceptPrograms KeyedTotals OrderedTables OrderedTable

/-- The same line of an employee under another name. -/
structure RenamedLine (rename : String → String) (line renamed : PayLine) : Prop where
  employee : trimmed renamed.employee = rename (trimmed line.employee)
  department : renamed.department = line.department
  «section» : renamed.section = line.section
  item : renamed.item = line.item
  amount : renamed.amount = line.amount

/-- The same run with its employees renamed and its lines in another order,
against a configuration renamed alike. -/
structure RenamedRun (rename : String → String) (first second : PayRun)
    (config config' : PayrollConfig) : Prop where
  injective : Function.Injective rename
  runId : second.runId = first.runId
  payDate : second.payDate = first.payDate
  periodStart : second.periodStart = first.periodStart
  periodEnd : second.periodEnd = first.periodEnd
  lines : ∃ renamed, List.Forall₂ (RenamedLine rename) first.lines renamed ∧
    renamed.Perm second.lines
  employees : ∀ name, config'.employees.get? (rename name) = config.employees.get? name
  elsewhere : config' = { config with employees := config'.employees }

namespace RenamedLine

variable {rename : String → String} {line renamed : PayLine}

theorem statedEmployee (same : RenamedLine rename line renamed) :
    renamed.statedEmployee = line.statedEmployee.map rename := by
  unfold PayLine.statedEmployee
  rw [same.section, same.employee]
  split_ifs <;> rfl

theorem owedItem (same : RenamedLine rename line renamed) :
    renamed.owedItem = line.owedItem := by
  unfold PayLine.owedItem
  rw [same.section, same.item]

theorem netEffect (same : RenamedLine rename line renamed) :
    renamed.netEffect = line.netEffect := by
  unfold PayLine.netEffect
  rw [same.section, same.amount]

theorem amountIn (same : RenamedLine rename line renamed) (sections : List Section) :
    renamed.amountIn sections = line.amountIn sections := by
  unfold PayLine.amountIn
  rw [same.section, same.amount]

end RenamedLine

namespace RenamedRun

variable {rename : String → String} {first second : PayRun} {config config' : PayrollConfig}
  {line renamed : PayLine}

theorem resolve (runs : RenamedRun rename first second config config')
    (same : RenamedLine rename line renamed) :
    config'.resolve renamed = config.resolve line := by
  unfold PayrollConfig.resolve
  rw [same.employee, same.department, runs.employees, runs.elsewhere]

theorem debitKey (runs : RenamedRun rename first second config config')
    (same : RenamedLine rename line renamed) :
    config'.debitKey renamed = config.debitKey line := by
  unfold PayrollConfig.debitKey
  rw [runs.resolve same, same.section, runs.elsewhere]
  rfl

theorem maps_iff (runs : RenamedRun rename first second config config')
    (same : RenamedLine rename line renamed) :
    config.Maps line ↔ config'.Maps renamed := by
  unfold PayrollConfig.Maps
  rw [runs.resolve same, same.section]

theorem total_eq (runs : RenamedRun rename first second config config')
    {selects selects' : PayLine → Prop} [DecidablePred selects] [DecidablePred selects']
    {amount amount' : PayLine → Int}
    (agrees : ∀ line renamed, RenamedLine rename line renamed →
      (selects line ↔ selects' renamed) ∧ amount line = amount' renamed) :
    total selects amount first.lines = total selects' amount' second.lines := by
  obtain ⟨between, correspond, rearranged⟩ := runs.lines
  rw [total_forall₂ correspond agrees]
  exact total_perm _ _ rearranged

theorem sum_eq (runs : RenamedRun rename first second config config')
    {amount amount' : PayLine → Int}
    (agrees : ∀ line renamed, RenamedLine rename line renamed →
      amount line = amount' renamed) :
    (first.lines.map amount).sum = (second.lines.map amount').sum := by
  have totals : total (fun _ => True) amount first.lines =
      total (fun _ => True) amount' second.lines :=
    runs.total_eq fun line renamed same => ⟨Iff.rfl, agrees line renamed same⟩
  rwa [total_of_forall _ _ fun _ _ => trivial, total_of_forall _ _ fun _ _ => trivial]
    at totals

theorem exists_iff (runs : RenamedRun rename first second config config')
    {holds holds' : PayLine → Prop}
    (agrees : ∀ line renamed, RenamedLine rename line renamed →
      (holds line ↔ holds' renamed)) :
    (∃ line ∈ first.lines, holds line) ↔ ∃ line ∈ second.lines, holds' line := by
  obtain ⟨between, correspond, rearranged⟩ := runs.lines
  simp only [← rearranged.mem_iff]
  generalize first.lines = lines at correspond
  clear rearranged
  induction correspond with
  | nil => simp
  | cons here rest ih => simp only [List.exists_mem_cons_iff, ih, agrees _ _ here]

theorem forall_maps_iff (runs : RenamedRun rename first second config config') :
    (∀ line ∈ first.lines, config.Maps line) ↔ ∀ line ∈ second.lines, config'.Maps line := by
  have unmapped := runs.exists_iff fun line renamed same => not_congr (runs.maps_iff same)
  simpa only [not_exists, not_and, not_not] using not_congr unmapped

theorem documentable_iff (runs : RenamedRun rename first second config config') :
    Documentable first config ↔ Documentable second config' := by
  have stated : ∀ employee, (∃ line ∈ first.lines, line.statedEmployee = some employee) ↔
      ∃ line ∈ second.lines, line.statedEmployee = some (rename employee) := fun employee =>
    runs.exists_iff fun line renamed same => by
      rw [same.statedEmployee, Option.map_eq_some_iff]
      simp [runs.injective.eq_iff]
  have statedNet : ∀ employee,
      total (fun line => line.statedEmployee = some employee) (fun line => line.amount.minor)
          first.lines =
        total (fun line => line.statedEmployee = some (rename employee))
          (fun line => line.amount.minor) second.lines := fun employee =>
    runs.total_eq fun line renamed same => by
      rw [same.statedEmployee, same.amount, Option.map_eq_some_iff]
      simp [runs.injective.eq_iff]
  have computedNet : ∀ employee,
      total (fun line => trimmed line.employee = employee) PayLine.netEffect first.lines =
        total (fun line => trimmed line.employee = rename employee) PayLine.netEffect
          second.lines := fun employee =>
    runs.total_eq fun line renamed same => by
      rw [same.employee, same.netEffect, runs.injective.eq_iff]
      exact ⟨Iff.rfl, rfl⟩
  have named : trimmed first.runId ≠ "" ↔ trimmed second.runId ≠ "" := by rw [runs.runId]
  have nonempty : first.lines ≠ [] ↔ second.lines ≠ [] := by
    obtain ⟨between, correspond, rearranged⟩ := runs.lines
    rw [← List.length_pos_iff, ← List.length_pos_iff, correspond.length_eq,
      rearranged.length_eq]
  have net := runs.sum_eq fun line renamed same => same.netEffect.symm
  have gross := runs.sum_eq fun line renamed same => (same.amountIn [.earning]).symm
  have costs := runs.sum_eq fun line renamed same =>
    (same.amountIn [.employerTax, .employerDeduction]).symm
  constructor
  · rintro ⟨isNamed, isNonempty, maps, agrees, notNegative, posts⟩
    refine ⟨named.mp isNamed, nonempty.mp isNonempty, runs.forall_maps_iff.mp maps, ?_,
      net ▸ notNegative, ?_⟩
    · intro other isStated
      have source : ∃ line ∈ first.lines,
          ∃ employee, line.statedEmployee = some employee ∧ rename employee = other := by
        refine (runs.exists_iff fun line renamed same => ?_).mpr isStated
        rw [same.statedEmployee, Option.map_eq_some_iff]
      obtain ⟨line, lineMem, employee, states, rfl⟩ := source
      rw [← statedNet, ← computedNet]
      exact agrees employee ⟨line, lineMem, states⟩
    · rwa [gross, costs] at posts
  · rintro ⟨isNamed, isNonempty, maps, agrees, notNegative, posts⟩
    refine ⟨named.mpr isNamed, nonempty.mpr isNonempty, runs.forall_maps_iff.mpr maps, ?_,
      net ▸ notNegative, ?_⟩
    · intro employee isStated
      rw [statedNet, computedNet]
      exact agrees (rename employee) ((stated employee).mp isStated)
    · rwa [gross, costs]

section Built

variable {journal journal' : RunJournal} {doc doc' : LedgerDocument} {totals totals' : RunTotals}

theorem liabilities_eq (runs : RenamedRun rename first second config config')
    (journalled : RunJournal.Journalled config first.lines journal)
    (journalled' : RunJournal.Journalled config' second.lines journal') :
    journal'.liabilities = journal.liabilities := by
  ext1 item
  have sameValues := journalled.liabilities.map_get?_eq journalled'.liabilities
    (fun key => runs.exists_iff fun line renamed same => by rw [same.owedItem])
    (fun key => runs.total_eq fun line renamed same => by rw [same.owedItem, same.amount]; simp)
    item
  exact Option.map_injective (fun _ _ => Money.ext) sameValues.symm

theorem debits_eq (runs : RenamedRun rename first second config config')
    (journalled : RunJournal.Journalled config first.lines journal)
    (journalled' : RunJournal.Journalled config' second.lines journal') :
    journal'.debits = journal.debits := by
  ext1 key
  have sameAmounts := journalled.debits.map_get?_eq journalled'.debits
    (fun key => runs.exists_iff fun line renamed same => by rw [runs.debitKey same])
    (fun key => runs.total_eq fun line renamed same => by
      rw [runs.debitKey same, same.amount]
      simp) key
  have sameItems : journal.debitItems key = journal'.debitItems key := by
    ext1 item
    have sameSome := (journalled.items key item).trans
      ((runs.exists_iff fun line renamed same => by
        rw [runs.debitKey same, same.item]).trans (journalled'.items key item).symm)
    cases here : (journal.debitItems key).get? item <;>
      cases there : (journal'.debitItems key).get? item <;> simp_all
  unfold RunJournal.debitItems at sameItems
  cases here : journal.debits.get? key with
  | none => cases there : journal'.debits.get? key <;> simp_all
  | some slot =>
    cases there : journal'.debits.get? key with
    | none => simp_all
    | some slot' =>
      rw [here, there] at sameAmounts sameItems
      simp only [Option.map_some, Option.some.injEq, Option.getD_some] at sameAmounts sameItems
      exact congrArg some (Prod.ext (Money.ext sameAmounts.symm) sameItems.symm)

theorem built_eq (runs : RenamedRun rename first second config config')
    (built : BuiltFrom first config journal doc totals)
    (built' : BuiltFrom second config' journal' doc' totals') :
    doc' = doc ∧ totals' = totals := by
  have journalled := built.journalled
  have journalled' := built'.journalled
  have netPay : totals'.netPay = totals.netPay := by
    apply Money.ext
    rw [built.minor_netPay, built'.minor_netPay]
    exact (runs.sum_eq fun line renamed same => same.netEffect.symm).symm
  have liabilities : totals'.liabilities = totals.liabilities := by
    apply Money.ext
    rw [built.minor_liabilities, built'.minor_liabilities]
    exact (runs.sum_eq fun line renamed same => (same.amountIn _).symm).symm
  have gross : journal'.totals.gross = journal.totals.gross := by
    apply Money.ext
    rw [journalled.gross, journalled'.gross]
    exact (runs.sum_eq fun line renamed same => (same.amountIn _).symm).symm
  have noncash : journal'.totals.noncash = journal.totals.noncash := by
    apply Money.ext
    rw [journalled.noncash, journalled'.noncash]
    exact (runs.sum_eq fun line renamed same => (same.amountIn _).symm).symm
  have costs : journal'.totals.employerCosts = journal.totals.employerCosts := by
    apply Money.ext
    rw [journalled.employerCosts, journalled'.employerCosts]
    exact (runs.sum_eq fun line renamed same => (same.amountIn _).symm).symm
  constructor
  · rw [built.docEq, built'.docEq, netPay]
    unfold RunJournal.docLines RunJournal.unnumberedLines PayRun.journalEntry PayRun.documentId
    rw [runs.debits_eq journalled journalled', runs.liabilities_eq journalled journalled',
      runs.elsewhere, runs.runId, runs.payDate, runs.periodStart, runs.periodEnd]
  · rw [built.totalsEq, built'.totalsEq, netPay, liabilities]
    simp only [gross, noncash, costs]

end Built

end RenamedRun

/-- Renaming the employees of a run and reordering its lines, with the
configuration renamed alike, changes neither the document nor the totals.
Where the absolute amounts of the lines fit together, the one run has them
exactly when the other does. -/
theorem journalDocument_renamed {rename : String → String} {first second : PayRun}
    {config config' : PayrollConfig} (runs : RenamedRun rename first second config config')
    (quoted : String → String) :
    (∀ result result', journalDocument quoted first config = .ok result →
      journalDocument quoted second config' = .ok result' → result' = result) ∧
    (RunJournal.absoluteTotal first.lines ≤ 9223372036854775807 →
      ∀ result, journalDocument quoted first config = .ok result ↔
        journalDocument quoted second config' = .ok result) := by
  have same : ∀ result result', journalDocument quoted first config = .ok result →
      journalDocument quoted second config' = .ok result' → result' = result := by
    rintro ⟨doc, totals⟩ ⟨doc', totals'⟩ builds builds'
    obtain ⟨journal, built⟩ := journalDocument_eq_ok_iff.mp builds
    obtain ⟨journal', built'⟩ := journalDocument_eq_ok_iff.mp builds'
    obtain ⟨docEq, totalsEq⟩ := runs.built_eq built built'
    rw [docEq, totalsEq]
  refine ⟨same, fun fits result => ?_⟩
  have fits' : RunJournal.absoluteTotal second.lines ≤ 9223372036854775807 := by
    refine le_of_eq_of_le ?_ fits
    exact (runs.sum_eq fun line renamed same => by rw [same.amount]).symm
  constructor
  · intro builds
    obtain ⟨result', builds'⟩ : ∃ result', journalDocument quoted second config' = .ok result' :=
      (exists_journalDocument_iff fits').mpr
        (runs.documentable_iff.mp ((exists_journalDocument_iff fits).mp ⟨result, builds⟩))
    rwa [same result result' builds builds'] at builds'
  · intro builds'
    obtain ⟨result', builds⟩ : ∃ result', journalDocument quoted first config = .ok result' :=
      (exists_journalDocument_iff fits).mpr
        (runs.documentable_iff.mpr ((exists_journalDocument_iff fits').mp ⟨result, builds'⟩))
    rwa [← same result' result builds builds'] at builds

/-- A run of two employees' wages. -/
def wagesOf (first second : String) : PayRun where
  runId := "2026-07"
  payDate := ⟨2026, 4, 3, Eq.refl true⟩
  periodStart := none
  periodEnd := none
  lines :=
    [⟨first, none, .earning, "Regular", .fromMinor 100000⟩,
      ⟨second, none, .earning, "Overtime", .fromMinor 30000⟩]

def payrollOf (first second : String) : PayrollConfig where
  employees := (OrderedTable.empty.insert first ⟨"foam", none, none⟩).insert second
    ⟨"retail", none, none⟩

theorem wagesOf_renamed :
    RenamedRun (Equiv.swap "Ann Lee" "Bob Ray") (wagesOf "Ann Lee" "Bob Ray")
      { wagesOf "Bob Ray" "Ann Lee" with lines := (wagesOf "Bob Ray" "Ann Lee").lines.reverse }
      (payrollOf "Ann Lee" "Bob Ray") (payrollOf "Bob Ray" "Ann Lee") := by
  have ann : trimmed "Ann Lee" = "Ann Lee" := by decide +kernel
  have bob : trimmed "Bob Ray" = "Bob Ray" := by decide +kernel
  refine ⟨Equiv.injective _, rfl, rfl, rfl, rfl, ?_, ?_, rfl⟩
  · refine ⟨(wagesOf "Bob Ray" "Ann Lee").lines, ?_, (List.reverse_perm _).symm⟩
    refine .cons ⟨?_, rfl, rfl, rfl, rfl⟩ (.cons ⟨?_, rfl, rfl, rfl, rfl⟩ .nil)
    · simp [ann, bob]
    · simp [ann, bob]
  · intro name
    simp only [payrollOf, get?_insert, get?_empty]
    by_cases isAnn : name = "Ann Lee"
    · simp [isAnn]
    · by_cases isBob : name = "Bob Ray"
      · simp [isBob]
      · rw [Equiv.swap_apply_of_ne_of_ne isAnn isBob]
        simp [Ne.symm isAnn, Ne.symm isBob]

theorem journalDocument_renamed_wages :
    ∃ result,
      journalDocument id (wagesOf "Ann Lee" "Bob Ray") (payrollOf "Ann Lee" "Bob Ray") =
        .ok result ∧
      journalDocument id { wagesOf "Bob Ray" "Ann Lee" with
        lines := (wagesOf "Bob Ray" "Ann Lee").lines.reverse } (payrollOf "Bob Ray" "Ann Lee") =
          .ok result := by
  obtain ⟨result, builds, -⟩ := exists_ok_of_map_toOption
    (show (journalDocument id (wagesOf "Ann Lee" "Bob Ray")
      (payrollOf "Ann Lee" "Bob Ray")).toOption.map (fun result => result.2.gross.minor) =
        some 130000 by decide +kernel)
  exact ⟨result, builds,
    ((journalDocument_renamed wagesOf_renamed id).2 (by decide +kernel) result).mp builds⟩

/-- The same lines in another order pass the range of amounts on the way. -/
theorem journalDocument_order_tells :
    (∃ reordered : PayRun,
      RenamedRun id payRunAtTheBounds reordered (payrollOwedAt "2400") (payrollOwedAt "2400") ∧
      (∃ result, journalDocument id payRunAtTheBounds (payrollOwedAt "2400") = .ok result) ∧
      journalDocument id reordered (payrollOwedAt "2400") = .error (.money .overflow)) := by
  refine ⟨{ payRunAtTheBounds with lines := (payRunAtTheBounds.lines.rotate 1).reverse },
    ⟨Function.injective_id, rfl, rfl, rfl, rfl, ?_, fun _ => rfl, rfl⟩, ?_, ?_⟩
  · exact ⟨payRunAtTheBounds.lines, List.forall₂_same.mpr fun _ _ => ⟨rfl, rfl, rfl, rfl, rfl⟩,
      ((List.reverse_perm _).trans (List.rotate_perm _ _)).symm⟩
  · obtain ⟨result, builds, -⟩ := exists_ok_of_map_toOption
      (show (journalDocument id payRunAtTheBounds (payrollOwedAt "2400")).toOption.map
        (fun result => result.2.netPay.minor) = some 0 by decide +kernel)
    exact ⟨result, builds⟩
  · decide +kernel

end QuickBooks
