import QuickBooks.JournalLegs
import QuickBooks.PayRunDocuments

/-!
# What a pay run posts

The document of a pay run posts each wage and employer cost to its account, as
a debit, and takes the liabilities and the net pay out of theirs.  The three
parts cancel line by line, so whatever entry is posted balances and moves each
account by exactly what the lines of the run say.
-/

namespace QuickBooks

open ExceptPrograms KeyedTotals OrderedTables OrderedTable

def postedKey (account : String) («class» : Option String) : PostingKey :=
  ⟨⟨account⟩, if requiresClass ⟨account⟩ then «class».map ClassId.mk else none, none⟩

namespace PayrollConfig

variable (config : PayrollConfig)

def debitedKey (line : PayLine) : Option PostingKey :=
  (config.debitKey line).map fun key => postedKey (ofLex key).1 (some (ofLex key).2)

def bankKey : PostingKey :=
  postedKey config.bankAccount none

def liabilitiesKey : PostingKey :=
  postedKey config.liabilitiesAccount none

end PayrollConfig

section Lines

variable {doc : LedgerDocument} {account what : String} {«class» : Option String} {side : Side}
  {amount : Money}

theorem legTotal_journalDocLine (header : doc.headerClass = none)
    (selects : PostingKey → Prop) [DecidablePred selects] (lineNo : Int) :
    legTotal selects (journalLineLegs doc
        (journalDocLine account «class» side amount what lineNo)) =
      if selects (postedKey account «class») then
        match side with
        | .debit => amount.minor
        | .credit => -amount.minor
      else 0 := by
  have resolved : resolveClass (journalDocLine account «class» side amount what lineNo) none
      doc.headerClass = «class».map ClassId.mk := by
    unfold resolveClass journalDocLine
    rw [header]
    cases «class» <;> rfl
  by_cases zero : amount.minor = 0
  · unfold journalLineLegs
    rw [if_pos (.inr (Money.isZero_iff.mpr zero))]
    cases side <;> simp [zero]
  · have legsEq : journalLineLegs doc
        (journalDocLine account «class» side amount what lineNo) =
          [⟨⟨account⟩, (postedKey account «class»).class, none, side, amount, false, none,
            none⟩] := by
      unfold journalLineLegs
      rw [if_neg (by simp [journalDocLine, Money.isZero_iff, zero]), resolved]
      rfl
    rw [legsEq, legTotal_cons, legTotal_nil, add_zero]
    cases side <;> rfl

theorem posts_journalDocLine {lineNo : Int}
    (classed : requiresClass ⟨account⟩ = true → «class».isSome) :
    JournalLinePosts doc (journalDocLine account «class» side amount what lineNo) := by
  intro _ _
  refine ⟨⟨account⟩, side, rfl, rfl, fun required => ?_⟩
  obtain ⟨given, rfl⟩ := Option.isSome_iff_exists.mp (classed required)
  rfl

end Lines

theorem flatMap_numbered {γ : Type} {lines : List (Int → DocLine)} {read : DocLine → List γ}
    (same : ∀ line ∈ lines, ∀ number, read (line number) = read (line 0)) :
    (lines.mapIdx fun index line => line (index + 1)).flatMap read =
      lines.flatMap fun line => read (line 0) := by
  rw [List.flatMap_def, List.flatMap_def]
  congr 1
  apply List.ext_getElem
  · simp
  · intro index inNumbered inLines
    simp only [List.getElem_map, List.getElem_mapIdx]
    exact same _ (List.getElem_mem _) _

section Posted

variable {doc : LedgerDocument} {config : PayrollConfig} {journal : RunJournal}
  {netPay : Money}

theorem legTotal_docLines (header : doc.headerClass = none)
    (selects : PostingKey → Prop) [DecidablePred selects] :
    legTotal selects ((journal.docLines config netPay).flatMap (journalLineLegs doc)) =
      total (fun entry => selects (postedKey (ofLex entry.1).1 (some (ofLex entry.1).2)))
        (fun entry => entry.2.1.minor) journal.debits.entries -
      (if selects config.liabilitiesKey then
        (journal.liabilities.entries.map fun entry => entry.2.minor).sum else 0) -
      if selects config.bankKey then netPay.minor else 0 := by
  have debits : (journal.debits.entries.map fun entry => legTotal selects
      (journalLineLegs doc (journalDocLine (ofLex entry.1).1 (some (ofLex entry.1).2) .debit
        entry.2.1 ("Payroll " ++ (ofLex entry.1).2 ++ ": " ++
          ", ".intercalate (entry.2.2.entries.map Prod.fst)) 0))).sum =
      total (fun entry => selects (postedKey (ofLex entry.1).1 (some (ofLex entry.1).2)))
        (fun entry => entry.2.1.minor) journal.debits.entries := by
    unfold total
    congr 1
    apply List.map_congr_left
    intro entry _
    rw [legTotal_journalDocLine header]
  have liabilities : ∀ entries : List (String × Money),
      (entries.map fun entry => legTotal selects (journalLineLegs doc
        (journalDocLine config.liabilitiesAccount none .credit entry.2
          ("Payroll liability: " ++ entry.1) 0))).sum =
        -if selects config.liabilitiesKey then
          (entries.map fun entry => entry.2.minor).sum else 0 := by
    intro entries
    unfold PayrollConfig.liabilitiesKey
    induction entries with
    | nil => simp
    | cons entry entries ih =>
      rw [List.map_cons, List.map_cons, List.sum_cons, List.sum_cons, ih,
        legTotal_journalDocLine header]
      dsimp only
      split_ifs <;> omega
  unfold RunJournal.docLines
  rw [flatMap_numbered]
  · unfold legTotal
    rw [total_flatMap]
    change ((journal.unnumberedLines config netPay).map fun line =>
      legTotal selects (journalLineLegs doc (line 0))).sum = _
    unfold RunJournal.unnumberedLines
    rw [List.map_append, List.map_append, List.sum_append, List.sum_append, List.map_map,
      List.map_map, List.map_singleton, List.sum_singleton, legTotal_journalDocLine header]
    simp only [Function.comp_def]
    rw [debits, liabilities]
    unfold PayrollConfig.bankKey
    split_ifs <;> omega
  · intro line lineMem number
    unfold RunJournal.unnumberedLines at lineMem
    simp only [List.mem_append, List.mem_map, List.mem_singleton] at lineMem
    rcases lineMem with (⟨entry, -, rfl⟩ | ⟨entry, -, rfl⟩) | rfl <;> rfl

theorem debit_eq_of_maps {line : PayLine} (maps : config.Maps line) :
    (if (config.debitKey line).isSome then line.amount.minor else 0) =
      line.netEffect + line.amountIn
        [.employeeTax, .employeeDeduction, .employerTax, .employerDeduction] := by
  unfold PayrollConfig.debitKey PayLine.netEffect PayLine.amountIn
  cases inSection : line.section <;> cases resolved : config.resolve line <;>
    simp_all [PayrollConfig.Maps]

end Posted

namespace BuiltFrom

variable {run : PayRun} {config : PayrollConfig} {journal : RunJournal} {doc : LedgerDocument}
  {totals : RunTotals}

theorem postingLegs_eq_ok_iff (built : BuiltFrom run config journal doc totals)
    {ctx : PostingContext} {legs : List Leg} :
    postingLegs doc ctx = .ok legs ↔
      (∀ line ∈ doc.lines, JournalLinePosts doc line) ∧
        legs = doc.lines.flatMap (journalLineLegs doc) := by
  rw [← postJournalEntry_eq_ok_iff, built.docEq]
  rfl

theorem legTotal_eq (built : BuiltFrom run config journal doc totals) (key : PostingKey) :
    legTotal (fun other => other = key) (doc.lines.flatMap (journalLineLegs doc)) =
      total (fun line => config.debitedKey line = some key) (fun line => line.amount.minor)
        run.lines -
      (if config.liabilitiesKey = key then totals.liabilities.minor else 0) -
      if config.bankKey = key then totals.netPay.minor else 0 := by
  have header : doc.headerClass = none := by
    rw [built.docEq]
    rfl
  have linesEq : doc.lines = journal.docLines config totals.netPay := by
    rw [built.docEq]
    rfl
  have debits := built.journalled.debits.total_entries fun debitKey =>
    postedKey (ofLex debitKey).1 (some (ofLex debitKey).2) = key
  have liabilities := Money.minor_checkedSum built.liabilities
  rw [List.map_map] at liabilities
  rw [linesEq, legTotal_docLines header, debits, liabilities]
  congr 2
  refine total_congr fun line _ => ⟨?_, fun _ => rfl⟩
  unfold PayrollConfig.debitedKey
  simp

theorem legBalance_eq (built : BuiltFrom run config journal doc totals) :
    legBalance (doc.lines.flatMap (journalLineLegs doc)) = 0 := by
  have header : doc.headerClass = none := by
    rw [built.docEq]
    rfl
  have linesEq : doc.lines = journal.docLines config totals.netPay := by
    rw [built.docEq]
    rfl
  have liabilities := Money.minor_checkedSum built.liabilities
  rw [List.map_map] at liabilities
  have parts : total (fun line => (config.debitKey line).isSome)
      (fun line => line.amount.minor) run.lines =
        totals.netPay.minor + totals.liabilities.minor := by
    rw [built.minor_netPay, built.minor_liabilities, ← List.sum_map_add]
    unfold total
    congr 1
    apply List.map_congr_left
    intro line lineMem
    exact debit_eq_of_maps (built.maps line lineMem)
  unfold legBalance
  rw [linesEq, legTotal_docLines header, total_of_forall _ _ fun _ _ => trivial,
    built.journalled.debits.sum_eq, parts, if_pos trivial, if_pos trivial, liabilities]
  simp [Function.comp_def]

theorem entry_spec (built : BuiltFrom run config journal doc totals) {version : Nat}
    {ctx : PostingContext} {entry : JournalEntry}
    (posts : post doc version ctx = .ok (.entry entry)) :
    entry.isBalanced = true ∧ ∀ key, lineTotal (fun other => other = key) entry.lines =
      total (fun line => config.debitedKey line = some key) (fun line => line.amount.minor)
        run.lines -
      (if config.liabilitiesKey = key then totals.liabilities.minor else 0) -
      if config.bankKey = key then totals.netPay.minor else 0 := by
  obtain ⟨legs, lines, derivation⟩ := post_eq_entry posts
  obtain ⟨-, legsEq⟩ := built.postingLegs_eq_ok_iff.mp derivation.builds
  have isJournal : doc.kind = .journalEntry := by
    rw [built.docEq]
    rfl
  have notVoided : doc.isVoided = false := by
    rw [built.docEq]
    rfl
  constructor
  · rw [post_of_merged version derivation.kindPosts derivation.builds derivation.merges,
      isJournal, notVoided] at posts
    split_ifs at posts with isEmpty unbalanced
    · simp at posts
    · simp only [Except.ok.injEq, Posting.entry.injEq] at posts
      rw [← posts]
      simpa [applyVoid] using unbalanced
  · intro key
    rw [derivation.lineTotal_eq, notVoided, legsEq, built.legTotal_eq]
    rfl

theorem exists_entry (built : BuiltFrom run config journal doc totals) (version : Nat)
    (ctx : PostingContext) (bankTakesNone : requiresClass ⟨config.bankAccount⟩ = false)
    (liabilitiesTakeNone : requiresClass ⟨config.liabilitiesAccount⟩ = false)
    (moves : ∃ line ∈ doc.lines, line.amount.minor ≠ 0)
    (fits : (doc.lines.map fun line => (line.amount.minor.natAbs : Int)).sum ≤
      2 * 9223372036854775807) :
    ∃ entry, post doc version ctx = .ok (.entry entry) := by
  have kindEq : doc.kind = .journalEntry := by
    rw [built.docEq]
    rfl
  have linesEq : doc.lines = journal.docLines config totals.netPay := by
    rw [built.docEq]
    rfl
  have areJournal : ∀ line ∈ doc.lines, line.kind = .journal ∧ JournalLinePosts doc line := by
    intro line lineMem
    rw [linesEq, RunJournal.docLines, List.mem_mapIdx] at lineMem
    obtain ⟨index, inLines, rfl⟩ := lineMem
    have source := List.getElem_mem inLines
    generalize (journal.unnumberedLines config totals.netPay)[index] = numbered at source
    unfold RunJournal.unnumberedLines at source
    simp only [List.mem_append, List.mem_map, List.mem_singleton] at source
    rcases source with (⟨entry, -, rfl⟩ | ⟨entry, -, rfl⟩) | rfl
    · exact ⟨rfl, posts_journalDocLine fun _ => rfl⟩
    · exact ⟨rfl, posts_journalDocLine fun required => by simp [liabilitiesTakeNone] at required⟩
    · exact ⟨rfl, posts_journalDocLine fun required => by simp [bankTakesNone] at required⟩
  have posts : ∀ line ∈ doc.lines, JournalLinePosts doc line :=
    fun line lineMem => (areJournal line lineMem).2
  have amounts := sum_natAbs_journalLineLegs (fun line lineMem => (areJournal line lineMem).1)
    posts
  have plain : ∀ leg ∈ doc.lines.flatMap (journalLineLegs doc),
      leg.amount.minor ≠ 0 ∧ leg.taxAmount = none := by
    intro leg legMem
    obtain ⟨line, -, inLine⟩ := List.mem_flatMap.mp legMem
    exact plain_journalLineLegs inLine
  obtain ⟨lines, merges, debits, credits⟩ :=
    exists_mergeLegs_of_balanced plain built.legBalance_eq (amounts ▸ fits)
  rw [amounts] at debits credits
  have positive : 0 < (doc.lines.map fun line => (line.amount.minor.natAbs : Int)).sum := by
    obtain ⟨line, lineMem, nonzero⟩ := moves
    have nonneg : ∀ amount ∈ doc.lines.map fun line => (line.amount.minor.natAbs : Int),
        0 ≤ amount := by
      intro amount amountMem
      obtain ⟨other, -, rfl⟩ := List.mem_map.mp amountMem
      exact Int.natCast_nonneg _
    have atMost := List.single_le_sum nonneg _ (List.mem_map_of_mem lineMem)
    omega
  have nonempty : lines ≠ [] := by
    rintro rfl
    simp only [List.map_nil, List.sum_nil] at debits
    omega
  have builds : postingLegs doc ctx = .ok (doc.lines.flatMap (journalLineLegs doc)) :=
    built.postingLegs_eq_ok_iff.mpr ⟨posts, rfl⟩
  have balanced : (mergedEntry doc version lines).isBalanced = true := by
    refine JournalEntry.isBalanced_iff.mpr ⟨nonempty, ?_, ?_, ?_⟩
    · intro line lineMem
      exact JournalEntry.sideOk_iff.mpr ((mergeLegs_wellFormed merges).1 line lineMem)
    · change (lines.map _).sum = (lines.map _).sum
      omega
    · change (lines.map _).sum ≤ _
      omega
  rw [post_of_merged version (by rw [kindEq]; rfl) builds merges,
    if_neg (by simpa using nonempty), balanced]
  exact ⟨applyVoid (mergedEntry doc version lines) doc.isVoided, by simp⟩

end BuiltFrom

/-- The net pay and the liabilities of a run with a document are those of its
lines.  Whatever entry is posted for the document balances and moves each
account and class by the wages and employer costs mapped there, less the
liabilities and the net pay on their own accounts; there is such an entry when
those two accounts take no class, the document moves money and what it debits
is an amount.  A run that states a net which differs from its components is
refused. -/
theorem journalDocument_posts (quoted : String → String) (run : PayRun)
    (config : PayrollConfig) :
    (∀ doc totals, journalDocument quoted run config = .ok (doc, totals) →
      totals.netPay.minor = (run.lines.map PayLine.netEffect).sum ∧
      totals.liabilities.minor = (run.lines.map (PayLine.amountIn
        [.employeeTax, .employeeDeduction, .employerTax, .employerDeduction])).sum ∧
      (∀ version ctx entry, post doc version ctx = .ok (.entry entry) →
        entry.isBalanced = true ∧
        ∀ key, lineTotal (fun other => other = key) entry.lines =
          total (fun line => config.debitedKey line = some key)
            (fun line => line.amount.minor) run.lines -
          (if config.liabilitiesKey = key then totals.liabilities.minor else 0) -
          if config.bankKey = key then totals.netPay.minor else 0) ∧
      (requiresClass ⟨config.bankAccount⟩ = false →
        requiresClass ⟨config.liabilitiesAccount⟩ = false →
        (∃ line ∈ doc.lines, line.amount.minor ≠ 0) →
        (doc.lines.map fun line => (line.amount.minor.natAbs : Int)).sum ≤
          2 * 9223372036854775807 →
        ∀ version ctx, ∃ entry, post doc version ctx = .ok (.entry entry))) ∧
    ∀ employee, (∃ line ∈ run.lines, line.statedEmployee = some employee) →
      total (fun line => line.statedEmployee = some employee) (fun line => line.amount.minor)
          run.lines ≠
        total (fun line => trimmed line.employee = employee) PayLine.netEffect run.lines →
      ∃ refusal, journalDocument quoted run config = .error refusal := by
  constructor
  · intro doc totals builds
    obtain ⟨journal, built⟩ := journalDocument_eq_ok_iff.mp builds
    refine ⟨built.minor_netPay, built.minor_liabilities, ?_, ?_⟩
    · intro version ctx entry posts
      exact built.entry_spec posts
    · intro bankTakesNone liabilitiesTakeNone moves fits version ctx
      exact built.exists_entry version ctx bankTakesNone liabilitiesTakeNone moves fits
  · intro employee stated differs
    cases builds : journalDocument quoted run config with
    | error refusal => exact ⟨refusal, rfl⟩
    | ok result =>
      obtain ⟨doc, totals⟩ := result
      obtain ⟨journal, built⟩ := journalDocument_eq_ok_iff.mp builds
      exact absurd (built.stated_eq stated) differs

/-- One employee's wages with a tax withheld and the net that is left, or another
one. -/
def payRunStating (net : Money) : PayRun where
  runId := "2026-05"
  payDate := ⟨2026, 3, 6, Eq.refl true⟩
  periodStart := none
  periodEnd := none
  lines :=
    [⟨"Ann Lee", none, .earning, "Regular", .fromMinor 100000⟩,
      ⟨"Ann Lee", none, .employeeTax, "Federal", .fromMinor 20000⟩,
      ⟨"Ann Lee", none, .netPay, "Net", net⟩]

/-- Employer taxes that add up within the range of amounts in one order only. -/
def payRunAtTheBounds : PayRun where
  runId := "2026-06"
  payDate := ⟨2026, 3, 20, Eq.refl true⟩
  periodStart := none
  periodEnd := none
  lines :=
    [⟨"Ann Lee", none, .employerTax, "A", .fromMinor 9223372036854775807⟩,
      ⟨"Ann Lee", none, .employerTax, "B", .fromMinor (-9223372036854775807)⟩,
      ⟨"Ann Lee", none, .employerTax, "C", .fromMinor 9223372036854775807⟩]

def payrollOwedAt (liabilitiesAccount : String) : PayrollConfig where
  liabilitiesAccount := liabilitiesAccount
  employees := OrderedTable.empty.insert "Ann Lee" ⟨"foam", none, none⟩

theorem journalDocument_posts_march :
    (∃ doc totals,
      journalDocument id (payRunStating (.fromMinor 80000)) (payrollOwedAt "2400") =
        .ok (doc, totals) ∧ ∃ entry, post doc 1 {} = .ok (.entry entry)) ∧
    ∃ refusal, journalDocument id (payRunStating (.fromMinor 70000)) (payrollOwedAt "2400") =
      .error refusal := by
  constructor
  · obtain ⟨⟨doc, totals⟩, builds, reads⟩ := exists_ok_of_map_toOption
      (show (journalDocument id (payRunStating (.fromMinor 80000))
          (payrollOwedAt "2400")).toOption.map (fun result =>
            (decide (∃ line ∈ result.1.lines, line.amount.minor ≠ 0),
              (result.1.lines.map fun line => (line.amount.minor.natAbs : Int)).sum)) =
        some (true, 200000) by decide +kernel)
    rw [Prod.mk.injEq, decide_eq_true_eq] at reads
    obtain ⟨-, -, -, posts⟩ := (journalDocument_posts id (payRunStating (.fromMinor 80000))
      (payrollOwedAt "2400")).1 doc totals builds
    exact ⟨doc, totals, builds, posts rfl rfl reads.1 (by rw [reads.2]; decide) 1 {}⟩
  · exact (journalDocument_posts id (payRunStating (.fromMinor 70000))
      (payrollOwedAt "2400")).2 "Ann Lee" (by decide +kernel) (by decide +kernel)

/-- A liabilities account that takes a class, or liabilities that pass the range
of amounts when they are posted, leave a run's document without an entry. -/
theorem journalDocument_does_not_post :
    (∃ doc totals,
      journalDocument id (payRunStating (.fromMinor 80000)) (payrollOwedAt "6100") =
        .ok (doc, totals) ∧ post doc 1 {} = .error (.missingClass 2)) ∧
    ∃ doc totals, journalDocument id payRunAtTheBounds (payrollOwedAt "2400") =
      .ok (doc, totals) ∧ post doc 1 {} = .error (.money .overflow) := by
  have refused : ∀ {doc failure}, (match post doc 1 {} with
      | .error failure => some failure
      | .ok _ => none) = some failure → post doc 1 {} = .error failure := by
    intro doc failure reads
    cases posts : post doc 1 {} <;> simp_all
  constructor
  · obtain ⟨⟨doc, totals⟩, builds, reads⟩ := exists_ok_of_map_toOption
      (show (journalDocument id (payRunStating (.fromMinor 80000))
          (payrollOwedAt "6100")).toOption.map (fun result =>
            match post result.1 1 {} with
            | .error failure => some failure
            | .ok _ => none) = some (some (.missingClass 2)) by decide +kernel)
    exact ⟨doc, totals, builds, refused reads⟩
  · obtain ⟨⟨doc, totals⟩, builds, reads⟩ := exists_ok_of_map_toOption
      (show (journalDocument id payRunAtTheBounds
          (payrollOwedAt "2400")).toOption.map (fun result =>
            match post result.1 1 {} with
            | .error failure => some failure
            | .ok _ => none) = some (some (.money .overflow)) by decide +kernel)
    exact ⟨doc, totals, builds, refused reads⟩

end QuickBooks
