import QuickBooks.BankHistories

/-!
# What a bank line is matched with

The journal lines that a bank line could clear stand in an order: those of its
amount, the nearest in time first, then for money in the settlements whose
credits are its amount, then those that exceed it by a plausible fee.  The bank
line claims the first one, and when there is none it becomes a proposal.
-/

namespace QuickBooks

open DecimalNumbers ExceptPrograms TransactionPrograms TransitionRuns

namespace Bank

/-- A journal line that a bank line could clear, as what, and what the entry
credited when more than came in. -/
structure Choice where
  posted : PostedEntry
  row : JournalLine
  kind : MatchKind
  gross : Option Money
deriving DecidableEq

section Choices

variable (divide : Decimal → Decimal → Decimal) (book : BankBook) (line : BankLineRow)
  (rules : MatchRules) (amount : Money)

def clearingSide : Side :=
  if line.amount.isNegative then .credit else .debit

def exactChoices : List Choice :=
  ((unclearedLinesMatching book line (clearingSide line) amount rules).insertionSort
    fun first second =>
      (daysBetween line.postedOn first.1.entry.entryDate).natAbs ≤
        (daysBetween line.postedOn second.1.entry.entryDate).natAbs).map
    fun candidate => ⟨candidate.1, candidate.2, .exact, none⟩

/-- The bank legs of settlements that are not cleared yet. -/
def legChoices (isShort : Bool) (entries : List (PostedEntry × Money)) : List Choice :=
  entries.filterMap fun candidate =>
    (unclearedBankLeg book line candidate.1).map fun leg =>
      ⟨candidate.1, leg, .settlement, if isShort then some candidate.2 else none⟩

def settlementChoices : List Choice :=
  legChoices book line false
    ((clearingEntries book line rules).filter fun candidate => candidate.2 = amount)

def feeChoices : List Choice :=
  if rules.maxFeeRatio.atMost .zero then []
  else
    legChoices book line true ((clearingEntries book line rules).filter fun candidate =>
      decide (amount.minor ≤ candidate.2.minor) &&
        (feeRatio divide candidate.2 amount).any fun ratio => ratio.atMost rules.maxFeeRatio)

/-- Everything that the line could clear, what it takes first at the front. -/
def choices : List Choice :=
  exactChoices book line rules amount ++
    if line.amount.isNegative then []
    else settlementChoices book line rules amount ++ feeChoices divide book line rules amount

/-- What follows the claim: the fee of a settlement that came in short. -/
def chargeFee (choice : Choice) (report : MatchReport) : BankProgram MatchReport :=
  match choice.gross with
  | none => return report
  | some gross => do
    let fee ← MonadExcept.ofExcept ((gross.checkedSub amount).mapError BankError.money)
    let _ ← postSettlementFeeAdjustment line.accountId fee rules.feeClass line.postedOn
      choice.posted.entryId
    return report

end Choices

section Reading

variable {divide : Decimal → Decimal → Decimal} {book : BankBook} {line : BankLineRow}
  {rules : MatchRules} {amount : Money} {choice : Choice}

theorem nearest_eq_head? :
    (nearest line (unclearedLinesMatching book line (clearingSide line) amount rules)).map
        (fun candidate => (⟨candidate.1, candidate.2, .exact, none⟩ : Choice)) =
      (exactChoices book line rules amount).head? := by
  unfold nearest exactChoices
  rw [List.head?_map]

theorem head?_legChoices (isShort : Bool) (entries : List (PostedEntry × Money)) :
    (legChoices book line isShort entries).head? =
      (firstClearable book line entries).map fun found =>
        (⟨found.1, found.2.2, .settlement, if isShort then some found.2.1 else none⟩ :
          Choice) := by
  unfold legChoices firstClearable
  rw [List.head?_filterMap]
  induction entries with
  | nil => rfl
  | cons candidate entries ih =>
    rw [List.findSome?_cons, List.findSome?_cons]
    cases unclearedBankLeg book line candidate.1 with
    | none => exact ih
    | some leg => rfl

/-- The journal line of a choice is there and is not cleared, and claiming it
resolves the bank line. -/
structure Choice.Found (book : BankBook) (line : BankLineRow) (choice : Choice) : Prop where
  resolves : ∀ claim, isResolved (line.withMatch choice.kind claim) = true
  posted : choice.posted ∈ book.ledger.journal
  row : choice.row ∈ choice.posted.entry.lines
  onAccount : choice.row.account = line.accountId
  unstamped : (choice.posted.entryId, choice.row.lineNo) ∉ book.cleared

theorem found_of_mem_exactChoices (isChoice : choice ∈ exactChoices book line rules amount) :
    choice.Found book line := by
  obtain ⟨candidate, candidateMem, rfl⟩ := List.mem_map.mp isChoice
  rw [List.mem_insertionSort, mem_unclearedLinesMatching] at candidateMem
  obtain ⟨⟨postedMem, rowMem⟩, onAccount, -, unstamped, -⟩ := candidateMem
  exact ⟨fun _ => rfl, postedMem, rowMem, onAccount, unstamped⟩

theorem found_of_mem_legChoices {isShort : Bool} {entries : List (PostedEntry × Money)}
    (posted : ∀ candidate ∈ entries, candidate.1 ∈ book.ledger.journal)
    (isChoice : choice ∈ legChoices book line isShort entries) :
    choice.Found book line ∧
      ∀ gross, choice.gross = some gross → (choice.posted, gross) ∈ entries := by
  obtain ⟨candidate, candidateMem, isLeg⟩ := List.mem_filterMap.mp isChoice
  obtain ⟨leg, uncleared, rfl⟩ := Option.map_eq_some_iff.mp isLeg
  unfold unclearedBankLeg at uncleared
  obtain ⟨isFirst, unstamped⟩ := Option.filter_eq_some_iff.mp uncleared
  have meets := List.find?_some isFirst
  simp only [decide_eq_true_eq] at meets
  refine ⟨⟨fun _ => rfl, posted candidate candidateMem, List.mem_of_find?_eq_some isFirst, meets.1, ?_⟩, ?_⟩
  · simpa [BankBook.isLineCleared] using unstamped
  · intro gross isGross
    cases isShort with
    | false => simp at isGross
    | true =>
      simp only [if_true, Option.some.injEq] at isGross
      rw [← isGross]
      exact candidateMem

theorem found_of_mem_settlementChoices
    (isChoice : choice ∈ settlementChoices book line rules amount) :
    choice.Found book line ∧ choice.gross = none := by
  have listed := found_of_mem_legChoices (fun candidate candidateMem =>
    (mem_clearingEntries (List.mem_filter.mp candidateMem).1).1) isChoice
  obtain ⟨candidate, -, isLeg⟩ := List.mem_filterMap.mp isChoice
  obtain ⟨leg, -, rfl⟩ := Option.map_eq_some_iff.mp isLeg
  exact ⟨listed.1, rfl⟩

theorem found_of_mem_feeChoices (isChoice : choice ∈ feeChoices divide book line rules amount) :
    choice.Found book line ∧ ∀ gross, choice.gross = some gross →
      ∃ fee, gross.checkedSub amount = .ok fee := by
  unfold feeChoices at isChoice
  split_ifs at isChoice
  · exact absurd isChoice List.not_mem_nil
  have listed := found_of_mem_legChoices (fun candidate candidateMem =>
    (mem_clearingEntries (List.mem_filter.mp candidateMem).1).1) isChoice
  refine ⟨listed.1, fun gross isGross => ?_⟩
  have covered := (List.mem_filter.mp (listed.2 gross isGross)).2
  rw [Bool.and_eq_true, Option.any_eq_true] at covered
  obtain ⟨ratio, isRatio, -⟩ := covered.2
  unfold feeRatio at isRatio
  cases fee : gross.checkedSub amount with
  | ok shortfall => exact ⟨shortfall, rfl⟩
  | error failure => simp [fee] at isRatio

theorem found_of_mem_choices (isChoice : choice ∈ choices divide book line rules amount) :
    choice.Found book line := by
  unfold choices at isChoice
  rcases List.mem_append.mp isChoice with isExact | isChoice
  · exact found_of_mem_exactChoices isExact
  split_ifs at isChoice
  · exact absurd isChoice List.not_mem_nil
  rcases List.mem_append.mp isChoice with isSettlement | isShort
  · exact (found_of_mem_settlementChoices isSettlement).1
  · exact (found_of_mem_feeChoices isShort).1

end Reading

section Execution

variable {divide : Decimal → Decimal → Decimal} {book : BankBook} {line : BankLineRow}
  {rules : MatchRules} {amount : Money} {choice : Choice}

theorem execute_matchOneLine_of_error {failure : BankError}
    (absolute : amountAbs line = .error failure) (report : MatchReport) :
    execute (matchOneLine divide line rules report) book = (.error failure, book) := by
  unfold matchOneLine
  rw [execute_bind_error book]
  rw [absolute, execute_ofExcept]

theorem chargeFee_of_none (whole : choice.gross = none) (report : MatchReport) :
    chargeFee line rules amount choice report = pure report := by
  unfold chargeFee
  rw [whole]

theorem chargeFee_of_some {gross fee : Money} (isGross : choice.gross = some gross)
    (isFee : gross.checkedSub amount = .ok fee) (report : MatchReport) :
    chargeFee line rules amount choice report =
      (postSettlementFeeAdjustment line.accountId fee rules.feeClass line.postedOn
        choice.posted.entryId >>= fun _ => pure report) := by
  unfold chargeFee
  rw [isGross]
  dsimp only
  rw [isFee]
  rfl

theorem execute_chargeFee_bind (report : MatchReport) :
    execute (chargeFee line rules amount choice {} >>= fun _ => pure report) book =
      execute (chargeFee line rules amount choice report) book := by
  unfold chargeFee
  cases choice.gross with
  | none => rfl
  | some gross =>
    dsimp only
    cases (gross.checkedSub amount).mapError BankError.money with
    | error failure => rfl
    | ok fee =>
      rw [execute_bind, execute_bind_ok _ (execute_ofExcept _ (.ok fee)), execute_bind,
        execute_bind_ok _ (execute_ofExcept _ (.ok fee)), execute_bind]
      rcases execute (postSettlementFeeAdjustment line.accountId fee rules.feeClass
        line.postedOn choice.posted.entryId) book with ⟨outcome, after⟩
      cases outcome <;> rfl

theorem execute_trySettlementMatch (lineMem : line ∈ book.lines) :
    execute (trySettlementMatch line amount rules) book =
      match (settlementChoices book line rules amount).head? with
      | none => (.ok false, book)
      | some choice => (.ok true,
          book.withClaim line.lineId choice.kind (choice.posted.entryId, choice.row.lineNo)) := by
  unfold trySettlementMatch settlementChoices
  rw [execute_bind_ok _ (execute_get book), head?_legChoices]
  dsimp only
  cases found : firstClearable book line
      ((clearingEntries book line rules).filter fun candidate => candidate.2 = amount) with
  | none => rfl
  | some candidate =>
    obtain ⟨posted, gross, leg⟩ := candidate
    obtain ⟨candidateMem, legMem, -⟩ := firstClearable_eq_some found
    have postedMem := (mem_clearingEntries (List.mem_filter.mp candidateMem).1).1
    exact execute_claim lineMem postedMem legMem .settlement _

theorem execute_trySettlementFeeMatch {α : Type} (lineMem : line ∈ book.lines)
    (next : Bool → BankProgram α) :
    execute (trySettlementFeeMatch divide line amount rules >>= next) book =
      match (feeChoices divide book line rules amount).head? with
      | none => execute (next false) book
      | some choice => execute (chargeFee line rules amount choice {} >>= fun _ => next true)
          (book.withClaim line.lineId choice.kind
            (choice.posted.entryId, choice.row.lineNo)) := by
  unfold trySettlementFeeMatch feeChoices
  split_ifs with noFees
  · rfl
  rw [head?_legChoices, execute_bind, execute_bind_ok _ (execute_get book)]
  dsimp only
  cases found : firstClearable book line
      ((clearingEntries book line rules).filter fun candidate =>
        decide (amount.minor ≤ candidate.2.minor) &&
          (feeRatio divide candidate.2 amount).any fun ratio =>
            ratio.atMost rules.maxFeeRatio) with
  | none => rfl
  | some candidate =>
    obtain ⟨posted, gross, leg⟩ := candidate
    obtain ⟨candidateMem, legMem, -⟩ := firstClearable_eq_some found
    have postedMem := (mem_clearingEntries (List.mem_filter.mp candidateMem).1).1
    have isChoice : (⟨posted, leg, .settlement, some gross⟩ : Choice) ∈
        feeChoices divide book line rules amount := by
      unfold feeChoices
      rw [if_neg noFees]
      apply List.mem_of_head?
      rw [head?_legChoices, found]
      rfl
    obtain ⟨fee, isFee⟩ := (found_of_mem_feeChoices isChoice).2 gross rfl
    have reads : (gross.checkedSub amount).mapError BankError.money = .ok fee := by
      rw [isFee]
      rfl
    have charges : chargeFee line rules amount ⟨posted, leg, .settlement, some gross⟩ {} = _ :=
      chargeFee_of_some rfl isFee {}
    dsimp only [Option.map_some]
    rw [reads, execute_bind_ok _ (execute_ofExcept _ (.ok fee)),
      execute_claim lineMem postedMem legMem .settlement]
    change _ = execute (chargeFee line rules amount
      ⟨posted, leg, .settlement, some gross⟩ {} >>= fun _ => next true) _
    rw [charges, execute_bind, execute_bind, execute_bind]
    rcases execute (postSettlementFeeAdjustment line.accountId fee rules.feeClass
      line.postedOn posted.entryId) (book.withClaim line.lineId .settlement
        (posted.entryId, leg.lineNo)) with ⟨outcome, after⟩
    cases outcome <;> rfl

theorem execute_matchOneLine (lineMem : line ∈ book.lines)
    (absolute : amountAbs line = .ok amount) (report : MatchReport) :
    ∃ answer, execute (matchOneLine divide line rules report) book =
      match (choices divide book line rules amount).head? with
      | none => (.ok answer, book.withMatch line.lineId .proposed none)
      | some choice => execute (chargeFee line rules amount choice answer)
          (book.withClaim line.lineId choice.kind
            (choice.posted.entryId, choice.row.lineNo)) := by
  have side : (if (!line.amount.isNegative) = true then Side.debit else Side.credit) =
      clearingSide line := by
    unfold clearingSide
    cases line.amount.isNegative <;> rfl
  have exactFirst : (nearest line (unclearedLinesMatching book line (clearingSide line) amount
      rules)).map _ = (exactChoices book line rules amount).head? := nearest_eq_head?
  have proposes : ∀ answer : MatchReport,
      execute (setBankLineMatch line.lineId .proposed none none >>=
        fun _ => (pure answer : BankProgram MatchReport)) book =
          (.ok answer, book.withMatch line.lineId .proposed none) :=
    fun answer => execute_bind_ok _ (execute_setBankLineMatch lineMem .proposed none)
  unfold matchOneLine choices
  rw [execute_bind_ok _ (by rw [absolute, execute_ofExcept])]
  dsimp only
  rw [side, execute_bind_ok _ (execute_get book), List.head?_append, ← exactFirst]
  cases found : nearest line
      (unclearedLinesMatching book line (clearingSide line) amount rules) with
  | some candidate =>
    obtain ⟨⟨postedMem, rowMem⟩, -⟩ := mem_unclearedLinesMatching.mp (mem_of_nearest found)
    exact ⟨_, execute_claim lineMem postedMem rowMem .exact _⟩
  | none =>
    cases negative : line.amount.isNegative with
    | true => exact ⟨_, proposes _⟩
    | false =>
      simp only [Option.map_none, Option.none_or, Bool.not_false, if_true,
        Bool.false_eq_true, if_false, List.head?_append]
      have settles : execute (trySettlementMatch line amount rules) book = _ :=
        execute_trySettlementMatch lineMem
      cases settled : (settlementChoices book line rules amount).head? with
      | some choice =>
        rw [settled] at settles
        have whole := (found_of_mem_settlementChoices (List.mem_of_head? settled)).2
        refine ⟨{ report with settlement := report.settlement + 1 }, ?_⟩
        rw [execute_bind_ok _ settles, Option.some_or]
        dsimp only
        rw [chargeFee_of_none whole]
        rfl
      | none =>
        rw [settled] at settles
        rw [execute_bind_ok _ settles, Option.none_or, if_neg Bool.false_ne_true,
          execute_trySettlementFeeMatch lineMem]
        cases fees : (feeChoices divide book line rules amount).head? with
        | none => exact ⟨_, proposes _⟩
        | some choice =>
          refine ⟨{ report with settlementFee := report.settlementFee + 1 }, ?_⟩
          dsimp only
          rw [if_pos rfl]
          exact execute_chargeFee_bind _

theorem execute_chargeFee_ledger (line : BankLineRow) (rules : MatchRules) (amount : Money)
    (choice : Choice) (report : MatchReport) (book : BankBook)
    {relation : Ledger → Ledger → Prop} [IsPreorder Ledger relation]
    (posts : ∀ doc command, Respects relation (saveThenPostEntry doc command)) :
    ∃ after, relation book.ledger after ∧
      (execute (chargeFee line rules amount choice report) book).2 =
        { book with ledger := after } := by
  unfold chargeFee
  cases choice.gross with
  | none => exact ⟨book.ledger, refl_of relation _, rfl⟩
  | some gross =>
    dsimp only
    cases (gross.checkedSub amount).mapError BankError.money with
    | error failure => exact ⟨book.ledger, refl_of relation _, rfl⟩
    | ok fee =>
      rw [execute_bind_ok _ (execute_ofExcept _ (.ok fee)),
        execute_bind_state _ fun _ _ => rfl]
      unfold postSettlementFeeAdjustment
      cases fee.checkedNeg.mapError BankError.money with
      | error failure => exact ⟨book.ledger, refl_of relation _, rfl⟩
      | ok negatedFee =>
        exact ⟨_, posts _ _ book.ledger, rfl⟩

end Execution

/-- The listed rows are of open statements and still as they were listed. -/
structure BankBook.Listed (book : BankBook) (lines : List BankLineRow) : Prop where
  wellFormed : book.WellFormed
  distinct : (lines.map BankLineRow.lineId).Nodup
  listed : ∀ row ∈ lines, row ∈ book.lines
  isOpen : ∀ row ∈ lines, book.IsOpen row.statementId

namespace BankBook.Listed

variable {divide : Decimal → Decimal → Decimal} {book middle : BankBook} {line : BankLineRow}
  {lines rest : List BankLineRow} {rules : MatchRules} {report : MatchReport}

theorem tail (listed : book.Listed (line :: rest)) : book.Listed rest where
  wellFormed := listed.wellFormed
  distinct := (List.nodup_cons.mp listed.distinct).2
  listed row rowMem := listed.listed row (List.mem_cons_of_mem _ rowMem)
  isOpen row rowMem := listed.isOpen row (List.mem_cons_of_mem _ rowMem)

theorem head_notMem (listed : book.Listed (line :: rest)) {other : BankLineRow}
    (otherMem : other ∈ rest) : other.lineId ≠ line.lineId := by
  intro sameId
  exact (List.nodup_cons.mp listed.distinct).1 (sameId ▸ List.mem_map_of_mem otherMem)

theorem settles (listed : book.Listed (line :: rest)) (unmatched : line.matchKind = none)
    (report : MatchReport) :
    Settling line.lineId book (execute (matchOneLine divide line rules report) book).2 := by
  apply matchOneLine_settles (listed.listed line List.mem_cons_self)
  · unfold isResolved
    rw [unmatched]
  · exact listed.isOpen line List.mem_cons_self

theorem after (listed : book.Listed (line :: rest)) (unmatched : line.matchKind = none)
    {later : Except BankError MatchReport}
    (runs : execute (matchOneLine divide line rules report) book = (later, middle)) :
    middle.Listed rest := by
  have settles : Settling line.lineId book
      (execute (matchOneLine divide line rules report) book).2 :=
    listed.settles unmatched report
  rw [runs] at settles
  refine ⟨(settles.evolves listed.wellFormed).2, listed.tail.distinct, ?_, ?_⟩
  · intro other otherMem
    exact settles.others other (listed.tail.listed other otherMem) (listed.head_notMem otherMem)
  · intro other otherMem
    unfold BankBook.IsOpen
    rw [settles.statements]
    exact listed.tail.isOpen other otherMem

theorem keeps (listed : book.Listed lines) {other : BankLineRow} (otherMem : other ∈ book.lines)
    (notListed : ∀ line ∈ lines, line.matchKind = none → other.lineId ≠ line.lineId) :
    other ∈ (execute (matchLines divide rules lines report) book).2.lines := by
  induction lines generalizing book report with
  | nil => exact otherMem
  | cons line rest ih =>
    rw [List.forall_mem_cons] at notListed
    rw [matchLines]
    split_ifs with matched
    · exact ih listed.tail otherMem notListed.2
    · have unmatched := Option.not_isSome_iff_eq_none.mp matched
      have settles : Settling line.lineId book
          (execute (matchOneLine divide line rules report) book).2 :=
        listed.settles unmatched report
      have stays := settles.others other otherMem (notListed.1 unmatched)
      rw [execute_bind]
      rcases runs : execute (matchOneLine divide line rules report) book with
        ⟨outcome, middle⟩
      rw [runs] at stays
      cases outcome with
      | error failure => exact stays
      | ok later => exact ih (listed.after unmatched runs) stays notListed.2

end BankBook.Listed

theorem matchOneLine_cases {divide : Decimal → Decimal → Decimal} {book : BankBook}
    {line : BankLineRow} (rules : MatchRules) (lineMem : line ∈ book.lines)
    (report : MatchReport) {relation : Ledger → Ledger → Prop} [IsPreorder Ledger relation]
    (posts : ∀ doc command, Respects relation (saveThenPostEntry doc command)) :
    (∃ failure, amountAbs line = .error failure ∧
      execute (matchOneLine divide line rules report) book = (.error failure, book)) ∨
    ∃ amount, amountAbs line = .ok amount ∧
      ((choices divide book line rules amount = [] ∧ ∃ answer,
          execute (matchOneLine divide line rules report) book =
            (.ok answer, book.withMatch line.lineId .proposed none)) ∨
        ∃ choice after, (choices divide book line rules amount).head? = some choice ∧
          relation book.ledger after ∧
          (execute (matchOneLine divide line rules report) book).2 =
            { book.withClaim line.lineId choice.kind
                (choice.posted.entryId, choice.row.lineNo) with ledger := after }) := by
  cases absolute : amountAbs line with
  | error failure => exact .inl ⟨failure, rfl, execute_matchOneLine_of_error absolute report⟩
  | ok amount =>
    refine .inr ⟨amount, rfl, ?_⟩
    obtain ⟨answer, runs⟩ : ∃ answer,
        execute (matchOneLine divide line rules report) book = _ :=
      execute_matchOneLine lineMem absolute report
    cases first : (choices divide book line rules amount).head? with
    | none =>
      rw [first] at runs
      exact .inl ⟨List.head?_eq_none_iff.mp first, answer, runs⟩
    | some choice =>
      rw [first] at runs
      dsimp only at runs
      obtain ⟨after, related, leaves⟩ := execute_chargeFee_ledger line rules amount choice
        answer (book.withClaim line.lineId choice.kind
          (choice.posted.entryId, choice.row.lineNo)) posts
      exact .inr ⟨choice, after, rfl, related, by rw [runs, leaves]⟩

end Bank

end QuickBooks
