import QuickBooks.MatchedLines
import QuickBooks.ReconciledStatements

/-!
# Bank lines and live entries

Matching looks at every posted entry, those that were reversed and their
reversals too.  A bank line claims the first of its choices, so it points at a
live entry exactly when a live one comes before every dead one among them.
Matching posts no reversal, so what was live when a line was matched still is
when the call is over.
-/

namespace QuickBooks

open DecimalNumbers ExceptPrograms TransactionPrograms TransitionRuns

namespace Ledger

/-- Not a reversal, and nothing reverses it. -/
structure IsLive (ledger : Ledger) (posted : PostedEntry) : Prop where
  original : posted.entry.reversalOf = none
  notReversed : ∀ other ∈ ledger.journal, other.entry.reversalOf ≠ some posted.entryId

instance (ledger : Ledger) (posted : PostedEntry) : Decidable (ledger.IsLive posted) :=
  decidable_of_iff (posted.entry.reversalOf = none ∧
      ∀ other ∈ ledger.journal, other.entry.reversalOf ≠ some posted.entryId)
    ⟨fun ⟨original, notReversed⟩ => ⟨original, notReversed⟩,
      fun ⟨original, notReversed⟩ => ⟨original, notReversed⟩⟩

def AddsOriginals (before after : Ledger) : Prop :=
  ∃ added, after.journal = before.journal ++ added ∧
    ∀ posted ∈ added, posted.entry.reversalOf = none

namespace AddsOriginals

variable {before after : Ledger}

theorem of_journal (same : after.journal = before.journal) : AddsOriginals before after :=
  ⟨[], by rw [same, List.append_nil], fun _ postedMem => absurd postedMem List.not_mem_nil⟩

instance : IsPreorder Ledger AddsOriginals where
  refl _ := of_journal rfl
  trans _ _ _ := by
    rintro ⟨added, addedEq, originals⟩ ⟨later, laterEq, laterOriginals⟩
    refine ⟨added ++ later, by rw [laterEq, addedEq, List.append_assoc], ?_⟩
    intro posted postedMem
    exact (List.mem_append.mp postedMem).elim (originals posted) (laterOriginals posted)

theorem mem_journal (adds : AddsOriginals before after) {posted : PostedEntry}
    (postedMem : posted ∈ before.journal) : posted ∈ after.journal := by
  obtain ⟨added, addedEq, -⟩ := adds
  rw [addedEq]
  exact List.mem_append_left _ postedMem

theorem isLive_iff (adds : AddsOriginals before after) {posted : PostedEntry} :
    after.IsLive posted ↔ before.IsLive posted := by
  obtain ⟨added, addedEq, originals⟩ := adds
  constructor
  · rintro ⟨original, notReversed⟩
    refine ⟨original, fun other otherMem => notReversed other ?_⟩
    rw [addedEq]
    exact List.mem_append_left _ otherMem
  · rintro ⟨original, notReversed⟩
    refine ⟨original, fun other otherMem => ?_⟩
    rw [addedEq] at otherMem
    rcases List.mem_append.mp otherMem with earlier | new
    · exact notReversed other earlier
    · rw [originals other new]
      exact fun isSome => nomatch isSome

theorem postEntry {entry : JournalEntry} (original : entry.reversalOf = none) :
    Respects AddsOriginals (postEntry entry) := by
  intro ledger
  by_cases accepted : ledger.Accepts entry
  · rw [execute_postEntry_of_accepts accepted]
    refine ⟨[⟨ledger.nextEntryId, stored entry⟩], rfl, ?_⟩
    intro posted isNew
    rw [List.mem_singleton.mp isNew]
    exact original
  · obtain ⟨failure, refuses⟩ := execute_postEntry_of_not_accepts accepted
    rw [refuses]
    exact refl_of _ ledger

theorem saveThenPostEntry (doc : LedgerDocument) (command : CommandMeta) :
    Respects AddsOriginals (saveThenPostEntry doc command) := by
  have saveThenPosts : Respects AddsOriginals (saveThenPost doc {} command) := by
    intro ledger
    apply Respects.bind_from (of_journal rfl)
    rintro version middle saves
    apply Respects.bind_from (Respects.ofExcept _ middle)
    intro posting after derives
    rw [execute_ofExcept, Prod.mk.injEq, mapError_eq_ok_iff] at derives
    obtain ⟨derives, rfl⟩ := derives
    cases posting with
    | nonPosting => exact refl_of _ middle
    | entry entry =>
      exact Respects.bind (postEntry (post_entry_source derives).2.2.1)
        (fun _ => .pure _) middle
  apply Respects.bind saveThenPosts
  rintro ⟨version, entryId⟩
  cases entryId with
  | none => exact .throw _
  | some entryId => exact .pure _

end AddsOriginals

end Ledger

namespace Bank

open Ledger

def BankBook.PointsAtLive (book : BankBook) (line : BankLineRow) : Prop :=
  ∃ posted ∈ book.ledger.journal, ∃ row ∈ posted.entry.lines,
    line.claim = some (posted.entryId, row.lineNo) ∧ book.ledger.IsLive posted

instance (book : BankBook) (line : BankLineRow) : Decidable (book.PointsAtLive line) :=
  inferInstanceAs (Decidable (∃ posted ∈ book.ledger.journal, ∃ row ∈ posted.entry.lines,
    line.claim = some (posted.entryId, row.lineNo) ∧ book.ledger.IsLive posted))

def LiveFirst (ledger : Ledger) (listed : List Choice) : Prop :=
  ∀ earlier choice later, listed = earlier ++ choice :: later →
    ¬ ledger.IsLive choice.posted → ∃ other ∈ earlier, ledger.IsLive other.posted

theorem liveFirst_iff {ledger : Ledger} {listed : List Choice} :
    LiveFirst ledger listed ↔ ∀ first ∈ listed.head?, ledger.IsLive first.posted := by
  constructor
  · intro liveFirst first isFirst
    obtain ⟨later, rfl⟩ := List.head?_eq_some_iff.mp isFirst
    by_contra dead
    obtain ⟨other, otherMem, -⟩ := liveFirst [] first later rfl dead
    exact List.not_mem_nil otherMem
  · rintro live earlier choice later rfl dead
    cases earlier with
    | nil => exact absurd (live choice rfl) dead
    | cons first earlier => exact ⟨first, List.mem_cons_self, live first rfl⟩

section Runs

variable (divide : Decimal → Decimal → Decimal) (rules : MatchRules)

/-- At its turn every line that is still to be matched has a live entry before
the dead ones among its choices. -/
def LiveFirstThrough : List BankLineRow → MatchReport → BankBook → Prop
  | [], _, _ => True
  | line :: rest, report, book =>
    if line.matchKind.isSome then LiveFirstThrough rest report book
    else
      (∀ amount, amountAbs line = .ok amount →
        LiveFirst book.ledger (choices divide book line rules amount)) ∧
      ∀ later after, execute (matchOneLine divide line rules report) book = (.ok later, after) →
        LiveFirstThrough rest later after

variable {divide rules} {book middle : BankBook} {line : BankLineRow}
  {lines rest : List BankLineRow} {report : MatchReport}

theorem matchLines_addsOriginals (listed : book.Listed lines) :
    AddsOriginals book.ledger
      (execute (matchLines divide rules lines report) book).2.ledger := by
  induction lines generalizing book report with
  | nil => exact refl_of _ book.ledger
  | cons line rest ih =>
    rw [matchLines]
    split_ifs with matched
    · exact ih listed.tail
    · have unmatched := Option.not_isSome_iff_eq_none.mp matched
      have adds : AddsOriginals book.ledger
          (execute (matchOneLine divide line rules report) book).2.ledger := by
        rcases matchOneLine_cases rules (listed.listed line List.mem_cons_self) report
            AddsOriginals.saveThenPostEntry with
          ⟨failure, -, runs⟩ | ⟨amount, -, ⟨-, answer, runs⟩ | ⟨choice, after, -, adds, runs⟩⟩
        · rw [runs]
          exact refl_of _ book.ledger
        · rw [runs]
          exact refl_of _ book.ledger
        · rw [runs]
          exact adds
      rw [execute_bind]
      rcases runs : execute (matchOneLine divide line rules report) book with
        ⟨outcome, middle⟩
      rw [runs] at adds
      cases outcome with
      | error failure => exact adds
      | ok later => exact trans_of _ adds (ih (listed.after unmatched runs))

def ResolvesLive (lines : List BankLineRow) (after : BankBook) : Prop :=
  ∀ line ∈ lines, line.matchKind = none → ∀ matched ∈ after.lines,
    matched.lineId = line.lineId → isResolved matched = true → after.PointsAtLive matched

theorem resolvesLive_cons_iff {after : BankBook} (unmatched : line.matchKind = none)
    (afterWellFormed : after.WellFormed) {row : BankLineRow} (rowMem : row ∈ after.lines)
    (sameId : row.lineId = line.lineId) :
    ResolvesLive (line :: rest) after ↔
      (isResolved row = true → after.PointsAtLive row) ∧ ResolvesLive rest after := by
  unfold ResolvesLive
  rw [List.forall_mem_cons]
  apply and_congr_left
  intro _
  constructor
  · intro holds
    exact holds unmatched row rowMem sameId
  · intro holds _ matched matchedMem matchedId
    rw [afterWellFormed.line_eq matchedMem rowMem (matchedId.trans sameId.symm)]
    exact holds

theorem BankBook.Listed.resolvesLive (listed : book.Listed lines) : ResolvesLive lines book := by
  intro line lineMem unmatched matched matchedMem sameId resolved
  rw [listed.wellFormed.line_eq matchedMem (listed.listed line lineMem) sameId] at resolved
  unfold isResolved at resolved
  rw [unmatched] at resolved
  cases resolved

theorem pointsAtLive_iff {after : BankBook} {choice : Choice} (found : choice.Found book line)
    (adds : AddsOriginals book.ledger after.ledger) (wellFormed : after.ledger.WellFormed) :
    after.PointsAtLive (line.withMatch choice.kind
        (some (choice.posted.entryId, choice.row.lineNo))) ↔
      book.ledger.IsLive choice.posted := by
  have postedMem := adds.mem_journal found.posted
  rw [← adds.isLive_iff]
  unfold BankBook.PointsAtLive
  rw [BankLineRow.claim_withMatch]
  constructor
  · rintro ⟨posted, posted'Mem, row, -, claimed, live⟩
    rw [Option.some.injEq, Prod.mk.injEq] at claimed
    rwa [wellFormed.eq_of_entryId postedMem posted'Mem claimed.1]
  · intro live
    exact ⟨choice.posted, postedMem, choice.row, found.row, rfl, live⟩

theorem resolvesLive_iff (listed : book.Listed lines) :
    ResolvesLive lines (execute (matchLines divide rules lines report) book).2 ↔
      LiveFirstThrough divide rules lines report book := by
  induction lines generalizing book report with
  | nil => simp [ResolvesLive, LiveFirstThrough]
  | cons line rest ih =>
    have afterWellFormed : (execute (matchLines divide rules (line :: rest) report)
        book).2.WellFormed :=
      (matchLines_evolves listed.distinct listed.listed listed.isOpen report
        listed.wellFormed).2
    rw [matchLines] at afterWellFormed ⊢
    rw [LiveFirstThrough]
    split_ifs at afterWellFormed ⊢ with matched
    · rw [← ih listed.tail]
      unfold ResolvesLive
      rw [List.forall_mem_cons, and_iff_right]
      intro unmatched
      rw [unmatched] at matched
      cases matched
    · have unmatched := Option.not_isSome_iff_eq_none.mp matched
      have lineMem := listed.listed line List.mem_cons_self
      have notRest : ∀ other ∈ rest, other.matchKind = none → line.lineId ≠ other.lineId :=
        fun other otherMem _ sameId => listed.head_notMem otherMem sameId.symm
      rcases matchOneLine_cases rules lineMem report
          AddsOriginals.saveThenPostEntry with
        ⟨failure, absolute, runs⟩ |
        ⟨amount, absolute, ⟨nothing, answer, runs⟩ | ⟨choice, after, first, adds, leaves⟩⟩
      · rw [execute_bind_error _ runs, runs]
        refine iff_of_true listed.resolvesLive ⟨?_, ?_⟩
        · intro amount isAmount
          rw [absolute] at isAmount
          cases isAmount
        · rintro _ _ ⟨⟩
      · rw [execute_bind_ok _ runs] at afterWellFormed ⊢
        have middleListed := listed.after unmatched runs
        have rowMem : line.withMatch .proposed none ∈
            (book.withMatch line.lineId .proposed none).lines :=
          List.mem_map.mpr ⟨line, lineMem, if_pos rfl⟩
        rw [resolvesLive_cons_iff unmatched afterWellFormed
          (middleListed.keeps rowMem notRest) rfl, ih middleListed, runs]
        constructor
        · rintro ⟨-, through⟩
          constructor
          · intro other isAmount
            rw [absolute, Except.ok.injEq] at isAmount
            rw [← isAmount, nothing, liveFirst_iff]
            exact fun first isFirst => by cases isFirst
          · rintro later after ⟨⟩
            exact through
        · rintro ⟨-, through⟩
          exact ⟨fun resolved => (by cases resolved), through _ _ rfl⟩
      · have found := found_of_mem_choices (List.mem_of_head? first)
        rcases runs : execute (matchOneLine divide line rules report) book with
          ⟨outcome, middle⟩
        rw [runs] at leaves
        have middleListed := listed.after unmatched runs
        have rowMem : line.withMatch choice.kind
            (some (choice.posted.entryId, choice.row.lineNo)) ∈ middle.lines := by
          rw [show middle = _ from leaves]
          exact List.mem_map.mpr ⟨line, lineMem, if_pos rfl⟩
        have middleAdds : AddsOriginals book.ledger middle.ledger := by
          rw [show middle = _ from leaves]
          exact adds
        have headLive : (∀ amount, amountAbs line = .ok amount →
            LiveFirst book.ledger (choices divide book line rules amount)) ↔
              book.ledger.IsLive choice.posted := by
          rw [absolute]
          constructor
          · intro holds
            exact liveFirst_iff.mp (holds amount rfl) choice first
          · rintro live _ ⟨⟩
            rw [liveFirst_iff, first]
            rintro _ ⟨⟩
            exact live
        rw [headLive]
        rw [execute_bind, runs] at afterWellFormed ⊢
        cases outcome with
        | error failure =>
          rw [resolvesLive_cons_iff unmatched afterWellFormed rowMem rfl,
            pointsAtLive_iff found middleAdds afterWellFormed.ledger]
          constructor
          · rintro ⟨live, -⟩
            exact ⟨live (found.resolves _), fun _ _ isOk => by cases isOk⟩
          · rintro ⟨live, -⟩
            exact ⟨fun _ => live, middleListed.resolvesLive⟩
        | ok later =>
          rw [resolvesLive_cons_iff unmatched afterWellFormed
              (middleListed.keeps rowMem notRest) rfl,
            pointsAtLive_iff found (trans_of _ middleAdds
              (matchLines_addsOriginals middleListed)) afterWellFormed.ledger,
            ih middleListed]
          constructor
          · rintro ⟨live, through⟩
            refine ⟨live (found.resolves _), ?_⟩
            rintro _ _ ⟨⟩
            exact through
          · rintro ⟨live, through⟩
            exact ⟨fun _ => live, through _ _ rfl⟩

end Runs

section Calls

variable (divide : Decimal → Decimal → Decimal)

theorem BankBook.Listed.of_statement {book : BankBook} (wellFormed : book.WellFormed)
    {statement : BankStatementRow} (statementMem : statement ∈ book.statements)
    (isOpen : statement.isClosed = false) :
    book.Listed (book.listBankLines statement.statementId) where
  wellFormed := wellFormed
  distinct := wellFormed.listBankLines_nodup _
  listed row rowMem := (mem_listBankLines.mp rowMem).1
  isOpen row rowMem := by
    rw [(mem_listBankLines.mp rowMem).2]
    exact ⟨statement, statementMem, rfl, isOpen⟩

theorem execute_matchStatement (book : BankBook) (statementId : ℕ) (rules : MatchRules) :
    (∃ failure, execute (matchStatement divide statementId rules) book =
        (.error failure, book) ∧
      ∀ statement, book.bankStatement statementId = .ok statement →
        statement.isClosed = true) ∨
    ∃ statement ∈ book.statements, statement.statementId = statementId ∧
      statement.isClosed = false ∧ book.bankStatement statementId = .ok statement ∧
      execute (matchStatement divide statementId rules) book =
        execute (matchLines divide rules (book.listBankLines statementId) {}) book := by
  unfold matchStatement
  rw [execute_bind_ok _ (execute_get book)]
  cases found : book.bankStatement statementId with
  | error failure => exact .inl ⟨_, rfl, fun _ isOk => nomatch isOk⟩
  | ok statement =>
    obtain ⟨statementMem, sameId⟩ := bankStatement_eq_ok found
    rw [execute_bind_ok _ (by rw [execute_ofExcept]; rfl)]
    cases closed : statement.isClosed with
    | true =>
      refine .inl ⟨_, rfl, ?_⟩
      rintro _ ⟨⟩
      exact closed
    | false => exact .inr ⟨statement, statementMem, sameId, closed, rfl, rfl⟩

/-- A statement's matching resolves every line with a live entry exactly when
each line it matches has, at its turn, a live choice before its dead ones. -/
theorem matched_lines_point_at_live_iff (company : String) (actions : List BankAction)
    (statementId : ℕ) (rules : MatchRules) :
    let book := (BankBook.createCompany company).after divide actions
    let after := (execute (matchStatement divide statementId rules) book).2
    (∀ line ∈ book.lines, isResolved line = false → ∀ matched ∈ after.lines,
        matched.lineId = line.lineId → isResolved matched = true →
          after.PointsAtLive matched) ↔
      ∀ statement, book.bankStatement statementId = .ok statement →
        statement.isClosed = false →
        LiveFirstThrough divide rules (book.listBankLines statementId) {} book := by
  intro book after
  have wellFormed : book.WellFormed :=
    (BankBook.after_keeps divide (.createCompany company) actions (fun _ => True)
      (fun _ _ _ _ _ => trivial) trivial).1
  rcases execute_matchStatement divide book statementId rules with
    ⟨failure, runs, closed⟩ | ⟨statement, statementMem, rfl, isOpen, found, runs⟩
  · have unchanged : after = book := congrArg Prod.snd runs
    rw [unchanged]
    refine iff_of_true ?_ ?_
    · intro line lineMem unresolved matched matchedMem sameId resolved
      rw [wellFormed.line_eq matchedMem lineMem sameId, unresolved] at resolved
      cases resolved
    · intro statement found isOpen
      rw [closed statement found] at isOpen
      cases isOpen
  · have listed : book.Listed (book.listBankLines statement.statementId) :=
      .of_statement wellFormed statementMem isOpen
    have afterIs : after =
        (execute (matchLines divide rules (book.listBankLines statement.statementId) {})
          book).2 := congrArg Prod.snd runs
    have afterWellFormed : after.WellFormed := by
      rw [afterIs]
      exact (matchLines_evolves listed.distinct listed.listed listed.isOpen {} wellFormed).2
    trans ResolvesLive (book.listBankLines statement.statementId) after
    · constructor
      · intro holds line lineMem unmatched matched matchedMem sameId resolved
        refine holds line (listed.listed line lineMem) ?_ matched matchedMem sameId resolved
        unfold isResolved
        rw [unmatched]
      · intro holds line lineMem unresolved matched matchedMem sameId resolved
        by_cases isListed : ∃ other ∈ book.listBankLines statement.statementId,
            other.matchKind = none ∧ line.lineId = other.lineId
        · obtain ⟨other, otherMem, unmatched, sameLine⟩ := isListed
          exact holds other otherMem unmatched matched matchedMem (sameId.trans sameLine) resolved
        · have stays : line ∈ after.lines := by
            rw [afterIs]
            refine listed.keeps lineMem fun other otherMem unmatched sameLine => isListed ?_
            exact ⟨other, otherMem, unmatched, sameLine⟩
          rw [afterWellFormed.line_eq matchedMem stays sameId, unresolved] at resolved
          cases resolved
    · rw [afterIs, resolvesLive_iff listed, found]
      constructor
      · rintro through _ ⟨⟩ -
        exact through
      · intro holds
        exact holds statement rfl isOpen

/-- A purchase that was voided, and the line that the bank shows for it. -/
def voidedBook : BankBook :=
  (BankBook.createCompany "aquamentor").after feeQuotient
    [.ledger (.saveAndPostDocument suppliesPurchase [] "bookkeeper"),
      .ledger (.voidDocument "purch-1" "entered twice" ⟨"bookkeeper", "mcp_void_document"⟩),
      .importStatement (acct Chart.checking) (september (.fromMinor 100000) (.fromMinor 95000)
        [⟨⟨2026, 9, 5, Eq.refl true⟩, .fromMinor (-5000), "SHOP SUPPLIES CO", none⟩])]

/-- A bank line clears the entry of a purchase that was voided before. -/
theorem matched_line_points_at_reversed :
    let after := (execute (matchStatement feeQuotient 0 {}) voidedBook).2
    ∃ line ∈ voidedBook.lines, isResolved line = false ∧
      ∃ matched ∈ after.lines, matched.lineId = line.lineId ∧ isResolved matched = true ∧
        ¬ after.PointsAtLive matched := by
  decide +kernel

end Calls

end Bank

end QuickBooks
