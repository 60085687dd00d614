import QuickBooks.MatchedEntries
import QuickBooks.ProcessedDocuments

/-!
# What a refused bank call leaves

Importing a statement can only be refused before anything is written.  A
confirmed proposal is saved before its entry is derived, and a settlement that
came in short is claimed before its fee is posted, so a refusal of either entry
leaves what was written before it.
-/

namespace QuickBooks

open DecimalNumbers ExceptPrograms TransactionPrograms TransitionRuns

namespace Bank

section Fees

variable {divide : Decimal → Decimal → Decimal} {book : BankBook} {line : BankLineRow}
  {rules : MatchRules} {amount : Money} {choice : Choice}

/-- The fee that a claim leaves over, if any, is posted: the rules make an entry
of its document and the store takes it. -/
def FeePosts (ledger : Ledger) (line : BankLineRow) (rules : MatchRules) (amount : Money)
    (choice : Choice) : Prop :=
  ∀ gross, choice.gross = some gross →
    ∃ fee negatedFee, gross.checkedSub amount = .ok fee ∧ fee.checkedNeg = .ok negatedFee ∧
      ∃ entry, ledger.Reposts (settlementFeeDocument line.accountId negatedFee rules.feeClass
        line.postedOn choice.posted.entryId) {} (.entry entry)

theorem chargeFee_isOk_iff (report : MatchReport) :
    (∃ answer after, execute (chargeFee line rules amount choice report) book =
      (.ok answer, after)) ↔ FeePosts book.ledger line rules amount choice := by
  unfold chargeFee FeePosts
  cases choice.gross with
  | none => exact iff_of_true ⟨report, book, rfl⟩ (fun gross isGross => nomatch isGross)
  | some gross =>
    simp only [Option.some.injEq, forall_eq']
    cases isFee : gross.checkedSub amount with
    | error failure =>
      refine iff_of_false ?_ ?_
      · rintro ⟨answer, after, isOk⟩
        cases isOk
      · rintro ⟨fee, negatedFee, isOk, -⟩
        cases isOk
    | ok fee =>
      simp only [mapError_ok, Except.ok.injEq, exists_and_left, exists_eq_left']
      rw [execute_bind_ok _ (execute_ofExcept _ (.ok fee))]
      unfold postSettlementFeeAdjustment
      cases isNegated : fee.checkedNeg with
      | error failure =>
        refine iff_of_false ?_ ?_
        · rintro ⟨answer, after, isOk⟩
          cases isOk
        · rintro ⟨negatedFee, isOk, -⟩
          cases isOk
      | ok negatedFee =>
        simp only [mapError_ok, Except.ok.injEq, exists_eq_left']
        rw [execute_bind, execute_bind_ok _ (execute_ofExcept _ (.ok negatedFee)),
          execute_viaLedger]
        unfold QuickBooks.postSettlementFeeAdjustment
        constructor
        · rintro ⟨answer, after, isOk⟩
          by_contra refused
          obtain ⟨failure, refuses⟩ := execute_saveThenPostEntry_of_refused
            ⟨"dan", "authnet_fee_adjustment"⟩ refused
          rw [refuses] at isOk
          cases isOk
        · rintro ⟨entry, reposts⟩
          rw [execute_saveThenPostEntry_of_reposts
            ⟨"dan", "authnet_fee_adjustment"⟩ reposts]
          exact ⟨_, _, rfl⟩

end Fees

section Lines

variable (divide : Decimal → Decimal → Decimal) (rules : MatchRules)

/-- What the line claims at its turn leaves no fee over that is refused. -/
def FeePostsAt (line : BankLineRow) (book : BankBook) : Prop :=
  ∀ amount choice, amountAbs line = .ok amount →
    (choices divide book line rules amount).head? = some choice →
      FeePosts book.ledger line rules amount choice

/-- Every line that is still to be matched has its fee posted at its turn. -/
def FeesPostThrough : List BankLineRow → MatchReport → BankBook → Prop
  | [], _, _ => True
  | line :: rest, report, book =>
    if line.matchKind.isSome then FeesPostThrough rest report book
    else
      FeePostsAt divide rules line book ∧
      ∀ later after, execute (matchOneLine divide line rules report) book = (.ok later, after) →
        FeesPostThrough rest later after

/-- The matching comes to a line after those before it, and there it is refused
and writes nothing more. -/
def StopsBetweenLines (lines : List BankLineRow) (report : MatchReport) (book : BankBook)
    (failure : BankError) (after : BankBook) : Prop :=
  ∃ done line rest later, lines = done ++ line :: rest ∧ line.matchKind = none ∧
    execute (matchLines divide rules done report) book = (.ok later, after) ∧
    execute (matchOneLine divide line rules later) after = (.error failure, after)

variable {divide rules} {book middle after : BankBook} {line : BankLineRow}
  {lines rest : List BankLineRow} {report later : MatchReport} {failure : BankError}

theorem matchOneLine_leavesNothing_iff (lineMem : line ∈ book.lines) :
    (∀ failure after, execute (matchOneLine divide line rules report) book =
        (.error failure, after) → after = book) ↔
      FeePostsAt divide rules line book := by
  unfold FeePostsAt
  cases absolute : amountAbs line with
  | error failure =>
    rw [execute_matchOneLine_of_error absolute]
    refine iff_of_true ?_ ?_
    · rintro _ _ ⟨⟩
      rfl
    · rintro amount choice ⟨⟩
  | ok amount =>
    have atAmount : (∀ other choice, (.ok amount : Except BankError Money) = .ok other →
        (choices divide book line rules other).head? = some choice →
          FeePosts book.ledger line rules other choice) ↔
        ∀ choice, (choices divide book line rules amount).head? = some choice →
          FeePosts book.ledger line rules amount choice := by
      constructor
      · exact fun posts choice => posts amount choice rfl
      · rintro posts _ choice ⟨⟩
        exact posts choice
    rw [atAmount]
    obtain ⟨answer, runs⟩ : ∃ answer,
        execute (matchOneLine divide line rules report) book = _ :=
      execute_matchOneLine lineMem absolute report
    cases first : (choices divide book line rules amount).head? with
    | none =>
      rw [runs, first]
      refine iff_of_true ?_ ?_
      · rintro _ _ ⟨⟩
      · intro choice isFirst
        cases isFirst
    | some choice =>
      let claimed := book.withClaim line.lineId choice.kind
        (choice.posted.entryId, choice.row.lineNo)
      have answers : (∃ report after, execute (chargeFee line rules amount choice answer)
          claimed = (.ok report, after)) ↔ FeePosts book.ledger line rules amount choice :=
        chargeFee_isOk_iff answer
      obtain ⟨ledger, -, leaves⟩ : ∃ ledger,
          Ledger.Evolves Set.univ claimed.ledger ledger ∧
            (execute (chargeFee line rules amount choice answer) claimed).2 =
              { claimed with ledger } :=
        execute_chargeFee_ledger line rules amount choice answer claimed
          fun _ _ => saveThenPostEntry_respects (Set.subset_univ _)
      rw [runs, first]
      constructor
      · rintro nothing other ⟨⟩
        rw [← answers]
        rcases charges : execute (chargeFee line rules amount choice answer) claimed with
          ⟨outcome, after⟩
        cases outcome with
        | ok report => exact ⟨report, after, rfl⟩
        | error failure =>
          -- the claim's stamp is there already
          have unchanged : after = book := nothing failure after charges
          rw [charges] at leaves
          have stamped := congrArg (fun state => state.cleared.length)
            (leaves.symm.trans unchanged)
          simp [claimed, BankBook.withClaim] at stamped
      · intro posts failure after charges
        obtain ⟨report, later, isOk⟩ := answers.mpr (posts choice rfl)
        have same := isOk.symm.trans charges
        cases same

theorem stopsBetweenLines_cons_of_matched (matched : line.matchKind.isSome) :
    StopsBetweenLines divide rules (line :: rest) report book failure after ↔
      StopsBetweenLines divide rules rest report book failure after := by
  constructor
  · rintro ⟨done, stopped, others, later, listed, unmatched, runs, refuses⟩
    cases done with
    | nil =>
      rw [List.nil_append, List.cons.injEq] at listed
      rw [listed.1, unmatched] at matched
      cases matched
    | cons first done =>
      rw [List.cons_append, List.cons.injEq] at listed
      obtain ⟨rfl, listed⟩ := listed
      rw [matchLines, if_pos matched] at runs
      exact ⟨done, stopped, others, later, listed, unmatched, runs, refuses⟩
  · rintro ⟨done, stopped, others, later, rfl, unmatched, runs, refuses⟩
    refine ⟨line :: done, stopped, others, later, rfl, unmatched, ?_, refuses⟩
    rw [matchLines, if_pos matched]
    exact runs

theorem stopsBetweenLines_cons_of_ok (unmatched : line.matchKind = none)
    (runs : execute (matchOneLine divide line rules report) book = (.ok later, middle)) :
    StopsBetweenLines divide rules (line :: rest) report book failure after ↔
      StopsBetweenLines divide rules rest later middle failure after := by
  have toMatch : ¬ line.matchKind.isSome := by
    rw [unmatched]
    exact Bool.false_ne_true
  constructor
  · rintro ⟨done, stopped, others, report', listed, stoppedUnmatched, earlier, refuses⟩
    cases done with
    | nil =>
      rw [List.nil_append, List.cons.injEq] at listed
      rw [matchLines] at earlier
      obtain ⟨rfl, -⟩ := listed
      cases earlier
      rw [runs] at refuses
      cases refuses
    | cons first done =>
      rw [List.cons_append, List.cons.injEq] at listed
      obtain ⟨rfl, listed⟩ := listed
      rw [matchLines, if_neg toMatch, execute_bind_ok _ runs] at earlier
      exact ⟨done, stopped, others, report', listed, stoppedUnmatched, earlier, refuses⟩
  · rintro ⟨done, stopped, others, report', rfl, stoppedUnmatched, earlier, refuses⟩
    refine ⟨line :: done, stopped, others, report', rfl, stoppedUnmatched, ?_, refuses⟩
    rw [matchLines, if_neg toMatch, execute_bind_ok _ runs]
    exact earlier

theorem stopsBetweenLines_cons_of_error (unmatched : line.matchKind = none)
    (runs : execute (matchOneLine divide line rules report) book = (.error failure, middle)) :
    StopsBetweenLines divide rules (line :: rest) report book failure middle ↔
      middle = book := by
  have toMatch : ¬ line.matchKind.isSome := by
    rw [unmatched]
    exact Bool.false_ne_true
  constructor
  · rintro ⟨done, stopped, others, report', listed, -, earlier, refuses⟩
    cases done with
    | nil =>
      rw [matchLines] at earlier
      cases earlier
      rfl
    | cons first done =>
      rw [List.cons_append, List.cons.injEq] at listed
      obtain ⟨rfl, -⟩ := listed
      rw [matchLines, if_neg toMatch, execute_bind_error _ runs] at earlier
      cases earlier
  · rintro rfl
    exact ⟨[], line, rest, report, rfl, unmatched, rfl, runs⟩

/-- The matching of listed lines that is refused stops between two lines exactly
when every line's fee is posted at its turn. -/
theorem matchLines_stopsBetweenLines_iff (listed : book.Listed lines) :
    (∀ failure after, execute (matchLines divide rules lines report) book =
        (.error failure, after) →
          StopsBetweenLines divide rules lines report book failure after) ↔
      FeesPostThrough divide rules lines report book := by
  induction lines generalizing book report with
  | nil =>
    refine iff_of_true ?_ trivial
    rintro _ _ ⟨⟩
  | cons line rest ih =>
    rw [matchLines, FeesPostThrough]
    split_ifs with matched
    · rw [← ih listed.tail]
      simp only [stopsBetweenLines_cons_of_matched matched]
    · have unmatched := Option.not_isSome_iff_eq_none.mp matched
      have atLine : (∀ failure after, execute (matchOneLine divide line rules report) book =
          (.error failure, after) → after = book) ↔ FeePostsAt divide rules line book :=
        matchOneLine_leavesNothing_iff (listed.listed line List.mem_cons_self)
      rw [← atLine]
      rcases runs : execute (matchOneLine divide line rules report) book with
        ⟨outcome, middle⟩
      cases outcome with
      | error failure =>
        rw [execute_bind_error _ runs]
        constructor
        · intro stops
          refine ⟨?_, fun _ _ isOk => by cases isOk⟩
          rintro _ _ ⟨⟩
          exact (stopsBetweenLines_cons_of_error unmatched runs).mp (stops _ _ rfl)
        · rintro ⟨nothing, -⟩ _ _ ⟨⟩
          exact (stopsBetweenLines_cons_of_error unmatched runs).mpr (nothing _ _ rfl)
      | ok later =>
        rw [execute_bind_ok _ runs]
        simp only [stopsBetweenLines_cons_of_ok unmatched runs]
        rw [ih (listed.after unmatched runs)]
        constructor
        · intro through
          refine ⟨fun _ _ isError => (by cases isError), ?_⟩
          rintro _ _ ⟨⟩
          exact through
        · rintro ⟨-, through⟩
          exact through _ _ rfl

theorem matchOneLine_matches (lineMem : line ∈ book.lines)
    (runs : execute (matchOneLine divide line rules report) book = (.ok later, middle)) :
    ∃ kind claim, line.withMatch kind claim ∈ middle.lines := by
  rcases matchOneLine_cases rules lineMem report
      (fun _ _ => saveThenPostEntry_respects (Set.subset_univ _)) with
    ⟨failure, -, refuses⟩ | ⟨amount, -, ⟨-, answer, proposes⟩ | ⟨choice, ledger, -, -, leaves⟩⟩
  · rw [runs] at refuses
    cases refuses
  · rw [runs] at proposes
    cases proposes
    exact ⟨.proposed, none, List.mem_map.mpr ⟨line, lineMem, if_pos rfl⟩⟩
  · rw [runs] at leaves
    rw [show middle = _ from leaves]
    exact ⟨choice.kind, some (choice.posted.entryId, choice.row.lineNo),
      List.mem_map.mpr ⟨line, lineMem, if_pos rfl⟩⟩

theorem stopsBetweenLines_of_unchanged (listed : book.Listed lines)
    (refuses : execute (matchLines divide rules lines report) book = (.error failure, book)) :
    StopsBetweenLines divide rules lines report book failure book := by
  induction lines generalizing report with
  | nil => cases refuses
  | cons line rest ih =>
    rw [matchLines] at refuses
    split_ifs at refuses with matched
    · exact (stopsBetweenLines_cons_of_matched matched).mpr (ih listed.tail refuses)
    · have unmatched := Option.not_isSome_iff_eq_none.mp matched
      have lineMem := listed.listed line List.mem_cons_self
      rcases runs : execute (matchOneLine divide line rules report) book with
        ⟨outcome, middle⟩
      cases outcome with
      | error reason =>
        rw [execute_bind_error _ runs] at refuses
        cases refuses
        exact (stopsBetweenLines_cons_of_error unmatched runs).mpr rfl
      | ok later =>
        rw [execute_bind_ok _ runs] at refuses
        obtain ⟨kind, claim, matchedMem⟩ := matchOneLine_matches lineMem runs
        have stays : line.withMatch kind claim ∈
            (execute (matchLines divide rules rest later) middle).2.lines :=
          (listed.after unmatched runs).keeps matchedMem
            fun other otherMem _ sameId => listed.head_notMem otherMem sameId.symm
        rw [refuses] at stays
        have sameRow := listed.wellFormed.line_eq stays lineMem rfl
        rw [← sameRow] at unmatched
        cases unmatched

end Lines

section Calls

/-- A call that writes to the bank's tables. -/
inductive BankCall where
  | importStatement (account : AccountId) (statement : NewStatement)
  | matchStatement (statementId : ℕ) (rules : MatchRules)
  | confirmProposal (lineId : ℕ) (account : AccountId) («class» : Option ClassId)

variable (divide : Decimal → Decimal → Decimal)

/-- When the call is refused the book is as it was, or as the matching had it
between two lines. -/
def BankCall.IsAllOrNothing (book : BankBook) : BankCall → Prop
  | importStatement account statement => ∀ failure after,
    execute (Bank.importStatement account statement) book = (.error failure, after) →
      after = book
  | matchStatement statementId rules => ∀ failure after,
    execute (Bank.matchStatement divide statementId rules) book = (.error failure, after) →
      after = book ∨ StopsBetweenLines divide rules (book.listBankLines statementId) {} book
        failure after
  | confirmProposal lineId account «class» => ∀ failure after,
    execute (Bank.confirmProposal lineId account «class») book = (.error failure, after) →
      after = book

/-- What a pending proposal of an open statement would post is posted. -/
def ProposalPosts (book : BankBook) (lineId : ℕ) (account : AccountId)
    («class» : Option ClassId) : Prop :=
  ∀ line statement amount, book.bankLine lineId = .ok line →
    line.matchKind = some .proposed → book.bankStatement line.statementId = .ok statement →
    statement.isClosed = false → amountAbs line = .ok amount →
      ∃ entry, book.ledger.Reposts (proposalDocument line amount account «class») {}
        (.entry entry)

/-- What the call saves and claims is posted. -/
def BankCall.Posts (book : BankBook) : BankCall → Prop
  | importStatement _ _ => True
  | matchStatement statementId rules => ∀ statement,
    book.bankStatement statementId = .ok statement → statement.isClosed = false →
      FeesPostThrough divide rules (book.listBankLines statementId) {} book
  | confirmProposal lineId account «class» => ProposalPosts book lineId account «class»

variable {divide} {book : BankBook}

theorem execute_insertBankLines_ne_error {statementId : ℕ} {account : AccountId}
    {lines : List ParsedLine} {report : StatementImportReport} {failure : BankError}
    {after : BankBook} :
    execute (insertBankLines statementId account lines report) book ≠ (.error failure, after) := by
  induction lines generalizing book report with
  | nil => exact fun refuses => nomatch refuses
  | cons parsed rest ih =>
    rw [insertBankLines]
    obtain ⟨wasInserted, middle, inserts⟩ : ∃ wasInserted middle,
        execute (insertBankLineIfNew statementId account parsed) book =
          (.ok wasInserted, middle) := by
      unfold insertBankLineIfNew
      rw [execute_bind_ok _ (execute_get book)]
      split_ifs
      · exact ⟨_, _, rfl⟩
      · exact ⟨_, _, rfl⟩
    rw [execute_bind_ok _ inserts]
    exact ih

theorem importStatement_isAllOrNothing (account : AccountId) (statement : NewStatement) :
    (BankCall.importStatement account statement).IsAllOrNothing divide book := by
  intro failure after refuses
  unfold importStatement at refuses
  rw [execute_bind, execute_createBankStatement] at refuses
  split_ifs at refuses
  · exact absurd refuses execute_insertBankLines_ne_error
  · cases refuses
    rfl

theorem matchStatement_isAllOrNothing_iff (wellFormed : book.WellFormed) (statementId : ℕ)
    (rules : MatchRules) :
    (BankCall.matchStatement statementId rules).IsAllOrNothing divide book ↔
      (BankCall.matchStatement statementId rules).Posts divide book := by
  rw [BankCall.IsAllOrNothing, BankCall.Posts]
  rcases execute_matchStatement divide book statementId rules with
    ⟨failure, runs, closed⟩ | ⟨statement, statementMem, rfl, isOpen, found, runs⟩
  · rw [runs]
    refine iff_of_true ?_ ?_
    · rintro _ _ ⟨⟩
      exact .inl rfl
    · intro statement found isOpen
      rw [closed statement found] at isOpen
      cases isOpen
  · have listed : book.Listed (book.listBankLines statement.statementId) :=
      .of_statement wellFormed statementMem isOpen
    rw [runs]
    trans FeesPostThrough divide rules (book.listBankLines statement.statementId) {} book
    · rw [← matchLines_stopsBetweenLines_iff listed]
      constructor
      · intro stops failure after refuses
        rcases stops failure after refuses with unchanged | stops
        · rw [unchanged] at refuses ⊢
          exact stopsBetweenLines_of_unchanged listed refuses
        · exact stops
      · intro stops failure after refuses
        exact .inr (stops failure after refuses)
    · rw [found]
      constructor
      · rintro through _ ⟨⟩ -
        exact through
      · intro holds
        exact holds statement rfl isOpen

/-- What a confirmation does with a pending proposal of an open statement. -/
def confirming (line : BankLineRow) (amount : Money) (account : AccountId)
    («class» : Option ClassId) : BankProgram ℕ := do
  let version ← viaLedger (saveDocument (proposalDocument line amount account «class»)
    ⟨"dan", "confirm_bank_proposal"⟩)
  let posting ← MonadExcept.ofExcept
    ((post (proposalDocument line amount account «class») version {}).mapError
      fun failure => BankError.ledger (.post failure))
  match posting with
  | .nonPosting => throw (.ledger postedNothing)
  | .entry entry => do
    let bankRow ← MonadExcept.ofExcept (orRefuse (BankError.ledger .notFound)
      (entry.lines.find? fun row => row.account = line.accountId))
    let entryId ← viaLedger (postEntry entry)
    clearJournalLine entryId bankRow.lineNo
    setBankLineMatch line.lineId .manual (some entryId) (some bankRow.lineNo)
    return entryId

section Confirming

variable {line : BankLineRow} {amount : Money} {account : AccountId} {«class» : Option ClassId}

theorem execute_saveProposal (line : BankLineRow) (amount : Money) (account : AccountId)
    («class» : Option ClassId) :
    execute (viaLedger (saveDocument (proposalDocument line amount account «class»)
      ⟨"dan", "confirm_bank_proposal"⟩)) book =
        (.ok (book.ledger.previousVersion ("bankline-" ++ toString line.lineId) + 1),
          { book with
            ledger := book.ledger.recordVersion (proposalDocument line amount account «class»)
              ⟨"dan", "confirm_bank_proposal"⟩ }) :=
  rfl

theorem confirming_of_reposts (lineMem : line ∈ book.lines)
    (absolute : amountAbs line = .ok amount) {entry : JournalEntry}
    (reposts : book.ledger.Reposts (proposalDocument line amount account «class») {}
      (.entry entry)) :
    ∃ entryId after, execute (confirming line amount account «class») book =
      (.ok entryId, after) := by
  have posts : post (proposalDocument line amount account «class»)
      (book.ledger.previousVersion ("bankline-" ++ toString line.lineId) + 1) {} =
        .ok (.entry entry) := reposts.posts
  have accepted : (book.ledger.recordVersion (proposalDocument line amount account «class»)
      ⟨"dan", "confirm_bank_proposal"⟩).Accepts entry :=
    (Ledger.accepts_derived_iff posts).mpr (reposts.takes entry rfl)
  obtain ⟨rest, linesEq⟩ :=
    post_proposalDocument (minor_of_amountAbs absolute ▸ abs_nonneg _) posts
  have found : entry.lines.find? (fun row => row.account = line.accountId) =
      some (journalLineOf 1 (debit line.accountId amount none none)) := by
    rw [linesEq]
    exact List.find?_cons_of_pos (decide_eq_true rfl)
  let saved := book.ledger.recordVersion (proposalDocument line amount account «class»)
    ⟨"dan", "confirm_bank_proposal"⟩
  let after : BankBook := { book with ledger := saved.recordEntry entry }
  have postedMem : (⟨saved.nextEntryId, Ledger.stored entry⟩ : PostedEntry) ∈
      after.ledger.journal :=
    Ledger.mem_journal_recordEntry.mpr (.inr rfl)
  have rowMem : journalLineOf 1 (debit line.accountId amount none none) ∈
      (Ledger.stored entry).lines := by
    rw [(Ledger.stored_lines_perm entry).mem_iff, linesEq]
    exact List.mem_cons_self
  have stillListed : line ∈ after.lines := lineMem
  have claims := execute_claim stillListed postedMem rowMem .manual
    fun _ => (pure saved.nextEntryId : BankProgram ℕ)
  have entryPosts : execute (viaLedger (postEntry entry)) { book with ledger := saved } =
      (.ok saved.nextEntryId, after) := by
    rw [execute_viaLedger, execute_postEntry_of_accepts accepted]
    rfl
  refine ⟨saved.nextEntryId, after.withClaim line.lineId .manual
    (saved.nextEntryId, (journalLineOf 1 (debit line.accountId amount none none)).lineNo), ?_⟩
  unfold confirming
  rw [execute_bind_ok _ (execute_saveProposal line amount account «class»), posts,
    execute_bind_ok _ (by rw [execute_ofExcept]; rfl)]
  dsimp only
  rw [found, execute_bind_ok _ (by rw [execute_ofExcept]; rfl), execute_bind_ok _ entryPosts]
  exact claims

theorem confirming_of_not_reposts
    (refused : ¬ ∃ entry, book.ledger.Reposts (proposalDocument line amount account «class») {}
      (.entry entry)) :
    ∃ failure, execute (confirming line amount account «class») book =
      (.error failure, { book with
        ledger := book.ledger.recordVersion (proposalDocument line amount account «class»)
          ⟨"dan", "confirm_bank_proposal"⟩ }) := by
  unfold confirming
  rw [execute_bind_ok _ (execute_saveProposal line amount account «class»)]
  cases posts : post (proposalDocument line amount account «class»)
      (book.ledger.previousVersion ("bankline-" ++ toString line.lineId) + 1) {} with
  | error failure => exact ⟨_, rfl⟩
  | ok posting =>
  rw [execute_bind_ok _ (by rw [execute_ofExcept]; rfl)]
  cases posting with
  | nonPosting => exact ⟨_, rfl⟩
  | entry entry =>
  dsimp only
  cases found : entry.lines.find? fun row => row.account = line.accountId with
  | none => exact ⟨_, rfl⟩
  | some bankRow =>
    rw [execute_bind_ok _ (by rw [execute_ofExcept]; rfl)]
    have notAccepted : ¬ (book.ledger.recordVersion
        (proposalDocument line amount account «class»)
        ⟨"dan", "confirm_bank_proposal"⟩).Accepts entry := by
      intro accepted
      refine refused ⟨entry, posts, fun derived isEntry => ?_⟩
      cases isEntry
      exact (Ledger.accepts_derived_iff posts).mp accepted
    obtain ⟨failure, refuses⟩ := execute_postEntry_of_not_accepts notAccepted
    exact ⟨.ledger failure, execute_bind_error _ (by rw [execute_viaLedger, refuses]; rfl)⟩

end Confirming

theorem confirmProposal_isAllOrNothing_iff (lineId : ℕ) (account : AccountId)
    («class» : Option ClassId) :
    (BankCall.confirmProposal lineId account «class»).IsAllOrNothing divide book ↔
      (BankCall.confirmProposal lineId account «class»).Posts divide book := by
  rw [BankCall.IsAllOrNothing, BankCall.Posts]
  unfold confirmProposal ProposalPosts
  rw [execute_bind_ok _ (execute_get book)]
  cases foundLine : book.bankLine lineId with
  | error failure =>
    refine iff_of_true ?_ ?_
    · rintro _ _ ⟨⟩
      rfl
    · rintro line statement amount ⟨⟩
  | ok line =>
  obtain ⟨lineMem, rfl⟩ := bankLine_eq_ok foundLine
  rw [execute_bind_ok _ (by rw [execute_ofExcept]; rfl)]
  by_cases proposed : line.matchKind = some .proposed
  case neg =>
    rw [decide_eq_false proposed]
    refine iff_of_true ?_ ?_
    · rintro _ _ ⟨⟩
      rfl
    · rintro _ statement amount ⟨⟩ isProposed
      exact absurd isProposed proposed
  rw [decide_eq_true proposed, execute_bind_ok _ (by rw [execute_ofExcept]; rfl)]
  cases foundStatement : book.bankStatement line.statementId with
  | error failure =>
    refine iff_of_true ?_ ?_
    · rintro _ _ ⟨⟩
      rfl
    · rintro _ statement amount ⟨⟩ - isFound
      rw [foundStatement] at isFound
      cases isFound
  | ok statement =>
  rw [execute_bind_ok _ (by rw [execute_ofExcept]; rfl)]
  cases closed : statement.isClosed with
  | true =>
    refine iff_of_true ?_ ?_
    · rintro _ _ ⟨⟩
      rfl
    · rintro _ other amount ⟨⟩ - isFound isOpen
      rw [foundStatement, Except.ok.injEq] at isFound
      rw [← isFound, closed] at isOpen
      cases isOpen
  | false =>
  rw [execute_bind_ok _ (by rw [execute_ofExcept]; rfl)]
  cases absolute : amountAbs line with
  | error failure =>
    refine iff_of_true ?_ ?_
    · rintro _ _ ⟨⟩
      rfl
    · rintro _ other amount ⟨⟩ - - - isAmount
      rw [absolute] at isAmount
      cases isAmount
  | ok amount =>
  rw [execute_bind_ok _ (by rw [execute_ofExcept])]
  change (∀ failure after, execute (confirming line amount account «class») book =
    (.error failure, after) → after = book) ↔ _
  trans ∃ entry, book.ledger.Reposts (proposalDocument line amount account «class») {}
    (.entry entry)
  · by_cases reposts : ∃ entry, book.ledger.Reposts
        (proposalDocument line amount account «class») {} (.entry entry)
    · refine iff_of_true ?_ reposts
      intro failure after refuses
      obtain ⟨entryId, last, isOk⟩ := confirming_of_reposts lineMem absolute reposts.choose_spec
      rw [isOk] at refuses
      cases refuses
    · refine iff_of_false ?_ reposts
      intro nothing
      obtain ⟨failure, refuses⟩ := confirming_of_not_reposts reposts
      have unchanged := congrArg (fun state => state.ledger.documentVersions.length)
        (nothing failure _ refuses)
      simp [Ledger.recordVersion] at unchanged
  · constructor
    · rintro reposts _ other amount' ⟨⟩ - - - isAmount
      rw [absolute, Except.ok.injEq] at isAmount
      rw [← isAmount]
      exact reposts
    · intro holds
      exact holds line statement amount rfl proposed foundStatement closed absolute

/-- A refused call leaves nothing but lines that were matched before exactly when
whatever it would save or claim is posted. -/
theorem bank_calls_all_or_nothing_iff (divide : Decimal → Decimal → Decimal) (company : String)
    (actions : List BankAction) (call : BankCall) :
    let book := (BankBook.createCompany company).after divide actions
    call.IsAllOrNothing divide book ↔ call.Posts divide book := by
  intro book
  have wellFormed : book.WellFormed :=
    (BankBook.after_keeps divide (.createCompany company) actions (fun _ => True)
      (fun _ _ _ _ _ => trivial) trivial).1
  cases call with
  | importStatement account statement =>
    exact iff_of_true (importStatement_isAllOrNothing account statement) trivial
  | matchStatement statementId rules => exact matchStatement_isAllOrNothing_iff wellFormed _ _
  | confirmProposal lineId account «class» => exact confirmProposal_isAllOrNothing_iff _ _ _

section Books

/-- A settlement that was paid out less a fee, as yet unmatched. -/
def shortBook : BankBook :=
  (BankBook.createCompany "aquamentor").after feeQuotient
    [.ledger (.saveAndPostDocument batchSettlement [] "bookkeeper"),
      .importStatement (acct Chart.checking) (september (.fromMinor 0) (.fromMinor 9750)
        [⟨⟨2026, 9, 3, Eq.refl true⟩, .fromMinor 9750, "AUTHORIZE.NET", none⟩])]

def unknownFeeClass : MatchRules where
  feeClass := ⟨"dropship"⟩

/-- A settlement stays claimed when the class of its fee is unknown. -/
theorem settlement_claimed_without_fee :
    ¬ (BankCall.matchStatement 0 unknownFeeClass).IsAllOrNothing feeQuotient shortBook := by
  intro allOrNothing
  obtain ⟨failure, refuses⟩ : ∃ failure,
      (execute (matchStatement feeQuotient 0 unknownFeeClass) shortBook).1 = .error failure :=
    ⟨.ledger (.unknownClass "dropship"), by decide +kernel⟩
  have claimed : (execute (matchStatement feeQuotient 0 unknownFeeClass) shortBook).2.cleared ≠
      shortBook.cleared := by
    decide +kernel
  have single : (shortBook.listBankLines 0).length = 1 := by decide +kernel
  rcases allOrNothing failure _ (Prod.ext refuses rfl) with
    unchanged | ⟨done, line, rest, later, listed, -, earlier, -⟩
  · exact claimed (congrArg BankBook.cleared unchanged)
  · have none : done = [] := by
      rw [listed, List.length_append, List.length_cons] at single
      exact List.length_eq_zero_iff.mp (by omega)
    rw [none, matchLines] at earlier
    exact claimed (congrArg BankBook.cleared (congrArg Prod.snd earlier).symm)

end Books

end Calls

end Bank

end QuickBooks
