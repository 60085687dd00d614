import QuickBooks.ApprovedAdjustments

/-!
# Requests are decided once

The rows of the queue are keyed, a decision is only recorded on a proposed
row, and an approval records the entry that it posts, so no request posts
twice and a decided one stays as it is.  An approval that cannot be posted has
already saved its document, which no refusal takes back.
-/

namespace QuickBooks

open ExceptPrograms TransactionPrograms TransitionRuns
open Ledger

abbrev AccountantBook.after (book : AccountantBook) (calls : List QueueCall) :
    AccountantBook :=
  runFrom QueueCall.run book calls

namespace QueueCall

def Refused (call : QueueCall) (book : AccountantBook) : Prop :=
  ∃ failure, (call.result book).1 = .error failure

def RefusalLeaves (call : QueueCall) (book : AccountantBook) : Prop :=
  call.Refused book → call.run book = book

/-- The request that is about to be approved, if any, is on an open date and
leaves the 7xxx band alone. -/
def Approvable : QueueCall → AccountantBook → Prop
  | decide requestId _ true _ _, book =>
    ∀ row, book.adjustmentRequest requestId = some row → row.state = .proposed →
      book.ledger.IsOpen row.requestedAt.day ∧ ∀ line ∈ row.lines, ¬IsOtherAccount line.account
  | _, _ => True

end QueueCall

/-- Since an earlier book, decided rows stayed as they were, and every new entry
is the one entry of a request that was posted since. -/
structure DecidedOnce (start after : AccountantBook) : Prop where
  kept : ∀ row ∈ start.requests, row.state ≠ .proposed → row ∈ after.requests
  entries : ∃ added, after.ledger.journal = start.ledger.journal ++ added ∧
    (added.map fun posted => posted.entry.sourceId).Nodup ∧
    ∀ posted ∈ added, ∃ row ∈ after.requests, row ∉ start.requests ∧
      row.state = .posted ∧ row.postedEntryId = some posted.entryId ∧
      posted.entry.sourceId = adjustmentDocumentId row.requestId

/-- The queue of a book: it keeps its own invariant, and the lines of every
proposed row passed the checks. -/
structure AccountantBook.Queued (book : AccountantBook) : Prop where
  wellFormed : book.ledger.WellFormed
  proposable : ∀ row ∈ book.requests, row.state = .proposed →
    book.ledger.Proposable row.lines

section Rows

variable {book : AccountantBook} {first second row : AdjustmentRequestRow}

theorem AccountantBook.eq_of_requestId (firstMem : first ∈ book.requests)
    (secondMem : second ∈ book.requests) (sameId : first.requestId = second.requestId) :
    first = second :=
  List.inj_on_of_nodup_map book.distinct firstMem secondMem sameId

variable {requestId decidedBy note : String} {decidedAt : Timestamp}
  {newState : AdjustmentState} {postedEntryId : Option Nat}

theorem AccountantBook.mem_recordDecision_of_ne (rowMem : row ∈ book.requests)
    (otherId : row.requestId ≠ requestId) :
    row ∈ (book.recordDecision requestId decidedBy decidedAt note newState
      postedEntryId).requests :=
  List.mem_map.mpr ⟨row, rowMem, if_neg otherId⟩

theorem AccountantBook.mem_recordDecision
    (rowMem : row ∈ (book.recordDecision requestId decidedBy decidedAt note newState
      postedEntryId).requests) :
    (row ∈ book.requests ∧ row.requestId ≠ requestId) ∨
      (row.requestId = requestId ∧ row.state = newState ∧ row.postedEntryId = postedEntryId) := by
  obtain ⟨before, beforeMem, rfl⟩ := List.mem_map.mp rowMem
  by_cases sameId : before.requestId = requestId
  · rw [if_pos sameId]
    exact .inr ⟨sameId, rfl, rfl⟩
  · rw [if_neg sameId]
    exact .inl ⟨beforeMem, sameId⟩

end Rows

section Steps

variable {start book : AccountantBook}

theorem DecidedOnce.refl (book : AccountantBook) : DecidedOnce book book :=
  ⟨fun _ rowMem _ => rowMem, [], by simp, by simp, by simp⟩

theorem DecidedOnce.of_grows {after : AccountantBook} (once : DecidedOnce start book)
    (requests : book.requests ⊆ after.requests)
    (journal : after.ledger.journal = book.ledger.journal) : DecidedOnce start after := by
  obtain ⟨added, journalEq, distinct, posted⟩ := once.entries
  refine ⟨fun row rowMem decided => requests (once.kept row rowMem decided),
    added, journal.trans journalEq, distinct, fun entry entryMem => ?_⟩
  obtain ⟨row, rowMem, facts⟩ := posted entry entryMem
  exact ⟨row, requests rowMem, facts⟩

theorem mem_recordDecision_of_decided {row decidedRow : AdjustmentRequestRow}
    {requestId decidedBy note : String} {decidedAt : Timestamp} {newState : AdjustmentState}
    {postedEntryId : Option Nat} (found : book.adjustmentRequest requestId = some row)
    (proposed : row.state = .proposed) (decidedMem : decidedRow ∈ book.requests)
    (decided : decidedRow.state ≠ .proposed) :
    decidedRow ∈ (book.recordDecision requestId decidedBy decidedAt note newState
      postedEntryId).requests := by
  obtain ⟨rowMem, rowId⟩ := AccountantBook.adjustmentRequest_eq_some found
  refine AccountantBook.mem_recordDecision_of_ne decidedMem fun sameId => decided ?_
  rw [AccountantBook.eq_of_requestId decidedMem rowMem (sameId.trans rowId.symm)]
  exact proposed

theorem DecidedOnce.rejected (once : DecidedOnce start book) {row : AdjustmentRequestRow}
    {requestId : String} (decidedBy note : String) (decidedAt : Timestamp)
    (found : book.adjustmentRequest requestId = some row) (proposed : row.state = .proposed) :
    DecidedOnce start
      (book.recordDecision requestId decidedBy decidedAt note .rejected none) := by
  obtain ⟨added, journalEq, distinct, posted⟩ := once.entries
  refine ⟨fun decidedRow rowMem decided => mem_recordDecision_of_decided found proposed
      (once.kept decidedRow rowMem decided) decided,
    added, journalEq, distinct, fun entry entryMem => ?_⟩
  obtain ⟨postedRow, rowMem, isNew, isPosted, facts⟩ := posted entry entryMem
  refine ⟨postedRow, mem_recordDecision_of_decided found proposed rowMem ?_, isNew, isPosted,
    facts⟩
  rw [isPosted]
  decide

theorem DecidedOnce.posted (once : DecidedOnce start book) {row : AdjustmentRequestRow}
    {requestId : String} (decidedBy note : String) (decidedAt : Timestamp)
    (found : book.adjustmentRequest requestId = some row) (proposed : row.state = .proposed)
    {ledger : Ledger} {entry : JournalEntry} {entryId : Nat}
    (journal : ledger.journal = book.ledger.journal ++ [⟨entryId, entry⟩])
    (sourceId : entry.sourceId = adjustmentDocumentId requestId) :
    DecidedOnce start ((book.setLedger ledger).recordDecision requestId decidedBy decidedAt note
      .posted (some entryId)) := by
  obtain ⟨added, journalEq, distinct, posted⟩ := once.entries
  obtain ⟨rowMem, rowId⟩ := AccountantBook.adjustmentRequest_eq_some found
  have foundToo : (book.setLedger ledger).adjustmentRequest requestId = some row := found
  -- the rows of the entries so far are decided, so they are other requests' rows
  have others : ∀ earlier ∈ added, earlier.entry.sourceId ≠ adjustmentDocumentId requestId := by
    intro earlier earlierMem sameSource
    obtain ⟨postedRow, postedMem, -, isPosted, -, postedSource⟩ := posted earlier earlierMem
    rw [postedSource, adjustmentDocumentId, adjustmentDocumentId, String.append_right_inj,
      ← rowId] at sameSource
    rw [AccountantBook.eq_of_requestId postedMem rowMem sameSource, proposed] at isPosted
    cases isPosted
  refine ⟨fun decidedRow decidedMem decided => mem_recordDecision_of_decided foundToo proposed
      (once.kept decidedRow decidedMem decided) decided,
    added ++ [⟨entryId, entry⟩], ?_, ?_, fun newEntry newMem => ?_⟩
  · change ledger.journal = _
    rw [journal, journalEq, List.append_assoc]
  · rw [List.map_append, List.map_singleton]
    refine distinct.append (List.nodup_singleton _) ?_
    rw [List.disjoint_singleton]
    intro sourceMem
    obtain ⟨earlier, earlierMem, sameSource⟩ := List.mem_map.mp sourceMem
    exact others earlier earlierMem (sameSource.trans sourceId)
  · rcases List.mem_append.mp newMem with old | new
    · obtain ⟨postedRow, postedMem, isNew, isPosted, facts⟩ := posted newEntry old
      refine ⟨postedRow, mem_recordDecision_of_decided foundToo proposed postedMem ?_, isNew,
        isPosted, facts⟩
      rw [isPosted]
      decide
    · rw [List.mem_singleton.mp new]
      have updated := AccountantBook.adjustmentRequest_recordDecision decidedBy decidedAt note
        .posted (some entryId) foundToo
      refine ⟨_, (AccountantBook.adjustmentRequest_eq_some updated).1, fun wasThere => ?_, rfl,
        rfl, sourceId.trans (congrArg adjustmentDocumentId rowId.symm)⟩
      -- a posted row of the earlier book would still be there beside the proposed one
      have still := once.kept _ wasThere (by simp)
      have sameRow := AccountantBook.eq_of_requestId still rowMem rfl
      rw [← sameRow] at proposed
      cases proposed

end Steps

section Calls

/-- The queue after a call, and whether its refusals leave the book alone. -/
structure CallKeeps (call : QueueCall) (start book : AccountantBook) : Prop where
  queued : (call.run book).Queued
  once : DecidedOnce start (call.run book)
  leaves_iff : call.RefusalLeaves book ↔ call.Approvable book

variable {start book : AccountantBook}

theorem AccountantBook.Queued.of_refused {call : QueueCall} {failure : AccountantError}
    (queued : book.Queued) (once : DecidedOnce start book)
    (result : call.result book = (.error failure, book)) (approvable : call.Approvable book) :
    CallKeeps call start book := by
  have unchanged : call.run book = book := by rw [QueueCall.run, result]
  refine ⟨?_, ?_, iff_of_true (fun _ => unchanged) approvable⟩
  · rw [unchanged]
    exact queued
  · rw [unchanged]
    exact once

theorem AccountantBook.Queued.addRequest (queued : book.Queued) {row : AdjustmentRequestRow}
    (fresh : row.requestId ∉ book.requests.map AdjustmentRequestRow.requestId)
    (proposable : book.ledger.Proposable row.lines) : (book.addRequest row fresh).Queued := by
  refine ⟨queued.wellFormed, fun other otherMem isProposed => ?_⟩
  rcases List.mem_append.mp otherMem with old | new
  · exact queued.proposable other old isProposed
  · rw [List.mem_singleton.mp new]
    exact proposable

theorem callKeeps_of_proposing {call : QueueCall} {requestId : String}
    {lines : List JournalLine} {now : Timestamp} (queued : book.Queued)
    (once : DecidedOnce start book) (approvable : call.Approvable book)
    (proposes : Proposing requestId lines now book (call.result book)) :
    CallKeeps call start book := by
  generalize resultEq : call.result book = result at proposes
  cases proposes with
  | refused => exact queued.of_refused once resultEq approvable
  | @stored row request fresh sameId sameLines sameTime proposed valid =>
    have runs : call.run book = book.addRequest row fresh := by rw [QueueCall.run, resultEq]
    have proposable := (validateLines_eq_ok_iff queued.wellFormed).mp valid
    rw [← sameLines] at proposable
    refine ⟨runs ▸ queued.addRequest fresh proposable, ?_, iff_of_true ?_ approvable⟩
    · rw [runs]
      exact once.of_grows (List.subset_append_left _ _) rfl
    · rintro ⟨failure, refused⟩
      rw [resultEq] at refused
      cases refused

theorem AccountantBook.Queued.recordDecision (queued : book.Queued)
    {requestId decidedBy note : String} {decidedAt : Timestamp} {newState : AdjustmentState}
    {postedEntryId : Option Nat} (decides : newState ≠ .proposed) :
    (book.recordDecision requestId decidedBy decidedAt note newState postedEntryId).Queued := by
  refine ⟨queued.wellFormed, fun row rowMem isProposed => ?_⟩
  rcases AccountantBook.mem_recordDecision rowMem with ⟨old, -⟩ | ⟨-, decided, -⟩
  · exact queued.proposable row old isProposed
  · exact absurd (decided.symm.trans isProposed) decides

theorem AccountantBook.Queued.setLedger (queued : book.Queued) {ledger : Ledger}
    (wellFormed : ledger.WellFormed) (accounts : ledger.accounts = book.ledger.accounts)
    (classes : ledger.classes = book.ledger.classes) : (book.setLedger ledger).Queued := by
  refine ⟨wellFormed, fun row rowMem isProposed => ?_⟩
  have proposable := queued.proposable row rowMem isProposed
  refine ⟨proposable.balanced, ?_, ?_, proposable.classed⟩
  · change ∀ line ∈ row.lines, ∃ known ∈ ledger.accounts, known.accountId = line.account
    rw [accounts]
    exact proposable.accountKnown
  · change ∀ line ∈ row.lines, ∀ «class», line.class = some «class» →
      ∃ known ∈ ledger.classes, known.classId = «class»
    rw [classes]
    exact proposable.classKnown

theorem callKeeps_of_deciding {requestId decidedBy note : String} {approve : Bool}
    {now : Timestamp} (queued : book.Queued) (once : DecidedOnce start book) :
    CallKeeps (.decide requestId decidedBy approve note now) start book := by
  have outcome := deciding requestId decidedBy approve note now book
  have resultEq : (QueueCall.decide requestId decidedBy approve note now).result book =
    execute (decideAdjustment requestId decidedBy approve note now) book := rfl
  generalize execute (decideAdjustment requestId decidedBy approve note now) book = result
    at outcome resultEq
  cases outcome with
  | unknown missing =>
    refine queued.of_refused once resultEq ?_
    cases approve
    · trivial
    · intro row found
      cases missing.symm.trans found
  | decided found notProposed =>
    refine queued.of_refused once resultEq ?_
    cases approve
    · trivial
    · intro other foundToo isProposed
      cases found.symm.trans foundToo
      exact absurd isProposed notProposed
  | rejected found proposed rejects =>
    subst rejects
    have runs := congrArg Prod.snd resultEq
    refine ⟨?_, ?_, iff_of_true ?_ trivial⟩
    · rw [QueueCall.run, runs]
      exact queued.recordDecision (by decide)
    · rw [QueueCall.run, runs]
      exact once.rejected decidedBy note now found proposed
    · rintro ⟨failure, refused⟩
      rw [resultEq] at refused
      cases refused
  | @posted row entry request found proposed approves reposts answers =>
    subst approves
    have runs := congrArg Prod.snd resultEq
    obtain ⟨rowMem, rowId⟩ := AccountantBook.adjustmentRequest_eq_some found
    have proposable := queued.proposable row rowMem proposed
    have taken := (reposts_adjustment_iff proposable queued.wellFormed).mp ⟨entry, reposts⟩
    have accepted : (book.ledger.recordVersion (buildJournalDocument row)
        ⟨decidedBy, "approve_adjustment"⟩).Accepts entry :=
      (accepts_derived_iff reposts.posts).mpr (reposts.takes entry rfl)
    have wellFormed := (queued.wellFormed.recordVersion (buildJournalDocument row)
      ⟨decidedBy, "approve_adjustment"⟩).recordEntry accepted
    refine ⟨?_, ?_, iff_of_true ?_ ?_⟩
    · rw [QueueCall.run, runs]
      exact (queued.setLedger wellFormed rfl rfl).recordDecision (by decide)
    · rw [QueueCall.run, runs]
      refine once.posted decidedBy note now found proposed
        (show ((book.ledger.recordVersion (buildJournalDocument row)
          ⟨decidedBy, "approve_adjustment"⟩).recordEntry entry).journal =
            book.ledger.journal ++ [⟨book.ledger.nextEntryId, stored entry⟩] from rfl) ?_
      rw [stored_sourceId, (post_entry_source reposts.posts).1, ← rowId]
      rfl
    · rintro ⟨failure, refused⟩
      rw [resultEq] at refused
      cases refused
    · intro other foundToo _
      cases found.symm.trans foundToo
      exact taken
  | @stranded row failure found proposed approves refused =>
    subst approves
    have runs := congrArg Prod.snd resultEq
    obtain ⟨rowMem, rowId⟩ := AccountantBook.adjustmentRequest_eq_some found
    have proposable := queued.proposable row rowMem proposed
    refine ⟨?_, ?_, iff_of_false ?_ ?_⟩
    · rw [QueueCall.run, runs]
      exact queued.setLedger (queued.wellFormed.recordVersion _ _) rfl rfl
    · rw [QueueCall.run, runs]
      exact once.of_grows (List.Subset.refl _) rfl
    · intro leaves
      have unchanged := leaves ⟨failure, congrArg Prod.fst resultEq⟩
      rw [QueueCall.run, runs] at unchanged
      have sameCount := congrArg (fun after : AccountantBook =>
        after.ledger.documentVersions.length) unchanged
      simp [AccountantBook.setLedger, recordVersion] at sameCount
    · intro approvable
      exact refused ((reposts_adjustment_iff proposable queued.wellFormed).mpr
        (approvable row found proposed))

theorem proposing_reclassify (requestId : String) (entryId : Nat) (lineNo : Int)
    (newAccount : AccountId) (newClass : Option ClassId) (requestedBy : String)
    (now : Timestamp) (book : AccountantBook) :
    ∃ lines, Proposing requestId lines now book (execute (proposeReclassify requestId entryId
      lineNo newAccount newClass requestedBy now) book) := by
  unfold proposeReclassify
  rw [execute_bind_ok _ (execute_get book), execute_bind, execute_ofExcept]
  cases book.ledger.entry? entryId with
  | none => exact ⟨[], .refused⟩
  | some entry =>
    change ∃ lines, Proposing requestId lines now book (execute (MonadExcept.ofExcept
      (orRefuse _ (entry.lines.find? fun line => line.lineNo = lineNo)) >>= _) book)
    rw [execute_bind, execute_ofExcept]
    cases entry.lines.find? fun line => line.lineNo = lineNo with
    | none => exact ⟨[], .refused⟩
    | some original => exact ⟨_, proposing _ _ _ _ _ _⟩

theorem callKeeps (call : QueueCall) (queued : book.Queued) (once : DecidedOnce start book) :
    CallKeeps call start book := by
  cases call with
  | propose requestId requestedBy description lines now =>
    exact callKeeps_of_proposing queued once trivial (proposing _ _ _ _ _ _)
  | reclassify requestId entryId lineNo newAccount newClass requestedBy now =>
    obtain ⟨lines, proposes⟩ := proposing_reclassify requestId entryId lineNo newAccount
      newClass requestedBy now book
    exact callKeeps_of_proposing queued once trivial proposes
  | decide requestId decidedBy approve note now => exact callKeeps_of_deciding queued once

theorem queued_after (queued : book.Queued) (calls : List QueueCall) :
    (book.after calls).Queued ∧ DecidedOnce book (book.after calls) :=
  invariant_of_run (fun later => later.Queued ∧ DecidedOnce book later)
    (fun _ call holds => ⟨(callKeeps call holds.1 holds.2).queued,
      (callKeeps call holds.1 holds.2).once⟩)
    ⟨queued, .refl book⟩ calls

end Calls

/-- From a book without requests, every stretch of calls decides each request
once, and refused calls leave the book as it was exactly when every request
that comes to be approved is on an open date and leaves the 7xxx band alone. -/
theorem requests_decided_once_iff {ledger : Ledger} (reachable : Reachable ledger)
    (calls : List QueueCall) :
    ((∀ earlier later, calls = earlier ++ later →
          DecidedOnce ((AccountantBook.withoutRequests ledger).after earlier)
            ((AccountantBook.withoutRequests ledger).after calls)) ∧
        EveryStep QueueCall.run QueueCall.RefusalLeaves
          (AccountantBook.withoutRequests ledger) calls) ↔
      EveryStep QueueCall.run QueueCall.Approvable (AccountantBook.withoutRequests ledger)
        calls := by
  have start : (AccountantBook.withoutRequests ledger).Queued :=
    ⟨reachable.wellFormed, fun _ rowMem => nomatch rowMem⟩
  have leaves_iff : EveryStep QueueCall.run QueueCall.RefusalLeaves
        (AccountantBook.withoutRequests ledger) calls ↔
      EveryStep QueueCall.run QueueCall.Approvable (AccountantBook.withoutRequests ledger)
        calls :=
    everyStep_congr_of_invariant AccountantBook.Queued
      (fun book call queued => (callKeeps call queued (.refl book)).queued)
      (fun book call queued => (callKeeps call queued (.refl book)).leaves_iff) start calls
  rw [← leaves_iff]
  refine and_iff_right ?_
  rintro earlier later rfl
  change DecidedOnce _ (runFrom QueueCall.run _ (earlier ++ later))
  rw [runFrom_append]
  exact (queued_after (queued_after start earlier).1 later).2

def lockedBook : Ledger :=
  (createCompany "aquamentor").after
    [.closePeriod ⟨2027, 3, 31, Eq.refl true⟩ "owner" "quarter end"]

def lateApprovals : List QueueCall :=
  [.propose "r1" "accountant" "fees" proposedFee proposalTime,
    .decide "r1" "owner" true "" proposalTime, .decide "r1" "owner" true "" proposalTime]

def lateBook (count : Nat) : AccountantBook :=
  (AccountantBook.withoutRequests lockedBook).after (lateApprovals.take count)

/-- Each refused approval leaves another version of the document behind. -/
theorem lateApprovals_leave_documents :
    Reachable lockedBook ∧
      ((lateBook 1).ledger.documentVersions.length = 0 ∧
        (QueueCall.result (.decide "r1" "owner" true "" proposalTime) (lateBook 1)).1 =
          .error (.ledger (.periodClosed ⟨2027, 3, 31, Eq.refl true⟩)) ∧
        (lateBook 2).ledger.documentVersions.length = 1) ∧
      (QueueCall.result (.decide "r1" "owner" true "" proposalTime) (lateBook 2)).1 =
          .error (.ledger (.periodClosed ⟨2027, 3, 31, Eq.refl true⟩)) ∧
        (lateBook 3).ledger.documentVersions.length = 2 :=
  ⟨⟨_, _, rfl⟩, by decide +kernel, by decide +kernel⟩

/-- The same fee, proposed and approved in a book that is open. -/
theorem requests_decided_once_iff_proposedFee :
    let book := AccountantBook.withoutRequests (createCompany "aquamentor")
    let calls : List QueueCall :=
      [.propose "r1" "accountant" "fees" proposedFee proposalTime,
        .decide "r1" "owner" true "" proposalTime]
    (∀ earlier later, calls = earlier ++ later →
        DecidedOnce (book.after earlier) (book.after calls)) ∧
      EveryStep QueueCall.run QueueCall.RefusalLeaves book calls := by
  intro book calls
  refine (requests_decided_once_iff ⟨"aquamentor", [], rfl⟩ calls).mpr
    ⟨trivial, fun row found _ => ⟨fun locked isLocked => ?_, ?_⟩, trivial⟩
  · have unlocked : bookWithProposedFee.2.ledger.lockedThrough = none := by decide +kernel
    cases unlocked.symm.trans isLocked
  · have lines : (bookWithProposedFee.2.adjustmentRequest "r1").map AdjustmentRequestRow.lines =
        some proposedFee := by decide +kernel
    have foundRow : bookWithProposedFee.2.adjustmentRequest "r1" = some row := found
    rw [foundRow, Option.map_some, Option.some.injEq] at lines
    rw [lines]
    decide

end QuickBooks
