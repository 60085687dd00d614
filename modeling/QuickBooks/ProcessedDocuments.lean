import QuickBooks.DocumentNets

/-!
# How the pipeline handles one document

The gate accepts the reversal of a posted entry exactly when its date is open,
so the live entries of a document are reversed all together or not at all.
What follows a reversal can still be refused: the posting rules may fail on the
new version, or the gate may refuse its entry, after the reversals were
committed.  This file says what each way of handling a document leaves behind.
-/

namespace QuickBooks

open ExceptPrograms KeyedTotals TransactionPrograms
open Ledger

section Stored

theorem stored_of_post {doc : LedgerDocument} {version : Nat} {ctx : PostingContext}
    {entry : JournalEntry} (posts : post doc version ctx = .ok (.entry entry)) :
    stored entry = entry := by
  obtain ⟨legs, lines, derivation⟩ := post_eq_entry posts
  have numbers := derivation.lines_wellFormed.2
  have inOrder : (entry.lines.map JournalLine.lineNo).Pairwise (· ≤ ·) := by
    rw [numbers, List.pairwise_map]
    exact List.pairwise_le_range.imp fun before => by omega
  unfold stored
  rw [List.Pairwise.insertionSort_eq (List.pairwise_map.mp inOrder)]

theorem numbered_of_post {doc : LedgerDocument} {version : Nat} {ctx : PostingContext}
    {entry : JournalEntry} (posts : post doc version ctx = .ok (.entry entry)) :
    (entry.lines.map JournalLine.lineNo).Nodup := by
  obtain ⟨legs, lines, derivation⟩ := post_eq_entry posts
  rw [derivation.lines_wellFormed.2]
  apply List.Nodup.map _ List.nodup_range
  intro first second same
  simpa using same

end Stored

namespace Ledger

section Gate

variable {ledger : Ledger}

/-- What the gate asks of an entry whose version is saved. -/
structure Takes (ledger : Ledger) (entry : JournalEntry) : Prop where
  dateOpen : ledger.IsOpen entry.entryDate
  balanced : entry.isBalanced = true
  classRule : ∀ line ∈ entry.lines, ledger.checkClassRule line = .ok ()

theorem WellFormed.accepts_reversal (wellFormed : ledger.WellFormed)
    {original : PostedEntry} (posted : original ∈ ledger.journal)
    {reversal : JournalEntry} (reverses : reversal.Reverses original)
    (dateOpen : ledger.IsOpen reversal.entryDate) : ledger.Accepts reversal where
  dateOpen := dateOpen
  balanced := JournalEntry.isBalanced_of_swapped reverses.lines
    (wellFormed.balanced original posted)
  classRule := by
    intro line lineMem
    rw [reverses.lines] at lineMem
    obtain ⟨before, beforeMem, rfl⟩ := List.mem_map.mp lineMem
    exact wellFormed.classRule original posted before beforeMem
  versionSaved := by
    rw [reverses.sourceId, reverses.sourceVersion]
    exact wellFormed.versionSaved original posted
  numbered := by
    rw [reverses.lines, List.map_map]
    exact wellFormed.numbered original posted

theorem accepts_derived_iff {doc : LedgerDocument} {command : CommandMeta}
    {ctx : PostingContext} {entry : JournalEntry}
    (posts : post doc (ledger.previousVersion doc.documentId + 1) ctx = .ok (.entry entry)) :
    (ledger.recordVersion doc command).Accepts entry ↔ ledger.Takes entry := by
  obtain ⟨sameId, sameVersion, -, -⟩ := post_entry_source posts
  constructor
  · intro accepted
    exact ⟨accepted.dateOpen, accepted.balanced, accepted.classRule⟩
  · intro takes
    refine ⟨takes.dateOpen, takes.balanced, takes.classRule, ?_, numbered_of_post posts⟩
    rw [sameId, sameVersion]
    exact ⟨_, List.mem_append_right _ (List.mem_singleton_self _), rfl, rfl⟩

end Gate

def OnlyEntries (before after : Ledger) : Prop :=
  after = { before with journal := after.journal, nextEntryId := after.nextEntryId }

theorem onlyEntries_recordEntry (ledger : Ledger) (entry : JournalEntry) :
    OnlyEntries ledger (ledger.recordEntry entry) :=
  rfl

theorem OnlyEntries.trans {first second third : Ledger} (earlier : OnlyEntries first second)
    (later : OnlyEntries second third) : OnlyEntries first third := by
  unfold OnlyEntries at earlier later ⊢
  rw [later, earlier]

section OnlyEntries

variable {before after : Ledger} (only : OnlyEntries before after)
include only

theorem OnlyEntries.previousVersion (documentId : String) :
    after.previousVersion documentId = before.previousVersion documentId := by
  rw [only]
  rfl

theorem OnlyEntries.takes_iff (entry : JournalEntry) :
    after.Takes entry ↔ before.Takes entry := by
  rw [only]
  exact ⟨fun takes => ⟨takes.dateOpen, takes.balanced, takes.classRule⟩,
    fun takes => ⟨takes.dateOpen, takes.balanced, takes.classRule⟩⟩

end OnlyEntries

end Ledger

section Reversing

variable {ledger : Ledger} {documentId : String} {on : Date}

theorem execute_reversePriorEntries_of_open {entries : List PostedEntry}
    (wellFormed : ledger.WellFormed) (distinct : entries.Nodup)
    (live : ∀ posted ∈ entries, posted ∈ ledger.liveEntriesForDocument documentId)
    (dateOpen : ledger.IsOpen on) :
    ∃ after, execute (reversePriorEntries on entries) ledger = (.ok none, after) ∧
      after.WellFormed ∧ OnlyEntries ledger after ∧
      ∀ posted, posted ∈ after.liveEntriesForDocument documentId ↔
        posted ∈ ledger.liveEntriesForDocument documentId ∧ posted ∉ entries := by
  induction entries generalizing ledger with
  | nil => exact ⟨ledger, rfl, wellFormed, rfl, by simp⟩
  | cons posted rest ih =>
    have postedLive := live posted List.mem_cons_self
    have postedMem := (mem_liveEntriesForDocument.mp postedLive).1
    have reverses := JournalEntry.reverses_reversed posted on
    have accepted := wellFormed.accepts_reversal postedMem.1 reverses dateOpen
    have runs : execute (reverseEntry posted.entryId on) ledger =
        (.ok ledger.nextEntryId,
          ledger.recordEntry (posted.entry.reversed on posted.entryId)) := by
      rw [execute_reverseEntry_of_some (wellFormed.entry?_eq_some postedMem.1),
        execute_postEntry_of_accepts accepted]
    have liveAfter : ∀ other, other ∈
          (ledger.recordEntry (posted.entry.reversed on posted.entryId)).liveEntriesForDocument
            documentId ↔
        other ∈ ledger.liveEntriesForDocument documentId ∧ other ≠ posted := by
      intro other
      rw [mem_live_recordEntry_reversal reverses]
      refine and_congr_right fun otherLive => ?_
      rw [not_iff_not]
      constructor
      · rintro ⟨-, sameId⟩
        exact wellFormed.eq_of_entryId (mem_liveEntriesForDocument.mp otherLive).1.1
          postedMem.1 sameId
      · rintro rfl
        exact ⟨postedMem.2, rfl⟩
    obtain ⟨postedFresh, restDistinct⟩ := List.nodup_cons.mp distinct
    obtain ⟨after, restRuns, afterWellFormed, only, liveRest⟩ := ih (wellFormed.recordEntry accepted)
      restDistinct
      (fun other otherMem => (liveAfter other).mpr
        ⟨live other (List.mem_cons_of_mem _ otherMem),
          fun same => postedFresh (same ▸ otherMem)⟩)
      dateOpen
    refine ⟨after, ?_, afterWellFormed, (onlyEntries_recordEntry _ _).trans only, ?_⟩
    · unfold reversePriorEntries
      rw [execute_bind_ok _ (execute_attempt ledger _), runs]
      exact restRuns
    · intro other
      rw [liveRest, liveAfter, List.mem_cons]
      tauto

theorem execute_reversePriorEntries_of_locked {posted : PostedEntry}
    (rest : List PostedEntry) (wellFormed : ledger.WellFormed)
    (postedMem : posted ∈ ledger.journal) (locked : ¬ledger.IsOpen on) :
    ∃ reason, execute (reversePriorEntries on (posted :: rest)) ledger =
      (.ok (some reason), ledger) := by
  have refused : ¬ledger.Accepts (posted.entry.reversed on posted.entryId) :=
    fun accepted => locked accepted.dateOpen
  obtain ⟨failure, refuses⟩ := execute_postEntry_of_not_accepts refused
  unfold reversePriorEntries
  rw [execute_bind_ok _ (execute_attempt ledger _),
    execute_reverseEntry_of_some (wellFormed.entry?_eq_some postedMem), refuses]
  exact ⟨_, rfl⟩

end Reversing

section Reposting

/-- What the next version of a document would post, where the gate takes it. -/
structure Ledger.Reposts (ledger : Ledger) (doc : LedgerDocument) (ctx : PostingContext)
    (posting : Posting) : Prop where
  posts : post doc (ledger.previousVersion doc.documentId + 1) ctx = .ok posting
  takes : ∀ derived, posting = .entry derived → ledger.Takes derived

def Ledger.recordPosting (ledger : Ledger) : Posting → Ledger
  | .nonPosting => ledger
  | .entry derived => ledger.recordEntry derived

def Posting.handled (isReplace : Bool) : Posting → Handled
  | .nonPosting => .nonPosting
  | .entry _ => .posted isReplace

variable {ledger : Ledger} {doc : LedgerDocument} {ctx : PostingContext} (isReplace : Bool)

theorem execute_saveAndRepost_of_reposts {posting : Posting}
    (reposts : ledger.Reposts doc ctx posting) :
    execute (saveAndRepost doc ctx isReplace) ledger =
      (.ok (posting.handled isReplace),
        (ledger.recordVersion doc importCommand).recordPosting posting) := by
  unfold saveAndRepost
  rw [execute_bind_ok _ (execute_saveDocument ledger doc importCommand), reposts.posts]
  cases posting with
  | nonPosting => rfl
  | entry derived =>
    dsimp only
    rw [execute_bind_ok _ (execute_attempt _ _), execute_postEntry_of_accepts
      ((accepts_derived_iff reposts.posts).mpr (reposts.takes derived rfl))]
    rfl

theorem execute_saveAndRepost_of_refused
    (refused : ¬∃ posting, ledger.Reposts doc ctx posting) :
    (execute (saveAndRepost doc ctx isReplace) ledger).2 =
        ledger.recordVersion doc importCommand ∧
      ((∃ reason, (execute (saveAndRepost doc ctx isReplace) ledger).1 =
          .ok (.rejected reason)) ∨
        ∃ failure, (execute (saveAndRepost doc ctx isReplace) ledger).1 =
          .error failure) := by
  unfold saveAndRepost
  rw [execute_bind_ok _ (execute_saveDocument ledger doc importCommand)]
  cases posts : post doc (ledger.previousVersion doc.documentId + 1) ctx with
  | error failure =>
    cases failure with
    | multiplicationOverflowed => exact ⟨rfl, .inr ⟨_, rfl⟩⟩
    | _ => exact ⟨rfl, .inl ⟨_, rfl⟩⟩
  | ok posting =>
    cases posting with
    | nonPosting =>
      exact absurd ⟨_, posts, fun _ isEntry => nomatch isEntry⟩ refused
    | entry derived =>
      have notAccepted : ¬(ledger.recordVersion doc importCommand).Accepts derived := by
        intro accepted
        refine refused ⟨_, posts, fun other isEntry => ?_⟩
        rw [← Posting.entry.inj isEntry]
        exact (accepts_derived_iff posts).mp accepted
      obtain ⟨failure, refuses⟩ := execute_postEntry_of_not_accepts notAccepted
      dsimp only
      rw [execute_bind_ok _ (execute_attempt _ _), refuses]
      exact ⟨rfl, .inl ⟨_, rfl⟩⟩

end Reposting

section Processing

/-- The ways in which the pipeline handles a document, with what each leaves. -/
inductive Processing (doc : LedgerDocument) (ctx : PostingContext) (before : Ledger) :
    Except LedgerError Handled × Ledger → Prop
  | carried (carries : before.carriedByOpening doc.documentId = true) :
      Processing doc ctx before (.ok (.rejected carriedByOpeningReason), before)
  | unchanged (same : documentUnchanged before doc = true)
      (posted : doc.kind.posts = true → before.entriesForDocument doc.documentId ≠ []) :
      Processing doc ctx before (.ok .skippedUnchanged, before)
  | contract (contract : doc.kind.posts = false)
      (notCarried : before.carriedByOpening doc.documentId = false)
      (changed : documentUnchanged before doc = false) :
      Processing doc ctx before (.ok .nonPosting, before.recordVersion doc importCommand)
  | first (posts : doc.kind.posts = true)
      (unposted : before.entriesForDocument doc.documentId = [])
      (notCarried : before.carriedByOpening doc.documentId = false) :
      Processing doc ctx before (execute (saveAndRepost doc ctx false) before)
  | locked {reason : String} (posts : doc.kind.posts = true)
      (live : before.liveEntriesForDocument doc.documentId ≠ [])
      (locked : ¬before.IsOpen doc.txnDate) :
      Processing doc ctx before (.ok (.rejected reason), before)
  | replaced {middle : Ledger} (posts : doc.kind.posts = true)
      (notCarried : before.carriedByOpening doc.documentId = false)
      (posted : before.entriesForDocument doc.documentId ≠ [])
      (changed : documentUnchanged before doc = false)
      (reversible : before.liveEntriesForDocument doc.documentId = [] ∨
        before.IsOpen doc.txnDate)
      (wellFormed : middle.WellFormed) (only : OnlyEntries before middle)
      (noneLive : middle.liveEntriesForDocument doc.documentId = [])
      (untouched : before.liveEntriesForDocument doc.documentId = [] → middle = before) :
      Processing doc ctx before (execute (saveAndRepost doc ctx true) middle)

theorem processing {ledger : Ledger} (wellFormed : ledger.WellFormed) (doc : LedgerDocument)
    (ctx : PostingContext) :
    Processing doc ctx ledger (execute (processDocument doc ctx) ledger) := by
  unfold processDocument
  rw [execute_bind_ok _ (execute_get ledger)]
  split_ifs with carries contract same unposted same
  · exact .carried carries
  · exact .unchanged same fun posts => by simp [posts] at contract
  · exact .contract (by simpa using contract) (by simpa using carries) (by simpa using same)
  · exact .first (by simpa using contract) (by simpa using unposted) (by simpa using carries)
  · exact .unchanged same fun _ => by simpa using unposted
  · have posts : doc.kind.posts = true := by simpa using contract
    have notCarried : ledger.carriedByOpening doc.documentId = false := by simpa using carries
    have posted : ledger.entriesForDocument doc.documentId ≠ [] := by simpa using unposted
    have changed : documentUnchanged ledger doc = false := by simpa using same
    cases liveEq : ledger.liveEntriesForDocument doc.documentId with
    | nil =>
      rw [execute_bind_ok _ (show execute (reversePriorEntries doc.txnDate []) ledger =
        (.ok none, ledger) from rfl)]
      exact .replaced posts notCarried posted changed (.inl liveEq) wellFormed rfl liveEq fun _ => rfl
    | cons live rest =>
      have liveMem : ∀ posted ∈ live :: rest,
          posted ∈ ledger.liveEntriesForDocument doc.documentId := by
        rw [liveEq]
        exact fun _ postedMem => postedMem
      by_cases dateOpen : ledger.IsOpen doc.txnDate
      · have distinct := wellFormed.live_nodup doc.documentId
        rw [liveEq] at distinct
        obtain ⟨middle, runs, middleWellFormed, only, liveAfter⟩ :=
          execute_reversePriorEntries_of_open wellFormed distinct liveMem dateOpen
        rw [execute_bind_ok _ runs]
        refine .replaced posts notCarried posted changed (.inr dateOpen) middleWellFormed only ?_
          fun none => ?_
        · rw [List.eq_nil_iff_forall_not_mem]
          intro other otherLive
          rw [liveAfter, liveEq] at otherLive
          exact otherLive.2 otherLive.1
        · rw [liveEq] at none
          cases none
      · have liveHead := (mem_liveEntriesForDocument.mp (liveMem live List.mem_cons_self)).1
        obtain ⟨reason, runs⟩ := execute_reversePriorEntries_of_locked rest
          wellFormed liveHead.1 dateOpen
        rw [execute_bind_ok _ runs]
        exact .locked posts (by simp [liveEq]) dateOpen

end Processing

section SavedThenPosted

variable {ledger : Ledger} {doc : LedgerDocument} (command : CommandMeta)

theorem execute_saveThenPostEntry_of_reposts {entry : JournalEntry}
    (reposts : ledger.Reposts doc {} (.entry entry)) :
    execute (saveThenPostEntry doc command) ledger =
      (.ok ledger.nextEntryId, (ledger.recordVersion doc command).recordEntry entry) := by
  unfold saveThenPostEntry saveThenPost
  rw [execute_bind, execute_bind_ok _ (execute_saveDocument ledger doc command), reposts.posts]
  have accepted : (ledger.recordVersion doc command).Accepts entry :=
    (accepts_derived_iff reposts.posts).mpr (reposts.takes entry rfl)
  have posts := execute_postEntry_of_accepts accepted
  simp only [mapError_ok, execute_bind, execute_ofExcept, posts]
  rfl

theorem execute_saveThenPostEntry_of_refused
    (refused : ¬∃ entry, ledger.Reposts doc {} (.entry entry)) :
    ∃ failure, execute (saveThenPostEntry doc command) ledger =
      (.error failure, ledger.recordVersion doc command) := by
  unfold saveThenPostEntry saveThenPost
  rw [execute_bind, execute_bind_ok _ (execute_saveDocument ledger doc command)]
  cases posts : post doc (ledger.previousVersion doc.documentId + 1) {} with
  | error failure => exact ⟨.post failure, rfl⟩
  | ok posting =>
    cases posting with
    | nonPosting => exact ⟨postedNothing, rfl⟩
    | entry entry =>
      have notAccepted : ¬(ledger.recordVersion doc command).Accepts entry := by
        intro accepted
        refine refused ⟨entry, posts, fun derived isEntry => ?_⟩
        cases isEntry
        exact (accepts_derived_iff posts).mp accepted
      obtain ⟨failure, refuses⟩ := execute_postEntry_of_not_accepts notAccepted
      refine ⟨failure, ?_⟩
      simp only [mapError_ok, execute_bind, execute_ofExcept, refuses]

theorem exists_reposts_of_ok
    (succeeds : (execute (saveThenPostEntry doc command) ledger).1.toOption.isSome = true) :
    ∃ entry, ledger.Reposts doc {} (.entry entry) := by
  by_contra refused
  rcases execute_saveThenPostEntry_of_refused command refused with ⟨failure, refuses⟩
  rw [refuses] at succeeds
  cases succeeds

end SavedThenPosted

section PostedThenSaved

variable {ledger : Ledger} {doc : LedgerDocument} {ctx : PostingContext} (command : CommandMeta)

theorem execute_postThenSave_of_refused {refusal : PostError}
    (refused : post doc (ledger.documentVersionCount doc.documentId + 1) ctx =
      .error refusal) :
    execute (postThenSave doc ctx command) ledger = (.error (.post refusal), ledger) := by
  unfold postThenSave
  rw [execute_bind_ok _ (execute_get ledger), execute_bind_error ledger]
  rw [refused, execute_ofExcept]
  rfl

variable (wellFormed : ledger.WellFormed)
include wellFormed

theorem execute_postThenSave_of_reposts {entry : JournalEntry}
    (reposts : ledger.Reposts doc ctx (.entry entry)) :
    execute (postThenSave doc ctx command) ledger =
      (.ok (ledger.previousVersion doc.documentId + 1, some ledger.nextEntryId),
        (ledger.recordVersion doc command).recordEntry entry) := by
  have accepted : (ledger.recordVersion doc command).Accepts entry :=
    (accepts_derived_iff reposts.posts).mpr (reposts.takes entry rfl)
  have posts := reposts.posts
  rw [wellFormed.previousVersion_eq_count] at posts
  unfold postThenSave
  rw [execute_bind_ok _ (execute_get ledger)]
  dsimp only
  rw [posts, execute_bind_ok _ (by rw [execute_ofExcept]; rfl),
    execute_bind_ok _ (execute_saveDocument ledger doc command)]
  exact execute_bind_ok _ (execute_postEntry_of_accepts accepted)

theorem execute_postThenSave_of_not_taken {entry : JournalEntry}
    (posts : post doc (ledger.previousVersion doc.documentId + 1) ctx = .ok (.entry entry))
    (refused : ¬ ledger.Takes entry) :
    ∃ failure, execute (postThenSave doc ctx command) ledger =
      (.error failure, ledger.recordVersion doc command) := by
  have notAccepted : ¬(ledger.recordVersion doc command).Accepts entry :=
    mt (accepts_derived_iff posts).mp refused
  obtain ⟨failure, refuses⟩ := execute_postEntry_of_not_accepts notAccepted
  rw [wellFormed.previousVersion_eq_count] at posts
  unfold postThenSave
  rw [execute_bind_ok _ (execute_get ledger)]
  dsimp only
  rw [posts, execute_bind_ok _ (by rw [execute_ofExcept]; rfl),
    execute_bind_ok _ (execute_saveDocument ledger doc command)]
  exact ⟨failure, execute_bind_error _ refuses⟩

theorem execute_postThenSave_of_nonPosting
    (posts : post doc (ledger.previousVersion doc.documentId + 1) ctx = .ok .nonPosting) :
    execute (postThenSave doc ctx command) ledger =
      (.ok (ledger.previousVersion doc.documentId + 1, none),
        ledger.recordVersion doc command) := by
  rw [wellFormed.previousVersion_eq_count] at posts
  unfold postThenSave
  rw [execute_bind_ok _ (execute_get ledger)]
  dsimp only
  rw [posts, execute_bind_ok _ (by rw [execute_ofExcept]; rfl),
    execute_bind_ok _ (execute_saveDocument ledger doc command)]
  rfl

end PostedThenSaved

end QuickBooks
