import QuickBooks.ImportedDocuments

/-!
# Failing and retried imports

A document that has posted before is replaced in separate steps: its live
entries are reversed, the new version is saved, and what it derives is posted.
When that posting is refused the reversals stay, and the next run finds the
saved version unchanged and leaves the document with nothing posted.
-/

namespace QuickBooks

open ExceptPrograms TransactionPrograms TransitionRuns
open Ledger

namespace Ledger

variable {before after : Ledger}

/-- Where the pipeline would replace a posted document, it either cannot start
or is able to finish. -/
def CanReplace (ledger : Ledger) (doc : LedgerDocument) (ctx : PostingContext) : Prop :=
  ledger.carriedByOpening doc.documentId = false → doc.kind.posts = true →
    ledger.entriesForDocument doc.documentId ≠ [] → documentUnchanged ledger doc = false →
      ledger.liveEntriesForDocument doc.documentId ≠ [] ∧ ¬ledger.IsOpen doc.txnDate ∨
        ∃ posting, ledger.Reposts doc ctx posting

theorem OnlyEntries.reposts {doc : LedgerDocument} {ctx : PostingContext}
    {posting : Posting} (only : OnlyEntries before after)
    (reposts : before.Reposts doc ctx posting) : after.Reposts doc ctx posting := by
  refine ⟨?_, fun derived isEntry => (only.takes_iff derived).mpr (reposts.takes derived isEntry)⟩
  rw [only.previousVersion]
  exact reposts.posts

end Ledger

section Retries

variable {ledger after : Ledger} {doc : LedgerDocument} {ctx : PostingContext}
  {handled : Handled}

theorem execute_replace_of_canReplace {middle : Ledger} (canReplace : ledger.CanReplace doc ctx)
    (posts : doc.kind.posts = true)
    (notCarried : ledger.carriedByOpening doc.documentId = false)
    (posted : ledger.entriesForDocument doc.documentId ≠ [])
    (changed : documentUnchanged ledger doc = false)
    (reversible : ledger.liveEntriesForDocument doc.documentId = [] ∨
      ledger.IsOpen doc.txnDate)
    (only : OnlyEntries ledger middle) :
    ∃ posting, middle.Reposts doc ctx posting ∧
      execute (saveAndRepost doc ctx true) middle =
        (.ok (posting.handled true),
          (middle.recordVersion doc importCommand).recordPosting posting) := by
  rcases canReplace notCarried posts posted changed with ⟨live, locked⟩ | ⟨posting, reposts⟩
  · rcases reversible with noneLive | dateOpen
    · exact absurd noneLive live
    · exact absurd dateOpen locked
  · have repostsThere := only.reposts reposts
    exact ⟨posting, repostsThere, execute_saveAndRepost_of_reposts true repostsThere⟩

theorem journal_of_rejected (wellFormed : ledger.WellFormed)
    (canReplace : ledger.CanReplace doc ctx) {reason : String}
    (runs : execute (processDocument doc ctx) ledger = (.ok (.rejected reason), after)) :
    after.journal = ledger.journal := by
  have handles := processing wellFormed doc ctx
  rw [runs] at handles
  generalize result : (Except.ok (Handled.rejected reason), after) = outcome at handles
  cases handles with
  | carried carries =>
    cases result
    rfl
  | locked posts live locked =>
    cases result
    rfl
  | unchanged same posted => cases result
  | contract contract notCarried changed => cases result
  | first posts unposted notCarried =>
    by_cases reposted : ∃ posting, ledger.Reposts doc ctx posting
    · obtain ⟨posting, reposts⟩ := reposted
      rw [execute_saveAndRepost_of_reposts false reposts, Prod.mk.injEq] at result
      cases posting <;> cases Except.ok.inj result.1
    · have refused := (execute_saveAndRepost_of_refused false reposted).1
      rw [← result] at refused
      exact (congrArg Ledger.journal refused).trans rfl
  | replaced posts notCarried posted changed reversible middleWellFormed only noneLive
      untouched =>
      obtain ⟨posting, -, runsThere⟩ := execute_replace_of_canReplace canReplace posts
        notCarried posted changed reversible only
      rw [runsThere, Prod.mk.injEq] at result
      cases posting <;> cases Except.ok.inj result.1

/-- A document has no entries, or its live entries are what its latest version
posts. -/
def InPlace (used : LedgerDocument → PostingContext → Prop) (kind : DocKind)
    (documentId : String) (ledger : Ledger) : Prop :=
  ledger.entriesForDocument documentId = [] ∨
    ∃ doc ctx posting, used doc ctx ∧ doc.kind = kind ∧
      ledger.Holds documentId doc ctx posting

theorem inPlace_processDocument {used : LedgerDocument → PostingContext → Prop}
    {kind : DocKind} (wellFormed : ledger.WellFormed) (sameKind : doc.kind = kind)
    (isUsed : used doc ctx) (canReplace : ledger.CanReplace doc ctx)
    (inPlace : InPlace used kind doc.documentId ledger) :
    InPlace used kind doc.documentId (execute (processDocument doc ctx) ledger).2 := by
  have handles := processing wellFormed doc ctx
  generalize execute (processDocument doc ctx) ledger = outcome at handles
  cases handles with
  | carried carries => exact inPlace
  | locked posts live locked => exact inPlace
  | unchanged same posted => exact inPlace
  | contract contract notCarried changed =>
    rcases inPlace with noEntries | ⟨earlier, earlierCtx, posting, -, earlierKind, holds⟩
    · exact .inl noEntries
    · refine .inr ⟨doc, ctx, .nonPosting, isUsed, sameKind,
        latestDocumentPayload_recordVersion _ _ _, post_of_contract contract, ?_⟩
      have earlierPosts := holds.posts
      rw [post_of_contract (by rw [earlierKind, ← sameKind, contract]),
        Except.ok.injEq] at earlierPosts
      have live := holds.live
      rw [← earlierPosts] at live
      exact live
  | first posts unposted notCarried =>
    by_cases reposted : ∃ posting, ledger.Reposts doc ctx posting
    · obtain ⟨posting, reposts⟩ := reposted
      rw [execute_saveAndRepost_of_reposts false reposts]
      exact .inr ⟨doc, ctx, posting, isUsed, sameKind,
        wellFormed.holds_recordPosting (live_of_no_entries unposted) reposts⟩
    · rw [(execute_saveAndRepost_of_refused false reposted).1]
      exact .inl unposted
  | replaced posts notCarried posted changed reversible middleWellFormed only noneLive
      untouched =>
      obtain ⟨posting, reposts, runsThere⟩ := execute_replace_of_canReplace canReplace posts
        notCarried posted changed reversible only
      rw [runsThere]
      exact .inr ⟨doc, ctx, posting, isUsed, sameKind,
        middleWellFormed.holds_recordPosting noneLive reposts⟩

theorem live_of_skipped {used : LedgerDocument → PostingContext → Prop} {kind : DocKind}
    (wellFormed : ledger.WellFormed)
    (inPlace : InPlace used kind doc.documentId ledger)
    (runs : execute (processDocument doc ctx) ledger = (.ok .skippedUnchanged, after)) :
    ∃ usedCtx posting, (used doc usedCtx ∨ usedCtx = ctx) ∧
      post doc (ledger.previousVersion doc.documentId) usedCtx = .ok posting ∧
      ledger.LiveIs doc.documentId posting := by
  have handles := processing wellFormed doc ctx
  rw [runs] at handles
  generalize result : (Except.ok Handled.skippedUnchanged, after) = outcome at handles
  have notSaved : ∀ (isReplace : Bool) (middle : Ledger),
      (Except.ok Handled.skippedUnchanged, after) ≠
        execute (saveAndRepost doc ctx isReplace) middle := by
    intro isReplace middle saves
    by_cases reposted : ∃ posting, middle.Reposts doc ctx posting
    · obtain ⟨posting, reposts⟩ := reposted
      rw [execute_saveAndRepost_of_reposts isReplace reposts, Prod.mk.injEq] at saves
      cases posting <;> cases Except.ok.inj saves.1
    · have refused := (execute_saveAndRepost_of_refused isReplace reposted).2
      rw [← saves] at refused
      rcases refused with ⟨reason, isRejected⟩ | ⟨failure, isError⟩
      · cases Except.ok.inj isRejected
      · cases isError
  cases handles with
  | carried carries => cases result
  | locked posts live locked => cases result
  | contract contract notCarried changed => cases result
  | first posts unposted notCarried => exact absurd result (notSaved false ledger)
  | replaced => exact absurd result (notSaved true _)
  | unchanged same posted =>
    rcases inPlace with noEntries | ⟨latest, latestCtx, posting, isUsed, -, holds⟩
    · have contract : doc.kind.posts = false := by
        by_contra posts
        exact posted (by simpa using posts) noEntries
      exact ⟨ctx, .nonPosting, .inr rfl, post_of_contract contract,
        live_of_no_entries noEntries⟩
    · have isLatest : ledger.latestDocumentPayload doc.documentId = some doc :=
        of_decide_eq_true same
      obtain rfl : doc = latest := Option.some.inj (isLatest.symm.trans holds.latest)
      exact ⟨latestCtx, posting, .inl isUsed, holds.posts, holds.live⟩

end Retries

/-- A version of the document is handled that can be replaced where it has to
be, or the operation is not about the document. -/
def Retries (kind : DocKind) (documentId : String) (operation : Operation)
    (ledger : Ledger) : Prop :=
  (∃ doc ctx, operation = .processDocument doc ctx ∧ doc.documentId = documentId ∧
      doc.kind = kind ∧ ledger.CanReplace doc ctx) ∨
    ∀ written ∈ operation.kinds ledger, written.document ≠ some documentId

theorem Retries.inPlace {used : LedgerDocument → PostingContext → Prop} {kind : DocKind}
    {documentId : String} {operation : Operation} {ledger : Ledger}
    (wellFormed : ledger.WellFormed)
    (isUsed : ∀ doc ctx, operation = .processDocument doc ctx → used doc ctx)
    (retries : Retries kind documentId operation ledger)
    (inPlace : InPlace used kind documentId ledger) :
    InPlace used kind documentId (operation.run ledger) := by
  rcases retries with ⟨doc, ctx, rfl, rfl, sameKind, canReplace⟩ | other
  · exact inPlace_processDocument wellFormed sameKind (isUsed doc ctx rfl) canReplace inPlace
  · have same := sameDocument_run wellFormed other
    rcases inPlace with noEntries | ⟨doc, ctx, posting, isUsed, sameKind, holds⟩
    · exact .inl (same.entries.trans noEntries)
    · exact .inr ⟨doc, ctx, posting, isUsed, sameKind, holds.of_same same⟩

/-- After any number of runs that could replace what they had to, a document
that is rejected has left the journal as it was, and one that is skipped has
live exactly what its payload posts. -/
theorem retries_stay_in_place {ledger after : Ledger} {documentId : String}
    {kind : DocKind} {operations : List Operation} {doc : LedgerDocument}
    {ctx : PostingContext} {handled : Handled} (reachable : Reachable ledger)
    (unposted : ledger.entriesForDocument documentId = [])
    (retries : EveryStep Operation.run (Retries kind documentId) ledger operations)
    (sameId : doc.documentId = documentId)
    (canReplace : (ledger.after operations).CanReplace doc ctx)
    (runs : execute (processDocument doc ctx) (ledger.after operations) =
      (.ok handled, after)) :
    (∀ reason, handled = .rejected reason →
        after.journal = (ledger.after operations).journal) ∧
      (handled = .skippedUnchanged →
        ∃ usedCtx posting,
          (.processDocument doc usedCtx ∈ operations ∨ usedCtx = ctx) ∧
          post doc ((ledger.after operations).previousVersion documentId) usedCtx =
            .ok posting ∧
          (ledger.after operations).LiveIs documentId posting) := by
  have both := invariant_of_everyStep
    (fun state => state.WellFormed ∧
      InPlace (fun doc ctx => .processDocument doc ctx ∈ operations) kind documentId state)
    (by
      rintro state operation ⟨wellFormed, inPlace⟩ ⟨stepRetries, isStep⟩
      refine ⟨(operation.evolves state).wellFormed wellFormed, ?_⟩
      exact stepRetries.inPlace wellFormed
        (fun doc ctx isProcess => isProcess ▸ isStep) inPlace)
    ⟨reachable.wellFormed, .inl unposted⟩ retries.and_mem
  obtain ⟨wellFormed, inPlace⟩ := both
  subst sameId
  constructor
  · rintro reason rfl
    exact journal_of_rejected wellFormed canReplace runs
  · rintro rfl
    exact live_of_skipped wellFormed inPlace runs

/-- The invoice edited to name an item that the replica does not hold. -/
def unknownItemSale : LedgerDocument :=
  { replicaSale with
    lines := [{ lineNo := 1, kind := .item, amount := .fromMinor 12500,
                itemId := some "item-9" }] }

/-- The edit is rejected after its predecessor was reversed; the next run skips
it, with nothing live. -/
theorem unknownItemSale_is_lost :
    Reachable ((createCompany "aquamentor").after [.processDocument replicaSale {}]) ∧
      (execute (processDocument unknownItemSale {})
          ((createCompany "aquamentor").after [.processDocument replicaSale {}])).1 =
        .ok (.rejected "unknown item item-9") ∧
      ((createCompany "aquamentor").after [.processDocument replicaSale {}]).journal.length =
        1 ∧
      ((createCompany "aquamentor").after [.processDocument replicaSale {},
        .processDocument unknownItemSale {}]).journal.length = 2 ∧
      (execute (processDocument unknownItemSale {})
          ((createCompany "aquamentor").after [.processDocument replicaSale {},
            .processDocument unknownItemSale {}])).1 = .ok .skippedUnchanged ∧
      ((createCompany "aquamentor").after [.processDocument replicaSale {},
        .processDocument unknownItemSale {}]).liveEntriesForDocument "qbo:Invoice:419" =
        [] := by
  refine ⟨⟨_, _, rfl⟩, ?_⟩
  decide +kernel

/-- The invoice first names an unknown item, and is then corrected. -/
theorem retries_stay_in_place_editedReplicaSale :
    ∃ posting, post editedReplicaSale 2 {} = .ok posting ∧
      ((createCompany "aquamentor").after [.processDocument unknownItemSale {},
        .processDocument editedReplicaSale {}]).LiveIs "qbo:Invoice:419" posting := by
  have reachable : Reachable (createCompany "aquamentor") := ⟨_, [], rfl⟩
  have first : (createCompany "aquamentor").CanReplace unknownItemSale {} :=
    fun _ _ posted => absurd (by decide +kernel) posted
  have second : ((createCompany "aquamentor").after
      [.processDocument unknownItemSale {}]).CanReplace editedReplicaSale {} :=
    fun _ _ posted => absurd (by decide +kernel) posted
  have third : ((createCompany "aquamentor").after [.processDocument unknownItemSale {},
      .processDocument editedReplicaSale {}]).CanReplace editedReplicaSale {} :=
    fun _ _ _ changed => absurd changed (by decide +kernel)
  have skips : (execute (processDocument editedReplicaSale {}) ((createCompany
      "aquamentor").after [.processDocument unknownItemSale {},
        .processDocument editedReplicaSale {}])).1 = .ok .skippedUnchanged := by
    decide +kernel
  have newest : ((createCompany "aquamentor").after [.processDocument unknownItemSale {},
      .processDocument editedReplicaSale {}]).previousVersion "qbo:Invoice:419" = 2 := by
    decide +kernel
  have retries : EveryStep Operation.run (Retries .invoice "qbo:Invoice:419")
      (createCompany "aquamentor") [.processDocument unknownItemSale {},
        .processDocument editedReplicaSale {}] :=
    ⟨.inl ⟨_, _, rfl, rfl, rfl, first⟩, .inl ⟨_, _, rfl, rfl, rfl, second⟩, trivial⟩
  obtain ⟨usedCtx, posting, isUsed, posts, live⟩ :=
    (retries_stay_in_place reachable (by decide +kernel) retries rfl third
      (Prod.ext skips rfl)).2 rfl
  have sameCtx : usedCtx = {} := by
    rcases isUsed with isStep | same
    · simpa [editedReplicaSale, unknownItemSale] using isStep
    · exact same
  rw [newest, sameCtx] at posts
  exact ⟨posting, posts, live⟩

end QuickBooks
