import QuickBooks.ProcessedDocuments

/-!
# A document over many imports

What the pipeline leaves of a document after handling its versions one after
the other, with other operations in between.  As long as no version is
rejected, the live entries are what the rules derive from the latest one, and
so is what all its entries add up to.  The rules derive the swapped entry from
a voided version, which is posted on top of the reversal of the earlier one.
-/

namespace QuickBooks

open ExceptPrograms KeyedTotals TransactionPrograms TransitionRuns
open Ledger

namespace Ledger

section SameDocument

/-- The entries and the versions of a document stay as they are. -/
structure SameDocument (documentId : String) (before after : Ledger) : Prop where
  entries : after.entriesForDocument documentId = before.entriesForDocument documentId
  versions : after.versionsOf documentId = before.versionsOf documentId

variable {documentId : String} {before after : Ledger}

theorem SameDocument.live (same : SameDocument documentId before after) :
    after.liveEntriesForDocument documentId = before.liveEntriesForDocument documentId := by
  unfold liveEntriesForDocument
  rw [same.entries]

theorem SameDocument.previousVersion (same : SameDocument documentId before after) :
    after.previousVersion documentId = before.previousVersion documentId := by
  unfold Ledger.previousVersion
  rw [same.versions]

theorem documentAt_eq_find? (ledger : Ledger) (documentId : String) (version : Nat) :
    ledger.documentAt documentId version =
      ((ledger.versionsOf documentId).find? fun row => row.version = version).map
        DocumentVersion.document := by
  unfold documentAt versionsOf
  rw [List.find?_filter]
  simp

theorem SameDocument.latest (same : SameDocument documentId before after) :
    after.latestDocumentPayload documentId = before.latestDocumentPayload documentId := by
  unfold latestDocumentPayload
  rw [documentAt_eq_find?, documentAt_eq_find?, same.previousVersion, same.versions]

theorem Write.sameDocument {kind : WriteKind} (write : Write kind before after)
    (other : kind.document ≠ some documentId) : SameDocument documentId before after := by
  have entry_case : ∀ entry : JournalEntry, some entry.sourceId ≠ some documentId →
      SameDocument documentId before (before.recordEntry entry) := by
    intro entry otherSource
    exact ⟨entries_recordEntry_other fun same => otherSource (congrArg some same), rfl⟩
  cases write with
  | version _ doc command =>
    exact ⟨rfl, versionsOf_recordVersion_other _ _ _ fun same => other (congrArg some same)⟩
  | derivedEntry => exact entry_case _ other
  | suppliedEntry => exact entry_case _ other
  | liveReversal => exact entry_case _ other
  | strayReversal => exact entry_case _ other
  | masterData change =>
    rw [change.sameBooks]
    exact ⟨rfl, rfl⟩
  | snapshot | close | reopen => exact ⟨rfl, rfl⟩

theorem sameDocument_run {operation : Operation} (wellFormed : before.WellFormed)
    (other : ∀ kind ∈ operation.kinds before, kind.document ≠ some documentId) :
    SameDocument documentId before (operation.run before) := by
  apply (operation.evolves before).keeps wellFormed (SameDocument documentId before) ?_
    ⟨rfl, rfl⟩
  intro kind kindMem earlier later _ write same
  have step := write.sameDocument (other kind kindMem)
  exact ⟨step.entries.trans same.entries, step.versions.trans same.versions⟩

end SameDocument

section Unseen

variable {ledger : Ledger} {documentId : String}

theorem latest_of_unseen (unseen : ledger.versionsOf documentId = []) :
    ledger.latestDocumentPayload documentId = none := by
  unfold latestDocumentPayload
  rw [documentAt_eq_find?, unseen]
  rfl

theorem WellFormed.entries_of_unseen (wellFormed : ledger.WellFormed)
    (unseen : ledger.versionsOf documentId = []) :
    ledger.entriesForDocument documentId = [] := by
  rw [List.eq_nil_iff_forall_not_mem]
  intro posted postedMem
  obtain ⟨inJournal, source⟩ := mem_entriesForDocument.mp postedMem
  obtain ⟨row, rowMem, sameId, -⟩ := wellFormed.versionSaved posted inJournal
  have isVersion : row ∈ ledger.versionsOf documentId :=
    List.mem_filter.mpr ⟨rowMem, by simp [sameId, source]⟩
  rw [unseen] at isVersion
  cases isVersion

theorem live_of_no_entries (none : ledger.entriesForDocument documentId = []) :
    ledger.liveEntriesForDocument documentId = [] := by
  unfold liveEntriesForDocument
  rw [none]
  rfl

end Unseen

/-- The live entries of a document are one posting. -/
def LiveIs (ledger : Ledger) (documentId : String) : Posting → Prop
  | .nonPosting => ledger.liveEntriesForDocument documentId = []
  | .entry derived =>
    ∃ entryId, ledger.liveEntriesForDocument documentId = [⟨entryId, derived⟩]

theorem LiveIs.liveNet {ledger : Ledger} {documentId : String} {posting : Posting}
    (live : ledger.LiveIs documentId posting) (selects : PostingKey → Prop)
    [DecidablePred selects] : liveNet selects ledger documentId = posting.net selects := by
  unfold Ledger.liveNet
  cases posting with
  | nonPosting =>
    rw [show ledger.liveEntriesForDocument documentId = [] from live]
    rfl
  | entry derived =>
    obtain ⟨entryId, liveEq⟩ := live
    rw [liveEq, netOf_cons, netOf_nil, add_zero]
    rfl

/-- The live entries of a document are what its latest version posts. -/
structure Holds (ledger : Ledger) (documentId : String) (doc : LedgerDocument)
    (ctx : PostingContext) (posting : Posting) : Prop where
  latest : ledger.latestDocumentPayload documentId = some doc
  posts : post doc (ledger.previousVersion documentId) ctx = .ok posting
  live : ledger.LiveIs documentId posting

theorem Holds.of_same {documentId : String} {before after : Ledger} {doc : LedgerDocument}
    {ctx : PostingContext} {posting : Posting}
    (holds : before.Holds documentId doc ctx posting)
    (same : SameDocument documentId before after) :
    after.Holds documentId doc ctx posting := by
  refine ⟨same.latest.trans holds.latest, ?_, ?_⟩
  · rw [same.previousVersion]
    exact holds.posts
  · have live := holds.live
    cases posting with
    | nonPosting => exact same.live.trans live
    | entry derived =>
      obtain ⟨entryId, liveEq⟩ := live
      exact ⟨entryId, same.live.trans liveEq⟩

theorem WellFormed.holds_recordPosting {ledger : Ledger} (wellFormed : ledger.WellFormed)
    {doc : LedgerDocument} {ctx : PostingContext} {posting : Posting}
    (noneLive : ledger.liveEntriesForDocument doc.documentId = [])
    (reposts : ledger.Reposts doc ctx posting) :
    ((ledger.recordVersion doc importCommand).recordPosting posting).Holds doc.documentId
      doc ctx posting := by
  have latest := latestDocumentPayload_recordVersion ledger doc importCommand
  have posts := reposts.posts
  rw [← previousVersion_recordVersion ledger doc importCommand] at posts
  cases posting with
  | nonPosting => exact ⟨latest, posts, noneLive⟩
  | entry derived =>
    refine ⟨latest, posts, ledger.nextEntryId, ?_⟩
    have savedWellFormed := wellFormed.recordVersion doc importCommand
    have accepted : (ledger.recordVersion doc importCommand).Accepts derived :=
      (accepts_derived_iff reposts.posts).mpr (reposts.takes derived rfl)
    obtain ⟨source, -, original, -⟩ := post_entry_source posts
    have added := live_recordEntry_original_perm savedWellFormed
      (savedWellFormed.recordEntry accepted) original
    rw [source, stored_of_post posts,
      show (ledger.recordVersion doc importCommand).liveEntriesForDocument doc.documentId =
        [] from noneLive, List.nil_append] at added
    exact List.perm_singleton.mp added

end Ledger

section Imports

variable {ledger after : Ledger} {doc : LedgerDocument} {ctx : PostingContext}
  {handled : Handled}

theorem holds_of_saveAndRepost (wellFormed : ledger.WellFormed)
    (noneLive : ledger.liveEntriesForDocument doc.documentId = []) {isReplace : Bool}
    (runs : execute (saveAndRepost doc ctx isReplace) ledger = (.ok handled, after))
    (notRejected : ∀ reason, handled ≠ .rejected reason) :
    ∃ posting, after.Holds doc.documentId doc ctx posting := by
  by_cases reposted : ∃ posting, ledger.Reposts doc ctx posting
  · obtain ⟨posting, reposts⟩ := reposted
    rw [execute_saveAndRepost_of_reposts _ reposts, Prod.mk.injEq] at runs
    rw [← runs.2]
    exact ⟨posting, wellFormed.holds_recordPosting noneLive reposts⟩
  · have refused := (execute_saveAndRepost_of_refused isReplace reposted).2
    rw [runs] at refused
    rcases refused with ⟨reason, isRejected⟩ | ⟨failure, isError⟩
    · exact absurd (Except.ok.inj isRejected) (notRejected reason)
    · cases isError

/-- A document of some kind was never seen, or its live entries are what its
latest version posts under a context it was handled in. -/
def Imported (used : LedgerDocument → PostingContext → Prop) (kind : DocKind)
    (documentId : String) (ledger : Ledger) : Prop :=
  ledger.versionsOf documentId = [] ∨
    ∃ doc ctx posting, used doc ctx ∧ doc.kind = kind ∧
      ledger.Holds documentId doc ctx posting

theorem post_of_contract {version : Nat} (contract : doc.kind.posts = false) :
    post doc version ctx = .ok .nonPosting := by
  unfold post
  rw [if_pos (by simpa using contract)]
  rfl

theorem imported_processDocument {used : LedgerDocument → PostingContext → Prop}
    {kind : DocKind} (wellFormed : ledger.WellFormed) (sameKind : doc.kind = kind)
    (isUsed : used doc ctx) (imported : Imported used kind doc.documentId ledger)
    (runs : execute (processDocument doc ctx) ledger = (.ok handled, after))
    (notRejected : ∀ reason, handled ≠ .rejected reason) :
    Imported used kind doc.documentId after := by
  have handles := processing wellFormed doc ctx
  rw [runs] at handles
  generalize result : (Except.ok handled, after) = outcome at handles
  cases handles with
  | carried carries =>
    cases result
    exact absurd rfl (notRejected _)
  | locked posts live locked =>
    cases result
    exact absurd rfl (notRejected _)
  | unchanged same posted =>
    cases result
    exact imported
  | contract contract notCarried changed =>
    cases result
    refine .inr ⟨doc, ctx, .nonPosting, isUsed, sameKind,
      latestDocumentPayload_recordVersion _ _ _, post_of_contract contract, ?_⟩
    rcases imported with unseen | ⟨earlier, earlierCtx, posting, -, earlierKind, holds⟩
    · exact live_of_no_entries (wellFormed.entries_of_unseen unseen)
    · have earlierPosts := holds.posts
      rw [post_of_contract (by rw [earlierKind, ← sameKind, contract]),
        Except.ok.injEq] at earlierPosts
      have live := holds.live
      rw [← earlierPosts] at live
      exact live
  | first posts unposted notCarried =>
    obtain ⟨posting, holds⟩ := holds_of_saveAndRepost wellFormed
      (live_of_no_entries unposted) result.symm notRejected
    exact .inr ⟨doc, ctx, posting, isUsed, sameKind, holds⟩
  | replaced posts notCarried posted changed reversible middleWellFormed only noneLive untouched =>
    obtain ⟨posting, holds⟩ := holds_of_saveAndRepost middleWellFormed noneLive
      result.symm notRejected
    exact .inr ⟨doc, ctx, posting, isUsed, sameKind, holds⟩

/-- A version of the document is handled and not rejected, or the operation is
not about the document. -/
def Replays (kind : DocKind) (documentId : String) (operation : Operation)
    (ledger : Ledger) : Prop :=
  (∃ doc ctx handled, operation = .processDocument doc ctx ∧
      doc.documentId = documentId ∧ doc.kind = kind ∧
      (execute (processDocument doc ctx) ledger).1 = .ok handled ∧
      ∀ reason, handled ≠ .rejected reason) ∨
    ∀ written ∈ operation.kinds ledger, written.document ≠ some documentId

theorem Replays.notStray {kind : DocKind} {documentId : String} {operation : Operation}
    (replays : Replays kind documentId operation ledger) :
    .strayReversal documentId ∉ operation.kinds ledger := by
  rcases replays with ⟨doc, ctx, handled, rfl, -⟩ | other
  · simp [Operation.kinds, documentWrites]
  · exact fun isStray => other _ isStray rfl

theorem Replays.imported {used : LedgerDocument → PostingContext → Prop} {kind : DocKind}
    {documentId : String} {operation : Operation} (wellFormed : ledger.WellFormed)
    (isUsed : ∀ doc ctx, operation = .processDocument doc ctx → used doc ctx)
    (replays : Replays kind documentId operation ledger)
    (imported : Imported used kind documentId ledger) :
    Imported used kind documentId (operation.run ledger) := by
  rcases replays with ⟨doc, ctx, handled, rfl, rfl, sameKind, succeeds, notRejected⟩ | other
  · exact imported_processDocument wellFormed sameKind (isUsed doc ctx rfl) imported
      (Prod.ext succeeds rfl) notRejected
  · have same := sameDocument_run wellFormed other
    rcases imported with unseen | ⟨doc, ctx, posting, isUsed, sameKind, holds⟩
    · exact .inl (same.versions.trans unseen)
    · exact .inr ⟨doc, ctx, posting, isUsed, sameKind, holds.of_same same⟩

end Imports

/-- After versions of a document were handled without a rejection, its entries
add up to what its latest version posts; that is what a version should leave
exactly when it is not voided or moves nothing. -/
theorem replays_settle_iff {ledger : Ledger} {documentId : String} {kind : DocKind}
    {operations : List Operation} {latest : LedgerDocument} (reachable : Reachable ledger)
    (unseen : ledger.versionsOf documentId = [])
    (replays : EveryStep Operation.run (Replays kind documentId) ledger operations)
    (saved : (ledger.after operations).latestDocumentPayload documentId = some latest) :
    ∃ ctx posting, .processDocument latest ctx ∈ operations ∧
      post latest ((ledger.after operations).previousVersion documentId) ctx = .ok posting ∧
      ((∀ key, documentNet (· = key) (ledger.after operations) documentId =
          if latest.isVoided then 0 else posting.net (· = key)) ↔
        (latest.isVoided = true → ∀ key, posting.net (· = key) = 0)) := by
  have wellFormed := reachable.wellFormed
  have noEntries := wellFormed.entries_of_unseen unseen
  have both := invariant_of_everyStep
    (fun state => state.WellFormed ∧
      Imported (fun doc ctx => .processDocument doc ctx ∈ operations) kind documentId state)
    (by
      rintro state operation ⟨stateWellFormed, imported⟩ ⟨stepReplays, isStep⟩
      refine ⟨(operation.evolves state).wellFormed stateWellFormed, ?_⟩
      exact stepReplays.imported stateWellFormed
        (fun doc ctx isProcess => isProcess ▸ isStep) imported)
    ⟨wellFormed, .inl unseen⟩ replays.and_mem
  have carries : (ledger.after operations).LiveCarries documentId := by
    apply liveCarries_after wellFormed ?_ (replays.mono fun _ _ step => step.notStray)
    intro selects _
    unfold documentNet liveNet
    rw [live_of_no_entries noEntries, noEntries]
  rcases both.2 with stillUnseen | ⟨doc, ctx, posting, isUsed, -, holds⟩
  · rw [latest_of_unseen stillUnseen] at saved
    cases saved
  · obtain rfl : doc = latest := Option.some.inj (holds.latest.symm.trans saved)
    have net : ∀ key, documentNet (· = key) (ledger.after operations) documentId =
        posting.net (· = key) :=
      fun key => (carries (· = key)).trans (holds.live.liveNet (· = key))
    refine ⟨ctx, posting, isUsed, holds.posts, ?_⟩
    simp only [net]
    cases doc.isVoided <;> simp

/-- An invoice of 100.00 as a replica has it. -/
def replicaSale : LedgerDocument where
  documentId := "qbo:Invoice:419"
  kind := .invoice
  txnDate := ⟨2027, 1, 10, Eq.refl true⟩
  contact := some ⟨.customer, "c1"⟩
  headerClass := some ⟨"foam"⟩
  lines := [{ lineNo := 1, kind := .item, amount := .fromMinor 10000 }]

def voidedReplicaSale : LedgerDocument :=
  { replicaSale with isVoided := true }

def editedReplicaSale : LedgerDocument :=
  { replicaSale with lines := [{ lineNo := 1, kind := .item, amount := .fromMinor 12500 }] }

/-- Voiding the posted invoice leaves the receivable at minus 100.00, and an
invoice that is already void when it is first seen does the same. -/
theorem voidedReplicaSale_leaves_its_swapped_entry :
    EveryStep Operation.run (Replays .invoice "qbo:Invoice:419") (createCompany "aquamentor")
        [.processDocument replicaSale {}, .processDocument voidedReplicaSale {}] ∧
      documentNet (· = ⟨acct Chart.accountsReceivable, none, some ⟨.customer, "c1"⟩⟩)
          ((createCompany "aquamentor").after
            [.processDocument replicaSale {}, .processDocument voidedReplicaSale {}])
          "qbo:Invoice:419" = -10000 ∧
      documentNet (· = ⟨acct Chart.accountsReceivable, none, some ⟨.customer, "c1"⟩⟩)
          ((createCompany "aquamentor").after [.processDocument voidedReplicaSale {}])
          "qbo:Invoice:419" = -10000 := by
  refine ⟨⟨.inl ⟨_, _, .posted false, rfl, rfl, rfl, by decide +kernel, by simp⟩,
    .inl ⟨_, _, .posted true, rfl, rfl, rfl, by decide +kernel, by simp⟩, trivial⟩, ?_, ?_⟩
  · decide +kernel
  · decide +kernel

theorem replays_settle_iff_editedReplicaSale :
    ∃ ctx posting, post editedReplicaSale 2 ctx = .ok posting ∧
      ∀ key, documentNet (· = key) ((createCompany "aquamentor").after
          [.processDocument replicaSale {}, .processDocument editedReplicaSale {}])
        "qbo:Invoice:419" = posting.net (· = key) := by
  have reachable : Reachable (createCompany "aquamentor") := ⟨_, [], rfl⟩
  have replays : EveryStep Operation.run (Replays .invoice "qbo:Invoice:419")
      (createCompany "aquamentor")
      [.processDocument replicaSale {}, .processDocument editedReplicaSale {}] :=
    ⟨.inl ⟨_, _, .posted false, rfl, rfl, rfl, by decide +kernel, by simp⟩,
      .inl ⟨_, _, .posted true, rfl, rfl, rfl, by decide +kernel, by simp⟩, trivial⟩
  have saved : ((createCompany "aquamentor").after [.processDocument replicaSale {},
      .processDocument editedReplicaSale {}]).latestDocumentPayload "qbo:Invoice:419" =
        some editedReplicaSale := by decide +kernel
  have newest : ((createCompany "aquamentor").after [.processDocument replicaSale {},
      .processDocument editedReplicaSale {}]).previousVersion "qbo:Invoice:419" = 2 := by
    decide +kernel
  obtain ⟨ctx, posting, -, posts, settles⟩ :=
    replays_settle_iff reachable (by decide) replays saved
  rw [newest] at posts
  exact ⟨ctx, posting, posts, settles.mpr fun isVoided => nomatch isVoided⟩

end QuickBooks
