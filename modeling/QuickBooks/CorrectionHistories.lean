import QuickBooks.ProducerHistories

/-!
# What edits, voids and the write tools write

Preparing a document may only move a number sequence on, and it changes
neither the identity nor the kind of the document.  A revision reverses live
entries of its document, saves one version and posts at most the entry that
this version derives.
-/

/-!
## What the imports write

The pipeline writes versions of the documents it translates, the entries they
derive under the replica's context, and reversals of their live entries.  The
opening balances are the only writers that supply an entry of their own.
-/

namespace QuickBooks

open ExceptPrograms TransactionPrograms
open Ledger

variable {permitted : Set WriteKind}

section Reversals

theorem reversePriorEntries_evolves {documentId : String} {on : Date}
    (allowed : .liveReversal documentId ∈ permitted) {entries : List PostedEntry}
    {ledger : Ledger} (distinct : entries.Nodup)
    (live : ledger.WellFormed →
      ∀ posted ∈ entries, posted ∈ ledger.liveEntriesForDocument documentId) :
    Evolves permitted ledger (execute (reversePriorEntries on entries) ledger).2 := by
  induction entries generalizing ledger with
  | nil => exact .rfl
  | cons posted rest ih =>
    intro wellFormed
    suffices history : Evolves permitted ledger
        (execute (reversePriorEntries on (posted :: rest)) ledger).2 from
      history wellFormed
    have allLive := live wellFormed
    have found := wellFormed.entry?_eq_some
      (mem_liveEntriesForDocument.mp (allLive posted (by simp))).1.1
    obtain ⟨stepHistory, restLive⟩ := reversal_step wellFormed distinct allLive
      (JournalEntry.reverses_reversed posted on) allowed
    rw [← execute_reverseEntry_of_some found] at stepHistory restLive
    unfold reversePriorEntries
    rw [execute_bind_ok _ (execute_attempt ledger _)]
    cases outcome : (execute (reverseEntry posted.entryId on) ledger).1 with
    | error failure => exact stepHistory
    | ok reversalId =>
      exact stepHistory.trans (ih (List.nodup_cons.mp distinct).2 fun _ => restLive)

theorem reverseEach_evolves {documentId : String} {on : Date}
    (allowed : .liveReversal documentId ∈ permitted) {entries : List PostedEntry}
    {ledger : Ledger} (distinct : entries.Nodup)
    (live : ledger.WellFormed →
      ∀ posted ∈ entries, posted ∈ ledger.liveEntriesForDocument documentId) :
    Evolves permitted ledger (execute (entries.forM fun posted => do
      let _ ← reverseEntry posted.entryId on
      pure () : LedgerProgram Unit) ledger).2 := by
  induction entries generalizing ledger with
  | nil => exact .rfl
  | cons posted rest ih =>
    intro wellFormed
    suffices history : Evolves permitted ledger _ from history wellFormed
    have allLive := live wellFormed
    have found := wellFormed.entry?_eq_some
      (mem_liveEntriesForDocument.mp (allLive posted (by simp))).1.1
    obtain ⟨stepHistory, restLive⟩ := reversal_step wellFormed distinct allLive
      (JournalEntry.reverses_reversed posted on) allowed
    rw [← execute_reverseEntry_of_some found] at stepHistory restLive
    rw [List.forM_eq_forM, List.forM_cons]
    apply Respects.bind_from
    · rw [execute_bind_state _ fun _ _ => rfl]
      exact stepHistory
    · intro _ middle reverses
      have middleEq := congrArg Prod.snd reverses
      rw [execute_bind_state _ fun _ _ => rfl] at middleEq
      rw [middleEq] at restLive
      exact ih (List.nodup_cons.mp distinct).2 fun _ => restLive

end Reversals

section Documents

variable {doc : LedgerDocument} {ctx : PostingContext}

theorem saveAndRepost_respects {isReplace : Bool}
    (permits : documentWrites doc.documentId {ctx} ⊆ permitted) :
    Respects (Evolves permitted) (saveAndRepost doc ctx isReplace) := by
  intro ledger
  have saves : Evolves permitted ledger (ledger.recordVersion doc importCommand) :=
    recordVersion_evolves (version_permitted permits)
  unfold saveAndRepost
  rw [execute_bind_ok _ (execute_saveDocument ledger doc importCommand)]
  cases posts : post doc (ledger.previousVersion doc.documentId + 1) ctx with
  | error failure => cases failure <;> exact saves
  | ok posting =>
    cases posting with
    | nonPosting => exact saves
    | entry entry =>
      have posted : Evolves permitted ledger
          (execute (postEntry entry) (ledger.recordVersion doc importCommand)).2 :=
        savedEntry_evolves permits (Set.mem_singleton ctx) posts
      dsimp only
      rw [execute_bind_ok _ (execute_attempt _ _)]
      cases (execute (postEntry entry) (ledger.recordVersion doc importCommand)).1 <;>
        exact posted

theorem processDocument_respects
    (permits : documentWrites doc.documentId {ctx} ⊆ permitted) :
    Respects (Evolves permitted) (processDocument doc ctx) := by
  have saves : Respects (Evolves permitted) (saveDocument doc importCommand) :=
    saveDocument_respects (version_permitted permits)
  apply Respects.get_bind
  intro ledger wellFormed
  suffices history : Evolves permitted ledger _ from history wellFormed
  split_ifs
  · exact .rfl
  · exact .rfl
  · exact Respects.bind saves (fun _ => .pure _) ledger
  · exact saveAndRepost_respects permits ledger
  · exact .rfl
  · apply Respects.bind_from
    · exact reversePriorEntries_evolves (liveReversal_permitted permits)
        (wellFormed.live_nodup _) fun _ _ postedLive => postedLive
    · intro refusal middle _
      cases refusal with
      | some reason => exact .rfl
      | none => exact saveAndRepost_respects permits middle

theorem processDocuments_respects {docs : List LedgerDocument}
    {report : PipelineReport}
    (permits : ∀ doc ∈ docs, documentWrites doc.documentId {ctx} ⊆ permitted) :
    Respects (Evolves permitted) (processDocuments ctx docs report) := by
  induction docs generalizing report with
  | nil => exact .pure _
  | cons doc docs ih =>
    apply Respects.bind (processDocument_respects (permits doc (by simp)))
    intro handled
    exact ih fun other otherMem => permits other (by simp [otherMem])

end Documents

section MasterData

variable (masterAllowed : .masterData ∈ permitted)
include masterAllowed

theorem materializeAccounts_respects (mapping : List MappedAccount) :
    Respects (Evolves permitted) (materializeAccounts mapping) := by
  induction mapping with
  | nil => exact .pure _
  | cons mapped rest ih =>
    apply Respects.get_bind
    intro ledger
    dsimp only
    split
    · apply Respects.bind (setAccountSourceRef_respects masterAllowed _ _)
      intro recorded
      apply Respects.get_bind
      intro later
      exact Respects.bind ih (fun _ => .pure _) later
    · apply Respects.bind (addAccount_respects masterAllowed _ _ _ _ _ _)
      intro _
      exact .bind ih fun _ => .pure _

theorem materializeClasses_respects (mapping : List MappedClass) :
    Respects (Evolves permitted) (materializeClasses mapping) := by
  induction mapping with
  | nil => exact .pure _
  | cons mapped rest ih =>
    apply Respects.get_bind
    intro ledger
    split_ifs
    · exact ih ledger
    · exact Respects.bind (addClass_respects masterAllowed _ _ _)
        (fun _ => .bind ih fun _ => .pure _) ledger

theorem ensureClass_respects (id : ClassId) :
    Respects (Evolves permitted) (ensureClass id) := by
  apply Respects.get_bind
  intro ledger
  split
  · exact .rfl
  · exact Respects.bind (addClass_respects masterAllowed _ _ _) (fun _ => .pure _) ledger

theorem materialize_respects (replica : Replica) :
    Respects (Evolves permitted) (materialize replica) := by
  apply Respects.bind (materializeAccounts_respects masterAllowed _)
  rintro ⟨accountsCreated, accountsNeedingMapping⟩
  apply Respects.bind (materializeClasses_respects masterAllowed _)
  intro classesCreated
  cases replica.classFallback with
  | none => exact .bind (.pure _) fun _ => .pure _
  | some fallback => exact .bind (ensureClass_respects masterAllowed _) fun _ => .pure _

theorem importReplica_respects {replica : Replica}
    (permits : ∀ doc ∈ replica.documents,
      documentWrites doc.documentId {replica.ctx} ⊆ permitted) :
    Respects (Evolves permitted) (importReplica replica) := by
  apply Respects.bind (materialize_respects masterAllowed replica)
  intro report
  exact .bind (processDocuments_respects permits) fun _ => .pure _

/-- What applying a flagged entry does once its class is there. -/
def replaceFlaggedEntry (doc : LedgerDocument) (entry : JournalEntry) (kind : String) :
    LedgerProgram (Bool × Bool) := do
  let ledger ← get
  let replaced := !(ledger.entriesForDocument doc.documentId).isEmpty
  if replaced && documentUnchanged ledger doc then return (true, false)
  else
    (ledger.liveEntriesForDocument doc.documentId).forM fun posted => do
      let _ ← reverseEntry posted.entryId doc.txnDate
      pure ()
    let version ← saveDocument doc ⟨kind, kind⟩
    let _ ← postEntry { entry with sourceVersion := version }
    return (false, replaced)

omit masterAllowed in
theorem applyFlaggedEntry_eq (doc : LedgerDocument) (entry : JournalEntry) (kind : String) :
    applyFlaggedEntry doc entry kind =
      if entry.lines.any fun line => line.class.isSome then do
        let _ ← ensureClass ⟨Chart.importFallbackClass.1⟩
        replaceFlaggedEntry doc entry kind
      else replaceFlaggedEntry doc entry kind := by
  unfold applyFlaggedEntry
  split <;> rfl

omit masterAllowed in
theorem replaceFlaggedEntry_respects {doc : LedgerDocument} {entry : JournalEntry}
    {kind : String} (original : entry.reversalOf = none)
    (permits : documentWrites doc.documentId ∅ ⊆ permitted)
    (suppliedAllowed : .suppliedEntry entry.sourceId ∈ permitted) :
    Respects (Evolves permitted) (replaceFlaggedEntry doc entry kind) := by
  apply Respects.get_bind
  intro ledger wellFormed
  suffices history : Evolves permitted ledger _ from history wellFormed
  dsimp only
  split
  · exact .rfl
  · apply Respects.bind_from
    · exact reverseEach_evolves (liveReversal_permitted permits)
        (wellFormed.live_nodup _) fun _ _ postedLive => postedLive
    · intro _ middle _
      have saves : Respects (Evolves permitted) (saveDocument doc ⟨kind, kind⟩) :=
        saveDocument_respects (version_permitted permits)
      apply Respects.bind saves
      intro version later
      rw [execute_bind_state _ fun _ _ => rfl]
      apply postEntry_evolves (.suppliedEntry entry.sourceId) suppliedAllowed
      intro _ accepted
      refine Write.suppliedEntry ?_ accepted
      exact original

theorem applyFlaggedEntry_respects {doc : LedgerDocument} {entry : JournalEntry}
    {kind : String} (original : entry.reversalOf = none)
    (permits : documentWrites doc.documentId ∅ ⊆ permitted)
    (suppliedAllowed : .suppliedEntry entry.sourceId ∈ permitted) :
    Respects (Evolves permitted) (applyFlaggedEntry doc entry kind) := by
  have replaces : Respects (Evolves permitted) (replaceFlaggedEntry doc entry kind) :=
    replaceFlaggedEntry_respects original permits suppliedAllowed
  rw [applyFlaggedEntry_eq]
  split
  · exact .bind (ensureClass_respects masterAllowed _) fun _ => replaces
  · exact replaces

end MasterData

end QuickBooks

namespace QuickBooks

open ExceptPrograms TransactionPrograms
open Ledger

variable {permitted : Set WriteKind}

section Preparation

theorem reading_respects {α : Type} (compute : Ledger → Except BooksError α) :
    Respects (Evolves permitted) (reading compute) := by
  apply Respects.get_bind
  intro ledger
  exact Respects.ofExcept _ ledger

@[simp]
theorem execute_reading {α : Type} (compute : Ledger → Except BooksError α)
    (ledger : Ledger) : execute (reading compute) ledger = (compute ledger, ledger) := by
  unfold reading
  rw [execute_bind_ok _ (execute_get ledger), execute_ofExcept]

theorem execute_reading_eq_ok_iff {α : Type} {compute : Ledger → Except BooksError α}
    {ledger after : Ledger} {value : α} :
    execute (reading compute) ledger = (.ok value, after) ↔
      compute ledger = .ok value ∧ ledger = after := by
  rw [execute_reading, Prod.mk.injEq]

theorem execute_reading_eq_error_iff {α : Type} {compute : Ledger → Except BooksError α}
    {ledger after : Ledger} {failure : BooksError} :
    execute (reading compute) ledger = (.error failure, after) ↔
      compute ledger = .error failure ∧ ledger = after := by
  rw [execute_reading, Prod.mk.injEq]

/-- What preparation does not touch. -/
structure SameDocument (doc prepared : LedgerDocument) : Prop where
  documentId : prepared.documentId = doc.documentId
  kind : prepared.kind = doc.kind
  txnDate : prepared.txnDate = doc.txnDate
  applications : prepared.applications = doc.applications
  isVoided : prepared.isVoided = doc.isVoided

theorem prepareDocument_sameDocument {doc prepared : LedgerDocument}
    {config : PostingConfig} {ctx : PostingContext} {ledger after : Ledger}
    (prepares : execute (prepareDocument doc config) ledger = (.ok (prepared, ctx), after)) :
    SameDocument doc prepared := by
  unfold prepareDocument at prepares
  rw [execute_bind_eq_ok_iff] at prepares
  obtain ⟨contact, _, _, prepares⟩ := prepares
  rw [execute_bind_eq_ok_iff] at prepares
  obtain ⟨items, _, _, prepares⟩ := prepares
  rw [execute_bind_eq_ok_iff] at prepares
  obtain ⟨number, _, _, prepares⟩ := prepares
  rw [execute_bind_eq_ok_iff] at prepares
  obtain ⟨dueDate, _, _, prepares⟩ := prepares
  dsimp only at prepares
  rw [execute_bind_eq_ok_iff] at prepares
  obtain ⟨tax, _, _, prepares⟩ := prepares
  rw [execute_pure, Prod.mk.injEq, Except.ok.injEq, Prod.mk.injEq] at prepares
  obtain ⟨⟨rfl, -⟩, -⟩ := prepares
  exact ⟨rfl, rfl, rfl, rfl, rfl⟩

variable (masterAllowed : .masterData ∈ permitted)
include masterAllowed

theorem withNextNumber_respects (kind : DocKind) (next : Int) :
    Respects (Evolves permitted)
      (modify fun ledger => ledger.withNextNumber kind next : BooksProgram Unit) :=
  .modify fun _ => .of_write masterAllowed fun _ => .masterData
    { accountIds := fun distinct => distinct
      accountNumbers := fun numbers => numbers
      accountsKept := fun row rowMem => ⟨row, rowMem, rfl⟩
      classesKept := fun row rowMem => ⟨row, rowMem, rfl⟩
      sidesKept := fun sides => sides
      sameBooks := rfl }

theorem nextNumber_respects (kind : DocKind) :
    Respects (Evolves permitted) (nextNumber kind) := by
  apply Respects.get_bind
  intro ledger
  dsimp only
  split
  · exact .rfl
  · exact Respects.bind (withNextNumber_respects masterAllowed _ _)
      (fun _ => .pure _) ledger

theorem ensureNextNumber_respects (kind : DocKind) (atLeast : Int) :
    Respects (Evolves permitted) (ensureNextNumber kind atLeast) := by
  apply Respects.get_bind
  intro ledger
  dsimp only
  split
  · exact .rfl
  · exact Respects.bind (withNextNumber_respects masterAllowed _ _)
      (fun _ => .pure _) ledger

theorem prepareDocument_respects (doc : LedgerDocument) (config : PostingConfig) :
    Respects (Evolves permitted) (prepareDocument doc config) := by
  have numbers : Respects (Evolves permitted) (preparedNumber doc) := by
    unfold preparedNumber
    split
    · exact .pure _
    · cases doc.number with
      | none => exact .bind (nextNumber_respects masterAllowed _) fun _ => .pure _
      | some number =>
        apply Respects.get_bind
        intro ledger
        split
        · exact .rfl
        · split <;> exact .rfl
  apply Respects.bind (reading_respects _)
  intro contact
  apply Respects.bind (reading_respects _)
  intro items
  apply Respects.bind numbers
  intro number
  apply Respects.bind (reading_respects _)
  intro dueDate
  exact .bind (reading_respects _) fun _ => .pure _

end Preparation

section Revisions

variable {doc : LedgerDocument}

def Reposting.contexts : Reposting → Set PostingContext
  | .post ctx => {ctx}
  | .void _ | .keep => ∅

theorem reverses_revisionReversal (reposting : Reposting) (posted : PostedEntry) :
    (revisionReversal reposting posted).Reverses posted := by
  cases reposting <;> exact ⟨rfl, rfl, rfl, rfl⟩

theorem postReversals_evolves {documentId : String} {reposting : Reposting}
    (allowed : .liveReversal documentId ∈ permitted) {entries : List PostedEntry}
    {ledger : Ledger} (distinct : entries.Nodup)
    (live : ledger.WellFormed →
      ∀ posted ∈ entries, posted ∈ ledger.liveEntriesForDocument documentId) :
    Evolves permitted ledger (execute (postReversals reposting entries) ledger).2 := by
  induction entries generalizing ledger with
  | nil => exact .rfl
  | cons posted rest ih =>
    intro wellFormed
    suffices history : Evolves permitted ledger _ from history wellFormed
    obtain ⟨stepHistory, restLive⟩ := reversal_step wellFormed distinct
      (live wellFormed) (reverses_revisionReversal reposting posted) allowed
    apply Respects.bind_from stepHistory
    intro reversalId middle posts
    rw [posts] at restLive
    rw [execute_bind_state _ fun _ _ => rfl]
    exact ih (List.nodup_cons.mp distinct).2 fun _ => restLive

theorem versions_of_reversals {documentId : String} {before after : Ledger}
    (evolves : Evolves {.liveReversal documentId} before after)
    (wellFormed : before.WellFormed) :
    after.documentVersions = before.documentVersions := by
  apply evolves.keeps wellFormed fun ledger =>
    ledger.documentVersions = before.documentVersions
  · rintro kind kindEq earlier later _ write same
    rw [Set.mem_singleton_iff] at kindEq
    cases write <;> simp at kindEq
    exact same
  · rfl

theorem previousVersion_congr {first second : Ledger}
    (same : first.documentVersions = second.documentVersions) (documentId : String) :
    first.previousVersion documentId = second.previousVersion documentId := by
  unfold previousVersion versionsOf
  rw [same]

theorem repostingPlan_derives {nextVersion : Nat} {live : List PostedEntry}
    {reposting : Reposting} {entry : JournalEntry} {reverse : Bool}
    (plans : repostingPlan doc nextVersion live reposting = .ok (some entry, reverse)) :
    ∃ ctx ∈ reposting.contexts, post doc nextVersion ctx = .ok (.entry entry) ∧
      reverse = true := by
  cases reposting with
  | keep => simp [repostingPlan, pure_eq_ok_iff] at plans
  | void reason => simp [repostingPlan, pure_eq_ok_iff] at plans
  | post ctx =>
    refine ⟨ctx, rfl, ?_⟩
    unfold repostingPlan at plans
    rw [bind_eq_ok_iff] at plans
    obtain ⟨posting, posts, plans⟩ := plans
    cases posting with
    | nonPosting => simp [pure_eq_ok_iff] at plans
    | entry derived =>
      dsimp only at plans
      split at plans
      · split_ifs at plans
        · simp [pure_eq_ok_iff] at plans
        · simp only [pure_eq_ok_iff, Prod.mk.injEq, Option.some.injEq] at plans
          exact ⟨plans.1 ▸ posts, plans.2.symm⟩
      · simp only [pure_eq_ok_iff, Prod.mk.injEq, Option.some.injEq] at plans
        exact ⟨plans.1 ▸ posts, plans.2.symm⟩

theorem writeRevision_evolves {ledger : Ledger} {newEntry : Option JournalEntry}
    {reversed : List PostedEntry} {reposting : Reposting} {command : CommandMeta}
    {contexts : Set PostingContext}
    (permits : documentWrites doc.documentId contexts ⊆ permitted)
    (derives : ∀ entry, newEntry = some entry → ∃ ctx ∈ contexts,
      post doc (ledger.documentVersionCount doc.documentId + 1) ctx = .ok (.entry entry))
    (distinct : reversed.Nodup)
    (live : ∀ posted ∈ reversed,
      posted ∈ ledger.liveEntriesForDocument doc.documentId) :
    Evolves permitted ledger
      (execute (writeRevision doc newEntry reversed reposting command) ledger).2 := by
  intro wellFormed
  suffices history : Evolves permitted ledger _ from history wellFormed
  apply Respects.bind_from
  · exact postReversals_evolves (liveReversal_permitted permits) distinct fun _ => live
  · intro reversals middle reverses
    have onlyReversals : Evolves {.liveReversal doc.documentId} ledger
        (execute (postReversals reposting reversed) ledger).2 :=
      postReversals_evolves (Set.mem_singleton _) distinct fun _ => live
    rw [reverses] at onlyReversals
    have sameVersions := versions_of_reversals onlyReversals wellFormed
    have nextVersion : middle.previousVersion doc.documentId =
        ledger.documentVersionCount doc.documentId := by
      rw [previousVersion_congr sameVersions, wellFormed.previousVersion_eq_count]
    rw [execute_bind_ok _ (execute_saveDocument middle doc command)]
    cases newEntry with
    | none => exact recordVersion_evolves (version_permitted permits)
    | some entry =>
      obtain ⟨ctx, ctxMem, posts⟩ := derives entry rfl
      rw [← nextVersion] at posts
      have sameVersion : { entry with
          sourceVersion := middle.previousVersion doc.documentId + 1 } = entry := by
        rw [← (post_entry_source posts).2.1]
      dsimp only
      rw [execute_bind_state _ fun _ _ => rfl, sameVersion]
      exact savedEntry_evolves permits ctxMem posts

theorem commitRevision_respects {old : LedgerDocument} {reposting : Reposting}
    {command : CommandMeta}
    (permits : documentWrites doc.documentId reposting.contexts ⊆ permitted) :
    Respects (Evolves permitted) (commitRevision old doc reposting command) := by
  apply Respects.bind (reading_respects _)
  intro _
  apply Respects.bind (reading_respects _)
  intro _
  apply Respects.get_bind
  intro ledger wellFormed
  suffices history : Evolves permitted ledger _ from history wellFormed
  dsimp only
  apply Respects.bind_from (reading_respects _ ledger)
  rintro ⟨newEntry, reverse⟩ middle plans
  rw [execute_reading_eq_ok_iff] at plans
  obtain ⟨plans, rfl⟩ := plans
  have planned : repostingPlan doc (ledger.documentVersionCount doc.documentId + 1)
      (ledger.liveEntriesForDocument doc.documentId) reposting =
        .ok (newEntry, reverse) := mapError_eq_ok_iff.mp plans
  have writes : Evolves permitted ledger (execute (writeRevision doc newEntry
      (if reverse then ledger.liveEntriesForDocument doc.documentId else [])
      reposting command) ledger).2 := by
    apply writeRevision_evolves permits
    · rintro entry rfl
      obtain ⟨ctx, ctxMem, posts, -⟩ := repostingPlan_derives planned
      exact ⟨ctx, ctxMem, posts⟩
    · split_ifs
      · exact wellFormed.live_nodup _
      · exact List.nodup_nil
    · split_ifs
      · exact fun _ postedLive => postedLive
      · simp
  exact Respects.atomically_from writes

theorem checkEdit_sameDocument {old edited : LedgerDocument}
    (checks : checkEdit old doc = .ok edited) :
    SameDocument doc edited ∧ old.isVoided = false ∧ doc.isVoided = false := by
  unfold checkEdit at checks
  rw [check_bind_eq_ok_iff, ensure_eq_ok_iff] at checks
  obtain ⟨oldKept, checks⟩ := checks
  rw [check_bind_eq_ok_iff, ensure_eq_ok_iff] at checks
  obtain ⟨docKept, checks⟩ := checks
  rw [check_bind_eq_ok_iff] at checks
  obtain ⟨_, checks⟩ := checks
  rw [check_bind_eq_ok_iff] at checks
  obtain ⟨_, checks⟩ := checks
  rw [bind_eq_ok_iff] at checks
  obtain ⟨number, _, checks⟩ := checks
  rw [pure_eq_ok_iff] at checks
  subst checks
  exact ⟨⟨rfl, rfl, rfl, rfl, rfl⟩, by simpa using oldKept, by simpa using docKept⟩

end Revisions

section Corrections

def preparedContexts (config : PostingConfig) (ledger : Ledger) : Set PostingContext :=
  {ctx | ∃ doc prepared after,
    execute (prepareDocument doc config) ledger = (.ok (prepared, ctx), after)}

theorem latestDocument_eq_ok {ledger : Ledger} {documentId : String}
    {doc : LedgerDocument} (finds : latestDocument ledger documentId = .ok doc) :
    ledger.latestDocumentPayload documentId = some doc := by
  unfold latestDocument at finds
  rwa [orRefuse_eq_ok_iff] at finds

variable (masterAllowed : .masterData ∈ permitted)
include masterAllowed

theorem updateDocument_evolves {ledger : Ledger} {doc : LedgerDocument}
    {config : PostingConfig} {command : CommandMeta}
    (permits : documentWrites doc.documentId (preparedContexts config ledger) ⊆ permitted) :
    Evolves permitted ledger (execute (updateDocument doc config command) ledger).2 := by
  apply Respects.bind_from (reading_respects _ ledger)
  intro old _ finds
  obtain ⟨-, rfl⟩ := execute_reading_eq_ok_iff.mp finds
  apply Respects.bind_from (reading_respects _ ledger)
  intro edited _ checks
  obtain ⟨checked, rfl⟩ := execute_reading_eq_ok_iff.mp checks
  apply Respects.bind_from (prepareDocument_respects masterAllowed _ _ ledger)
  rintro ⟨prepared, ctx⟩ middle prepares
  have sameId : prepared.documentId = doc.documentId :=
    (prepareDocument_sameDocument prepares).documentId.trans
      (checkEdit_sameDocument checked).1.documentId
  have commits : Respects (Evolves permitted)
      (commitRevision old prepared (.post ctx) command) := by
    apply commitRevision_respects
    rw [sameId]
    rintro kind (isVersion | isReversal | ⟨used, usedMem, isEntry⟩)
    · exact permits (.inl isVersion)
    · exact permits (.inr (.inl isReversal))
    · rw [show used = ctx from usedMem] at isEntry
      exact permits (.inr (.inr ⟨ctx, ⟨edited, prepared, middle, prepares⟩, isEntry⟩))
  exact Respects.bind (reading_respects _)
    (fun _ => .bind (reading_respects _) fun _ => commits) middle

theorem prepareAndPost_evolves {ledger : Ledger} {doc : LedgerDocument}
    {actor commandKind : String}
    (permits : documentWrites doc.documentId (preparedContexts {} ledger) ⊆ permitted) :
    Evolves permitted ledger (execute (do
      let (doc, ctx) ← refusingWith ToolError.books (prepareDocument doc {})
      saveAndPostPrepared doc ctx actor commandKind : ToolProgram (Nat × Option Nat))
        ledger).2 := by
  have preparation : Respects (Evolves permitted)
      (refusingWith ToolError.books (prepareDocument doc {})) :=
    .refusingWith (prepareDocument_respects masterAllowed doc {})
  apply Respects.bind_from (preparation ledger)
  rintro ⟨prepared, ctx⟩ middle prepares
  have prepared_ok : execute (prepareDocument doc {}) ledger = (.ok (prepared, ctx), middle) := by
    rw [execute_refusingWith, Prod.mk.injEq, mapError_eq_ok_iff] at prepares
    exact Prod.ext prepares.1 prepares.2
  have sameId := (prepareDocument_sameDocument prepared_ok).documentId
  apply Respects.refusingWith
  apply Respects.refusingWith
  apply postThenSave_respects
  rw [sameId]
  rintro kind (isVersion | isReversal | ⟨used, usedMem, isEntry⟩)
  · exact permits (.inl isVersion)
  · exact permits (.inr (.inl isReversal))
  · rw [show used = ctx from usedMem] at isEntry
    exact permits (.inr (.inr ⟨ctx, ⟨doc, prepared, middle, prepared_ok⟩, isEntry⟩))

theorem createDocument_evolves {ledger : Ledger} {doc : LedgerDocument} {actor : String}
    (permits : documentWrites doc.documentId (preparedContexts {} ledger) ⊆ permitted) :
    Evolves permitted ledger (execute (createDocument doc actor) ledger).2 := by
  have refuses : Respects (Evolves permitted) (refuseIfCarriedByOpening doc.documentId) := by
    apply Respects.get_bind
    intro before
    exact Respects.ofExcept _ before
  apply Respects.bind_from (refuses ledger)
  intro _ middle passes
  have unchanged : middle = ledger := by
    unfold refuseIfCarriedByOpening at passes
    rw [execute_bind_ok _ (execute_get ledger), execute_ofExcept, Prod.mk.injEq] at passes
    exact passes.2.symm
  subst unchanged
  exact prepareAndPost_evolves masterAllowed permits

omit masterAllowed in
theorem voidDocument_evolves {ledger : Ledger} {documentId reason : String}
    {command : CommandMeta} (permits : documentWrites documentId ∅ ⊆ permitted) :
    Evolves permitted ledger (execute (voidDocument documentId reason command) ledger).2 := by
  intro wellFormed
  suffices history : Evolves permitted ledger _ from history wellFormed
  apply Respects.bind_from (reading_respects _ ledger)
  intro old _ finds
  obtain ⟨found, rfl⟩ := execute_reading_eq_ok_iff.mp finds
  have sameId : old.documentId = documentId :=
    latestDocumentPayload_documentId wellFormed (latestDocument_eq_ok found)
  apply Respects.bind (reading_respects _)
  intro _
  apply Respects.bind (reading_respects _)
  intro _
  apply commitRevision_respects
  change documentWrites old.documentId ∅ ⊆ permitted
  rw [sameId]
  exact permits

end Corrections

end QuickBooks
