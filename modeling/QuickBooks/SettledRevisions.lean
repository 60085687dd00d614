import QuickBooks.BalanceSheetEquation
import QuickBooks.DocumentNets

/-!
# Edits and voids settle the journal

A revision is all or nothing.  Where it succeeds the document's entries add up
to what its new version posts, nothing for a voided one; where it is refused
neither the journal nor the saved versions have changed.  This holds after any
history of the document in which only live entries were reversed, edits and
voids among them.
-/

namespace QuickBooks

open ExceptPrograms KeyedTotals TransactionPrograms TransitionRuns
open Ledger

section Writing

variable {ledger after : Ledger} {doc : LedgerDocument} {reposting : Reposting}
  {command : CommandMeta}

theorem documentNet_postReversals (selects : PostingKey → Prop) [DecidablePred selects]
    {documentId : String} {entries : List PostedEntry} {reversals : List Nat}
    (wellFormed : ledger.WellFormed)
    (sources : ∀ posted ∈ entries, posted.entry.sourceId = documentId)
    (reverses : execute (postReversals reposting entries) ledger = (.ok reversals, after)) :
    documentNet selects after documentId =
      documentNet selects ledger documentId - netOf selects entries := by
  induction entries generalizing ledger reversals with
  | nil =>
    rw [postReversals, execute_pure, Prod.mk.injEq] at reverses
    rw [netOf_nil, sub_zero, reverses.2]
  | cons posted entries ih =>
    rw [postReversals, execute_bind_eq_ok_iff] at reverses
    obtain ⟨reversalId, middle, first, rest⟩ := reverses
    rw [execute_bind_eq_ok_iff] at rest
    obtain ⟨reversalIds, last, others, result⟩ := rest
    rw [execute_pure, Prod.mk.injEq] at result
    obtain ⟨-, rfl⟩ := result
    have firstNet := documentNet_of_reversal selects wellFormed
      (reverses_revisionReversal reposting posted)
      (sources posted List.mem_cons_self) first
    obtain ⟨accepted, -, rfl⟩ := execute_postEntry_eq_ok_iff.mp first
    have restNet := ih (wellFormed.recordEntry accepted)
      (fun other otherMem => sources other (List.mem_cons_of_mem _ otherMem)) others
    rw [restNet, firstNet, netOf_cons]
    omega

theorem execute_writeRevision_ok {newEntry : Option JournalEntry}
    {reversed : List PostedEntry} {revision : Revision}
    (wellFormed : ledger.WellFormed)
    (distinct : reversed.Nodup)
    (live : ∀ posted ∈ reversed, posted ∈ ledger.liveEntriesForDocument doc.documentId)
    (source : ∀ entry, newEntry = some entry → entry.sourceId = doc.documentId)
    (writes : execute (writeRevision doc newEntry reversed reposting command) ledger =
      (.ok revision, after)) :
    after.latestDocumentPayload doc.documentId = some doc ∧
      after.previousVersion doc.documentId =
        ledger.documentVersionCount doc.documentId + 1 ∧
      ∀ (selects : PostingKey → Prop) [DecidablePred selects],
        documentNet selects after doc.documentId =
          documentNet selects ledger doc.documentId - netOf selects reversed +
            (newEntry.map fun entry => lineTotal selects entry.lines).getD 0 := by
  unfold writeRevision at writes
  rw [execute_bind_eq_ok_iff] at writes
  obtain ⟨reversals, middle, reverses, writes⟩ := writes
  have onlyReversals : Evolves {.liveReversal doc.documentId} ledger
      (execute (postReversals reposting reversed) ledger).2 :=
    postReversals_evolves (Set.mem_singleton _) distinct fun _ => live
  rw [reverses] at onlyReversals
  have middleWellFormed := onlyReversals.wellFormed wellFormed
  have newest : middle.previousVersion doc.documentId =
      ledger.documentVersionCount doc.documentId := by
    rw [previousVersion_congr (versions_of_reversals onlyReversals wellFormed),
      wellFormed.previousVersion_eq_count]
  have reversedNet : ∀ (selects : PostingKey → Prop) [DecidablePred selects],
      documentNet selects middle doc.documentId =
        documentNet selects ledger doc.documentId - netOf selects reversed :=
    fun selects _ => documentNet_postReversals selects wellFormed
      (fun posted postedMem => (mem_liveEntriesForDocument.mp (live posted postedMem)).1.2)
      reverses
  have savedWellFormed := middleWellFormed.recordVersion doc command
  have latest := latestDocumentPayload_recordVersion middle doc command
  have version := previousVersion_recordVersion middle doc command
  rw [newest] at version
  rw [execute_bind_ok _ (execute_saveDocument middle doc command)] at writes
  cases newEntry with
  | none =>
    rw [execute_pure, Prod.mk.injEq] at writes
    rw [← writes.2]
    refine ⟨latest, version, ?_⟩
    intro selects _
    rw [documentNet_recordVersion, reversedNet]
    simp
  | some entry =>
    dsimp only at writes
    rw [execute_bind_eq_ok_iff] at writes
    obtain ⟨entryId, last, posts, result⟩ := writes
    rw [execute_pure, Prod.mk.injEq] at result
    obtain ⟨-, rfl⟩ := result
    have postedNet : ∀ (selects : PostingKey → Prop) [DecidablePred selects],
        documentNet selects last doc.documentId =
          documentNet selects middle doc.documentId + lineTotal selects entry.lines := by
      intro selects _
      have added := documentNet_postEntry selects savedWellFormed
        (by exact source entry rfl) posts
      exact added
    obtain ⟨-, -, rfl⟩ := execute_postEntry_eq_ok_iff.mp posts
    refine ⟨latest, version, ?_⟩
    intro selects _
    rw [postedNet, reversedNet]
    rfl

end Writing

section Committing

variable {ledger after : Ledger} {old doc : LedgerDocument} {reposting : Reposting}
  {command : CommandMeta}

/-- A document is saved as its newest version, and its entries add up to a
posting. -/
structure SettledAs (after : Ledger) (doc : LedgerDocument) (posting : Posting) : Prop where
  latest : after.latestDocumentPayload doc.documentId = some doc
  net : ∀ (selects : PostingKey → Prop) [DecidablePred selects],
    documentNet selects after doc.documentId = posting.net selects

theorem execute_commitRevision_error {failure : BooksError}
    (refuses : execute (commitRevision old doc reposting command) ledger =
      (.error failure, after)) : after = ledger := by
  unfold commitRevision at refuses
  rw [execute_bind_eq_error_iff] at refuses
  rcases refuses with locked | ⟨_, middle, opensOld, refuses⟩
  · exact (execute_reading_eq_error_iff.mp locked).2.symm
  obtain ⟨-, rfl⟩ := execute_reading_eq_ok_iff.mp opensOld
  rw [execute_bind_eq_error_iff] at refuses
  rcases refuses with locked | ⟨_, middle, opensNew, refuses⟩
  · exact (execute_reading_eq_error_iff.mp locked).2.symm
  obtain ⟨-, rfl⟩ := execute_reading_eq_ok_iff.mp opensNew
  rw [execute_bind_ok _ (execute_get ledger)] at refuses
  dsimp only at refuses
  rw [execute_bind_eq_error_iff] at refuses
  rcases refuses with unposted | ⟨plan, middle, plans, refuses⟩
  · exact (execute_reading_eq_error_iff.mp unposted).2.symm
  obtain ⟨-, rfl⟩ := execute_reading_eq_ok_iff.mp plans
  exact execute_atomically_error _ refuses

theorem execute_commitRevision_ok {revision : Revision}
    (commits : execute (commitRevision old doc reposting command) ledger =
      (.ok revision, after)) :
    ∃ newEntry reverse,
      repostingPlan doc (ledger.documentVersionCount doc.documentId + 1)
        (ledger.liveEntriesForDocument doc.documentId) reposting = .ok (newEntry, reverse) ∧
      execute (writeRevision doc newEntry
        (if reverse then ledger.liveEntriesForDocument doc.documentId else [])
        reposting command) ledger = (.ok revision, after) := by
  unfold commitRevision at commits
  rw [execute_bind_eq_ok_iff] at commits
  obtain ⟨_, middle, opensOld, commits⟩ := commits
  obtain ⟨-, rfl⟩ := execute_reading_eq_ok_iff.mp opensOld
  rw [execute_bind_eq_ok_iff] at commits
  obtain ⟨_, middle, opensNew, commits⟩ := commits
  obtain ⟨-, rfl⟩ := execute_reading_eq_ok_iff.mp opensNew
  rw [execute_bind_ok _ (execute_get ledger)] at commits
  dsimp only at commits
  rw [execute_bind_eq_ok_iff] at commits
  obtain ⟨⟨newEntry, reverse⟩, middle, plans, commits⟩ := commits
  obtain ⟨planned, rfl⟩ := execute_reading_eq_ok_iff.mp plans
  rw [execute_atomically_ok] at commits
  refine ⟨newEntry, reverse, mapError_eq_ok_iff.mp planned, ?_⟩
  unfold viaLedger at commits
  rw [execute_refusingWith, Prod.mk.injEq, mapError_eq_ok_iff] at commits
  exact Prod.ext commits.1 commits.2

theorem settledAs_of_writes {newEntry : Option JournalEntry} {reverse : Bool}
    {revision : Revision} (wellFormed : ledger.WellFormed)
    (carries : ledger.LiveCarries doc.documentId)
    (source : ∀ entry, newEntry = some entry → entry.sourceId = doc.documentId)
    (writes : execute (writeRevision doc newEntry
      (if reverse then ledger.liveEntriesForDocument doc.documentId else [])
      reposting command) ledger = (.ok revision, after))
    (posting : Posting)
    (leaves : ∀ (selects : PostingKey → Prop) [DecidablePred selects],
      posting.net selects =
        (if reverse then 0 else liveNet selects ledger doc.documentId) +
          (newEntry.map fun entry => lineTotal selects entry.lines).getD 0) :
    after.previousVersion doc.documentId =
        ledger.documentVersionCount doc.documentId + 1 ∧
      SettledAs after doc posting := by
  have distinct : (if reverse then ledger.liveEntriesForDocument doc.documentId
      else []).Nodup := by
    split_ifs
    · exact wellFormed.live_nodup _
    · exact List.nodup_nil
  have live : ∀ posted ∈ (if reverse then ledger.liveEntriesForDocument doc.documentId
      else []), posted ∈ ledger.liveEntriesForDocument doc.documentId := by
    split_ifs
    · exact fun _ postedLive => postedLive
    · simp
  obtain ⟨latest, version, net⟩ :=
    execute_writeRevision_ok wellFormed distinct live source writes
  refine ⟨version, latest, ?_⟩
  intro selects _
  rw [net, carries, leaves]
  unfold liveNet
  split_ifs
  · omega
  · rw [netOf_nil]
    omega

theorem settledAs_of_edit {ctx : PostingContext} {revision : Revision}
    (wellFormed : ledger.WellFormed) (carries : ledger.LiveCarries doc.documentId)
    (commits : execute (commitRevision old doc (.post ctx) command) ledger =
      (.ok revision, after)) :
    ∃ posting, post doc (after.previousVersion doc.documentId) ctx = .ok posting ∧
      SettledAs after doc posting := by
  obtain ⟨newEntry, reverse, plans, writes⟩ := execute_commitRevision_ok commits
  unfold repostingPlan at plans
  rw [bind_eq_ok_iff] at plans
  obtain ⟨posting, posts, plans⟩ := plans
  refine ⟨posting, ?_⟩
  cases posting with
  | nonPosting =>
    rw [pure_eq_ok_iff, Prod.mk.injEq] at plans
    obtain ⟨rfl, rfl⟩ := plans
    obtain ⟨version, settled⟩ := settledAs_of_writes wellFormed carries
      (by simp) writes .nonPosting (fun _ _ => rfl)
    exact ⟨version ▸ posts, settled⟩
  | entry derived =>
    have source := (post_entry_source posts).1
    have reposted : (newEntry, reverse) = (some derived, true) →
        post doc (after.previousVersion doc.documentId) ctx = .ok (.entry derived) ∧
          SettledAs after doc (.entry derived) := by
      intro planned
      obtain ⟨rfl, rfl⟩ := Prod.mk.inj planned
      obtain ⟨version, settled⟩ := settledAs_of_writes wellFormed carries
        (by simpa using source) writes (.entry derived) (fun selects _ => by
          rw [if_pos rfl, zero_add]
          rfl)
      exact ⟨version ▸ posts, settled⟩
    dsimp only at plans
    split at plans
    · rename_i kept liveEq
      split_ifs at plans with same
      · -- the one live entry already is the posting
        rw [pure_eq_ok_iff, Prod.mk.injEq] at plans
        obtain ⟨rfl, rfl⟩ := plans
        obtain ⟨version, settled⟩ := settledAs_of_writes wellFormed carries
          (by simp) writes (.entry derived) (fun selects _ => by
            have keeps := lineTotal_of_samePosting selects same
            unfold liveNet
            rw [liveEq, netOf_cons, netOf_nil]
            simpa [Posting.net] using keeps.symm)
        exact ⟨version ▸ posts, settled⟩
      · exact reposted ((pure_eq_ok_iff.mp plans).symm)
    · exact reposted ((pure_eq_ok_iff.mp plans).symm)

theorem settledAs_of_void {reason : String} {revision : Revision}
    (wellFormed : ledger.WellFormed) (carries : ledger.LiveCarries doc.documentId)
    (commits : execute (commitRevision old doc (.void reason) command) ledger =
      (.ok revision, after)) :
    SettledAs after doc .nonPosting := by
  obtain ⟨newEntry, reverse, plans, writes⟩ := execute_commitRevision_ok commits
  rw [repostingPlan, pure_eq_ok_iff, Prod.mk.injEq] at plans
  obtain ⟨rfl, rfl⟩ := plans
  exact (settledAs_of_writes wellFormed carries (by simp) writes .nonPosting fun _ _ => rfl).2

end Committing

section Calls

/-- The journal, the versions and the operation log of one ledger are those of
another. -/
structure SameRecords (before after : Ledger) : Prop where
  journal : after.journal = before.journal
  documentVersions : after.documentVersions = before.documentVersions
  oplog : after.oplog = before.oplog

theorem sameRecords_of_masterData {before after : Ledger}
    (evolves : Evolves {.masterData} before after) (wellFormed : before.WellFormed) :
    SameRecords before after := by
  apply evolves.keeps wellFormed fun ledger => SameRecords before ledger
  · intro kind kindEq earlier later _ write same
    rw [Set.mem_singleton_iff] at kindEq
    cases write with
    | masterData change =>
      rw [change.sameBooks]
      exact ⟨same.journal, same.documentVersions, same.oplog⟩
    | _ => simp at kindEq
  · exact ⟨rfl, rfl, rfl⟩

/-- A call that revises a saved document. -/
inductive RevisionCall where
  | update (doc : LedgerDocument) (config : PostingConfig) (command : CommandMeta)
  | void (documentId reason : String) (command : CommandMeta)

namespace RevisionCall

def documentId : RevisionCall → String
  | update doc _ _ => doc.documentId
  | void documentId _ _ => documentId

def program : RevisionCall → BooksProgram Revision
  | update doc config command => updateDocument doc config command
  | void documentId reason command => voidDocument documentId reason command

def operation : RevisionCall → Operation
  | update doc config command => .updateDocument doc config command
  | void documentId reason command => .voidDocument documentId reason command

/-- After an edit the document's entries add up to what its latest version
posts, prepared as the edit prepared it; after a void to nothing. -/
def Settles (before after : Ledger) : RevisionCall → Prop
  | update doc config _ => ∃ old edited latest ctx middle posting,
      latestDocument before doc.documentId = .ok old ∧ checkEdit old doc = .ok edited ∧
      execute (prepareDocument edited config) before = (.ok (latest, ctx), middle) ∧
      latest.documentId = doc.documentId ∧
      post latest (after.previousVersion doc.documentId) ctx = .ok posting ∧
      SettledAs after latest posting
  | void documentId _ _ => ∃ latest, latest.documentId = documentId ∧
      latest.isVoided = true ∧ SettledAs after latest .nonPosting

/-- What a call may do to the books. -/
structure Keeps (before after : Ledger) : Prop where
  appended : before.journal <+: after.journal
  newEntriesOpen : ∀ posted ∈ after.journal, posted ∉ before.journal →
    before.IsOpen posted.entry.entryDate

variable {ledger after : Ledger}

theorem evolves (call : RevisionCall) (ledger : Ledger) :
    Evolves (call.operation.kinds ledger) ledger (execute call.program ledger).2 := by
  cases call <;> exact Operation.evolves _ ledger

theorem keeps (wellFormed : ledger.WellFormed) (call : RevisionCall) :
    Keeps ledger (execute call.program ledger).2 := by
  have history := call.evolves ledger
  refine ⟨history.journal_prefix wellFormed, (history.entries_open wellFormed ?_ ?_).2⟩
  · cases call <;> simp [operation, Operation.kinds, documentWrites]
  · cases call <;> simp [operation, Operation.kinds, documentWrites]

theorem error_keeps_records (wellFormed : ledger.WellFormed) {call : RevisionCall}
    {failure : BooksError}
    (refuses : execute call.program ledger = (.error failure, after)) :
    SameRecords ledger after := by
  have unwritten : SameRecords ledger ledger := ⟨rfl, rfl, rfl⟩
  cases call with
  | update doc config command =>
    change execute (updateDocument doc config command) ledger = _ at refuses
    unfold updateDocument at refuses
    rw [execute_bind_eq_error_iff] at refuses
    rcases refuses with unknown | ⟨old, middle, finds, refuses⟩
    · exact (execute_reading_eq_error_iff.mp unknown).2 ▸ unwritten
    obtain ⟨-, rfl⟩ := execute_reading_eq_ok_iff.mp finds
    rw [execute_bind_eq_error_iff] at refuses
    rcases refuses with unchecked | ⟨edited, middle, checks, refuses⟩
    · exact (execute_reading_eq_error_iff.mp unchecked).2 ▸ unwritten
    obtain ⟨-, rfl⟩ := execute_reading_eq_ok_iff.mp checks
    have prepares : SameRecords ledger (execute (prepareDocument edited config) ledger).2 :=
      sameRecords_of_masterData
        (prepareDocument_respects (Set.mem_singleton _) edited config ledger) wellFormed
    rw [execute_bind_eq_error_iff] at refuses
    rcases refuses with unprepared | ⟨⟨prepared, ctx⟩, middle, preparation, refuses⟩
    · rw [unprepared] at prepares
      exact prepares
    rw [preparation] at prepares
    rw [execute_bind_eq_error_iff] at refuses
    rcases refuses with overapplied | ⟨_, middle, covers, refuses⟩
    · exact (execute_reading_eq_error_iff.mp overapplied).2 ▸ prepares
    obtain ⟨-, rfl⟩ := execute_reading_eq_ok_iff.mp covers
    rw [execute_bind_eq_error_iff] at refuses
    rcases refuses with overapplied | ⟨_, middle, covers, refuses⟩
    · exact (execute_reading_eq_error_iff.mp overapplied).2 ▸ prepares
    obtain ⟨-, rfl⟩ := execute_reading_eq_ok_iff.mp covers
    rw [execute_commitRevision_error refuses]
    exact prepares
  | void documentId reason command =>
    change execute (voidDocument documentId reason command) ledger = _ at refuses
    unfold voidDocument at refuses
    rw [execute_bind_eq_error_iff] at refuses
    rcases refuses with unknown | ⟨old, middle, finds, refuses⟩
    · exact (execute_reading_eq_error_iff.mp unknown).2 ▸ unwritten
    obtain ⟨-, rfl⟩ := execute_reading_eq_ok_iff.mp finds
    rw [execute_bind_eq_error_iff] at refuses
    rcases refuses with isVoided | ⟨_, middle, stands, refuses⟩
    · exact (execute_reading_eq_error_iff.mp isVoided).2 ▸ unwritten
    obtain ⟨-, rfl⟩ := execute_reading_eq_ok_iff.mp stands
    rw [execute_bind_eq_error_iff] at refuses
    rcases refuses with applied | ⟨_, middle, unapplied, refuses⟩
    · exact (execute_reading_eq_error_iff.mp applied).2 ▸ unwritten
    obtain ⟨-, rfl⟩ := execute_reading_eq_ok_iff.mp unapplied
    rw [execute_commitRevision_error refuses]
    exact unwritten

theorem ok_settles (wellFormed : ledger.WellFormed) {call : RevisionCall}
    (carries : ledger.LiveCarries call.documentId) {revision : Revision}
    (revises : execute call.program ledger = (.ok revision, after)) :
    call.Settles ledger after := by
  cases call with
  | update doc config command =>
    change execute (updateDocument doc config command) ledger = _ at revises
    unfold updateDocument at revises
    rw [execute_bind_eq_ok_iff] at revises
    obtain ⟨old, middle, finds, revises⟩ := revises
    obtain ⟨found, rfl⟩ := execute_reading_eq_ok_iff.mp finds
    rw [execute_bind_eq_ok_iff] at revises
    obtain ⟨edited, middle, checks, revises⟩ := revises
    obtain ⟨checked, rfl⟩ := execute_reading_eq_ok_iff.mp checks
    rw [execute_bind_eq_ok_iff] at revises
    obtain ⟨⟨prepared, ctx⟩, middle, preparation, revises⟩ := revises
    rw [execute_bind_eq_ok_iff] at revises
    obtain ⟨_, _, covers, revises⟩ := revises
    obtain ⟨-, rfl⟩ := execute_reading_eq_ok_iff.mp covers
    rw [execute_bind_eq_ok_iff] at revises
    obtain ⟨_, _, covers, revises⟩ := revises
    obtain ⟨-, rfl⟩ := execute_reading_eq_ok_iff.mp covers
    have sameId : prepared.documentId = doc.documentId :=
      (prepareDocument_sameDocument preparation).documentId.trans
        (checkEdit_sameDocument checked).1.documentId
    have history : Evolves {.masterData} ledger
        (execute (prepareDocument edited config) ledger).2 :=
      prepareDocument_respects (Set.mem_singleton _) edited config ledger
    rw [preparation] at history
    have carriesOn : middle.LiveCarries prepared.documentId := by
      rw [sameId]
      apply history.keeps wellFormed fun state => state.LiveCarries doc.documentId
      · intro kind kindEq earlier later earlierWellFormed write holds
        rw [Set.mem_singleton_iff] at kindEq
        exact write.liveCarries earlierWellFormed (by rw [kindEq]; simp) holds
      · exact carries
    obtain ⟨posting, posts, settled⟩ :=
      settledAs_of_edit (history.wellFormed wellFormed) carriesOn revises
    rw [sameId] at posts
    exact ⟨old, edited, prepared, ctx, middle, posting, found, checked, preparation, sameId,
      posts, settled⟩
  | void documentId reason command =>
    change execute (voidDocument documentId reason command) ledger = _ at revises
    unfold voidDocument at revises
    rw [execute_bind_eq_ok_iff] at revises
    obtain ⟨old, middle, finds, revises⟩ := revises
    obtain ⟨found, rfl⟩ := execute_reading_eq_ok_iff.mp finds
    rw [execute_bind_eq_ok_iff] at revises
    obtain ⟨_, _, stands, revises⟩ := revises
    obtain ⟨-, rfl⟩ := execute_reading_eq_ok_iff.mp stands
    rw [execute_bind_eq_ok_iff] at revises
    obtain ⟨_, _, unapplied, revises⟩ := revises
    obtain ⟨-, rfl⟩ := execute_reading_eq_ok_iff.mp unapplied
    have sameId : old.documentId = documentId :=
      latestDocumentPayload_documentId wellFormed (latestDocument_eq_ok found)
    have carriesOld : ledger.LiveCarries old.documentId := by
      rw [sameId]
      exact carries
    have settled := settledAs_of_void wellFormed (by exact carriesOld) revises
    exact ⟨{ old with isVoided := true, memo := some (voidMemo reason old.memo) },
      sameId, rfl, settled⟩

theorem noStray {documentId : String} (call : RevisionCall) (state : Ledger) :
    .strayReversal documentId ∉ call.operation.kinds state := by
  cases call <;> simp [operation, Operation.kinds, documentWrites]

end RevisionCall

/-- After any history of a document and any sequence of edits and voids of it,
the next one settles the document, appends to the journal in open periods only,
and where it is refused leaves the journal, the versions and the operation log
as they were. -/
theorem revisions_settle {documentId : String} {start : Ledger}
    (reachable : ReachableFor documentId start) (calls : List RevisionCall)
    (call : RevisionCall)
    (sameDocument : ∀ revision ∈ call :: calls, revision.documentId = documentId) :
    match execute call.program (start.after (calls.map RevisionCall.operation)) with
    | (.ok _, after) =>
      call.Settles (start.after (calls.map RevisionCall.operation)) after ∧
        RevisionCall.Keeps (start.after (calls.map RevisionCall.operation)) after
    | (.error _, after) =>
      SameRecords (start.after (calls.map RevisionCall.operation)) after := by
  have reached : ReachableFor documentId (start.after (calls.map RevisionCall.operation)) := by
    apply reachable.run
    apply everyStep_of_forall
    intro operation operationMem state
    obtain ⟨revision, -, rfl⟩ := List.mem_map.mp operationMem
    exact revision.noStray state
  have wellFormed := reached.wellFormed
  have carries := reached.liveCarries
  rw [← sameDocument call List.mem_cons_self] at carries
  have keeps := RevisionCall.keeps wellFormed call
  split
  · rename_i revision after revises
    rw [revises] at keeps
    exact ⟨RevisionCall.ok_settles wellFormed carries revises, keeps⟩
  · rename_i failure after refuses
    exact RevisionCall.error_keeps_records wellFormed refuses

end Calls

def voidedSale : RevisionCall :=
  .void "sale-1" "entered twice" ⟨"bookkeeper", "void_document"⟩

theorem ledgerOf2026_reachableFor : ReachableFor "sale-1" ledgerOf2026 := by
  refine ⟨"aquamentor", [.saveAndPostDocument saleOf2026 [] "bookkeeper"], ?_, rfl⟩
  apply everyStep_of_forall
  intro operation operationMem state
  rw [List.mem_singleton.mp operationMem]
  simp [Operation.kinds, documentWrites]

/-- Voiding the sale leaves nothing of it. -/
theorem revisions_settle_voidedSale :
    ∃ revision after,
      execute voidedSale.program ledgerOf2026 = (.ok revision, after) ∧
      voidedSale.Settles ledgerOf2026 after := by
  have isOk : (execute voidedSale.program ledgerOf2026).1.toOption.isSome = true := by
    decide +kernel
  obtain ⟨revision, after, succeeds⟩ := exists_execute_ok _ isOk
  have settles := revisions_settle ledgerOf2026_reachableFor [] voidedSale
    (by simp [voidedSale, RevisionCall.documentId])
  change match execute voidedSale.program ledgerOf2026 with
    | (.ok _, after) => voidedSale.Settles ledgerOf2026 after ∧
        RevisionCall.Keeps ledgerOf2026 after
    | (.error _, after) => SameRecords ledgerOf2026 after at settles
  rw [succeeds] at settles
  exact ⟨revision, after, succeeds, settles.1⟩

end QuickBooks
