import QuickBooks.CloseHistories
import QuickBooks.ImportedDocuments

/-!
# Importing the same replica again

A run leaves every document of the replica saved as it was read, carried by the
opening entry, or refused because its date is locked.  A second run then leaves
alone what has posted and what never posts.  What should post and has no entry
is saved once more, by this and by every later run.
-/

namespace QuickBooks

open ExceptPrograms TransactionPrograms
open Ledger

namespace Ledger

section Versions

variable {permitted : Set WriteKind} {before after : Ledger}

theorem Write.versions_prefix {kind : WriteKind} (write : Write kind before after) :
    before.documentVersions <+: after.documentVersions := by
  cases write with
  | version => exact List.prefix_append _ _
  | derivedEntry | suppliedEntry | liveReversal | strayReversal | snapshot | close
  | reopen => exact List.prefix_refl _
  | masterData change =>
    exact change.sameBooks ▸ List.prefix_refl _

theorem Evolves.versions_prefix (evolves : Evolves permitted before after)
    (wellFormed : before.WellFormed) :
    before.documentVersions <+: after.documentVersions := by
  apply evolves.keeps wellFormed fun ledger =>
    before.documentVersions <+: ledger.documentVersions
  · intro kind _ earlier later _ write included
    exact included.trans write.versions_prefix
  · exact List.prefix_refl _

end Versions

section Carried

variable {ledger : Ledger} {doc : LedgerDocument} {documentId : String}

theorem carriedByOpening_iff :
    ledger.carriedByOpening documentId = true ↔
      ∃ row ∈ ledger.documentVersions, row.documentId = documentId ∧
        ∃ op ∈ ledger.oplog, op.commandId = row.commandId ∧
          op.command.kind = "import_slim_open_item" := by
  simp [carriedByOpening]

theorem WellFormed.carriedByOpening_recordVersion (wellFormed : ledger.WellFormed) :
    (ledger.recordVersion doc importCommand).carriedByOpening documentId =
      ledger.carriedByOpening documentId := by
  have commandId_lt : ∀ op ∈ ledger.oplog, op.commandId < ledger.oplog.length := by
    intro op opMem
    have isId : op.commandId ∈ ledger.oplog.map OplogRow.commandId :=
      List.mem_map_of_mem opMem
    rw [wellFormed.commandIds] at isId
    exact List.mem_range.mp isId
  rw [Bool.eq_iff_iff, carriedByOpening_iff, carriedByOpening_iff]
  constructor
  · rintro ⟨row, rowMem, sameId, op, opMem, sameCommand, isSlim⟩
    have oldOp : op ∈ ledger.oplog := by
      rcases List.mem_append.mp opMem with old | new
      · exact old
      · rw [List.mem_singleton.mp new] at isSlim
        exact absurd isSlim (by simp [importCommand])
    rcases List.mem_append.mp rowMem with old | new
    · exact ⟨row, old, sameId, op, oldOp, sameCommand, isSlim⟩
    · have bound := commandId_lt op oldOp
      rw [List.mem_singleton.mp new] at sameCommand
      dsimp only at sameCommand
      omega
  · rintro ⟨row, rowMem, sameId, op, opMem, sameCommand, isSlim⟩
    exact ⟨row, List.mem_append_left _ rowMem, sameId, op, List.mem_append_left _ opMem,
      sameCommand, isSlim⟩

theorem carriedByOpening_recordPosting (posting : Posting) :
    (ledger.recordPosting posting).carriedByOpening documentId =
      ledger.carriedByOpening documentId := by
  cases posting <;> rfl

theorem OnlyEntries.carriedByOpening {before after : Ledger} (only : OnlyEntries before after) :
    after.carriedByOpening documentId = before.carriedByOpening documentId := by
  rw [only]
  rfl

end Carried

/-- Nothing that the pipeline asks about a document has changed. -/
structure Unaffected (documentId : String) (before after : Ledger) : Prop where
  same : SameDocument documentId before after
  carried : after.carriedByOpening documentId = before.carriedByOpening documentId
  periods : after.periods = before.periods

theorem Unaffected.refl (documentId : String) (ledger : Ledger) :
    Unaffected documentId ledger ledger :=
  ⟨⟨rfl, rfl⟩, rfl, rfl⟩

theorem Unaffected.trans {documentId : String} {first second third : Ledger}
    (earlier : Unaffected documentId first second)
    (later : Unaffected documentId second third) : Unaffected documentId first third :=
  ⟨⟨later.same.entries.trans earlier.same.entries,
      later.same.versions.trans earlier.same.versions⟩,
    later.carried.trans earlier.carried, later.periods.trans earlier.periods⟩

theorem Unaffected.isOpen_iff {documentId : String} {before after : Ledger}
    (unaffected : Unaffected documentId before after) (day : Date) :
    after.IsOpen day ↔ before.IsOpen day := by
  unfold IsOpen lockedThrough
  rw [unaffected.periods]

/-- How a run leaves a document: carried, saved as it was read, or refused for
its date. -/
def Settled (ledger : Ledger) (doc : LedgerDocument) : Prop :=
  ledger.carriedByOpening doc.documentId = true ∨
    ledger.latestDocumentPayload doc.documentId = some doc ∨
    doc.kind.posts = true ∧ ledger.liveEntriesForDocument doc.documentId ≠ [] ∧
      ¬ledger.IsOpen doc.txnDate

theorem Settled.of_unaffected {before after : Ledger} {doc : LedgerDocument}
    (settled : before.Settled doc) (unaffected : Unaffected doc.documentId before after) :
    after.Settled doc := by
  unfold Settled
  rw [unaffected.carried, unaffected.same.latest, unaffected.same.live,
    unaffected.isOpen_iff]
  exact settled

def Finished (ledger : Ledger) (doc : LedgerDocument) : Prop :=
  ledger.carriedByOpening doc.documentId = true ∨ doc.kind.posts = false ∨
    ledger.entriesForDocument doc.documentId ≠ []

theorem finished_iff_of_unaffected {before after : Ledger} {doc : LedgerDocument}
    (unaffected : Unaffected doc.documentId before after) :
    after.Finished doc ↔ before.Finished doc := by
  unfold Finished
  rw [unaffected.carried, unaffected.same.entries]

end Ledger

section Documents

theorem saved_of_saveAndRepost (ledger : Ledger) (doc : LedgerDocument)
    (ctx : PostingContext) (isReplace : Bool) :
    ∃ posting, (execute (saveAndRepost doc ctx isReplace) ledger).2 =
      (ledger.recordVersion doc importCommand).recordPosting posting := by
  by_cases reposted : ∃ posting, ledger.Reposts doc ctx posting
  · obtain ⟨posting, reposts⟩ := reposted
    exact ⟨posting, by rw [execute_saveAndRepost_of_reposts isReplace reposts]⟩
  · exact ⟨.nonPosting, (execute_saveAndRepost_of_refused isReplace reposted).1⟩

variable {ledger : Ledger} {doc : LedgerDocument} (ctx : PostingContext)

theorem latest_recordPosting (posting : Posting) :
    ((ledger.recordVersion doc importCommand).recordPosting posting).latestDocumentPayload
      doc.documentId = some doc := by
  cases posting <;> exact latestDocumentPayload_recordVersion ledger doc importCommand

theorem settled_processDocument (wellFormed : ledger.WellFormed) :
    (execute (processDocument doc ctx) ledger).2.Settled doc := by
  have handles := processing wellFormed doc ctx
  generalize execute (processDocument doc ctx) ledger = outcome at handles
  cases handles with
  | carried carries => exact .inl carries
  | unchanged same posted => exact .inr (.inl (of_decide_eq_true same))
  | contract contract notCarried changed =>
    exact .inr (.inl (latestDocumentPayload_recordVersion _ _ _))
  | locked posts live locked => exact .inr (.inr ⟨posts, live, locked⟩)
  | first posts unposted notCarried =>
    obtain ⟨posting, saved⟩ := saved_of_saveAndRepost ledger doc ctx false
    rw [saved]
    exact .inr (.inl (latest_recordPosting posting))
  | @replaced middle =>
    obtain ⟨posting, saved⟩ := saved_of_saveAndRepost middle doc ctx true
    rw [saved]
    exact .inr (.inl (latest_recordPosting posting))

theorem unaffected_processDocument (wellFormed : ledger.WellFormed) {documentId : String}
    (other : doc.documentId ≠ documentId) :
    Unaffected documentId ledger (execute (processDocument doc ctx) ledger).2 := by
  have same : Ledger.SameDocument documentId ledger
      ((Operation.processDocument doc ctx).run ledger) := by
    apply sameDocument_run wellFormed
    rintro kind (rfl | rfl | ⟨usedCtx, -, rfl⟩) isDocument <;>
      exact other (Option.some.inj isDocument)
  have periods := Operation.samePeriods wellFormed
    (by simp : ∀ periodEnd actor note,
      Operation.processDocument doc ctx ≠ .closePeriod periodEnd actor note)
    (by simp)
  refine ⟨same, ?_, periods.1⟩
  have handles := processing wellFormed doc ctx
  generalize execute (processDocument doc ctx) ledger = outcome at handles
  cases handles with
  | carried | unchanged | locked => rfl
  | contract => exact wellFormed.carriedByOpening_recordVersion
  | first posts unposted notCarried =>
    obtain ⟨posting, saved⟩ := saved_of_saveAndRepost ledger doc ctx false
    rw [saved, carriedByOpening_recordPosting, wellFormed.carriedByOpening_recordVersion]
  | @replaced middle posts notCarried posted changed reversible middleWellFormed only =>
    obtain ⟨posting, saved⟩ := saved_of_saveAndRepost middle doc ctx true
    rw [saved, carriedByOpening_recordPosting,
      middleWellFormed.carriedByOpening_recordVersion, only.carriedByOpening]

theorem execute_processDocument_of_finished (wellFormed : ledger.WellFormed)
    (settled : ledger.Settled doc) (finished : ledger.Finished doc) :
    ∃ handled, execute (processDocument doc ctx) ledger = (.ok handled, ledger) := by
  have handles := processing wellFormed doc ctx
  generalize execute (processDocument doc ctx) ledger = outcome at handles
  have notSaved : ledger.carriedByOpening doc.documentId = false →
      documentUnchanged ledger doc = false →
      doc.kind.posts = true ∧ ledger.liveEntriesForDocument doc.documentId ≠ [] ∧
        ¬ledger.IsOpen doc.txnDate := by
    intro notCarried changed
    rcases settled with carried | isLatest | refused
    · rw [notCarried] at carried
      cases carried
    · exact absurd isLatest (of_decide_eq_false changed)
    · exact refused
  cases handles with
  | carried | unchanged | locked => exact ⟨_, rfl⟩
  | contract contract notCarried changed =>
    rw [(notSaved notCarried changed).1] at contract
    cases contract
  | first posts unposted notCarried =>
    rcases finished with carried | contract | posted
    · rw [notCarried] at carried
      cases carried
    · rw [posts] at contract
      cases contract
    · exact absurd unposted posted
  | replaced posts notCarried posted changed reversible =>
    obtain ⟨-, live, locked⟩ := notSaved notCarried changed
    rcases reversible with noneLive | dateOpen
    · exact absurd noneLive live
    · exact absurd dateOpen locked

theorem versions_lt_of_not_finished (wellFormed : ledger.WellFormed)
    (unfinished : ¬ledger.Finished doc) :
    ledger.documentVersions.length <
      (execute (processDocument doc ctx) ledger).2.documentVersions.length := by
  unfold Finished at unfinished
  push Not at unfinished
  obtain ⟨notCarried, posts, unposted⟩ := unfinished
  have handles := processing wellFormed doc ctx
  generalize execute (processDocument doc ctx) ledger = outcome at handles
  have saves : ∀ posting, ledger.documentVersions.length <
      ((ledger.recordVersion doc importCommand).recordPosting posting).documentVersions.length := by
    intro posting
    cases posting <;> simp [recordPosting, recordVersion, recordEntry]
  cases handles with
  | carried carries => exact absurd carries notCarried
  | unchanged same posted => exact absurd unposted (posted (by simpa using posts))
  | contract contract => exact absurd contract posts
  | locked _ live _ => exact absurd (live_of_no_entries unposted) live
  | first =>
    obtain ⟨posting, saved⟩ := saved_of_saveAndRepost ledger doc ctx false
    rw [saved]
    exact saves posting
  | replaced _ _ posted => exact absurd unposted posted

end Documents

section Runs

variable {ledger after : Ledger} {docs : List LedgerDocument} (ctx : PostingContext)
  (report : PipelineReport) {finalReport : PipelineReport}

theorem unaffected_processDocuments (wellFormed : ledger.WellFormed) {documentId : String}
    (others : documentId ∉ docs.map LedgerDocument.documentId) :
    Unaffected documentId ledger (execute (processDocuments ctx docs report) ledger).2 := by
  induction docs generalizing ledger report with
  | nil => exact .refl documentId ledger
  | cons doc docs ih =>
    rw [List.map_cons, List.mem_cons, not_or] at others
    have first := unaffected_processDocument ctx wellFormed (Ne.symm others.1)
    have middleWellFormed : (execute (processDocument doc ctx) ledger).2.WellFormed :=
      ((Operation.processDocument doc ctx).evolves ledger).wellFormed wellFormed
    unfold processDocuments
    rw [execute_bind]
    rcases runs : execute (processDocument doc ctx) ledger with ⟨outcome, middle⟩
    rw [runs] at first middleWellFormed
    cases outcome with
    | error failure => exact first
    | ok handled => exact first.trans (ih _ middleWellFormed others.2)

theorem settled_processDocuments (wellFormed : ledger.WellFormed)
    (distinct : (docs.map LedgerDocument.documentId).Nodup)
    (runs : execute (processDocuments ctx docs report) ledger = (.ok finalReport, after)) :
    ∀ doc ∈ docs, after.Settled doc := by
  induction docs generalizing ledger report with
  | nil => exact fun doc docMem => nomatch docMem
  | cons doc docs ih =>
    rw [List.map_cons, List.nodup_cons] at distinct
    rw [processDocuments, execute_bind_eq_ok_iff] at runs
    obtain ⟨handled, middle, first, rest⟩ := runs
    have middleWellFormed : middle.WellFormed := by
      have history := ((Operation.processDocument doc ctx).evolves ledger).wellFormed wellFormed
      rw [show (Operation.processDocument doc ctx).run ledger = middle from
        congrArg Prod.snd first] at history
      exact history
    intro settled settledMem
    rcases List.mem_cons.mp settledMem with here | later
    · subst here
      have atOnce : (execute (processDocument settled ctx) ledger).2.Settled settled :=
        settled_processDocument ctx wellFormed
      rw [first] at atOnce
      have unaffected := unaffected_processDocuments ctx
        (report.record settled.documentId handled) middleWellFormed distinct.1
      rw [rest] at unaffected
      exact atOnce.of_unaffected unaffected
    · exact ih _ middleWellFormed distinct.2 rest settled later

theorem execute_processDocuments_of_finished (wellFormed : ledger.WellFormed)
    (settled : ∀ doc ∈ docs, ledger.Settled doc)
    (finished : ∀ doc ∈ docs, ledger.Finished doc) :
    (execute (processDocuments ctx docs report) ledger).2 = ledger := by
  induction docs generalizing report with
  | nil => rfl
  | cons doc docs ih =>
    obtain ⟨handled, first⟩ := execute_processDocument_of_finished ctx wellFormed
      (settled doc List.mem_cons_self) (finished doc List.mem_cons_self)
    unfold processDocuments
    rw [execute_bind_ok _ first]
    exact ih _ (fun other otherMem => settled other (List.mem_cons_of_mem _ otherMem))
      (fun other otherMem => finished other (List.mem_cons_of_mem _ otherMem))

theorem versions_lt_of_processDocuments (wellFormed : ledger.WellFormed)
    (settled : ∀ doc ∈ docs, ledger.Settled doc)
    (unfinished : ¬∀ doc ∈ docs, ledger.Finished doc) :
    ledger.documentVersions.length <
      (execute (processDocuments ctx docs report) ledger).2.documentVersions.length := by
  induction docs generalizing report with
  | nil => exact absurd (fun doc docMem => nomatch docMem) unfinished
  | cons doc docs ih =>
    unfold processDocuments
    by_cases finished : ledger.Finished doc
    · obtain ⟨handled, first⟩ := execute_processDocument_of_finished ctx wellFormed
        (settled doc List.mem_cons_self) finished
      rw [execute_bind_ok _ first]
      apply ih _ fun other otherMem => settled other (List.mem_cons_of_mem _ otherMem)
      intro restFinished
      exact unfinished (List.forall_mem_cons.mpr ⟨finished, restFinished⟩)
    · have grows := versions_lt_of_not_finished ctx wellFormed finished
      have middleWellFormed : (execute (processDocument doc ctx) ledger).2.WellFormed :=
        ((Operation.processDocument doc ctx).evolves ledger).wellFormed wellFormed
      rw [execute_bind]
      rcases runs : execute (processDocument doc ctx) ledger with ⟨outcome, middle⟩
      rw [runs] at grows middleWellFormed
      cases outcome with
      | error failure => exact grows
      | ok handled =>
        have history : Evolves Set.univ middle (execute (processDocuments ctx docs
            (report.record doc.documentId handled)) middle).2 :=
          processDocuments_respects (fun _ _ => Set.subset_univ _) middle
        exact grows.trans_le (history.versions_prefix middleWellFormed).length_le

end Runs

section Materializing

theorem addAccount_neverRefuses (number name : String) (classification : Classification)
    (isContra : Bool) (sourceRef : Option String) (needsMapping : Bool) :
    NeverRefuses
      (addAccount number name classification isContra sourceRef needsMapping) :=
  .modify _

theorem addClass_neverRefuses (id name : String) (sourceRef : Option String) :
    NeverRefuses (addClass id name sourceRef) :=
  .modify _

theorem setAccountSourceRef_neverRefuses (number sourceRef : String) :
    NeverRefuses (setAccountSourceRef number sourceRef) :=
  .get_bind fun before => NeverRefuses.bind (.modify _) (fun _ => .pure _) before

theorem materializeAccounts_neverRefuses (mapping : List MappedAccount) :
    NeverRefuses (materializeAccounts mapping) := by
  induction mapping with
  | nil => exact .pure _
  | cons mapped rest ih =>
    apply NeverRefuses.get_bind
    intro ledger
    dsimp only
    split
    · apply NeverRefuses.bind (setAccountSourceRef_neverRefuses _ _)
      intro recorded
      apply NeverRefuses.get_bind
      intro later
      exact NeverRefuses.bind ih (fun _ => .pure _) later
    · exact NeverRefuses.bind (addAccount_neverRefuses _ _ _ _ _ _)
        (fun _ => .bind ih fun _ => .pure _) ledger

theorem materializeClasses_neverRefuses (mapping : List MappedClass) :
    NeverRefuses (materializeClasses mapping) := by
  induction mapping with
  | nil => exact .pure _
  | cons mapped rest ih =>
    apply NeverRefuses.get_bind
    intro ledger
    split_ifs
    · exact ih ledger
    · exact NeverRefuses.bind (addClass_neverRefuses _ _ _)
        (fun _ => .bind ih fun _ => .pure _) ledger

theorem ensureClass_neverRefuses (id : ClassId) : NeverRefuses (ensureClass id) := by
  apply NeverRefuses.get_bind
  intro ledger
  split
  · exact ⟨_, _, rfl⟩
  · exact NeverRefuses.bind (addClass_neverRefuses _ _ _) (fun _ => .pure _) ledger

theorem materialize_neverRefuses (replica : Replica) :
    NeverRefuses (materialize replica) := by
  apply NeverRefuses.bind (materializeAccounts_neverRefuses _)
  rintro ⟨accountsCreated, accountsNeedingMapping⟩
  apply NeverRefuses.bind (materializeClasses_neverRefuses _)
  intro classesCreated
  cases replica.classFallback with
  | none => exact .bind (.pure _) fun _ => .pure _
  | some fallback => exact .bind (ensureClass_neverRefuses _) fun _ => .pure _

theorem materialize_books (replica : Replica) {ledger : Ledger}
    (wellFormed : ledger.WellFormed) :
    ∃ after report, execute (materialize replica) ledger = (.ok report, after) ∧
      after.WellFormed ∧ after.documentVersions = ledger.documentVersions ∧
      after.oplog = ledger.oplog ∧ after.journal = ledger.journal ∧
      ∀ documentId, Unaffected documentId ledger after := by
  obtain ⟨report, after, runs⟩ := materialize_neverRefuses replica ledger
  have history : Evolves {.masterData} ledger (execute (materialize replica) ledger).2 :=
    materialize_respects (Set.mem_singleton _) replica ledger
  rw [runs] at history
  have sameBooks : after = { ledger with
      accounts := after.accounts
      classes := after.classes
      contacts := after.contacts
      items := after.items
      docSequences := after.docSequences } := by
    apply history.keeps wellFormed fun state => state = { ledger with
      accounts := state.accounts
      classes := state.classes
      contacts := state.contacts
      items := state.items
      docSequences := state.docSequences }
    · rintro kind rfl earlier later - write earlierSame
      cases write with
      | masterData change =>
        have changed := change.sameBooks
        rw [earlierSame] at changed
        exact changed
    · rfl
  refine ⟨after, report, runs, history.wellFormed wellFormed, ?_⟩
  rw [sameBooks]
  exact ⟨rfl, rfl, rfl, fun documentId => ⟨⟨rfl, rfl⟩, rfl, rfl⟩⟩

end Materializing

/-- A second run over the same replica adds nothing to the books exactly when
the first has left every document that posts, and that the opening entry does
not carry, with an entry. -/
theorem importReplica_again_iff {replica : Replica} {ledger first : Ledger}
    {report : PipelineReport} (wellFormed : ledger.WellFormed)
    (runs : execute (importReplica replica) ledger = (.ok report, first)) :
    ((execute (importReplica replica) first).2.documentVersions = first.documentVersions ∧
        (execute (importReplica replica) first).2.oplog = first.oplog ∧
        (execute (importReplica replica) first).2.journal = first.journal) ↔
      ∀ doc ∈ replica.documents,
        first.carriedByOpening doc.documentId = true ∨ doc.kind.posts = false ∨
          first.entriesForDocument doc.documentId ≠ [] := by
  have firstWellFormed : first.WellFormed := by
    have history := ((Operation.importReplica replica).evolves ledger).wellFormed wellFormed
    rw [show (Operation.importReplica replica).run ledger = first from
      congrArg Prod.snd runs] at history
    exact history
  have settled : ∀ doc ∈ replica.documents, first.Settled doc := by
    obtain ⟨start, startReport, materializes, startWellFormed, -⟩ :=
      materialize_books replica wellFormed
    rw [importReplica, execute_bind_ok _ materializes, execute_bind_eq_ok_iff] at runs
    obtain ⟨walked, last, walks, ends⟩ := runs
    rw [← (Prod.mk.inj ends).2]
    exact settled_processDocuments _ _ startWellFormed replica.distinct walks
  obtain ⟨start, startReport, materializes, startWellFormed, sameVersions, sameOplog,
    sameJournal, unaffected⟩ := materialize_books replica firstWellFormed
  have settledAgain : ∀ doc ∈ replica.documents, start.Settled doc :=
    fun doc docMem => (settled doc docMem).of_unaffected (unaffected _)
  have second : (execute (importReplica replica) first).2 =
      (execute (processDocuments replica.ctx replica.documents startReport) start).2 := by
    rw [importReplica, execute_bind_ok _ materializes, execute_bind_state]
    exact fun _ _ => rfl
  have finished_iff : (∀ doc ∈ replica.documents, start.Finished doc) ↔
      ∀ doc ∈ replica.documents, first.Finished doc :=
    forall₂_congr fun doc _ => finished_iff_of_unaffected (unaffected _)
  change _ ↔ ∀ doc ∈ replica.documents, first.Finished doc
  rw [second, ← finished_iff]
  constructor
  · rintro ⟨noVersions, -⟩
    by_contra unfinished
    have grows := versions_lt_of_processDocuments replica.ctx startReport startWellFormed
      settledAgain unfinished
    rw [noVersions, sameVersions] at grows
    exact lt_irrefl _ grows
  · intro finished
    rw [execute_processDocuments_of_finished _ _ startWellFormed settledAgain finished]
    exact ⟨sameVersions, sameOplog, sameJournal⟩

theorem nodup_documentId (doc : LedgerDocument) :
    ([doc].map LedgerDocument.documentId).Nodup :=
  List.nodup_singleton _

/-- A replica with one document. -/
def replicaOf (doc : LedgerDocument) : Replica where
  accounts := []
  classes := []
  classFallback := none
  ctx := {}
  documents := [doc]
  distinct := nodup_documentId doc
  warnings := []

def zeroReplicaSale : LedgerDocument :=
  { replicaSale with lines := [] }

/-- The invoice without an amount gets another version from every run. -/
theorem zeroReplicaSale_is_saved_again :
    let first := (execute (importReplica (replicaOf zeroReplicaSale))
      (createCompany "aquamentor")).2
    let second := (execute (importReplica (replicaOf zeroReplicaSale)) first).2
    first.documentVersions.length = 1 ∧ second.documentVersions.length = 2 ∧
      second.oplog.length = 2 := by
  decide +kernel

theorem importReplica_again_iff_replicaSale :
    let first := (execute (importReplica (replicaOf replicaSale))
      (createCompany "aquamentor")).2
    let second := (execute (importReplica (replicaOf replicaSale)) first).2
    second.documentVersions = first.documentVersions ∧ second.oplog = first.oplog ∧
      second.journal = first.journal := by
  obtain ⟨report, first, runs⟩ := exists_execute_ok (createCompany "aquamentor")
    (show (execute (importReplica (replicaOf replicaSale))
      (createCompany "aquamentor")).1.toOption.isSome = true by decide +kernel)
  have finished : (execute (importReplica (replicaOf replicaSale))
      (createCompany "aquamentor")).2.entriesForDocument "qbo:Invoice:419" ≠ [] := by
    decide +kernel
  rw [runs] at finished ⊢
  refine (importReplica_again_iff (.createCompany "aquamentor") runs).mpr ?_
  intro doc docMem
  rw [List.mem_singleton.mp docMem]
  exact .inr (.inr finished)

end QuickBooks
