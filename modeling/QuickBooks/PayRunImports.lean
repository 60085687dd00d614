import QuickBooks.LedgerHistories
import QuickBooks.PayRunPostings

/-!
# Importing pay runs

An import first builds the document of every run and then, in one unit, saves
and posts each run whose document has no live entry.  A run whose document is
the newest version and has a live entry is left alone, so that once an import
has succeeded every run of it is left alone the next time.
-/

namespace QuickBooks

open ExceptPrograms TransactionPrograms
open Ledger

structure PayRunOutcome where
  runId : String
  payDate : Date
  documentId : String
  isNew : Bool
  entryId : Nat
  totals : RunTotals
deriving DecidableEq

/-- A run with its document, as the import takes it. -/
def buildRun (quoted : String → String) (config : PayrollConfig) (run : PayRun) :
    Except PayRunError (PayrollRun × RunTotals) := do
  let (document, totals) ← journalDocument quoted run config
  return (⟨run.runId, run.payDate, document⟩, totals)

def payRunOutcome (built : PayrollRun × RunTotals) (outcome : RunOutcome) : PayRunOutcome :=
  ⟨built.1.runId, built.1.payDate, built.1.document.documentId, outcome.isNew,
    outcome.entryId, built.2⟩

/-- Import every run or none of them. -/
def importPayRuns (quoted : String → String) (runs : List PayRun) (config : PayrollConfig)
    (actor : String) : Program Ledger PayRunError (List PayRunOutcome) := do
  MonadExcept.ofExcept (ensure (runs ≠ []) PayRunError.empty)
  let built ← MonadExcept.ofExcept (runs.mapM (buildRun quoted config))
  let outcomes ← refusingWith PayRunError.importing (importRuns (built.map Prod.fst) actor)
  return List.zipWith payRunOutcome built outcomes

section Steps

variable {before after ledger : Ledger} {run : PayrollRun} {actor : String}
  {outcome : RunOutcome}

/-- What importing a run does: nothing where its document is the newest version
and has a live entry, else one version of the document and the entry that it
posts. -/
inductive ImportsRun (run : PayrollRun) (actor : String) (before after : Ledger) :
    RunOutcome → Prop
  | already (posted : PostedEntry) (rest : List PostedEntry)
      (live : before.liveEntriesForDocument run.document.documentId = posted :: rest)
      (latest : before.latestDocumentPayload run.document.documentId = some run.document)
      (unchanged : after = before) :
      ImportsRun run actor before after ⟨run.runId, false, posted.entryId⟩
  | posted (entry : JournalEntry)
      (noneLive : before.liveEntriesForDocument run.document.documentId = [])
      (posts : post run.document (before.previousVersion run.document.documentId + 1) {} =
        .ok (.entry entry))
      (accepted : (before.recordVersion run.document ⟨actor, "payroll_import"⟩).Accepts entry)
      (written : after =
        (before.recordVersion run.document ⟨actor, "payroll_import"⟩).recordEntry entry) :
      ImportsRun run actor before after ⟨run.runId, true, before.nextEntryId⟩

theorem execute_saveThenPost_eq_ok_iff {doc : LedgerDocument} {ctx : PostingContext}
    {command : CommandMeta} {result : Nat × Option Nat} :
    execute (saveThenPost doc ctx command) before = (.ok result, after) ↔
      ∃ posting, post doc (before.previousVersion doc.documentId + 1) ctx = .ok posting ∧
        match posting with
        | .nonPosting => result = (before.previousVersion doc.documentId + 1, none) ∧
          after = before.recordVersion doc command
        | .entry entry => (before.recordVersion doc command).Accepts entry ∧
          result = (before.previousVersion doc.documentId + 1, some before.nextEntryId) ∧
          after = (before.recordVersion doc command).recordEntry entry := by
  unfold saveThenPost
  rw [execute_bind_ok _ (execute_saveDocument before doc command), execute_bind_eq_ok_iff]
  simp only [execute_ofExcept, Prod.mk.injEq, mapError_eq_ok_iff]
  constructor
  · rintro ⟨posting, middle, ⟨posts, rfl⟩, finishes⟩
    refine ⟨posting, posts, ?_⟩
    cases posting with
    | nonPosting =>
      rw [execute_pure, Prod.mk.injEq, Except.ok.injEq] at finishes
      exact ⟨finishes.1.symm, finishes.2.symm⟩
    | entry entry =>
      dsimp only at finishes ⊢
      rw [execute_bind_eq_ok_iff] at finishes
      obtain ⟨entryId, last, postsEntry, returns⟩ := finishes
      obtain ⟨accepted, rfl, rfl⟩ := execute_postEntry_eq_ok_iff.mp postsEntry
      rw [execute_pure, Prod.mk.injEq, Except.ok.injEq] at returns
      exact ⟨accepted, returns.1.symm, returns.2.symm⟩
  · rintro ⟨posting, posts, finishes⟩
    refine ⟨posting, _, ⟨posts, rfl⟩, ?_⟩
    cases posting with
    | nonPosting =>
      obtain ⟨rfl, rfl⟩ := finishes
      rfl
    | entry entry =>
      obtain ⟨accepted, rfl, rfl⟩ := finishes
      dsimp only
      rw [execute_bind_ok _ (execute_postEntry_of_accepts accepted)]
      rfl

theorem execute_importRun_eq_ok_iff :
    execute (importRun run actor) before = (.ok outcome, after) ↔
      ImportsRun run actor before after outcome := by
  unfold importRun
  rw [execute_bind_ok _ (execute_get before)]
  dsimp only
  cases live : before.liveEntriesForDocument run.document.documentId with
  | cons posted rest =>
    dsimp only
    rw [execute_bind_eq_ok_iff]
    simp only [execute_ofExcept, execute_pure, Prod.mk.injEq, ensure_eq_ok_iff,
      documentUnchanged, decide_eq_true_eq, Except.ok.injEq]
    constructor
    · rintro ⟨-, middle, ⟨latest, rfl⟩, rfl, rfl⟩
      exact .already posted rest live latest rfl
    · rintro (⟨other, others, here, latest, rfl⟩ | ⟨entry, noneLive, posts, accepted, rfl⟩)
      · rw [live, List.cons.injEq] at here
        exact ⟨⟨⟩, after, ⟨latest, rfl⟩, by rw [here.1], rfl⟩
      · simp [live] at noneLive
  | nil =>
    dsimp only
    rw [execute_bind_eq_ok_iff]
    simp only [execute_refusingWith_eq_ok_iff, execute_saveThenPost_eq_ok_iff]
    constructor
    · rintro ⟨result, middle, ⟨posting, posts, saved⟩, rest⟩
      cases posting with
      | nonPosting =>
        obtain ⟨rfl, rfl⟩ := saved
        simp at rest
      | entry entry =>
        obtain ⟨accepted, rfl, rfl⟩ := saved
        simp only [execute_pure, Prod.mk.injEq, Except.ok.injEq] at rest
        obtain ⟨rfl, rfl⟩ := rest
        exact .posted entry live posts accepted rfl
    · rintro (⟨other, others, here, -, -⟩ | ⟨entry, -, posts, accepted, rfl⟩)
      · simp [live] at here
      · exact ⟨_, _, ⟨.entry entry, posts, accepted, rfl, rfl⟩, rfl⟩

namespace ImportsRun

theorem wellFormed (wellFormed : before.WellFormed)
    (imports : ImportsRun run actor before after outcome) : after.WellFormed := by
  cases imports with
  | already posted rest live latest unchanged =>
    rw [unchanged]
    exact wellFormed
  | posted entry noneLive posts accepted written =>
    rw [written]
    exact (wellFormed.recordVersion _ _).recordEntry accepted

theorem periods (imports : ImportsRun run actor before after outcome) :
    after.periods = before.periods := by
  cases imports with
  | already posted rest live latest unchanged => rw [unchanged]
  | posted entry noneLive posts accepted written =>
    rw [written]
    rfl

theorem keeps_live (imports : ImportsRun run actor before after outcome) {documentId : String}
    (live : before.liveEntriesForDocument documentId ≠ []) :
    after.liveEntriesForDocument documentId = before.liveEntriesForDocument documentId ∧
      after.latestDocumentPayload documentId = before.latestDocumentPayload documentId := by
  cases imports with
  | already posted rest here latest unchanged =>
    rw [unchanged]
    exact ⟨rfl, rfl⟩
  | posted entry noneLive posts accepted written =>
    have other : run.document.documentId ≠ documentId := by
      rintro rfl
      exact live noneLive
    have otherEntry : entry.sourceId ≠ documentId := by
      rw [(post_entry_source posts).1]
      exact other
    rw [written]
    exact ⟨live_recordEntry_other otherEntry,
      latestDocumentPayload_recordVersion_other _ _ ⟨actor, "payroll_import"⟩ other⟩

theorem live_other (imports : ImportsRun run actor before after outcome) {documentId : String}
    (other : run.document.documentId ≠ documentId) :
    after.liveEntriesForDocument documentId = before.liveEntriesForDocument documentId := by
  cases imports with
  | already posted rest here latest unchanged => rw [unchanged]
  | posted entry noneLive posts accepted written =>
    rw [written]
    exact live_recordEntry_other (by rwa [(post_entry_source posts).1])

end ImportsRun

/-- A run is in the books: its document is the newest version of its id and has
the live entry that the outcome names, the only one where the run was posted
now. -/
structure InBooks (ledger : Ledger) (run : PayrollRun) (outcome : RunOutcome) : Prop where
  runId : outcome.runId = run.runId
  latest : ledger.latestDocumentPayload run.document.documentId = some run.document
  live : ∃ posted rest,
    ledger.liveEntriesForDocument run.document.documentId = posted :: rest ∧
      posted.entryId = outcome.entryId ∧ (outcome.isNew = true → rest = [])

theorem InBooks.ne_nil (inBooks : InBooks ledger run outcome) :
    ledger.liveEntriesForDocument run.document.documentId ≠ [] := by
  obtain ⟨posted, rest, live, -⟩ := inBooks.live
  rw [live]
  exact List.cons_ne_nil _ _

theorem ImportsRun.inBooks (wellFormed : before.WellFormed)
    (imports : ImportsRun run actor before after outcome) : InBooks after run outcome := by
  have afterWellFormed := imports.wellFormed wellFormed
  cases imports with
  | already posted rest live latest unchanged =>
    rw [unchanged]
    exact ⟨rfl, latest, posted, rest, live, rfl, by simp⟩
  | posted entry noneLive posts accepted written =>
    obtain ⟨source, -, original, -⟩ := post_entry_source posts
    subst written
    have live := live_recordEntry_original_perm (wellFormed.recordVersion _ _)
      afterWellFormed original
    rw [source] at live
    change List.Perm _ (before.liveEntriesForDocument run.document.documentId ++ _) at live
    rw [noneLive, List.nil_append, List.perm_singleton] at live
    exact ⟨rfl, latestDocumentPayload_recordVersion _ _ ⟨actor, "payroll_import"⟩, _, [], live,
      rfl, fun _ => rfl⟩

theorem InBooks.of_kept (inBooks : InBooks before run outcome)
    (kept : after.liveEntriesForDocument run.document.documentId =
      before.liveEntriesForDocument run.document.documentId ∧
        after.latestDocumentPayload run.document.documentId =
          before.latestDocumentPayload run.document.documentId) :
    InBooks after run outcome :=
  ⟨inBooks.runId, kept.2.trans inBooks.latest, kept.1 ▸ inBooks.live⟩

theorem InBooks.imports_again (inBooks : InBooks ledger run outcome) :
    ImportsRun run actor ledger ledger { outcome with isNew := false } := by
  obtain ⟨posted, rest, live, entryId, -⟩ := inBooks.live
  have again : ImportsRun run actor ledger ledger ⟨run.runId, false, posted.entryId⟩ :=
    .already posted rest live inBooks.latest rfl
  rwa [entryId, ← inBooks.runId] at again

end Steps

section Runs

variable {before after ledger : Ledger} {runs : List PayrollRun} {actor : String}
  {outcomes : List RunOutcome}

def newlyPosted (runs : List PayrollRun) (outcomes : List RunOutcome) :
    List (PayrollRun × RunOutcome) :=
  (runs.zip outcomes).filter fun pair => pair.2.isNew

/-- What importing runs does to the ledger. -/
structure ImportsRuns (runs : List PayrollRun) (before after : Ledger)
    (outcomes : List RunOutcome) : Prop where
  wellFormed : after.WellFormed
  periods : after.periods = before.periods
  inBooks : List.Forall₂ (InBooks after) runs outcomes
  keepsLive : ∀ documentId, before.liveEntriesForDocument documentId ≠ [] →
    after.liveEntriesForDocument documentId = before.liveEntriesForDocument documentId ∧
      after.latestDocumentPayload documentId = before.latestDocumentPayload documentId
  noneLive : ∀ pair ∈ newlyPosted runs outcomes,
    before.liveEntriesForDocument pair.1.document.documentId = []
  distinct : ((newlyPosted runs outcomes).map fun pair => pair.1.document.documentId).Nodup
  versions : ∃ versions, after.documentVersions = before.documentVersions ++ versions ∧
    versions.map DocumentVersion.document =
      (newlyPosted runs outcomes).map fun pair => pair.1.document
  entries : ∃ entries, after.journal = before.journal ++ entries ∧
    entries.map (fun posted => (posted.entryId, posted.entry.sourceId)) =
      (newlyPosted runs outcomes).map fun pair =>
        (pair.2.entryId, pair.1.document.documentId)

theorem newlyPosted_cons {run : PayrollRun} {outcome : RunOutcome} :
    newlyPosted (run :: runs) (outcome :: outcomes) =
      if outcome.isNew then (run, outcome) :: newlyPosted runs outcomes
      else newlyPosted runs outcomes := by
  unfold newlyPosted
  rw [List.zip_cons_cons, List.filter_cons]

theorem importsRuns_cons {run : PayrollRun} {outcome : RunOutcome} {middle : Ledger}
    (wellFormed : before.WellFormed) (first : ImportsRun run actor before middle outcome)
    (rest : ImportsRuns runs middle after outcomes) :
    ImportsRuns (run :: runs) before after (outcome :: outcomes) := by
  have firstInBooks := first.inBooks wellFormed
  have keepsFirst := rest.keepsLive _ firstInBooks.ne_nil
  have keepsLive : ∀ documentId, before.liveEntriesForDocument documentId ≠ [] →
      after.liveEntriesForDocument documentId = before.liveEntriesForDocument documentId ∧
        after.latestDocumentPayload documentId =
          before.latestDocumentPayload documentId := by
    intro documentId live
    have step := first.keeps_live live
    have later := rest.keepsLive documentId (step.1 ▸ live)
    exact ⟨later.1.trans step.1, later.2.trans step.2⟩
  have restNoneLive : ∀ pair ∈ newlyPosted runs outcomes,
      before.liveEntriesForDocument pair.1.document.documentId = [] := by
    intro pair pairMem
    by_contra live
    exact live ((first.keeps_live live).1.symm.trans (rest.noneLive pair pairMem))
  have inBooks : List.Forall₂ (InBooks after) (run :: runs) (outcome :: outcomes) :=
    .cons (firstInBooks.of_kept keepsFirst) rest.inBooks
  have periods := rest.periods.trans first.periods
  obtain ⟨versions, versionsEq, versionDocs⟩ := rest.versions
  obtain ⟨entries, entriesEq, entryIds⟩ := rest.entries
  cases first with
  | already posted others live latest unchanged =>
    subst unchanged
    have newly : newlyPosted (run :: runs) (⟨run.runId, false, posted.entryId⟩ :: outcomes) =
        newlyPosted runs outcomes := by
      rw [newlyPosted_cons]
      rfl
    refine ⟨rest.wellFormed, periods, inBooks, keepsLive, ?_, ?_, ?_, ?_⟩ <;> rw [newly]
    · exact restNoneLive
    · exact rest.distinct
    · exact ⟨versions, versionsEq, versionDocs⟩
    · exact ⟨entries, entriesEq, entryIds⟩
  | posted entry noneLive posts accepted written =>
    have newly : newlyPosted (run :: runs) (⟨run.runId, true, before.nextEntryId⟩ :: outcomes) =
        (run, ⟨run.runId, true, before.nextEntryId⟩) :: newlyPosted runs outcomes := by
      rw [newlyPosted_cons]
      rfl
    refine ⟨rest.wellFormed, periods, inBooks, keepsLive, ?_, ?_, ?_, ?_⟩ <;> rw [newly]
    · exact List.forall_mem_cons.mpr ⟨noneLive, restNoneLive⟩
    · rw [List.map_cons, List.nodup_cons]
      refine ⟨fun again => ?_, rest.distinct⟩
      obtain ⟨pair, pairMem, sameId⟩ := List.mem_map.mp again
      have none := rest.noneLive pair pairMem
      rw [sameId] at none
      exact firstInBooks.ne_nil none
    · refine ⟨⟨run.document.documentId, before.previousVersion run.document.documentId + 1,
        run.document, before.oplog.length⟩ :: versions, ?_, ?_⟩
      · rw [versionsEq, written]
        exact List.append_assoc _ _ _
      · rw [List.map_cons, List.map_cons, versionDocs]
    · refine ⟨⟨before.nextEntryId, stored entry⟩ :: entries, ?_, ?_⟩
      · rw [entriesEq, written]
        exact List.append_assoc _ _ _
      · rw [List.map_cons, List.map_cons, entryIds, stored_sourceId,
          (post_entry_source posts).1]

/-- After an import every run is in the books, and what was added is one version
and one entry for each run posted now. -/
theorem importsRuns_of_execute (wellFormed : before.WellFormed)
    (imports : execute (importRunsInOrder actor runs) before = (.ok outcomes, after)) :
    ImportsRuns runs before after outcomes := by
  induction runs generalizing before outcomes with
  | nil =>
    simp only [importRunsInOrder, execute_pure, Prod.mk.injEq, Except.ok.injEq] at imports
    obtain ⟨rfl, rfl⟩ := imports
    exact ⟨wellFormed, rfl, .nil, fun _ _ => ⟨rfl, rfl⟩, by simp [newlyPosted],
      by simp [newlyPosted], ⟨[], by simp, rfl⟩, ⟨[], by simp, rfl⟩⟩
  | cons run runs ih =>
    simp only [importRunsInOrder, execute_bind_eq_ok_iff, execute_pure, Prod.mk.injEq,
      Except.ok.injEq] at imports
    obtain ⟨outcome, middle, first, others, last, rest, rfl, rfl⟩ := imports
    have step := execute_importRun_eq_ok_iff.mp first
    exact importsRuns_cons wellFormed step (ih (step.wellFormed wellFormed) rest)

theorem execute_importRunsInOrder_again (inBooks : List.Forall₂ (InBooks ledger) runs outcomes) :
    execute (importRunsInOrder actor runs) ledger =
      (.ok (outcomes.map fun outcome => { outcome with isNew := false }), ledger) := by
  induction inBooks with
  | nil => rfl
  | cons here rest ih =>
    have step : ImportsRun _ actor ledger ledger _ := here.imports_again
    unfold importRunsInOrder
    rw [execute_bind_ok _ (execute_importRun_eq_ok_iff.mpr step), execute_bind_ok _ ih]
    rfl

theorem isNew_of_noneLive (distinct : (runs.map fun run => run.document.documentId).Nodup)
    (imports : execute (importRunsInOrder actor runs) before = (.ok outcomes, after)) :
    List.Forall₂ (fun run outcome =>
      before.liveEntriesForDocument run.document.documentId = [] → outcome.isNew = true)
        runs outcomes := by
  induction runs generalizing before outcomes with
  | nil =>
    simp only [importRunsInOrder, execute_pure, Prod.mk.injEq, Except.ok.injEq] at imports
    obtain ⟨rfl, -⟩ := imports
    exact .nil
  | cons run runs ih =>
    rw [List.map_cons, List.nodup_cons] at distinct
    simp only [importRunsInOrder, execute_bind_eq_ok_iff, execute_pure, Prod.mk.injEq,
      Except.ok.injEq] at imports
    obtain ⟨outcome, middle, first, others, last, rest, rfl, rfl⟩ := imports
    have step := execute_importRun_eq_ok_iff.mp first
    have others := ih distinct.2 rest
    constructor
    · intro noneLive
      cases step with
      | already posted others live latest unchanged => simp [live] at noneLive
      | posted entry noneLive posts accepted written => rfl
    · rw [List.forall₂_iff_zip] at others ⊢
      refine ⟨others.1, fun {later outcome} pairMem noneLive => others.2 pairMem ?_⟩
      have other : run.document.documentId ≠ later.document.documentId := by
        intro same
        exact distinct.1 (same ▸ List.mem_map_of_mem (List.of_mem_zip pairMem).1)
      rw [step.live_other other]
      exact noneLive

end Runs

section PayRuns

variable {quoted : String → String} {runs : List PayRun} {config : PayrollConfig}
  {actor : String} {before after ledger : Ledger} {built : List (PayrollRun × RunTotals)}

theorem buildRun_eq_ok_iff {run : PayRun} {result : PayrollRun × RunTotals} :
    buildRun quoted config run = .ok result ↔
      ∃ doc totals, journalDocument quoted run config = .ok (doc, totals) ∧
        result = (⟨run.runId, run.payDate, doc⟩, totals) := by
  unfold buildRun
  simp only [bind_eq_ok_iff, pure_eq_ok_iff, Prod.exists]
  exact ⟨fun ⟨doc, totals, builds, eq⟩ => ⟨doc, totals, builds, eq.symm⟩,
    fun ⟨doc, totals, builds, eq⟩ => ⟨doc, totals, builds, eq.symm⟩⟩

theorem checkPayDates_congr (samePeriods : after.periods = before.periods)
    (paid : List PayrollRun) : checkPayDates after paid = checkPayDates before paid := by
  unfold checkPayDates Ledger.checkOpen Ledger.lockedThrough
  rw [samePeriods]

theorem execute_importPayRuns_eq_ok_iff {results : List PayRunOutcome} :
    execute (importPayRuns quoted runs config actor) before = (.ok results, after) ↔
      runs ≠ [] ∧ ∃ built, runs.mapM (buildRun quoted config) = .ok built ∧
        checkPayDates before (built.map Prod.fst) = .ok () ∧
        ∃ outcomes, execute (importRunsInOrder actor (built.map Prod.fst)) before =
            (.ok outcomes, after) ∧
          results = List.zipWith payRunOutcome built outcomes := by
  unfold importPayRuns importRuns
  simp only [execute_bind_eq_ok_iff, execute_ofExcept, Prod.mk.injEq, ensure_eq_ok_iff,
    decide_eq_true_eq, execute_refusingWith_eq_ok_iff, execute_get, Except.ok.injEq,
    execute_atomically_ok, execute_pure]
  constructor
  · rintro ⟨-, _, ⟨nonempty, rfl⟩, built, _, ⟨builds, rfl⟩, outcomes, _,
      ⟨_, _, ⟨rfl, rfl⟩, ⟨⟩, _, ⟨open_, rfl⟩, imports⟩, rfl, rfl⟩
    exact ⟨nonempty, built, builds, open_, outcomes, imports, rfl⟩
  · rintro ⟨nonempty, built, builds, open_, outcomes, imports, rfl⟩
    exact ⟨⟨⟩, _, ⟨nonempty, rfl⟩, built, _, ⟨builds, rfl⟩, outcomes, _,
      ⟨_, _, ⟨rfl, rfl⟩, ⟨⟩, _, ⟨open_, rfl⟩, imports⟩, rfl, rfl⟩

theorem execute_importPayRuns_error {refusal : PayRunError}
    (refuses : execute (importPayRuns quoted runs config actor) before =
      (.error refusal, after)) : after = before := by
  have imports : ∀ {paid : List PayrollRun} {failure : PayrollError} {last : Ledger},
      execute (importRuns paid actor) before = (.error failure, last) → last = before := by
    intro paid failure last fails
    unfold importRuns at fails
    simp only [execute_bind_eq_error_iff, execute_get, execute_ofExcept, Prod.mk.injEq,
      reduceCtorEq, false_and, false_or, Except.ok.injEq] at fails
    obtain ⟨_, _, ⟨rfl, rfl⟩, ⟨-, rfl⟩ | ⟨⟨⟩, _, ⟨-, rfl⟩, fails⟩⟩ := fails
    · rfl
    · exact execute_atomically_error _ fails
  unfold importPayRuns at refuses
  simp only [execute_bind_eq_error_iff, execute_ofExcept, Prod.mk.injEq, execute_pure,
    reduceCtorEq, false_and, and_false, exists_false, or_false] at refuses
  obtain ⟨-, rfl⟩ | ⟨⟨⟩, _, ⟨-, rfl⟩, ⟨-, rfl⟩ | ⟨built, _, ⟨-, rfl⟩, fails⟩⟩ := refuses
  · rfl
  · rfl
  · rw [execute_refusingWith, Prod.mk.injEq] at fails
    cases outcome : (execute (importRuns (built.map Prod.fst) actor) before).1 with
    | ok outcomes => simp [outcome] at fails
    | error failure =>
      rw [← fails.2]
      exact imports (Prod.ext outcome rfl)

theorem newlyPosted_outcomes {outcomes : List RunOutcome} :
    ((List.zipWith payRunOutcome built outcomes).filter PayRunOutcome.isNew).map
        (fun outcome => (outcome.entryId, outcome.documentId)) =
      (newlyPosted (built.map Prod.fst) outcomes).map fun pair =>
        (pair.2.entryId, pair.1.document.documentId) := by
  induction built generalizing outcomes with
  | nil => simp [newlyPosted]
  | cons run built ih =>
    cases outcomes with
    | nil => simp [newlyPosted]
    | cons outcome outcomes =>
      rw [List.zipWith_cons_cons, List.map_cons, newlyPosted_cons, List.filter_cons]
      cases isNew : outcome.isNew <;> simp [payRunOutcome, isNew, ih]

theorem documentId_of_journalDocument {run : PayRun} {doc : LedgerDocument}
    {totals : RunTotals} (builds : journalDocument quoted run config = .ok (doc, totals)) :
    doc.documentId = run.documentId := by
  obtain ⟨journal, made⟩ := journalDocument_eq_ok_iff.mp builds
  rw [made.docEq]
  rfl

/-- What the books hold for a run of a successful import. -/
structure RunStored (quoted : String → String) (config : PayrollConfig) (ledger : Ledger)
    (run : PayRun) (result : PayRunOutcome) : Prop where
  runId : result.runId = run.runId
  payDate : result.payDate = run.payDate
  documentId : result.documentId = run.documentId
  latest : ∃ doc, journalDocument quoted run config = .ok (doc, result.totals) ∧
    ledger.latestDocumentPayload run.documentId = some doc
  live : ∃ posted rest, ledger.liveEntriesForDocument run.documentId = posted :: rest ∧
    posted.entryId = result.entryId ∧ (result.isNew = true → rest = [])

theorem runStored_of_inBooks {run : PayRun} {paid : PayrollRun × RunTotals}
    {outcome : RunOutcome} (builds : buildRun quoted config run = .ok paid)
    (inBooks : InBooks ledger paid.1 outcome) :
    RunStored quoted config ledger run (payRunOutcome paid outcome) := by
  obtain ⟨doc, totals, made, rfl⟩ := buildRun_eq_ok_iff.mp builds
  have sameId := documentId_of_journalDocument made
  obtain ⟨runId, latest, live⟩ := inBooks
  dsimp only at latest live
  rw [sameId] at latest live
  exact ⟨rfl, rfl, sameId, ⟨doc, made, latest⟩, live⟩

theorem forall₂_zipWith {α β γ δ : Type} {first : α → β → Prop} {second : β → γ → Prop}
    {both : α → δ → Prop} {combine : β → γ → δ} {as : List α} {bs : List β} {cs : List γ}
    (firsts : List.Forall₂ first as bs) (seconds : List.Forall₂ second bs cs)
    (combined : ∀ a b c, first a b → second b c → both a (combine b c)) :
    List.Forall₂ both as (List.zipWith combine bs cs) := by
  induction firsts generalizing cs with
  | nil => cases seconds; exact .nil
  | cons here rest ih =>
    cases seconds with
    | cons there others => exact .cons (combined _ _ _ here there) (ih others)

/-- A payroll import either refuses and leaves the ledger as it was, or leaves
every run stored with a live entry; the versions and entries that it adds are
one each for the runs posted now, which have different documents.  Of runs with
different documents exactly those without a live entry are posted now.
Importing the same runs again then changes nothing. -/
theorem importPayRuns_all_or_nothing {ledger : Ledger} (reachable : Reachable ledger)
    (quoted : String → String) (runs : List PayRun) (config : PayrollConfig)
    (actor : String) :
    (∀ refusal after, execute (importPayRuns quoted runs config actor) ledger =
      (.error refusal, after) → after = ledger) ∧
    ∀ results after, execute (importPayRuns quoted runs config actor) ledger =
        (.ok results, after) →
      List.Forall₂ (RunStored quoted config after) runs results ∧
      ((results.filter PayRunOutcome.isNew).map PayRunOutcome.documentId).Nodup ∧
      (∃ versions, after.documentVersions = ledger.documentVersions ++ versions ∧
        versions.map (fun row => row.document.documentId) =
          (results.filter PayRunOutcome.isNew).map PayRunOutcome.documentId) ∧
      (∃ entries, after.journal = ledger.journal ++ entries ∧
        entries.map (fun posted => (posted.entryId, posted.entry.sourceId)) =
          (results.filter PayRunOutcome.isNew).map fun result =>
            (result.entryId, result.documentId)) ∧
      ((runs.map PayRun.documentId).Nodup →
        List.Forall₂ (fun run result => result.isNew = true ↔
          ledger.liveEntriesForDocument run.documentId = []) runs results) ∧
      execute (importPayRuns quoted runs config actor) after =
        (.ok (results.map fun result => { result with isNew := false }), after) := by
  refine ⟨fun refusal after refuses => execute_importPayRuns_error refuses, ?_⟩
  intro results after succeeds
  obtain ⟨nonempty, built, builds, openDates, outcomes, imports, rfl⟩ :=
    execute_importPayRuns_eq_ok_iff.mp succeeds
  have imported := importsRuns_of_execute reachable.wellFormed imports
  have builtRuns := mapM_eq_ok_iff.mp builds
  have inBooks := List.forall₂_map_left_iff.mp imported.inBooks
  have newOutcomes : _ = (newlyPosted (built.map Prod.fst) outcomes).map fun pair =>
      (pair.2.entryId, pair.1.document.documentId) := newlyPosted_outcomes
  have newIds : ((List.zipWith payRunOutcome built outcomes).filter PayRunOutcome.isNew).map
      PayRunOutcome.documentId = (newlyPosted (built.map Prod.fst) outcomes).map
        fun pair => pair.1.document.documentId := by
    simpa [List.map_map, Function.comp_def] using congrArg (List.map Prod.snd) newOutcomes
  refine ⟨?_, ?_, ?_, ?_, ?_, ?_⟩
  · exact forall₂_zipWith builtRuns inBooks fun run paid outcome builds inBooks =>
      runStored_of_inBooks builds inBooks
  · rw [newIds]
    exact imported.distinct
  · obtain ⟨versions, versionsEq, documents⟩ := imported.versions
    refine ⟨versions, versionsEq, ?_⟩
    rw [newIds]
    simpa [List.map_map, Function.comp_def] using
      congrArg (List.map LedgerDocument.documentId) documents
  · obtain ⟨entries, entriesEq, entryIds⟩ := imported.entries
    exact ⟨entries, entriesEq, entryIds.trans newOutcomes.symm⟩
  · intro distinct
    have sameIds : built.map (fun paid => paid.1.document.documentId) =
        runs.map PayRun.documentId := by
      refine map_eq_of_mapM ?_ builds
      intro run paid buildsRun
      obtain ⟨doc, totals, made, rfl⟩ := buildRun_eq_ok_iff.mp buildsRun
      exact documentId_of_journalDocument made
    have posted := isNew_of_noneLive (by rw [List.map_map]; exact sameIds ▸ distinct) imports
    have newNoneLive : List.Forall₂ (fun (paid : PayrollRun × RunTotals)
        (outcome : RunOutcome) => outcome.isNew = true ↔
          ledger.liveEntriesForDocument paid.1.document.documentId = []) built outcomes := by
      have postedBuilt := List.forall₂_map_left_iff.mp posted
      rw [List.forall₂_iff_zip] at postedBuilt ⊢
      refine ⟨postedBuilt.1, fun {paid outcome} pairMem => ⟨fun isNew => ?_,
        postedBuilt.2 pairMem⟩⟩
      refine imported.noneLive (paid.1, outcome) (List.mem_filter.mpr ⟨?_, isNew⟩)
      rw [List.zip_map_left]
      exact List.mem_map.mpr ⟨(paid, outcome), pairMem, rfl⟩
    refine forall₂_zipWith builtRuns newNoneLive fun run paid outcome buildsRun isNewIff => ?_
    obtain ⟨doc, totals, made, rfl⟩ := buildRun_eq_ok_iff.mp buildsRun
    rw [← documentId_of_journalDocument made]
    exact isNewIff
  · refine execute_importPayRuns_eq_ok_iff.mpr ⟨nonempty, built, builds, ?_, _,
      execute_importRunsInOrder_again imported.inBooks, ?_⟩
    · rw [checkPayDates_congr imported.periods]
      exact openDates
    · rw [List.zipWith_map_right, List.map_zipWith]
      rfl

end PayRuns

theorem importPayRuns_twice_in_march :
    ∃ results after,
      execute (importPayRuns id [payRunStating (.fromMinor 80000)] (payrollOwedAt "2400")
        "bookkeeper") (createCompany "aquamentor") = (.ok results, after) ∧
      results.map PayRunOutcome.isNew = [true] ∧
      execute (importPayRuns id [payRunStating (.fromMinor 80000)] (payrollOwedAt "2400")
        "bookkeeper") after =
          (.ok (results.map fun result => { result with isNew := false }), after) := by
  have reachable : Reachable (createCompany "aquamentor") := ⟨_, [], rfl⟩
  have imported : (execute (importPayRuns id [payRunStating (.fromMinor 80000)]
      (payrollOwedAt "2400") "bookkeeper") (createCompany "aquamentor")).1.toOption.map
        (List.map PayRunOutcome.isNew) = some [true] := by
    decide +kernel
  rcases runs : execute (importPayRuns id [payRunStating (.fromMinor 80000)]
    (payrollOwedAt "2400") "bookkeeper") (createCompany "aquamentor") with ⟨outcome, after⟩
  rw [runs] at imported
  obtain ⟨results, rfl, isNew⟩ := exists_ok_of_map_toOption imported
  obtain ⟨-, -, -, -, -, again⟩ := (importPayRuns_all_or_nothing reachable id
    [payRunStating (.fromMinor 80000)] (payrollOwedAt "2400") "bookkeeper").2 _ _ runs
  exact ⟨results, after, rfl, isNew, again⟩

end QuickBooks
