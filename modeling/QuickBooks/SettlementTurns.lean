import QuickBooks.ImportedDocuments
import QuickBooks.SettlementImports

/-!
# The turns of a settlement import

A document is posted by the rules before it is saved and by the store after it.
What the rules refuse leaves nothing.  What the store refuses leaves a version,
and every later import skips the document for it; so does a document whose
amounts are all zero, at which the import panics.
-/

namespace QuickBooks

open ExceptPrograms TransactionPrograms TransitionRuns

namespace Authnet

def Saved (documentId : String) (ledger : Ledger) : Prop :=
  ledger.documentVersionCount documentId ≠ 0

instance (documentId : String) (ledger : Ledger) : Decidable (Saved documentId ledger) :=
  inferInstanceAs (Decidable (_ ≠ _))

section Turns

variable (config : AuthnetConfig) (actor : String)

abbrev AuthnetConfig.context : PostingContext :=
  settlementContext config.undeposited

def takeTurn (doc : LedgerDocument) (ledger : Ledger) : Except TurnFailure Unit × Ledger :=
  if Saved doc.documentId ledger then (.ok (), ledger)
  else execute (postSettlementDocument config actor doc) ledger

def documentStep (doc : LedgerDocument) (ledger : Ledger) : Ledger :=
  (takeTurn config actor doc ledger).2

abbrev withVersion (doc : LedgerDocument) (ledger : Ledger) : Ledger :=
  ledger.recordVersion doc ⟨actor, "authnet_import"⟩

/-- How a document's turn ends. -/
inductive Turn (doc : LedgerDocument) (ledger : Ledger) :
    Except TurnFailure Unit × Ledger → Prop
  | skipped (saved : Saved doc.documentId ledger) : Turn doc ledger (.ok (), ledger)
  | refused (unsaved : ¬ Saved doc.documentId ledger) (refusal : PostError)
      (refuses : post doc 1 config.context = .error refusal) :
      Turn doc ledger (.error (.rejected (.post refusal)), ledger)
  | posted (unsaved : ¬ Saved doc.documentId ledger) (entry : JournalEntry)
      (reposts : ledger.Reposts doc config.context (.entry entry)) :
      Turn doc ledger (.ok (), (withVersion actor doc ledger).recordEntry entry)
  | notTaken (unsaved : ¬ Saved doc.documentId ledger) (entry : JournalEntry)
      (posts : post doc 1 config.context = .ok (.entry entry)) (refused : ¬ ledger.Takes entry)
      (failure : LedgerError) :
      Turn doc ledger (.error (.rejected failure), withVersion actor doc ledger)
  | panicked (unsaved : ¬ Saved doc.documentId ledger)
      (posts : post doc 1 config.context = .ok .nonPosting) :
      Turn doc ledger (.error .panicked, withVersion actor doc ledger)

variable {config actor} {doc : LedgerDocument} {ledger : Ledger}

theorem execute_postSettlementDocument :
    execute (postSettlementDocument config actor doc) ledger =
      match execute (postThenSave doc config.context ⟨actor, "authnet_import"⟩) ledger with
      | (.ok (_, none), after) => (.error .panicked, after)
      | (.ok (_, some _), after) => (.ok (), after)
      | (.error failure, after) => (.error (.rejected failure), after) := by
  rcases saving : execute (postThenSave doc config.context ⟨actor, "authnet_import"⟩) ledger with
    ⟨outcome, after⟩
  have converts : execute (refusingWith TurnFailure.rejected
      (postThenSave doc config.context ⟨actor, "authnet_import"⟩)) ledger =
        (outcome.mapError .rejected, after) := by
    rw [execute_refusingWith, saving]
  cases outcome with
  | error failure => exact execute_bind_error _ converts
  | ok result =>
    obtain ⟨version, entryId⟩ := result
    cases entryId with
    | none => exact execute_bind_ok _ converts
    | some entryId => exact execute_bind_ok _ converts

theorem post_of_unsaved (wellFormed : ledger.WellFormed)
    (unsaved : ¬ Saved doc.documentId ledger) (ctx : PostingContext) :
    post doc (ledger.previousVersion doc.documentId + 1) ctx = post doc 1 ctx := by
  rw [wellFormed.previousVersion_eq_count, not_not.mp unsaved]

theorem takeTurn_turn (wellFormed : ledger.WellFormed) :
    Turn config actor doc ledger (takeTurn config actor doc ledger) := by
  unfold takeTurn
  split_ifs with saved
  · exact .skipped saved
  rw [execute_postSettlementDocument]
  have derives : post doc (ledger.previousVersion doc.documentId + 1) config.context =
      post doc 1 config.context := post_of_unsaved wellFormed saved _
  cases posts : post doc 1 config.context with
  | error refusal =>
    rw [execute_postThenSave_of_refused _ (by rw [not_not.mp saved]; exact posts)]
    exact .refused saved refusal posts
  | ok posting =>
    rw [posts] at derives
    cases posting with
    | nonPosting =>
      rw [execute_postThenSave_of_nonPosting _ wellFormed derives]
      exact .panicked saved posts
    | entry entry =>
      by_cases takes : ledger.Takes entry
      · have reposts : ledger.Reposts doc config.context (.entry entry) := by
          refine ⟨derives, ?_⟩
          rintro _ ⟨⟩
          exact takes
        rw [execute_postThenSave_of_reposts _ wellFormed reposts]
        exact .posted saved entry reposts
      · obtain ⟨failure, refuses⟩ : ∃ failure,
            execute (postThenSave doc config.context ⟨actor, "authnet_import"⟩) ledger =
              (.error failure, withVersion actor doc ledger) :=
          execute_postThenSave_of_not_taken _ wellFormed derives takes
        rw [refuses]
        exact .notTaken saved entry posts takes failure

theorem documentStep_eq (doc : LedgerDocument) (ledger : Ledger) :
    documentStep config actor doc ledger =
      (execute (importSettlementDocument doc config.undeposited actor) ledger).2 := by
  unfold documentStep takeTurn importSettlementDocument
  rw [execute_bind_ok _ (execute_get ledger)]
  by_cases saved : Saved doc.documentId ledger
  · rw [if_pos saved, if_neg saved]
    rfl
  · rw [if_neg saved, if_pos (not_not.mp saved), execute_postSettlementDocument]
    rcases saving : execute (postThenSave doc config.context
      ⟨actor, "authnet_import"⟩) ledger with ⟨outcome, after⟩
    cases outcome with
    | error failure => exact (congrArg Prod.snd (execute_bind_error _ saving)).symm
    | ok result =>
      obtain ⟨version, entryId⟩ := result
      symm
      cases entryId with
      | none => exact (congrArg Prod.snd (execute_bind_ok _ saving)).trans rfl
      | some entryId => exact (congrArg Prod.snd (execute_bind_ok _ saving)).trans rfl

theorem documentStep_wellFormed (wellFormed : ledger.WellFormed) :
    (documentStep config actor doc ledger).WellFormed := by
  rw [documentStep_eq]
  exact (importSettlementDocument_respects (Set.subset_univ _) ledger).wellFormed wellFormed

/-- A document that is rejected leaves the ledger as it was. -/
def RejectsCleanly (config : AuthnetConfig) (actor : String) (doc : LedgerDocument)
    (ledger : Ledger) : Prop :=
  ∀ failure after, takeTurn config actor doc ledger = (.error (.rejected failure), after) →
    after = ledger

/-- What the rules make of a document without a version is an entry that the
store takes. -/
def StoreTakes (config : AuthnetConfig) (doc : LedgerDocument) (ledger : Ledger) : Prop :=
  ¬ Saved doc.documentId ledger → ∀ posting, post doc 1 config.context = .ok posting →
    ∃ entry, posting = .entry entry ∧ ledger.Takes entry

/-- No version of the document, or one with exactly one live entry. -/
def PostedOnce (documentId : String) (ledger : Ledger) : Prop :=
  ¬ Saved documentId ledger ∨
    ledger.documentVersionCount documentId = 1 ∧
      ∃ posted, ledger.liveEntriesForDocument documentId = [posted]

@[simp]
theorem documentVersionCount_recordVersion (ledger : Ledger) (doc : LedgerDocument)
    (command : CommandMeta) (documentId : String) :
    (ledger.recordVersion doc command).documentVersionCount documentId =
      ledger.documentVersionCount documentId + if doc.documentId = documentId then 1 else 0 := by
  unfold Ledger.documentVersionCount
  rw [Ledger.versionsOf_recordVersion, List.length_append]
  split_ifs <;> rfl

theorem saved_withVersion {documentId : String} :
    Saved documentId (withVersion actor doc ledger) ↔
      Saved documentId ledger ∨ doc.documentId = documentId := by
  unfold Saved
  rw [documentVersionCount_recordVersion]
  split_ifs with same <;> simp [same]

theorem live_of_unsaved (wellFormed : ledger.WellFormed)
    (unsaved : ¬ Saved doc.documentId ledger) :
    (withVersion actor doc ledger).liveEntriesForDocument doc.documentId = [] :=
  Ledger.live_of_no_entries
    (wellFormed.entries_of_unseen (List.length_eq_zero_iff.mp (not_not.mp unsaved)))

theorem postedOnce_of_reposts (wellFormed : ledger.WellFormed)
    (unsaved : ¬ Saved doc.documentId ledger) {entry : JournalEntry}
    (reposts : ledger.Reposts doc config.context (.entry entry)) :
    let after := (withVersion actor doc ledger).recordEntry entry
    after.documentVersionCount doc.documentId = 1 ∧
      ∃ posted, after.liveEntriesForDocument doc.documentId = [posted] := by
  intro after
  obtain ⟨sameId, -, original, -⟩ := post_entry_source reposts.posts
  have accepted : (withVersion actor doc ledger).Accepts entry :=
    (Ledger.accepts_derived_iff reposts.posts).mpr (reposts.takes entry rfl)
  have versioned : (withVersion actor doc ledger).WellFormed :=
    wellFormed.recordVersion doc _
  have live := Ledger.live_recordEntry_original_perm versioned
    (versioned.recordEntry accepted) original
  rw [sameId, live_of_unsaved wellFormed unsaved, List.nil_append,
    List.perm_singleton] at live
  refine ⟨?_, _, live⟩
  have counted : (withVersion actor doc ledger).documentVersionCount doc.documentId = 1 := by
    simp [not_not.mp unsaved]
  exact counted

theorem postedOnce_documentStep_other (wellFormed : ledger.WellFormed) {documentId : String}
    (other : doc.documentId ≠ documentId) :
    PostedOnce documentId (documentStep config actor doc ledger) ↔
      PostedOnce documentId ledger := by
  have versioned : PostedOnce documentId (withVersion actor doc ledger) ↔
      PostedOnce documentId ledger := by
    have counted : (withVersion actor doc ledger).documentVersionCount documentId =
        ledger.documentVersionCount documentId := by
      simp [other]
    unfold PostedOnce Saved
    rw [counted]
    exact Iff.rfl
  have turn : Turn config actor doc ledger (takeTurn config actor doc ledger) :=
    takeTurn_turn wellFormed
  unfold documentStep
  generalize takeTurn config actor doc ledger = outcome at turn
  cases turn with
  | skipped saved => exact Iff.rfl
  | refused unsaved refusal refuses => exact Iff.rfl
  | notTaken unsaved entry posts refused failure => exact versioned
  | panicked unsaved posts => exact versioned
  | posted unsaved entry reposts =>
    rw [← versioned]
    have otherEntry : entry.sourceId ≠ documentId := by
      rw [(post_entry_source reposts.posts).1]
      exact other
    unfold PostedOnce
    rw [Ledger.live_recordEntry_other otherEntry]
    exact Iff.rfl

theorem postedOnce_documentStep (wellFormed : ledger.WellFormed) {documentId : String}
    (takes : StoreTakes config doc ledger) :
    PostedOnce documentId (documentStep config actor doc ledger) ↔
      PostedOnce documentId ledger := by
  by_cases other : doc.documentId = documentId
  case neg => exact postedOnce_documentStep_other wellFormed other
  subst other
  have turn : Turn config actor doc ledger (takeTurn config actor doc ledger) :=
    takeTurn_turn wellFormed
  unfold documentStep
  generalize takeTurn config actor doc ledger = outcome at turn
  cases turn with
  | skipped saved => exact Iff.rfl
  | refused unsaved refusal refuses => exact Iff.rfl
  | posted unsaved entry reposts =>
    exact iff_of_true (.inr (postedOnce_of_reposts wellFormed unsaved reposts)) (.inl unsaved)
  | notTaken unsaved entry posts refused failure =>
    obtain ⟨other, isEntry, taken⟩ := takes unsaved _ posts
    cases isEntry
    exact absurd taken refused
  | panicked unsaved posts =>
    obtain ⟨other, isEntry, -⟩ := takes unsaved _ posts
    cases isEntry

theorem storeTakes_of_ok (wellFormed : ledger.WellFormed) {outcome : Except TurnFailure Unit}
    {after : Ledger} (turn : Turn config actor doc ledger (outcome, after))
    (clean : outcome = .ok () ∨ after = ledger) : StoreTakes config doc ledger := by
  intro unsaved posting posts
  have notSame : withVersion actor doc ledger ≠ ledger := by
    intro same
    have saved : Saved doc.documentId (withVersion actor doc ledger) :=
      saved_withVersion.mpr (.inr rfl)
    rw [same] at saved
    exact unsaved saved
  cases turn with
  | skipped saved => exact absurd saved unsaved
  | refused unsaved refusal refuses =>
    rw [refuses] at posts
    cases posts
  | posted unsaved entry reposts =>
    have derives := reposts.posts
    rw [post_of_unsaved wellFormed unsaved, posts, Except.ok.injEq] at derives
    exact ⟨entry, derives, reposts.takes entry rfl⟩
  | notTaken unsaved entry posts refused failure =>
    rcases clean with isOk | same
    · cases isOk
    · exact absurd same notSame
  | panicked unsaved posts =>
    rcases clean with isOk | same
    · cases isOk
    · exact absurd same notSame

end Turns

section Loop

variable (config : AuthnetConfig) (actor : String)

/-- The documents that get their turn, up to the first at which the import
panics. -/
def turns : List LedgerDocument → Ledger → List LedgerDocument
  | [], _ => []
  | doc :: docs, ledger =>
    match (takeTurn config actor doc ledger).1 with
    | .error .panicked => [doc]
    | _ => doc :: turns docs (documentStep config actor doc ledger)

/-- The reports of the documents that are rejected at their turns. -/
def rejections : List LedgerDocument → Ledger → List String
  | [], _ => []
  | doc :: docs, ledger =>
    match (takeTurn config actor doc ledger).1 with
    | .error .panicked => []
    | .error (.rejected failure) => (doc.documentId ++ ": " ++ failure.message) ::
        rejections docs (documentStep config actor doc ledger)
    | .ok _ => rejections docs (documentStep config actor doc ledger)

variable {config actor} {ledger : Ledger}

@[simp]
theorem rejected_counting (report : ImportReport) (doc : LedgerDocument) :
    (report.counting doc).rejected = report.rejected := by
  unfold ImportReport.counting
  cases doc.kind <;> try rfl
  dsimp only
  split_ifs <;> rfl

theorem execute_postSettlementDocuments (docs : List LedgerDocument) (report : ImportReport) :
    (∃ answer, execute (postSettlementDocuments config actor docs report) ledger =
        (.ok answer, runFrom (documentStep config actor) ledger docs) ∧
      answer.rejected = report.rejected ++ rejections config actor docs ledger ∧
      turns config actor docs ledger = docs) ∨
    execute (postSettlementDocuments config actor docs report) ledger =
      (.error .panicked,
        runFrom (documentStep config actor) ledger (turns config actor docs ledger)) := by
  induction docs generalizing ledger report with
  | nil => exact .inl ⟨report, rfl, (List.append_nil _).symm, rfl⟩
  | cons doc docs ih =>
    have continues : ∀ (middle : Ledger) (later : ImportReport) (reports : List String),
        later.rejected = report.rejected ++ reports →
        (∃ answer, execute (postSettlementDocuments config actor docs later) middle =
            (.ok answer, runFrom (documentStep config actor) middle docs) ∧
          answer.rejected = report.rejected ++
            (reports ++ rejections config actor docs middle) ∧
          doc :: turns config actor docs middle = doc :: docs) ∨
        execute (postSettlementDocuments config actor docs later) middle =
          (.error .panicked, runFrom (documentStep config actor) middle
            (turns config actor docs middle)) := by
      intro middle later reports reported
      rcases @ih middle later with ⟨answer, runs, rejected, allTurns⟩ | panics
      · refine .inl ⟨answer, runs, ?_, by rw [allTurns]⟩
        rw [rejected, reported, List.append_assoc]
      · exact .inr panics
    rw [postSettlementDocuments, execute_bind_ok _ (execute_get ledger)]
    unfold rejections turns
    by_cases saved : Saved doc.documentId ledger
    · have skips : takeTurn config actor doc ledger = (.ok (), ledger) := if_pos saved
      rw [if_neg saved, skips]
      unfold documentStep at continues ⊢
      simp only [runFrom_cons, skips]
      exact continues ledger _ [] (List.append_nil _).symm
    · have turn : takeTurn config actor doc ledger =
          execute (postSettlementDocument config actor doc) ledger := if_neg saved
      rw [if_pos (not_not.mp saved), execute_bind_ok _ (execute_attempt _ _), ← turn]
      rcases taken : takeTurn config actor doc ledger with ⟨outcome, middle⟩
      unfold documentStep at continues ⊢
      rcases outcome with (failure | -) | isOk
      · simp only [runFrom_cons, taken]
        exact continues middle (report.rejecting doc failure) [_] rfl
      · right
        simp only [runFrom_cons, taken]
        rfl
      · simp only [runFrom_cons, taken]
        exact continues middle (report.counting doc) [] (by simp)

/-- The documents of a list that are rejected leave nothing, and none is left
saved with nothing live. -/
def ExactlyOnce (config : AuthnetConfig) (actor : String) (docs : List LedgerDocument)
    (ledger : Ledger) : Prop :=
  EveryStep (documentStep config actor) (RejectsCleanly config actor) ledger docs ∧
    ∀ documentId, PostedOnce documentId ledger →
      PostedOnce documentId (runFrom (documentStep config actor) ledger docs)

theorem exactlyOnce_turns_iff (wellFormed : ledger.WellFormed) (docs : List LedgerDocument) :
    ExactlyOnce config actor (turns config actor docs ledger) ledger ↔
      EveryStep (documentStep config actor) (StoreTakes config) ledger
        (turns config actor docs ledger) := by
  induction docs generalizing ledger with
  | nil => exact iff_of_true ⟨trivial, fun _ once => once⟩ trivial
  | cons doc docs ih =>
    have turn : Turn config actor doc ledger (takeTurn config actor doc ledger) :=
      takeTurn_turn wellFormed
    have goesOn : ∀ outcome, takeTurn config actor doc ledger = outcome →
        (∀ failure, outcome.1 = .error failure → failure ≠ .panicked) →
        turns config actor (doc :: docs) ledger =
          doc :: turns config actor docs (documentStep config actor doc ledger) := by
      rintro ⟨outcome, after⟩ taken notPanicked
      rw [turns, taken]
      rcases outcome with (failure | -) | isOk
      · rfl
      · exact absurd rfl (notPanicked .panicked rfl)
      · rfl
    -- a turn that meets the condition changes neither side for the rest
    have goingOn : turns config actor (doc :: docs) ledger =
          doc :: turns config actor docs (documentStep config actor doc ledger) →
        RejectsCleanly config actor doc ledger → StoreTakes config doc ledger →
          (ExactlyOnce config actor (turns config actor (doc :: docs) ledger) ledger ↔
            EveryStep (documentStep config actor) (StoreTakes config) ledger
              (turns config actor (doc :: docs) ledger)) := by
      intro listed clean takes
      rw [listed]
      simp only [ExactlyOnce, EveryStep, runFrom_cons] at ih ⊢
      rw [← ih (documentStep_wellFormed wellFormed)]
      simp only [postedOnce_documentStep wellFormed takes, clean, takes, true_and]
    rcases taken : takeTurn config actor doc ledger with ⟨outcome, after⟩
    rw [taken] at turn
    have met : outcome = .ok () ∨ after = ledger → StoreTakes config doc ledger :=
      storeTakes_of_ok wellFormed turn
    cases turn with
    | skipped saved =>
      refine goingOn (goesOn _ taken fun _ isError => by cases isError) ?_ (met (.inl rfl))
      intro failure after runs
      rw [taken] at runs
      cases runs
    | refused unsaved refusal refuses =>
      refine goingOn (goesOn _ taken ?_) ?_ (met (.inr rfl))
      · rintro _ ⟨⟩ isPanic
        cases isPanic
      · intro failure after runs
        rw [taken] at runs
        cases runs
        rfl
    | posted unsaved entry reposts =>
      refine goingOn (goesOn _ taken fun _ isError => by cases isError) ?_ (met (.inl rfl))
      intro failure after runs
      rw [taken] at runs
      cases runs
    | notTaken unsaved entry posts notTakes failure =>
      rw [goesOn _ taken (by rintro _ ⟨⟩ isPanic; cases isPanic)]
      refine iff_of_false ?_ ?_
      · rintro ⟨⟨clean, -⟩, -⟩
        have same := clean failure _ taken
        have saved : Saved doc.documentId (withVersion actor doc ledger) :=
          saved_withVersion.mpr (.inr rfl)
        rw [same] at saved
        exact unsaved saved
      · rintro ⟨takes, -⟩
        obtain ⟨other, isEntry, taken⟩ := takes unsaved _ posts
        cases isEntry
        exact notTakes taken
    | panicked unsaved posts =>
      have stops : turns config actor (doc :: docs) ledger = [doc] := by
        rw [turns, taken]
      rw [stops]
      refine iff_of_false ?_ ?_
      · rintro ⟨-, once⟩
        have after : documentStep config actor doc ledger = withVersion actor doc ledger :=
          congrArg Prod.snd taken
        have left := once doc.documentId (.inl unsaved)
        rw [runFrom_cons, runFrom_nil, after] at left
        rcases left with notSaved | ⟨-, posted, live⟩
        · exact notSaved (saved_withVersion.mpr (.inr rfl))
        · rw [live_of_unsaved wellFormed unsaved] at live
          cases live
      · rintro ⟨takes, -⟩
        obtain ⟨other, isEntry, -⟩ := takes unsaved _ posts
        cases isEntry

end Loop

section Kept

variable {config : AuthnetConfig} {ledger : Ledger} {actor documentId : String}

theorem saved_documentStep (wellFormed : ledger.WellFormed) (saved : Saved documentId ledger)
    (doc : LedgerDocument) : Saved documentId (documentStep config actor doc ledger) := by
  have recorded : Saved documentId (withVersion actor doc ledger) :=
    saved_withVersion.mpr (.inl saved)
  have turn : Turn config actor doc ledger (takeTurn config actor doc ledger) :=
    takeTurn_turn wellFormed
  unfold documentStep
  generalize takeTurn config actor doc ledger = outcome at turn
  cases turn with
  | skipped | refused => exact saved
  | posted | notTaken | panicked => exact recorded

theorem saved_runFrom (wellFormed : ledger.WellFormed) (saved : Saved documentId ledger)
    (docs : List LedgerDocument) :
    Saved documentId (runFrom (documentStep config actor) ledger docs) := by
  induction docs generalizing ledger with
  | nil => exact saved
  | cons doc docs ih =>
    exact ih (documentStep_wellFormed wellFormed) (saved_documentStep wellFormed saved doc)

theorem saved_of_rejections_eq_nil (wellFormed : ledger.WellFormed) {docs : List LedgerDocument}
    (allTurns : turns config actor docs ledger = docs)
    (accepted : rejections config actor docs ledger = []) {doc : LedgerDocument}
    (docMem : doc ∈ docs) :
    Saved doc.documentId (runFrom (documentStep config actor) ledger docs) := by
  induction docs generalizing ledger with
  | nil => cases docMem
  | cons first docs ih =>
    have turn : Turn config actor first ledger (takeTurn config actor first ledger) :=
      takeTurn_turn wellFormed
    have stepWellFormed : (documentStep config actor first ledger).WellFormed :=
      documentStep_wellFormed wellFormed
    -- a turn that is neither refused nor a panic leaves the document saved
    have goesOn : (takeTurn config actor first ledger).1 = .ok () →
        Saved first.documentId (documentStep config actor first ledger) →
        Saved doc.documentId
          (runFrom (documentStep config actor) ledger (first :: docs)) := by
      intro answers saved
      rw [rejections, answers] at accepted
      rw [turns, answers, List.cons.injEq] at allTurns
      rcases List.mem_cons.mp docMem with rfl | later
      · exact saved_runFrom stepWellFormed saved docs
      · exact ih stepWellFormed allTurns.2 accepted later
    rcases taken : takeTurn config actor first ledger with ⟨outcome, after⟩
    rw [taken] at turn
    have stepEq : documentStep config actor first ledger = after := congrArg Prod.snd taken
    cases turn with
    | skipped saved =>
      refine goesOn (congrArg Prod.fst taken) ?_
      rw [stepEq]
      exact saved
    | posted unsaved entry reposts =>
      refine goesOn (congrArg Prod.fst taken) ?_
      rw [stepEq]
      exact (saved_withVersion.mpr (.inr rfl) :
        Saved first.documentId (withVersion actor first ledger))
    | refused unsaved refusal refuses =>
      rw [rejections, taken] at accepted
      cases accepted
    | notTaken unsaved entry posts refused failure =>
      rw [rejections, taken] at accepted
      cases accepted
    | panicked unsaved posts =>
      rw [turns, taken, List.cons.injEq] at allTurns
      have noMore : docs = [] := allTurns.2.symm
      subst noMore
      rw [List.mem_singleton.mp docMem, runFrom_cons, runFrom_nil, stepEq]
      exact saved_withVersion.mpr (.inr rfl)

theorem turns_of_saved {docs : List LedgerDocument}
    (saved : ∀ doc ∈ docs, Saved doc.documentId ledger) :
    turns config actor docs ledger = docs ∧
      runFrom (documentStep config actor) ledger docs = ledger := by
  induction docs with
  | nil => exact ⟨rfl, rfl⟩
  | cons doc docs ih =>
    have taken : takeTurn config actor doc ledger = (.ok (), ledger) :=
      if_pos (saved doc List.mem_cons_self)
    have skips : documentStep config actor doc ledger = ledger := congrArg Prod.snd taken
    obtain ⟨allTurns, unchanged⟩ :=
      ih fun other otherMem => saved other (List.mem_cons_of_mem _ otherMem)
    rw [turns, taken, runFrom_cons, skips]
    exact ⟨congrArg _ allTurns, unchanged⟩

end Kept

end Authnet

end QuickBooks
