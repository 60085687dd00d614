import QuickBooks.RepeatedImports

/-!
# Deriving the journal again

Every producer but the opening balances posts what the rules derive from the
version it saves, so its entries can be derived again from the stored
documents.  The opening balances post an entry built beside their document.
The lines of that document are account lines without a side, from which the
rules of a journal document derive nothing, so the entry of an applied opening
can never be derived again.
-/

namespace QuickBooks

open ExceptPrograms TransactionPrograms TransitionRuns
open Ledger

namespace Ledger

variable {permitted : Set WriteKind} {contexts : Set PostingContext}
  {before after : Ledger}

/-- Every original entry is what the rules derive, under one of the contexts,
from the stored document version that it names. -/
def Rederives (ledger : Ledger) (contexts : Set PostingContext) : Prop :=
  ∀ posted ∈ ledger.journal, posted.entry.reversalOf = none →
    ∃ doc, ∃ ctx ∈ contexts,
      ledger.documentAt posted.entry.sourceId posted.entry.sourceVersion = some doc ∧
      post doc posted.entry.sourceVersion ctx = .ok (.entry posted.entry)

/-- An original entry whose document derives no entry at all. -/
def HoldsSupplied (ledger : Ledger) : Prop :=
  ∃ posted ∈ ledger.journal, posted.entry.reversalOf = none ∧
    ∃ doc, ledger.documentAt posted.entry.sourceId posted.entry.sourceVersion = some doc ∧
      ∀ version ctx derived, post doc version ctx ≠ .ok (.entry derived)

theorem HoldsSupplied.not_rederives {ledger : Ledger} (holds : ledger.HoldsSupplied) :
    ¬ledger.Rederives contexts := by
  intro rederives
  obtain ⟨posted, postedMem, original, doc, saved, derivesNothing⟩ := holds
  obtain ⟨other, ctx, -, otherSaved, posts⟩ := rederives posted postedMem original
  rw [saved, Option.some.injEq] at otherSaved
  rw [← otherSaved] at posts
  exact derivesNothing _ _ _ posts

theorem Rederives.mono {more : Set PostingContext} {ledger : Ledger}
    (rederives : ledger.Rederives contexts) (included : contexts ⊆ more) :
    ledger.Rederives more := by
  intro posted postedMem original
  obtain ⟨doc, ctx, ctxMem, saved, posts⟩ := rederives posted postedMem original
  exact ⟨doc, ctx, included ctxMem, saved, posts⟩

section Writes

theorem Write.documentAt_of_some {kind : WriteKind} (write : Write kind before after)
    {documentId : String} {version : Nat} {doc : LedgerDocument}
    (saved : before.documentAt documentId version = some doc) :
    after.documentAt documentId version = some doc := by
  cases write with
  | version => exact documentAt_recordVersion_of_some _ _ _ saved
  | derivedEntry | suppliedEntry | liveReversal | strayReversal | snapshot | close
  | reopen => exact saved
  | masterData change =>
    rw [change.sameBooks]
    exact saved

theorem Write.holdsSupplied {kind : WriteKind} (write : Write kind before after)
    (holds : before.HoldsSupplied) : after.HoldsSupplied := by
  obtain ⟨posted, postedMem, original, doc, saved, derivesNothing⟩ := holds
  exact ⟨posted, write.journal_prefix.subset postedMem, original, doc,
    write.documentAt_of_some saved, derivesNothing⟩

theorem Write.rederives {kind : WriteKind} (write : Write kind before after)
    (notSupplied : ∀ documentId, kind ≠ .suppliedEntry documentId)
    (fromContexts : ∀ documentId ctx, kind = .derivedEntry documentId ctx → ctx ∈ contexts)
    (rederives : before.Rederives contexts) : after.Rederives contexts := by
  -- an entry that was there before keeps its document
  have old_case : ∀ posted ∈ before.journal, posted.entry.reversalOf = none →
      ∃ doc, ∃ ctx ∈ contexts,
        after.documentAt posted.entry.sourceId posted.entry.sourceVersion = some doc ∧
        post doc posted.entry.sourceVersion ctx = .ok (.entry posted.entry) := by
    intro posted postedMem original
    obtain ⟨doc, ctx, ctxMem, saved, posts⟩ := rederives posted postedMem original
    exact ⟨doc, ctx, ctxMem, write.documentAt_of_some saved, posts⟩
  cases write with
  | version | snapshot | close | reopen => exact old_case
  | masterData change =>
    intro posted postedMem
    rw [change.sameBooks] at postedMem
    exact old_case posted postedMem
  | suppliedEntry => exact absurd rfl (notSupplied _)
  | liveReversal live reverses accepted =>
    intro posted postedMem original
    rcases mem_journal_recordEntry.mp postedMem with old | new
    · exact old_case posted old original
    · rw [new, stored_reversalOf, reverses.reversalOf] at original
      cases original
  | strayReversal reverses accepted =>
    intro posted postedMem original
    rcases mem_journal_recordEntry.mp postedMem with old | new
    · exact old_case posted old original
    · rw [new, stored_reversalOf, reverses] at original
      cases original
  | derivedEntry ctx saved posts accepted =>
    intro posted postedMem original
    rcases mem_journal_recordEntry.mp postedMem with old | new
    · exact old_case posted old original
    · rw [new, stored_of_post posts]
      exact ⟨_, ctx, fromContexts _ ctx rfl, saved, posts⟩

theorem Evolves.rederives (evolves : Evolves permitted before after)
    (wellFormed : before.WellFormed)
    (notSupplied : ∀ documentId, .suppliedEntry documentId ∉ permitted)
    (fromContexts : ∀ documentId ctx, .derivedEntry documentId ctx ∈ permitted →
      ctx ∈ contexts)
    (rederives : before.Rederives contexts) : after.Rederives contexts := by
  apply evolves.keeps wellFormed (fun ledger => ledger.Rederives contexts) ?_ rederives
  intro kind allowed earlier later _ write holds
  exact write.rederives (fun _ isSupplied => notSupplied _ (isSupplied ▸ allowed))
    (fun _ _ isDerived => fromContexts _ _ (isDerived ▸ allowed)) holds

end Writes

end Ledger

section OpeningDocuments

theorem post_of_no_journal_lines {doc : LedgerDocument} {version : Nat}
    {ctx : PostingContext} (isJournal : doc.kind = .journalEntry)
    (noJournal : ∀ line ∈ doc.lines, line.kind ≠ .journal) :
    post doc version ctx = .ok .nonPosting := by
  have noLegs : ∀ lines : List DocLine, (∀ line ∈ lines, line.kind ≠ .journal) →
      lines.foldlM (journalLeg doc) [] = .ok [] := by
    intro lines others
    induction lines with
    | nil => rfl
    | cons line lines ih =>
      have skips : journalLeg doc [] line = .ok [] := by
        unfold journalLeg
        rw [if_pos (.inl (others line List.mem_cons_self))]
        rfl
      rw [List.foldlM_cons, skips]
      exact ih fun other otherMem => others other (List.mem_cons_of_mem _ otherMem)
  have legs : postingLegs doc ctx = .ok [] := by
    unfold postingLegs
    rw [isJournal]
    exact noLegs doc.lines noJournal
  unfold post
  rw [if_neg (by rw [isJournal]; decide), legs]
  rfl

def IsOpeningDocument (doc : LedgerDocument) : Prop :=
  doc.kind = .journalEntry ∧ ∀ line ∈ doc.lines, line.kind = .account

theorem addRow_docLines {mapping : List MappedAccount} {built result : OpeningLines}
    {row : QboTbRow} (adds : built.addRow mapping row = .ok result)
    (accountLines : ∀ line ∈ built.docLines, line.kind = .account) :
    ∀ line ∈ result.docLines, line.kind = .account := by
  have appended : ∀ (lineNo : Int) (account : AccountId) (amount : Money)
      («class» : Option ClassId) (description : String),
      ∀ line ∈ built.docLines ++
        [openingDocLine lineNo account amount «class» description], line.kind = .account := by
    intro lineNo account amount «class» description line lineMem
    rcases List.mem_append.mp lineMem with old | new
    · exact accountLines line old
    · rw [List.mem_singleton.mp new]
      rfl
  unfold OpeningLines.addRow at adds
  rw [bind_eq_ok_iff] at adds
  obtain ⟨mapped, _, adds⟩ := adds
  cases negative : row.balance.isNegative with
  | false =>
    simp only [negative, Bool.false_eq_true, if_false, if_true, bind_eq_ok_iff,
      pure_eq_ok_iff] at adds
    obtain ⟨_, _, _, _, _, _, rfl⟩ := adds
    exact appended _ _ _ _ _
  | true =>
    simp only [negative, if_true, reduceCtorEq, if_false, bind_eq_ok_iff,
      pure_eq_ok_iff] at adds
    obtain ⟨_, _, _, _, _, _, rfl⟩ := adds
    exact appended _ _ _ _ _

theorem addPlug_docLines {built result : OpeningLines} (adds : built.addPlug = .ok result)
    (accountLines : ∀ line ∈ built.docLines, line.kind = .account) :
    ∀ line ∈ result.docLines, line.kind = .account := by
  unfold OpeningLines.addPlug at adds
  rw [bind_eq_ok_iff] at adds
  obtain ⟨difference, _, adds⟩ := adds
  split_ifs at adds
  · rw [pure_eq_ok_iff] at adds
    subst adds
    exact accountLines
  all_goals
    simp only [bind_eq_ok_iff, pure_eq_ok_iff] at adds
    try obtain ⟨amount, _, adds⟩ := adds
    subst adds
    intro line lineMem
    rcases List.mem_append.mp lineMem with old | new
    · exact accountLines line old
    · rw [List.mem_singleton.mp new]
      rfl

theorem openingBalanceEntry_document {company : String} {asOf : Date}
    {qboTb : List QboTbRow} {mapping : List MappedAccount}
    {opening : LedgerDocument × JournalEntry}
    (builds : openingBalanceEntry company asOf qboTb mapping = .ok opening) :
    IsOpeningDocument opening.1 := by
  unfold openingBalanceEntry at builds
  rw [bind_eq_ok_iff] at builds
  obtain ⟨rows, addsRows, builds⟩ := builds
  rw [bind_eq_ok_iff] at builds
  obtain ⟨built, plugs, builds⟩ := builds
  rw [pure_eq_ok_iff] at builds
  subst builds
  have rowLines : ∀ line ∈ rows.docLines, line.kind = .account :=
    foldlM_invariant
      (fun _ (built : OpeningLines) => ∀ line ∈ built.docLines, line.kind = .account)
      (fun _ _ _ _ holds step => addRow_docLines step holds)
      (by simp) addsRows
  exact ⟨rfl, addPlug_docLines plugs rowLines⟩

theorem IsOpeningDocument.withUnappliedReclass {asOf : Date} {unapplied : Money}
    {opening : LedgerDocument × JournalEntry} (isOpening : IsOpeningDocument opening.1) :
    IsOpeningDocument (withUnappliedReclass asOf unapplied opening).1 := by
  unfold QuickBooks.withUnappliedReclass
  split
  · exact isOpening
  · refine ⟨isOpening.1, ?_⟩
    intro line lineMem
    rcases List.mem_append.mp lineMem with old | new
    · exact isOpening.2 line old
    · rcases List.mem_cons.mp new with first | second
      · rw [first]
        rfl
      · rw [List.mem_singleton.mp second]
        rfl

theorem openingBalanceEntry_date {company : String} {asOf : Date}
    {qboTb : List QboTbRow} {mapping : List MappedAccount}
    {opening : LedgerDocument × JournalEntry}
    (builds : openingBalanceEntry company asOf qboTb mapping = .ok opening) :
    opening.1.txnDate = opening.2.entryDate := by
  unfold openingBalanceEntry at builds
  simp only [bind_eq_ok_iff, pure_eq_ok_iff] at builds
  obtain ⟨rows, _, built, _, rfl⟩ := builds
  rfl

theorem withUnappliedReclass_date (asOf : Date) (unapplied : Money)
    {opening : LedgerDocument × JournalEntry}
    (sameDate : opening.1.txnDate = opening.2.entryDate) :
    (withUnappliedReclass asOf unapplied opening).1.txnDate =
      (withUnappliedReclass asOf unapplied opening).2.entryDate := by
  unfold QuickBooks.withUnappliedReclass
  split
  · exact sameDate
  · exact sameDate

theorem IsOpeningDocument.derivesNothing {doc : LedgerDocument}
    (isOpening : IsOpeningDocument doc) (version : Nat) (ctx : PostingContext)
    (derived : JournalEntry) : post doc version ctx ≠ .ok (.entry derived) := by
  rw [post_of_no_journal_lines isOpening.1 fun line lineMem isJournal => by
    rw [isOpening.2 line lineMem] at isJournal
    cases isJournal]
  intro isEntry
  cases isEntry

end OpeningDocuments

section Applying

variable {permitted : Set WriteKind} {doc : LedgerDocument} {entry : JournalEntry}
  {kind : String} {ledger : Ledger} {on : Date}

/-- The reversals of some posted entries, one after the other. -/
def reverseEach (on : Date) (entries : List PostedEntry) : LedgerProgram Unit :=
  entries.forM fun posted => do
    let _ ← reverseEntry posted.entryId on
    pure ()

theorem reverseEach_cons (posted : PostedEntry) (entries : List PostedEntry) :
    reverseEach on (posted :: entries) =
      reverseEntry posted.entryId on >>= fun _ => reverseEach on entries := by
  unfold reverseEach
  rw [List.forM_eq_forM, List.forM_cons, bind_assoc]
  rfl

theorem execute_reverseEach (on : Date) {entries : List PostedEntry} (wellFormed : ledger.WellFormed)
    (posted : ∀ original ∈ entries, original ∈ ledger.journal) :
    OnlyEntries ledger (execute (reverseEach on entries) ledger).2 ∧
      (ledger.IsOpen on → (execute (reverseEach on entries) ledger).1 = .ok ()) := by
  induction entries generalizing ledger with
  | nil => exact ⟨rfl, fun _ => rfl⟩
  | cons original rest ih =>
    have originalMem := posted original List.mem_cons_self
    have reverses := JournalEntry.reverses_reversed original on
    rw [reverseEach_cons]
    by_cases accepted : ledger.Accepts (original.entry.reversed on original.entryId)
    · have runs : execute (reverseEntry original.entryId on) ledger =
          (.ok ledger.nextEntryId,
            ledger.recordEntry (original.entry.reversed on original.entryId)) := by
        rw [execute_reverseEntry_of_some (wellFormed.entry?_eq_some originalMem),
          execute_postEntry_of_accepts accepted]
      rw [execute_bind_ok _ runs]
      obtain ⟨only, succeeds⟩ := ih (wellFormed.recordEntry accepted) fun other otherMem =>
        mem_journal_recordEntry.mpr (.inl (posted other (List.mem_cons_of_mem _ otherMem)))
      exact ⟨(onlyEntries_recordEntry _ _).trans only, succeeds⟩
    · obtain ⟨failure, refuses⟩ := execute_postEntry_of_not_accepts accepted
      rw [← execute_reverseEntry_of_some (wellFormed.entry?_eq_some originalMem)] at refuses
      rw [execute_bind_error _ refuses]
      refine ⟨rfl, fun dateOpen => ?_⟩
      exact absurd (wellFormed.accepts_reversal originalMem reverses dateOpen) accepted

/-- What the book asks of an opening before it is posted: it is not there
already, and the gate takes its entry. -/
structure Ledger.TakesOpening (ledger : Ledger) (doc : LedgerDocument)
    (entry : JournalEntry) : Prop where
  changed : ¬((!(ledger.entriesForDocument doc.documentId).isEmpty &&
    documentUnchanged ledger doc) = true)
  takes : ledger.Takes entry
  numbered : (entry.lines.map JournalLine.lineNo).Nodup

theorem accepts_opening_iff {middle : Ledger} {command : CommandMeta}
    (sameDocument : doc.documentId = entry.sourceId) (only : OnlyEntries ledger middle) :
    (middle.recordVersion doc command).Accepts
        { entry with sourceVersion := middle.previousVersion doc.documentId + 1 } ↔
      ledger.Takes entry ∧ (entry.lines.map JournalLine.lineNo).Nodup := by
  rw [← only.takes_iff]
  constructor
  · intro accepted
    exact ⟨⟨accepted.dateOpen, accepted.balanced, accepted.classRule⟩, accepted.numbered⟩
  · rintro ⟨takes, numbered⟩
    exact ⟨takes.dateOpen, takes.balanced, takes.classRule,
      ⟨_, List.mem_append_right _ (List.mem_singleton_self _), sameDocument, rfl⟩, numbered⟩

/-- Applying a flagged entry posts it at the very end, or not at all. -/
inductive Applying (permitted : Set WriteKind) (doc : LedgerDocument)
    (entry : JournalEntry) (kind : String) (before start : Ledger) : Ledger → Prop
  | refused {after : Ledger} (history : Evolves permitted before after)
      (refuses : ¬start.TakesOpening doc entry) :
      Applying permitted doc entry kind before start after
  | posted {middle : Ledger} (history : Evolves permitted before middle)
      (takes : start.TakesOpening doc entry) :
      Applying permitted doc entry kind before start
        ((middle.recordVersion doc ⟨kind, kind⟩).recordEntry
          { entry with sourceVersion := middle.previousVersion doc.documentId + 1 })

theorem Applying.of_history {start after : Ledger}
    (history : Evolves permitted ledger start)
    (applying : Applying permitted doc entry kind start start after) :
    Applying permitted doc entry kind ledger start after := by
  cases applying with
  | refused later refuses => exact .refused (history.trans later) refuses
  | posted later takes => exact .posted (history.trans later) takes

theorem applying_replaceFlaggedEntry (wellFormed : ledger.WellFormed)
    (permits : documentWrites doc.documentId ∅ ⊆ permitted)
    (sameDocument : doc.documentId = entry.sourceId) (sameDate : doc.txnDate = entry.entryDate) :
    Applying permitted doc entry kind ledger ledger
      (execute (replaceFlaggedEntry doc entry kind) ledger).2 := by
  unfold replaceFlaggedEntry
  rw [execute_bind_ok _ (execute_get ledger)]
  dsimp only
  split
  · rename_i same
    exact .refused .rfl fun takes => takes.changed same
  · rename_i changed
    change Applying permitted doc entry kind ledger ledger (execute
      (reverseEach doc.txnDate (ledger.liveEntriesForDocument doc.documentId) >>= _) ledger).2
    have history : Evolves permitted ledger (execute (reverseEach doc.txnDate
        (ledger.liveEntriesForDocument doc.documentId)) ledger).2 :=
      reverseEach_evolves (liveReversal_permitted permits) (wellFormed.live_nodup _)
        fun _ _ postedLive => postedLive
    obtain ⟨only, succeeds⟩ := execute_reverseEach doc.txnDate wellFormed
      fun original live => (mem_liveEntriesForDocument.mp live).1.1
    rw [execute_bind]
    rcases runs : execute (reverseEach doc.txnDate
      (ledger.liveEntriesForDocument doc.documentId)) ledger with ⟨outcome, middle⟩
    rw [runs] at history only succeeds
    cases outcome with
    | error failure =>
      refine .refused history fun takes => ?_
      cases succeeds (sameDate ▸ takes.takes.dateOpen)
    | ok _ =>
      dsimp only
      rw [execute_bind_ok _ (execute_saveDocument middle doc ⟨kind, kind⟩)]
      by_cases accepted : (middle.recordVersion doc ⟨kind, kind⟩).Accepts
          { entry with sourceVersion := middle.previousVersion doc.documentId + 1 }
      · rw [execute_bind_ok _ (execute_postEntry_of_accepts accepted)]
        obtain ⟨takes, numbered⟩ := (accepts_opening_iff sameDocument only).mp accepted
        exact .posted history ⟨changed, takes, numbered⟩
      · obtain ⟨failure, refuses⟩ := execute_postEntry_of_not_accepts accepted
        rw [execute_bind_error _ refuses]
        refine .refused (history.trans (recordVersion_evolves (version_permitted permits)))
          fun takes => accepted ?_
        exact (accepts_opening_iff sameDocument only).mpr ⟨takes.takes, takes.numbered⟩

/-- The book that an opening entry comes to: its fallback class is there. -/
def Ledger.forOpening (ledger : Ledger) (entry : JournalEntry) : Ledger :=
  if entry.lines.any fun line => line.class.isSome then
    (execute (ensureClass ⟨Chart.importFallbackClass.1⟩) ledger).2
  else ledger

theorem applying_applyFlaggedEntry (wellFormed : ledger.WellFormed)
    (masterAllowed : .masterData ∈ permitted)
    (permits : documentWrites doc.documentId ∅ ⊆ permitted)
    (sameDocument : doc.documentId = entry.sourceId) (sameDate : doc.txnDate = entry.entryDate) :
    Applying permitted doc entry kind ledger (ledger.forOpening entry)
      (execute (applyFlaggedEntry doc entry kind) ledger).2 := by
  rw [applyFlaggedEntry_eq]
  unfold Ledger.forOpening
  split
  · obtain ⟨added, start, ensures⟩ :=
      ensureClass_neverRefuses ⟨Chart.importFallbackClass.1⟩ ledger
    have history := ensureClass_respects masterAllowed ⟨Chart.importFallbackClass.1⟩ ledger
    rw [ensures] at history ⊢
    rw [execute_bind_ok _ ensures]
    exact (applying_replaceFlaggedEntry (history.wellFormed wellFormed) permits sameDocument
      sameDate).of_history history
  · exact applying_replaceFlaggedEntry wellFormed permits sameDocument sameDate

end Applying

namespace Operation

/-- The opening that an operation brings, if it brings one. -/
def opening? : Operation → Ledger → Option (LedgerDocument × JournalEntry)
  | applyOpeningBalance company asOf qboTb, ledger =>
    (openingBalanceEntry company asOf qboTb (accountMappingFromLedger ledger)).toOption
  | applySlimOpening company asOf qboTb mapping unapplied, _ =>
    ((openingBalanceEntry company asOf qboTb mapping).toOption.map
      (withUnappliedReclass asOf unapplied)).filter fun opening => !opening.2.lines.isEmpty
  | _, _ => none

def AppliesOpening (operation : Operation) (ledger : Ledger) : Prop :=
  ∃ opening, operation.opening? ledger = some opening ∧
    (ledger.forOpening opening.2).TakesOpening opening.1 opening.2

def contexts (operation : Operation) (ledger : Ledger) : Set PostingContext :=
  {ctx | ∃ documentId, .derivedEntry documentId ctx ∈ operation.kinds ledger}

/-- What an operation does to the entries that can be derived again. -/
inductive Supplying (operation : Operation) (ledger : Ledger) : Prop
  | applies (applies : operation.AppliesOpening ledger)
      (holds : (operation.run ledger).HoldsSupplied)
  | derives (notApplied : ¬operation.AppliesOpening ledger) (permitted : Set WriteKind)
      (notSupplied : ∀ documentId, .suppliedEntry documentId ∉ permitted)
      (fromContexts : ∀ documentId ctx, .derivedEntry documentId ctx ∈ permitted →
        ctx ∈ operation.contexts ledger)
      (history : Evolves permitted ledger (operation.run ledger))

theorem suppliedEntry_notMem_kinds {operation : Operation} {ledger : Ledger}
    {documentId : String} (notRaw : ∀ entry, operation ≠ .postEntry entry)
    (notOpening : ∀ company asOf qboTb, operation ≠ .applyOpeningBalance company asOf qboTb)
    (notSlim : ∀ company asOf qboTb mapping unapplied,
      operation ≠ .applySlimOpening company asOf qboTb mapping unapplied) :
    .suppliedEntry documentId ∉ operation.kinds ledger := by
  cases operation with
  | applyOpeningBalance company asOf qboTb => exact absurd rfl (notOpening company asOf qboTb)
  | applySlimOpening company asOf qboTb mapping unapplied =>
    exact absurd rfl (notSlim company asOf qboTb mapping unapplied)
  | postEntry entry => exact absurd rfl (notRaw entry)
  | reverseEntry entryId on =>
    rintro ⟨entry, -, kindEq⟩
    revert kindEq
    unfold rawReversalKind
    split_ifs <;> simp
  | _ => simp [kinds, documentWrites]

section Openings

variable {operation : Operation} {ledger : Ledger}

theorem supplying_of_unchanged (unchanged : operation.run ledger = ledger)
    (nothing : operation.opening? ledger = none) : operation.Supplying ledger := by
  refine .derives ?_ ∅ (fun _ => Set.notMem_empty _)
    (fun _ _ derived => absurd derived (Set.notMem_empty _)) ?_
  · rintro ⟨opening, isOpening, -⟩
    rw [nothing] at isOpening
    cases isOpening
  · rw [unchanged]
    exact .rfl

theorem supplying_of_flagged {company : String} {asOf : Date}
    {opening : LedgerDocument × JournalEntry} {kind : String} (wellFormed : ledger.WellFormed)
    (pair : OpeningPair company asOf opening) (isOpening : IsOpeningDocument opening.1)
    (sameDate : opening.1.txnDate = opening.2.entryDate)
    (runs : operation.run ledger =
      (execute (applyFlaggedEntry opening.1 opening.2 kind) ledger).2)
    (brings : operation.opening? ledger = some opening) : operation.Supplying ledger := by
  have sameDocument : opening.1.documentId = opening.2.sourceId :=
    pair.documentId.trans pair.sourceId.symm
  have applies_iff : operation.AppliesOpening ledger ↔
      (ledger.forOpening opening.2).TakesOpening opening.1 opening.2 := by
    unfold AppliesOpening
    simp [brings]
  have applying : Applying ({.masterData} ∪ documentWrites opening.1.documentId ∅)
      opening.1 opening.2 kind ledger (ledger.forOpening opening.2) (operation.run ledger) := by
    rw [runs]
    exact applying_applyFlaggedEntry wellFormed (.inl rfl) Set.subset_union_right sameDocument
      sameDate
  generalize ranTo : operation.run ledger = after at applying
  cases applying with
  | refused history refuses =>
    rw [← ranTo] at history
    refine .derives (applies_iff.not.mpr refuses) _ ?_ ?_ history
    · simp [documentWrites]
    · simp [documentWrites]
  | @posted middle history takes =>
    refine .applies (applies_iff.mpr takes) ?_
    rw [ranTo]
    refine ⟨_, mem_journal_recordEntry.mpr (.inr rfl), pair.original, opening.1, ?_,
      isOpening.derivesNothing⟩
    have saved := documentAt_recordVersion_new middle opening.1 ⟨kind, kind⟩
    rw [sameDocument] at saved ⊢
    exact saved

theorem supplying_applyOpeningBalance {company : String} {asOf : Date}
    {qboTb : List QboTbRow} (wellFormed : ledger.WellFormed) :
    (Operation.applyOpeningBalance company asOf qboTb).Supplying ledger := by
  cases builds : openingBalanceEntry company asOf qboTb
      (accountMappingFromLedger ledger) with
  | error failure =>
    apply supplying_of_unchanged
    · rw [run, QuickBooks.applyOpeningBalance, execute_bind_ok _ (execute_get ledger), builds]
      rfl
    · rw [opening?, builds]
      rfl
  | ok opening =>
    apply supplying_of_flagged wellFormed (openingBalanceEntry_pair builds)
      (openingBalanceEntry_document builds) (openingBalanceEntry_date builds)
    · rw [run, QuickBooks.applyOpeningBalance, execute_bind_ok _ (execute_get ledger), builds]
      rfl
    · rw [opening?, builds]
      rfl

theorem supplying_applySlimOpening {company : String} {asOf : Date}
    {qboTb : List QboTbRow} {mapping : List MappedAccount} {unapplied : Money}
    (wellFormed : ledger.WellFormed) :
    (Operation.applySlimOpening company asOf qboTb mapping unapplied).Supplying ledger := by
  cases builds : openingBalanceEntry company asOf qboTb mapping with
  | error failure =>
    apply supplying_of_unchanged
    · rw [run, QuickBooks.applySlimOpening, builds]
      rfl
    · rw [opening?, builds]
      rfl
  | ok opening =>
    by_cases nothing : (withUnappliedReclass asOf unapplied opening).2.lines.isEmpty
    · apply supplying_of_unchanged
      · rw [run, QuickBooks.applySlimOpening, builds]
        dsimp only
        rw [if_pos nothing]
        rfl
      · rw [opening?, builds]
        simpa [Except.toOption] using nothing
    · apply supplying_of_flagged wellFormed
        (openingBalanceEntry_pair builds).withUnappliedReclass
        (openingBalanceEntry_document builds).withUnappliedReclass
      · exact withUnappliedReclass_date asOf unapplied (openingBalanceEntry_date builds)
      · rw [run, QuickBooks.applySlimOpening, builds]
        dsimp only
        rw [if_neg nothing, execute_bind_state _ fun _ _ => rfl, execute_refusingWith]
      · rw [opening?, builds]
        simpa [Except.toOption] using nothing

end Openings

theorem supplying {operation : Operation} {ledger : Ledger} (wellFormed : ledger.WellFormed)
    (notRaw : ∀ entry, operation ≠ .postEntry entry) : operation.Supplying ledger := by
  cases operation with
  | applyOpeningBalance company asOf qboTb => exact supplying_applyOpeningBalance wellFormed
  | applySlimOpening company asOf qboTb mapping unapplied =>
    exact supplying_applySlimOpening wellFormed
  | postEntry entry => exact absurd rfl (notRaw entry)
  | _ =>
    refine .derives ?_ _ (fun _ => suppliedEntry_notMem_kinds notRaw (by simp) (by simp))
      (fun documentId _ derived => ⟨documentId, derived⟩) (evolves _ ledger)
    rintro ⟨opening, brings, -⟩
    cases brings

end Operation

section Runs

/-- The contexts that a run posts under. -/
def runContexts : Ledger → List Operation → Set PostingContext
  | _, [] => ∅
  | ledger, operation :: operations =>
    operation.contexts ledger ∪ runContexts (operation.run ledger) operations

theorem holdsSupplied_after {ledger : Ledger} (wellFormed : ledger.WellFormed)
    (operations : List Operation) (holds : ledger.HoldsSupplied) :
    (ledger.after operations).HoldsSupplied :=
  after_keeps wellFormed Set.univ
    (everyStep_of_forall fun _ _ _ => Set.subset_univ _) HoldsSupplied
    (fun _ _ _ _ _ write earlierHolds => write.holdsSupplied earlierHolds) holds

theorem rederives_after_iff {ledger : Ledger} {operations : List Operation}
    (wellFormed : ledger.WellFormed) (notRaw : ∀ entry, .postEntry entry ∉ operations)
    {contexts : Set PostingContext} (rederives : ledger.Rederives contexts) :
    (ledger.after operations).Rederives (contexts ∪ runContexts ledger operations) ↔
      EveryStep Operation.run (fun operation state => ¬operation.AppliesOpening state)
        ledger operations := by
  induction operations generalizing ledger contexts with
  | nil => exact iff_of_true (rederives.mono Set.subset_union_left) trivial
  | cons operation operations ih =>
    have laterWellFormed := (operation.evolves ledger).wellFormed wellFormed
    have supplying : operation.Supplying ledger :=
      Operation.supplying wellFormed fun entry isRaw =>
        notRaw entry (isRaw ▸ List.mem_cons_self)
    cases supplying with
    | applies applies holds =>
      refine iff_of_false ?_ fun meets => meets.1 applies
      exact (holdsSupplied_after laterWellFormed operations holds).not_rederives
    | derives notApplied permitted notSupplied fromContexts history =>
      have laterRederives :
          (operation.run ledger).Rederives (contexts ∪ operation.contexts ledger) :=
        history.rederives wellFormed notSupplied
          (fun documentId ctx derived => .inr (fromContexts documentId ctx derived))
          (rederives.mono Set.subset_union_left)
      have later := ih laterWellFormed
        (fun entry isLater => notRaw entry (List.mem_cons_of_mem _ isLater)) laterRederives
      rw [runContexts, ← Set.union_assoc]
      exact later.trans (and_iff_right notApplied).symm

end Runs

/-- A book's journal can be derived again from its documents, under the
contexts that its operations posted under, exactly when no opening balance was
applied to it. -/
theorem journal_rederives_iff (company : String) (operations : List Operation)
    (notRaw : ∀ entry, .postEntry entry ∉ operations) :
    ((createCompany company).after operations).Rederives
        (runContexts (createCompany company) operations) ↔
      EveryStep Operation.run (fun operation state => ¬operation.AppliesOpening state)
        (createCompany company) operations := by
  have nothingPosted : (createCompany company).Rederives ∅ := by
    intro posted postedMem
    cases postedMem
  have runs := rederives_after_iff (.createCompany company) notRaw nothingPosted
  rw [Set.empty_union] at runs
  exact runs

/-- Savings that come from the other book, and an opening balance on them. -/
def openedBook : List Operation :=
  [.addAccount "1105" "Savings" .asset false (some "77") false,
    .applyOpeningBalance "aquamentor" ⟨2025, 12, 31, Eq.refl true⟩
      [⟨"77", "Savings", .fromMinor 10000⟩]]

/-- The opening entry moves 100.00 and its stored document derives nothing. -/
theorem openedBook_derives_nothing :
    ∃ posted ∈ ((createCompany "aquamentor").after openedBook).journal,
      posted.entry.reversalOf = none ∧ posted.entry.lines.length = 2 ∧
      ∃ doc, ((createCompany "aquamentor").after openedBook).documentAt
          posted.entry.sourceId posted.entry.sourceVersion = some doc ∧
        ∀ ctx, post doc posted.entry.sourceVersion ctx = .ok .nonPosting := by
  have shape : ((createCompany "aquamentor").after openedBook).journal.map
      (fun posted => (posted.entry.reversalOf, posted.entry.lines.length,
        (((createCompany "aquamentor").after openedBook).documentAt
          posted.entry.sourceId posted.entry.sourceVersion).map
            fun doc => (doc.kind, doc.lines.map DocLine.kind))) =
      [(none, 2, some (.journalEntry, [.account, .account]))] := by decide +kernel
  obtain ⟨posted, journalEq, facts⟩ := List.map_eq_singleton_iff.mp shape
  simp only [Prod.mk.injEq, Option.map_eq_some_iff] at facts
  obtain ⟨original, lineCount, doc, saved, isJournal, lineKinds⟩ := facts
  refine ⟨posted, by simp [journalEq], original, lineCount, doc, saved, fun ctx => ?_⟩
  apply post_of_no_journal_lines isJournal
  intro line lineMem
  have kindMem : line.kind ∈ doc.lines.map DocLine.kind := List.mem_map_of_mem lineMem
  rw [lineKinds] at kindMem
  intro isJournalLine
  rw [isJournalLine] at kindMem
  simp at kindMem

theorem journal_rederives_iff_saleOf2026 :
    ((createCompany "aquamentor").after
        [.saveAndPostDocument saleOf2026 [] "bookkeeper"]).Rederives
      (runContexts (createCompany "aquamentor")
        [.saveAndPostDocument saleOf2026 [] "bookkeeper"]) := by
  refine (journal_rederives_iff "aquamentor" _ (by simp)).mpr ⟨?_, trivial⟩
  rintro ⟨opening, brings, -⟩
  cases brings

end QuickBooks
