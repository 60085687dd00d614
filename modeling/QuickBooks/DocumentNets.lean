import QuickBooks.LedgerHistories

/-!
# What the journal holds for a document

A document's entries only accumulate, and what they add up to changes by what
each new entry puts on each key.  Reversing all live entries of a document
whose balance the live entries carry brings it to zero, and a posting then
brings it to the net of that posting.
-/

namespace QuickBooks

open ExceptPrograms KeyedTotals TransactionPrograms TransitionRuns

def Posting.net (selects : PostingKey → Prop) [DecidablePred selects] : Posting → Int
  | .nonPosting => 0
  | .entry derived => lineTotal selects derived.lines

namespace Ledger

variable {permitted : Set WriteKind} {before after : Ledger}

section Journal

theorem Write.journal_prefix {kind : WriteKind} (write : Write kind before after) :
    before.journal <+: after.journal := by
  cases write with
  | version | snapshot | close | reopen => exact List.prefix_refl _
  | derivedEntry | suppliedEntry | liveReversal | strayReversal =>
    exact List.prefix_append _ _
  | masterData change =>
    exact change.sameBooks ▸ List.prefix_refl _

theorem Evolves.journal_prefix (evolves : Evolves permitted before after)
    (wellFormed : before.WellFormed) : before.journal <+: after.journal := by
  apply evolves.keeps wellFormed fun ledger => before.journal <+: ledger.journal
  · intro kind _ earlier later _ write included
    exact included.trans write.journal_prefix
  · exact List.prefix_refl _

theorem Evolves.entries_open (evolves : Evolves permitted before after)
    (wellFormed : before.WellFormed) (noClose : .close ∉ permitted)
    (noReopen : .reopen ∉ permitted) :
    after.periods = before.periods ∧
      ∀ posted ∈ after.journal, posted ∉ before.journal →
        before.IsOpen posted.entry.entryDate := by
  have entry_case : ∀ (ledger : Ledger) (entry : JournalEntry), ledger.Accepts entry →
      (ledger.periods = before.periods ∧ ∀ posted ∈ ledger.journal,
        posted ∉ before.journal → before.IsOpen posted.entry.entryDate) →
      (ledger.recordEntry entry).periods = before.periods ∧
        ∀ posted ∈ (ledger.recordEntry entry).journal, posted ∉ before.journal →
          before.IsOpen posted.entry.entryDate := by
    rintro ledger entry accepted ⟨samePeriods, earlierOpen⟩
    refine ⟨samePeriods, ?_⟩
    intro posted postedMem isNew
    rcases mem_journal_recordEntry.mp postedMem with old | new
    · exact earlierOpen posted old isNew
    · subst new
      have dateOpen := accepted.dateOpen
      unfold IsOpen lockedThrough at dateOpen ⊢
      rw [samePeriods] at dateOpen
      exact dateOpen
  apply evolves.keeps wellFormed fun ledger => ledger.periods = before.periods ∧
    ∀ posted ∈ ledger.journal, posted ∉ before.journal →
      before.IsOpen posted.entry.entryDate
  · intro kind allowed earlier later _ write holds
    cases write with
    | version | snapshot => exact holds
    | derivedEntry ctx saved posts accepted => exact entry_case _ _ accepted holds
    | suppliedEntry original accepted => exact entry_case _ _ accepted holds
    | liveReversal live reverses accepted => exact entry_case _ _ accepted holds
    | strayReversal reverses accepted => exact entry_case _ _ accepted holds
    | masterData change =>
      rw [change.sameBooks]
      exact holds
    | close => exact absurd allowed noClose
    | reopen => exact absurd allowed noReopen
  · exact ⟨Eq.refl _, fun posted old isNew => absurd old isNew⟩

end Journal

section Nets

variable (selects : PostingKey → Prop) [DecidablePred selects]

theorem documentNet_recordVersion (ledger : Ledger) (doc : LedgerDocument)
    (command : CommandMeta) (documentId : String) :
    documentNet selects (ledger.recordVersion doc command) documentId =
      documentNet selects ledger documentId :=
  rfl

theorem documentNet_postEntry {ledger : Ledger} (wellFormed : ledger.WellFormed)
    {entry : JournalEntry} {documentId : String} (source : entry.sourceId = documentId)
    {entryId : Nat} {after : Ledger}
    (posts : execute (postEntry entry) ledger = (.ok entryId, after)) :
    documentNet selects after documentId =
      documentNet selects ledger documentId + lineTotal selects entry.lines := by
  obtain ⟨accepted, -, rfl⟩ := execute_postEntry_eq_ok_iff.mp posts
  subst source
  exact documentNet_recordEntry selects wellFormed (wellFormed.recordEntry accepted)

theorem documentNet_of_reversal {ledger : Ledger} (wellFormed : ledger.WellFormed)
    {reversal : JournalEntry} {original : PostedEntry} {documentId : String}
    (reverses : reversal.Reverses original)
    (source : original.entry.sourceId = documentId)
    {entryId : Nat} {after : Ledger}
    (posts : execute (postEntry reversal) ledger = (.ok entryId, after)) :
    documentNet selects after documentId =
      documentNet selects ledger documentId -
        lineTotal selects original.entry.lines := by
  rw [documentNet_postEntry selects wellFormed (reverses.sourceId.trans source) posts,
    reverses.lines, lineTotal_swapped]
  omega

end Nets

/-- A ledger that operations lead to from a new company, where no entry of the
document was reversed unless it was live. -/
def ReachableFor (documentId : String) (ledger : Ledger) : Prop :=
  ∃ company operations,
    EveryStep Operation.run
      (fun operation state => .strayReversal documentId ∉ operation.kinds state)
      (createCompany company) operations ∧
    ledger = (createCompany company).after operations

theorem ReachableFor.wellFormed {documentId : String} {ledger : Ledger}
    (reachable : ReachableFor documentId ledger) : ledger.WellFormed := by
  obtain ⟨company, operations, -, rfl⟩ := reachable
  exact after_wellFormed (.createCompany company)

theorem ReachableFor.run {documentId : String} {ledger : Ledger}
    (reachable : ReachableFor documentId ledger) {operations : List Operation}
    (further : EveryStep Operation.run
      (fun operation state => .strayReversal documentId ∉ operation.kinds state)
      ledger operations) : ReachableFor documentId (ledger.after operations) := by
  obtain ⟨company, earlier, meets, rfl⟩ := reachable
  refine ⟨company, earlier ++ operations, everyStep_append.mpr ⟨meets, further⟩, ?_⟩
  exact (runFrom_append _ _ _).symm

theorem liveCarries_after {documentId : String} {ledger : Ledger}
    {operations : List Operation} (wellFormed : ledger.WellFormed)
    (carries : ledger.LiveCarries documentId)
    (notStray : EveryStep Operation.run
      (fun operation state => .strayReversal documentId ∉ operation.kinds state)
      ledger operations) : (ledger.after operations).LiveCarries documentId := by
  refine after_keeps wellFormed {kind | kind ≠ .strayReversal documentId} ?_
    (fun state => state.LiveCarries documentId) ?_ carries
  · apply notStray.mono
    intro operation state stepNotStray kind kindMem isStray
    exact stepNotStray (isStray ▸ kindMem)
  · intro kind kindNotStray earlier later earlierWellFormed write earlierCarries
    exact write.liveCarries earlierWellFormed kindNotStray earlierCarries

theorem ReachableFor.liveCarries {documentId : String} {ledger : Ledger}
    (reachable : ReachableFor documentId ledger) : ledger.LiveCarries documentId := by
  obtain ⟨company, operations, meets, rfl⟩ := reachable
  exact liveCarries_after (.createCompany company) (fun _ _ => rfl) meets

end Ledger

section SamePosting

theorem JournalLine.net_of_sameLine {first second : JournalLine}
    (same : first.sameLine second = true) :
    first.key = second.key ∧ first.net = second.net := by
  unfold sameLine at same
  rw [Bool.and_eq_true, decide_eq_true_eq] at same
  obtain ⟨sameFields, -⟩ := same
  simp only [JournalLine.mk.injEq] at sameFields
  obtain ⟨-, sameAccount, sameClass, sameDebit, sameCredit, -, sameEntity, -⟩ := sameFields
  unfold JournalLine.key JournalLine.net
  rw [sameAccount, sameClass, sameEntity, sameDebit, sameCredit]
  exact ⟨rfl, rfl⟩

theorem lineTotal_of_samePosting (selects : PostingKey → Prop) [DecidablePred selects]
    {first second : JournalEntry} (same : samePosting first second = true) :
    lineTotal selects first.lines = lineTotal selects second.lines := by
  unfold samePosting at same
  rw [Bool.and_eq_true] at same
  obtain ⟨-, sameLines⟩ := same
  generalize first.lines = firsts at sameLines
  generalize second.lines = seconds at sameLines
  induction firsts generalizing seconds with
  | nil =>
    cases seconds with
    | nil => rfl
    | cons line seconds => simp [QuickBooks.sameLines] at sameLines
  | cons first firsts ih =>
    cases seconds with
    | nil => simp [QuickBooks.sameLines] at sameLines
    | cons second seconds =>
      rw [QuickBooks.sameLines, Bool.and_eq_true] at sameLines
      obtain ⟨sameKey, sameNet⟩ := JournalLine.net_of_sameLine sameLines.1
      have rest := ih seconds sameLines.2
      unfold lineTotal at rest ⊢
      rw [total_cons, total_cons, rest, sameKey, sameNet]

end SamePosting

end QuickBooks
