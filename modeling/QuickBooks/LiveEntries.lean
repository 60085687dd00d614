import QuickBooks.LedgerWrites

/-!
# Live entries carry a document's balance

An original entry joins the live entries of its document, and the reversal of
a live entry takes that one entry away; nothing else changes them.  So as long
as only live entries are reversed, what all entries of a document add up to is
what its live entries add up to.
-/

namespace QuickBooks

open ExceptPrograms TransactionPrograms

namespace Ledger

@[simp]
theorem stored_reversalOf (entry : JournalEntry) :
    (stored entry).reversalOf = entry.reversalOf :=
  rfl

@[simp]
theorem stored_sourceId (entry : JournalEntry) :
    (stored entry).sourceId = entry.sourceId :=
  rfl

section Membership

variable {ledger : Ledger}

theorem mem_journal_recordEntry {entry : JournalEntry} {posted : PostedEntry} :
    posted ∈ (ledger.recordEntry entry).journal ↔
      posted ∈ ledger.journal ∨ posted = ⟨ledger.nextEntryId, stored entry⟩ := by
  unfold recordEntry
  rw [List.mem_append, List.mem_singleton]

theorem mem_entries_recordEntry {documentId : String} {entry : JournalEntry}
    {posted : PostedEntry} :
    posted ∈ (ledger.recordEntry entry).entriesForDocument documentId ↔
      posted ∈ ledger.entriesForDocument documentId ∨
        entry.sourceId = documentId ∧ posted = ⟨ledger.nextEntryId, stored entry⟩ := by
  rw [mem_entriesForDocument, mem_entriesForDocument, mem_journal_recordEntry]
  constructor
  · rintro ⟨old | new, source⟩
    · exact .inl ⟨old, source⟩
    · subst new
      exact .inr ⟨source, rfl⟩
  · rintro (⟨old, source⟩ | ⟨source, new⟩)
    · exact ⟨.inl old, source⟩
    · subst new
      exact ⟨.inr rfl, source⟩

theorem WellFormed.eq_of_entryId (wellFormed : ledger.WellFormed)
    {first second : PostedEntry} (firstMem : first ∈ ledger.journal)
    (secondMem : second ∈ ledger.journal) (sameId : first.entryId = second.entryId) :
    first = second :=
  List.inj_on_of_nodup_map wellFormed.entryIds firstMem secondMem sameId

theorem WellFormed.entries_nodup (wellFormed : ledger.WellFormed) (documentId : String) :
    (ledger.entriesForDocument documentId).Nodup := by
  unfold entriesForDocument
  rw [(List.perm_insertionSort _ _).nodup_iff]
  exact wellFormed.entryIds.of_map.filter _

theorem WellFormed.live_nodup (wellFormed : ledger.WellFormed) (documentId : String) :
    (ledger.liveEntriesForDocument documentId).Nodup :=
  (wellFormed.entries_nodup documentId).filter _

theorem WellFormed.entry?_eq_some (wellFormed : ledger.WellFormed) {posted : PostedEntry}
    (postedMem : posted ∈ ledger.journal) :
    ledger.entry? posted.entryId = some posted.entry := by
  unfold entry?
  rw [Option.map_eq_some_iff]
  cases found : ledger.journal.find? fun other =>
      decide (other.entryId = posted.entryId) with
  | none =>
    rw [List.find?_eq_none] at found
    exact absurd (by simp) (found posted postedMem)
  | some other =>
    have otherMem := List.mem_of_find?_eq_some found
    have sameId : other.entryId = posted.entryId := by
      simpa using List.find?_some found
    rw [wellFormed.eq_of_entryId otherMem postedMem sameId]
    exact ⟨posted, rfl, rfl⟩

theorem mem_live_recordEntry_original (wellFormed : ledger.WellFormed)
    {entry : JournalEntry} (original : entry.reversalOf = none) {documentId : String}
    {posted : PostedEntry} :
    posted ∈ (ledger.recordEntry entry).liveEntriesForDocument documentId ↔
      posted ∈ ledger.liveEntriesForDocument documentId ∨
        entry.sourceId = documentId ∧ posted = ⟨ledger.nextEntryId, stored entry⟩ := by
  rw [mem_liveEntriesForDocument, mem_liveEntriesForDocument, mem_journal_recordEntry]
  constructor
  · rintro ⟨⟨old | new, source⟩, isOriginal, notReversed⟩
    · refine .inl ⟨⟨old, source⟩, isOriginal, ?_⟩
      intro other otherMem
      exact notReversed other (mem_journal_recordEntry.mpr (.inl otherMem))
    · subst new
      exact .inr ⟨source, rfl⟩
  · rintro (⟨⟨old, source⟩, isOriginal, notReversed⟩ | ⟨source, new⟩)
    · refine ⟨⟨.inl old, source⟩, isOriginal, ?_⟩
      intro other otherMem otherSource
      rcases mem_journal_recordEntry.mp otherMem with earlier | isNew
      · exact notReversed other earlier otherSource
      · rw [isNew, stored_reversalOf, original]
        simp
    · subst new
      refine ⟨⟨.inr rfl, source⟩, original, ?_⟩
      intro other otherMem _ reversesNew
      rcases mem_journal_recordEntry.mp otherMem with earlier | isNew
      · exact lt_irrefl _ (wellFormed.reversals_lt other earlier _ reversesNew)
      · rw [isNew, stored_reversalOf, original] at reversesNew
        simp at reversesNew

/-- An entry that names another as reversed takes that one away from the live
entries of its own document and changes nothing else. -/
theorem mem_live_recordEntry_naming {entry : JournalEntry} {reversed : Nat}
    (names : entry.reversalOf = some reversed) {documentId : String}
    {posted : PostedEntry} :
    posted ∈ (ledger.recordEntry entry).liveEntriesForDocument documentId ↔
      posted ∈ ledger.liveEntriesForDocument documentId ∧
        ¬ (entry.sourceId = documentId ∧ posted.entryId = reversed) := by
  rw [mem_liveEntriesForDocument, mem_liveEntriesForDocument, mem_journal_recordEntry]
  constructor
  · rintro ⟨⟨old | new, source⟩, isOriginal, notReversed⟩
    · refine ⟨⟨⟨old, source⟩, isOriginal, ?_⟩, ?_⟩
      · intro other otherMem
        exact notReversed other (mem_journal_recordEntry.mpr (.inl otherMem))
      · rintro ⟨sameDocument, sameId⟩
        have reversesPosted := notReversed _ (mem_journal_recordEntry.mpr (.inr rfl))
          sameDocument
        rw [stored_reversalOf, names, sameId] at reversesPosted
        exact reversesPosted rfl
    · rw [new, stored_reversalOf, names] at isOriginal
      simp at isOriginal
  · rintro ⟨⟨⟨old, source⟩, isOriginal, notReversed⟩, notTarget⟩
    refine ⟨⟨.inl old, source⟩, isOriginal, ?_⟩
    intro other otherMem otherSource reversesPosted
    rcases mem_journal_recordEntry.mp otherMem with earlier | isNew
    · exact notReversed other earlier otherSource reversesPosted
    · rw [isNew] at otherSource reversesPosted
      rw [stored_reversalOf, names, Option.some_inj] at reversesPosted
      exact notTarget ⟨otherSource, reversesPosted.symm⟩

theorem mem_live_recordEntry_reversal {reversal : JournalEntry}
    {original : PostedEntry} (reverses : reversal.Reverses original)
    {documentId : String} {posted : PostedEntry} :
    posted ∈ (ledger.recordEntry reversal).liveEntriesForDocument documentId ↔
      posted ∈ ledger.liveEntriesForDocument documentId ∧
        ¬ (reversal.sourceId = documentId ∧ posted.entryId = original.entryId) :=
  mem_live_recordEntry_naming reverses.reversalOf

theorem entries_recordEntry_other {entry : JournalEntry} {documentId : String}
    (other : entry.sourceId ≠ documentId) :
    (ledger.recordEntry entry).entriesForDocument documentId =
      ledger.entriesForDocument documentId := by
  unfold entriesForDocument recordEntry
  rw [List.filter_append, List.filter_cons_of_neg (by simp [other]),
    List.filter_nil, List.append_nil]

theorem live_recordEntry_other {entry : JournalEntry} {documentId : String}
    (other : entry.sourceId ≠ documentId) :
    (ledger.recordEntry entry).liveEntriesForDocument documentId =
      ledger.liveEntriesForDocument documentId := by
  unfold liveEntriesForDocument
  rw [entries_recordEntry_other other]

theorem entries_recordEntry_perm (wellFormed : ledger.WellFormed)
    {entry : JournalEntry} (accepted : (ledger.recordEntry entry).WellFormed) :
    ((ledger.recordEntry entry).entriesForDocument entry.sourceId).Perm
      (ledger.entriesForDocument entry.sourceId ++ [⟨ledger.nextEntryId, stored entry⟩]) := by
  have fresh : ∀ posted ∈ ledger.entriesForDocument entry.sourceId,
      posted ≠ ⟨ledger.nextEntryId, stored entry⟩ := by
    intro posted postedMem isNew
    have bound := wellFormed.entryIds_lt posted (mem_entriesForDocument.mp postedMem).1
    rw [isNew] at bound
    exact lt_irrefl _ bound
  rw [List.perm_ext_iff_of_nodup (accepted.entries_nodup _)]
  · intro posted
    rw [mem_entries_recordEntry, List.mem_append, List.mem_singleton]
    simp
  · apply (wellFormed.entries_nodup _).append (List.nodup_singleton _)
    intro posted postedMem isNew
    exact fresh posted postedMem (List.mem_singleton.mp isNew)

theorem live_recordEntry_original_perm (wellFormed : ledger.WellFormed)
    {entry : JournalEntry} (accepted : (ledger.recordEntry entry).WellFormed)
    (original : entry.reversalOf = none) :
    ((ledger.recordEntry entry).liveEntriesForDocument entry.sourceId).Perm
      (ledger.liveEntriesForDocument entry.sourceId ++
        [⟨ledger.nextEntryId, stored entry⟩]) := by
  rw [List.perm_ext_iff_of_nodup (accepted.live_nodup _)]
  · intro posted
    rw [mem_live_recordEntry_original wellFormed original, List.mem_append,
      List.mem_singleton]
    simp
  · apply (wellFormed.live_nodup _).append (List.nodup_singleton _)
    intro posted postedMem isNew
    rw [List.mem_singleton.mp isNew] at postedMem
    have bound := wellFormed.entryIds_lt _ (mem_liveEntriesForDocument.mp postedMem).1.1
    exact lt_irrefl _ bound

theorem live_recordEntry_reversal_perm (wellFormed : ledger.WellFormed)
    {reversal : JournalEntry} {original : PostedEntry}
    (accepted : (ledger.recordEntry reversal).WellFormed)
    (reverses : reversal.Reverses original)
    (live : original ∈ ledger.liveEntriesForDocument reversal.sourceId) :
    (ledger.liveEntriesForDocument reversal.sourceId).Perm
      (original ::
        (ledger.recordEntry reversal).liveEntriesForDocument reversal.sourceId) := by
  rw [List.perm_ext_iff_of_nodup (wellFormed.live_nodup _)]
  · intro posted
    rw [List.mem_cons, mem_live_recordEntry_reversal reverses]
    constructor
    · intro postedLive
      by_cases sameId : posted.entryId = original.entryId
      · exact .inl (wellFormed.eq_of_entryId (mem_liveEntriesForDocument.mp postedLive).1.1
          (mem_liveEntriesForDocument.mp live).1.1 sameId)
      · exact .inr ⟨postedLive, fun both => sameId both.2⟩
    · rintro (isOriginal | ⟨postedLive, -⟩)
      · exact isOriginal ▸ live
      · exact postedLive
  · rw [List.nodup_cons]
    refine ⟨?_, accepted.live_nodup _⟩
    rw [mem_live_recordEntry_reversal reverses]
    rintro ⟨-, notTarget⟩
    exact notTarget ⟨rfl, rfl⟩

end Membership

section Net

variable (selects : PostingKey → Prop) [DecidablePred selects]

def netOf (entries : List PostedEntry) : Int :=
  (entries.map fun posted => lineTotal selects posted.entry.lines).sum

@[simp]
theorem netOf_nil : netOf selects [] = 0 :=
  rfl

@[simp]
theorem netOf_cons (posted : PostedEntry) (entries : List PostedEntry) :
    netOf selects (posted :: entries) =
      lineTotal selects posted.entry.lines + netOf selects entries := by
  simp [netOf]

@[simp]
theorem netOf_append (first second : List PostedEntry) :
    netOf selects (first ++ second) = netOf selects first + netOf selects second := by
  simp [netOf]

theorem netOf_perm {first second : List PostedEntry} (rearranged : first.Perm second) :
    netOf selects first = netOf selects second :=
  (rearranged.map _).sum_eq

@[simp]
theorem lineTotal_stored (entry : JournalEntry) :
    lineTotal selects (stored entry).lines = lineTotal selects entry.lines :=
  KeyedTotals.total_perm _ _ (stored_lines_perm entry)

def documentNet (ledger : Ledger) (documentId : String) : Int :=
  netOf selects (ledger.entriesForDocument documentId)

/-- The net amount that the live entries of a document put on the selected
keys. -/
def liveNet (ledger : Ledger) (documentId : String) : Int :=
  netOf selects (ledger.liveEntriesForDocument documentId)

variable {ledger : Ledger} (wellFormed : ledger.WellFormed)
include wellFormed

theorem documentNet_recordEntry {entry : JournalEntry}
    (accepted : (ledger.recordEntry entry).WellFormed) :
    documentNet selects (ledger.recordEntry entry) entry.sourceId =
      documentNet selects ledger entry.sourceId + lineTotal selects entry.lines := by
  unfold documentNet
  rw [netOf_perm selects (entries_recordEntry_perm wellFormed accepted)]
  simp

theorem liveNet_recordEntry_original {entry : JournalEntry}
    (accepted : (ledger.recordEntry entry).WellFormed)
    (original : entry.reversalOf = none) :
    liveNet selects (ledger.recordEntry entry) entry.sourceId =
      liveNet selects ledger entry.sourceId + lineTotal selects entry.lines := by
  unfold liveNet
  rw [netOf_perm selects (live_recordEntry_original_perm wellFormed accepted original)]
  simp

theorem liveNet_recordEntry_reversal {reversal : JournalEntry} {original : PostedEntry}
    (accepted : (ledger.recordEntry reversal).WellFormed)
    (reverses : reversal.Reverses original)
    (live : original ∈ ledger.liveEntriesForDocument reversal.sourceId) :
    liveNet selects (ledger.recordEntry reversal) reversal.sourceId =
      liveNet selects ledger reversal.sourceId + lineTotal selects reversal.lines := by
  have removed := netOf_perm selects
    (live_recordEntry_reversal_perm wellFormed accepted reverses live)
  unfold liveNet
  rw [netOf_cons] at removed
  rw [reverses.lines, lineTotal_swapped]
  omega

end Net

def LiveCarries (ledger : Ledger) (documentId : String) : Prop :=
  ∀ (selects : PostingKey → Prop) [DecidablePred selects],
    documentNet selects ledger documentId = liveNet selects ledger documentId

theorem Write.liveCarries {kind : WriteKind} {before after : Ledger}
    (write : Write kind before after) (wellFormed : before.WellFormed)
    {documentId : String} (notStray : kind ≠ .strayReversal documentId)
    (carries : before.LiveCarries documentId) : after.LiveCarries documentId := by
  have afterWellFormed := write.wellFormed wellFormed
  have original_case : ∀ entry : JournalEntry, entry.reversalOf = none →
      (before.recordEntry entry).WellFormed →
      (before.recordEntry entry).LiveCarries documentId := by
    intro entry original recorded selects _
    by_cases same : entry.sourceId = documentId
    · subst same
      rw [documentNet_recordEntry selects wellFormed recorded,
        liveNet_recordEntry_original selects wellFormed recorded original, carries]
    · unfold documentNet liveNet
      rw [entries_recordEntry_other same, live_recordEntry_other same]
      exact carries selects
  cases write with
  | version => exact carries
  | derivedEntry ctx saved posts accepted =>
    exact original_case _ (post_entry_source posts).2.2.1 afterWellFormed
  | suppliedEntry original accepted => exact original_case _ original afterWellFormed
  | liveReversal live reverses accepted =>
    rename_i reversal original
    intro selects _
    by_cases same : reversal.sourceId = documentId
    · subst same
      rw [documentNet_recordEntry selects wellFormed afterWellFormed,
        liveNet_recordEntry_reversal selects wellFormed afterWellFormed reverses live,
        carries]
    · unfold documentNet liveNet
      rw [entries_recordEntry_other same, live_recordEntry_other same]
      exact carries selects
  | strayReversal reverses accepted =>
    rename_i reversal reversed
    intro selects _
    have other : reversal.sourceId ≠ documentId :=
      fun same => notStray (congrArg WriteKind.strayReversal same)
    unfold documentNet liveNet
    rw [entries_recordEntry_other other, live_recordEntry_other other]
    exact carries selects
  | masterData change =>
    rw [change.sameBooks]
    exact carries
  | snapshot | close | reopen => exact carries

end Ledger

end QuickBooks
