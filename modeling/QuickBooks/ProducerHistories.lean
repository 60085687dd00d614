import QuickBooks.DocumentProducers
import QuickBooks.LiveEntries

/-!
# What the producers of documents write

Each producer as a history of writes about its documents: versions of them,
the entries they derive under the producer's context, and nothing else.
-/

/-!
## What the store's programs write

Each statement of the store, and each composition of statements that the
producers share, as a history of writes.  Posting what a saved version derives
is a derived entry, and reversing the live entries of a document one after the
other is a sequence of live reversals, because reversing one leaves the rest
live.
-/

namespace QuickBooks

open ExceptPrograms KeyedTables TransactionPrograms

namespace Ledger

variable {permitted : Set WriteKind}

theorem Evolves.rfl {ledger : Ledger} : Evolves permitted ledger ledger :=
  refl_of _ _

theorem Evolves.trans {first second third : Ledger}
    (earlier : Evolves permitted first second) (later : Evolves permitted second third) :
    Evolves permitted first third :=
  trans_of _ earlier later

section Statements

variable {ledger : Ledger}

theorem recordVersion_evolves {doc : LedgerDocument} {command : CommandMeta}
    (allowed : .version doc.documentId ∈ permitted) :
    Evolves permitted ledger (ledger.recordVersion doc command) :=
  .of_write allowed fun _ => .version ledger doc command

theorem saveDocument_respects {doc : LedgerDocument} {command : CommandMeta}
    (allowed : .version doc.documentId ∈ permitted) :
    Respects (Evolves permitted) (saveDocument doc command) := by
  intro ledger
  rw [execute_saveDocument]
  exact recordVersion_evolves allowed

theorem postEntry_evolves {entry : JournalEntry} (kind : WriteKind)
    (allowed : kind ∈ permitted)
    (write : ledger.WellFormed → ledger.Accepts entry →
      Write kind ledger (ledger.recordEntry entry)) :
    Evolves permitted ledger (execute (postEntry entry) ledger).2 := by
  by_cases accepted : ledger.Accepts entry
  · rw [execute_postEntry_of_accepts accepted]
    exact .of_write allowed fun wellFormed => write wellFormed accepted
  · obtain ⟨failure, refuses⟩ := execute_postEntry_of_not_accepts accepted
    rw [refuses]
    exact .rfl

theorem postDerived_evolves {doc : LedgerDocument} {command : CommandMeta}
    {ctx : PostingContext} {entry : JournalEntry}
    (posts : post doc (ledger.previousVersion doc.documentId + 1) ctx = .ok (.entry entry))
    (allowed : .derivedEntry doc.documentId ctx ∈ permitted) :
    Evolves permitted (ledger.recordVersion doc command)
      (execute (postEntry entry) (ledger.recordVersion doc command)).2 := by
  obtain ⟨sameId, sameVersion, -, -⟩ := post_entry_source posts
  apply postEntry_evolves (.derivedEntry entry.sourceId ctx)
  · rw [sameId]
    exact allowed
  · intro _ accepted
    apply Write.derivedEntry ctx _ _ accepted
    · exact doc
    · rw [sameId, sameVersion]
      exact documentAt_recordVersion_new ledger doc command
    · rw [sameVersion]
      exact posts

theorem reversal_step (wellFormed : ledger.WellFormed) {documentId : String}
    {posted : PostedEntry} {rest : List PostedEntry}
    (distinct : (posted :: rest).Nodup)
    (live : ∀ other ∈ posted :: rest, other ∈ ledger.liveEntriesForDocument documentId)
    {reversal : JournalEntry} (reverses : reversal.Reverses posted)
    (allowed : .liveReversal documentId ∈ permitted) :
    Evolves permitted ledger (execute (postEntry reversal) ledger).2 ∧
      ∀ other ∈ rest, other ∈
        (execute (postEntry reversal) ledger).2.liveEntriesForDocument documentId := by
  have postedLive := live posted (by simp)
  have sameId : reversal.sourceId = documentId :=
    reverses.sourceId.trans (mem_liveEntriesForDocument.mp postedLive).1.2
  constructor
  · apply postEntry_evolves (.liveReversal reversal.sourceId)
    · rw [sameId]
      exact allowed
    · intro _ accepted
      rw [← sameId] at postedLive
      exact .liveReversal postedLive reverses accepted
  · intro other otherMem
    have otherLive := live other (by simp [otherMem])
    by_cases accepted : ledger.Accepts reversal
    · rw [execute_postEntry_of_accepts accepted, mem_live_recordEntry_reversal reverses]
      refine ⟨otherLive, ?_⟩
      rintro ⟨-, sameEntry⟩
      have same := wellFormed.eq_of_entryId (mem_liveEntriesForDocument.mp otherLive).1.1
        (mem_liveEntriesForDocument.mp postedLive).1.1 sameEntry
      rw [same] at otherMem
      exact (List.nodup_cons.mp distinct).1 otherMem
    · obtain ⟨failure, refuses⟩ := execute_postEntry_of_not_accepts accepted
      rw [refuses]
      exact otherLive

end Statements

section MasterData

variable (masterAllowed : .masterData ∈ permitted)
include masterAllowed

theorem masterData_respects {change : Ledger → Ledger}
    (changes : ∀ ledger, MasterDataChange ledger (change ledger)) :
    Respects (Evolves permitted) (modify change : LedgerProgram Unit) :=
  .modify fun ledger => .of_write masterAllowed fun _ => .masterData (changes ledger)

theorem addAccount_respects (number name : String) (classification : Classification)
    (isContra : Bool) (sourceRef : Option String) (needsMapping : Bool) :
    Respects (Evolves permitted)
      (addAccount number name classification isContra sourceRef needsMapping) := by
  apply masterData_respects masterAllowed
  intro ledger
  refine
    { accountIds := nodup_upsert
      accountNumbers := ?_
      accountsKept := fun row rowMem => exists_mem_upsert _ _ _ rowMem
      classesKept := fun row rowMem => ⟨row, rowMem, rfl⟩
      sidesKept := ?_
      sameBooks := rfl }
  · intro numbers row rowMem
    rcases mem_upsert _ _ _ rowMem with isNew | ⟨old, -⟩
    · rw [isNew]
    · exact numbers row old
  · intro sides row rowMem
    rcases mem_upsert _ _ _ rowMem with isNew | ⟨old, -⟩
    · rw [isNew]
      rfl
    · exact sides row old

theorem addClass_respects (id name : String) (sourceRef : Option String) :
    Respects (Evolves permitted) (addClass id name sourceRef) := by
  apply masterData_respects masterAllowed
  intro ledger
  exact
    { accountIds := fun distinct => distinct
      accountNumbers := fun numbers => numbers
      accountsKept := fun row rowMem => ⟨row, rowMem, rfl⟩
      classesKept := fun row rowMem => exists_mem_upsert _ _ _ rowMem
      sidesKept := fun sides => sides
      sameBooks := rfl }

theorem setAccountSourceRef_respects (number sourceRef : String) :
    Respects (Evolves permitted) (setAccountSourceRef number sourceRef) := by
  apply Respects.get_bind
  intro ledger
  have keepsIds : ∀ row : Account,
      (if row.number = number ∧ row.sourceRef = none then
        { row with sourceRef := some sourceRef } else row).accountId = row.accountId ∧
      (if row.number = number ∧ row.sourceRef = none then
        { row with sourceRef := some sourceRef } else row).number = row.number := by
    intro row
    split_ifs <;> exact ⟨rfl, rfl⟩
  apply Respects.bind _ (fun _ => Respects.pure _)
  apply masterData_respects masterAllowed
  intro before
  refine
    { accountIds := ?_
      accountNumbers := ?_
      accountsKept := ?_
      classesKept := fun row rowMem => ⟨row, rowMem, rfl⟩
      sidesKept := ?_
      sameBooks := rfl }
  · intro distinct
    rw [List.map_map]
    convert distinct using 2
    funext row
    simpa using (keepsIds row).1
  · intro numbers row rowMem
    obtain ⟨old, oldMem, rfl⟩ := List.mem_map.mp rowMem
    simpa [(keepsIds old).1, (keepsIds old).2] using numbers old oldMem
  · intro row rowMem
    exact ⟨_, List.mem_map_of_mem rowMem, by simpa using (keepsIds row).1⟩
  · intro sides row rowMem
    obtain ⟨old, oldMem, rfl⟩ := List.mem_map.mp rowMem
    have follows := sides old oldMem
    dsimp only
    split
    · exact follows
    · exact follows

end MasterData

end Ledger

end QuickBooks

namespace QuickBooks

open ExceptPrograms TransactionPrograms
open Ledger

/-- Saving versions of a document, posting what they derive under some
contexts, and reversing its live entries. -/
def documentWrites (documentId : String) (contexts : Set PostingContext) :
    Set WriteKind :=
  {kind | kind = .version documentId ∨ kind = .liveReversal documentId ∨
    ∃ ctx ∈ contexts, kind = .derivedEntry documentId ctx}

section DocumentWrites

variable {permitted : Set WriteKind} {documentId : String}
  {contexts : Set PostingContext}
  (permits : documentWrites documentId contexts ⊆ permitted)
include permits

theorem version_permitted : .version documentId ∈ permitted :=
  permits (.inl rfl)

theorem liveReversal_permitted : .liveReversal documentId ∈ permitted :=
  permits (.inr (.inl rfl))

theorem derivedEntry_permitted {ctx : PostingContext} (ctxMem : ctx ∈ contexts) :
    .derivedEntry documentId ctx ∈ permitted :=
  permits (.inr (.inr ⟨ctx, ctxMem, rfl⟩))

end DocumentWrites

section Producers

variable {permitted : Set WriteKind} {doc : LedgerDocument}

theorem savedEntry_evolves {ledger : Ledger} {contexts : Set PostingContext}
    (permits : documentWrites doc.documentId contexts ⊆ permitted)
    {ctx : PostingContext} (ctxMem : ctx ∈ contexts) {command : CommandMeta}
    {entry : JournalEntry}
    (posts : post doc (ledger.previousVersion doc.documentId + 1) ctx =
      .ok (.entry entry)) :
    Evolves permitted ledger
      (execute (postEntry entry) (ledger.recordVersion doc command)).2 :=
  .trans (recordVersion_evolves (version_permitted permits))
    (postDerived_evolves posts (derivedEntry_permitted permits ctxMem))

theorem saveThenPost_respects {ctx : PostingContext} {command : CommandMeta}
    (permits : documentWrites doc.documentId {ctx} ⊆ permitted) :
    Respects (Evolves permitted) (saveThenPost doc ctx command) := by
  intro ledger
  have saves : Evolves permitted ledger (ledger.recordVersion doc command) :=
    recordVersion_evolves (version_permitted permits)
  unfold saveThenPost
  rw [execute_bind_ok _ (execute_saveDocument ledger doc command)]
  cases posts : post doc (ledger.previousVersion doc.documentId + 1) ctx with
  | error failure => exact saves
  | ok posting =>
    cases posting with
    | nonPosting => exact saves
    | entry entry =>
      change Evolves permitted ledger (execute (postEntry entry >>= fun entryId =>
        pure (ledger.previousVersion doc.documentId + 1, some entryId))
          (ledger.recordVersion doc command)).2
      rw [execute_bind_state _ fun _ _ => rfl]
      exact savedEntry_evolves permits (Set.mem_singleton ctx) posts

theorem saveThenPostEntry_respects {command : CommandMeta}
    (permits : documentWrites doc.documentId {{}} ⊆ permitted) :
    Respects (Evolves permitted) (saveThenPostEntry doc command) := by
  apply Respects.bind (saveThenPost_respects permits)
  rintro ⟨_, entryId⟩
  cases entryId with
  | none => exact .throw _
  | some entryId => exact .pure _

theorem postThenSave_respects {ctx : PostingContext} {command : CommandMeta}
    (permits : documentWrites doc.documentId {ctx} ⊆ permitted) :
    Respects (Evolves permitted) (postThenSave doc ctx command) := by
  intro ledger wellFormed
  have nextVersion := wellFormed.previousVersion_eq_count doc.documentId
  have saves : Evolves permitted ledger (ledger.recordVersion doc command) :=
    recordVersion_evolves (version_permitted permits)
  suffices history : Evolves permitted ledger
      (execute (postThenSave doc ctx command) ledger).2 from history wellFormed
  unfold postThenSave
  rw [execute_bind_ok _ (execute_get ledger)]
  dsimp only
  rw [← nextVersion]
  cases posts : post doc (ledger.previousVersion doc.documentId + 1) ctx with
  | error failure => exact .rfl
  | ok posting =>
    cases posting with
    | nonPosting => exact saves
    | entry entry =>
      change Evolves permitted ledger (execute (postEntry entry >>= fun entryId =>
        pure (ledger.previousVersion doc.documentId + 1, some entryId))
          (ledger.recordVersion doc command)).2
      rw [execute_bind_state _ fun _ _ => rfl]
      exact savedEntry_evolves permits (Set.mem_singleton ctx) posts

def settlementContext (undeposited : AccountId) : PostingContext :=
  { config := { defaultDepositAccount := undeposited } }

theorem importSettlementDocument_respects {undeposited : AccountId} {actor : String}
    (permits : documentWrites doc.documentId {settlementContext undeposited} ⊆ permitted) :
    Respects (Evolves permitted) (importSettlementDocument doc undeposited actor) := by
  apply Respects.get_bind
  intro ledger
  split_ifs
  · apply Respects.bind (postThenSave_respects permits)
    rintro ⟨_, entryId⟩
    cases entryId with
    | none => exact .throw _
    | some entryId => exact .pure _
  · exact .rfl

theorem importSettlement_respects {undeposited : AccountId} {actor : String}
    {docs : List LedgerDocument}
    (permits : ∀ doc ∈ docs,
      documentWrites doc.documentId {settlementContext undeposited} ⊆ permitted) :
    Respects (Evolves permitted) (importSettlement undeposited actor docs) := by
  induction docs with
  | nil => exact .pure _
  | cons doc docs ih =>
    apply Respects.bind (.attempt (importSettlementDocument_respects
      (permits doc (by simp))))
    intro outcome
    apply Respects.bind (ih fun other otherMem => permits other (by simp [otherMem]))
    intro rejected
    cases outcome <;> exact .pure _

theorem importRun_respects {run : PayrollRun} {actor : String}
    (permits : documentWrites run.document.documentId {{}} ⊆ permitted) :
    Respects (Evolves permitted) (importRun run actor) := by
  apply Respects.get_bind
  intro ledger
  cases ledger.liveEntriesForDocument run.document.documentId with
  | cons posted rest =>
    exact Respects.bind (.ofExcept _) (fun _ => .pure _) ledger
  | nil =>
    apply Respects.bind (.refusingWith (saveThenPost_respects permits))
    rintro ⟨_, entryId⟩
    cases entryId with
    | none => exact .throw _
    | some entryId => exact .pure _

theorem importRuns_respects {runs : List PayrollRun} {actor : String}
    (permits : ∀ run ∈ runs, documentWrites run.document.documentId {{}} ⊆ permitted) :
    Respects (Evolves permitted) (importRuns runs actor) := by
  have inOrder : Respects (Evolves permitted) (importRunsInOrder actor runs) := by
    induction runs with
    | nil => exact .pure _
    | cons run runs ih =>
      apply Respects.bind (importRun_respects (permits run (by simp)))
      intro outcome
      apply Respects.bind (ih fun other otherMem => permits other (by simp [otherMem]))
      intro outcomes
      exact .pure _
  apply Respects.get_bind
  intro ledger
  exact Respects.bind (.ofExcept _) (fun _ => .atomically inOrder) ledger

theorem saveSlimDocument_respects {kind : String}
    (permits : documentWrites doc.documentId ∅ ⊆ permitted) :
    Respects (Evolves permitted) (saveSlimDocument doc kind) := by
  apply Respects.get_bind
  intro ledger
  split_ifs
  · exact .rfl
  · exact Respects.bind (saveDocument_respects (version_permitted permits))
      (fun _ => .pure _) ledger

theorem latestDocumentPayload_documentId {ledger : Ledger}
    (wellFormed : ledger.WellFormed) {documentId : String}
    (found : ledger.latestDocumentPayload documentId = some doc) :
    doc.documentId = documentId := by
  unfold latestDocumentPayload documentAt at found
  obtain ⟨row, rowFound, rowDocument⟩ := Option.map_eq_some_iff.mp found
  have sameId := wellFormed.versionDocuments row (List.mem_of_find?_eq_some rowFound)
  have rowId := List.find?_some rowFound
  rw [decide_eq_true_eq] at rowId
  rw [rowDocument] at sameId
  exact sameId.trans rowId.1

theorem voidSlimDocument_respects {documentId kind : String} {asOf : Date}
    (permits : documentWrites documentId ∅ ⊆ permitted) :
    Respects (Evolves permitted) (voidSlimDocument documentId kind asOf) := by
  apply Respects.get_bind
  intro ledger wellFormed
  suffices history : Evolves permitted ledger _ from history wellFormed
  cases found : ledger.latestDocumentPayload documentId with
  | none => exact .rfl
  | some doc =>
    dsimp only
    split_ifs
    · exact .rfl
    · have sameId := latestDocumentPayload_documentId wellFormed found
      have saves : Respects (Evolves permitted)
          (saveDocument { doc with isVoided := true } ⟨kind, kind⟩) := by
        apply saveDocument_respects
        change .version doc.documentId ∈ permitted
        rw [sameId]
        exact version_permitted permits
      exact Respects.bind saves (fun _ => .pure _) ledger

end Producers

end QuickBooks
