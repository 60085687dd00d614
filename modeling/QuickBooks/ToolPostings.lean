import QuickBooks.ImportedDocuments
import QuickBooks.SettledRevisions

/-!
# One live posting for each document

Six write tools save versions of documents.  Three of them save and post
whatever id they are sent and reverse nothing; the edit and the void bring the
journal in line with the new version; applying a credit saves a version that
posts the same.  So the entries of a document add up to what its newest version
posts exactly as long as nothing stands on an id that is saved and posted.
-/

namespace QuickBooks

open ExceptPrograms KeyedTotals TransactionPrograms TransitionRuns
open Ledger

section SaveAndPost

variable {ledger after : Ledger} {doc : LedgerDocument} {ctx : PostingContext}
  {command : CommandMeta} {result : Nat × Option Nat}

/-- A document is saved as the next version of its id, and what it posts is
added to what the id already holds. -/
structure AddsPosting (before after : Ledger) (doc : LedgerDocument)
    (posting : Posting) : Prop where
  latest : after.latestDocumentPayload doc.documentId = some doc
  version : after.previousVersion doc.documentId =
    before.previousVersion doc.documentId + 1
  net : ∀ (selects : PostingKey → Prop) [DecidablePred selects],
    documentNet selects after doc.documentId =
      documentNet selects before doc.documentId + posting.net selects

theorem addsPosting_of_saved (command : CommandMeta) (wellFormed : ledger.WellFormed)
    {posting : Posting}
    (finishes : execute (match posting with
      | .nonPosting => pure (ledger.previousVersion doc.documentId + 1, none)
      | .entry entry => postEntry entry >>= fun entryId =>
        pure (ledger.previousVersion doc.documentId + 1, some entryId) :
          LedgerProgram (Nat × Option Nat))
      (ledger.recordVersion doc command) = (.ok result, after))
    (posts : post doc (ledger.previousVersion doc.documentId + 1) ctx = .ok posting) :
    AddsPosting ledger after doc posting := by
  have latest := latestDocumentPayload_recordVersion ledger doc command
  have version := previousVersion_recordVersion ledger doc command
  cases posting with
  | nonPosting =>
    rw [execute_pure, Prod.mk.injEq] at finishes
    rw [← finishes.2]
    exact ⟨latest, version, fun selects _ => (add_zero _).symm⟩
  | entry entry =>
    dsimp only at finishes
    rw [execute_bind_eq_ok_iff] at finishes
    obtain ⟨entryId, last, postsEntry, result⟩ := finishes
    rw [execute_pure, Prod.mk.injEq] at result
    obtain ⟨-, rfl⟩ := result
    have net : ∀ (selects : PostingKey → Prop) [DecidablePred selects],
        documentNet selects last doc.documentId =
          documentNet selects ledger doc.documentId + lineTotal selects entry.lines :=
      fun selects _ => documentNet_postEntry selects
        (wellFormed.recordVersion doc command) (post_entry_source posts).1 postsEntry
    obtain ⟨-, -, rfl⟩ := execute_postEntry_eq_ok_iff.mp postsEntry
    exact ⟨latest, version, net⟩

theorem addsPosting_of_saveThenPost (wellFormed : ledger.WellFormed)
    (succeeds : execute (saveThenPost doc ctx command) ledger = (.ok result, after)) :
    ∃ posting, post doc (ledger.previousVersion doc.documentId + 1) ctx = .ok posting ∧
      AddsPosting ledger after doc posting := by
  unfold saveThenPost at succeeds
  rw [execute_bind_ok _ (execute_saveDocument ledger doc command),
    execute_bind_eq_ok_iff] at succeeds
  obtain ⟨posting, middle, posts, finishes⟩ := succeeds
  rw [execute_ofExcept, Prod.mk.injEq, mapError_eq_ok_iff] at posts
  obtain ⟨posts, rfl⟩ := posts
  exact ⟨posting, posts, addsPosting_of_saved command wellFormed finishes posts⟩

theorem addsPosting_of_postThenSave (wellFormed : ledger.WellFormed)
    (succeeds : execute (postThenSave doc ctx command) ledger = (.ok result, after)) :
    ∃ posting, post doc (ledger.previousVersion doc.documentId + 1) ctx = .ok posting ∧
      AddsPosting ledger after doc posting := by
  unfold postThenSave at succeeds
  rw [execute_bind_ok _ (execute_get ledger)] at succeeds
  dsimp only at succeeds
  rw [execute_bind_eq_ok_iff] at succeeds
  obtain ⟨posting, middle, posts, succeeds⟩ := succeeds
  rw [execute_ofExcept, Prod.mk.injEq, mapError_eq_ok_iff,
    ← wellFormed.previousVersion_eq_count] at posts
  obtain ⟨posts, rfl⟩ := posts
  rw [execute_bind_ok _ (execute_saveDocument ledger doc command)] at succeeds
  exact ⟨posting, posts, addsPosting_of_saved command wellFormed succeeds posts⟩

theorem addsPosting_of_prepared {actor commandKind : String}
    (wellFormed : ledger.WellFormed)
    (succeeds : execute (do
      let (doc, ctx) ← refusingWith ToolError.books (prepareDocument doc {})
      saveAndPostPrepared doc ctx actor commandKind : ToolProgram (Nat × Option Nat))
        ledger = (.ok result, after)) :
    ∃ prepared ctx posting,
      (execute (prepareDocument doc {}) ledger).1 = .ok (prepared, ctx) ∧
      prepared.documentId = doc.documentId ∧
      post prepared (ledger.previousVersion doc.documentId + 1) ctx = .ok posting ∧
      AddsPosting ledger after prepared posting := by
  rw [execute_bind_eq_ok_iff] at succeeds
  obtain ⟨⟨prepared, ctx⟩, middle, prepares, succeeds⟩ := succeeds
  rw [execute_refusingWith, Prod.mk.injEq, mapError_eq_ok_iff] at prepares
  have preparation : execute (prepareDocument doc {}) ledger =
      (.ok (prepared, ctx), middle) := Prod.ext prepares.1 prepares.2
  have history : Evolves {.masterData} ledger (execute (prepareDocument doc {}) ledger).2 :=
    prepareDocument_respects (Set.mem_singleton _) doc {} ledger
  rw [preparation] at history
  change Evolves {.masterData} ledger middle at history
  have records := sameRecords_of_masterData history wellFormed
  have same : ∀ documentId, Ledger.SameDocument documentId ledger middle := by
    intro documentId
    constructor
    · unfold entriesForDocument
      rw [records.journal]
    · unfold versionsOf
      rw [records.documentVersions]
  unfold saveAndPostPrepared viaLedger at succeeds
  rw [execute_refusingWith, execute_refusingWith, Prod.mk.injEq, mapError_eq_ok_iff,
    mapError_eq_ok_iff] at succeeds
  obtain ⟨posting, posts, adds⟩ := addsPosting_of_postThenSave
    (history.wellFormed wellFormed) (Prod.ext succeeds.1 succeeds.2)
  have sameId := (prepareDocument_sameDocument preparation).documentId
  rw [(same _).previousVersion] at posts
  rw [sameId] at posts
  refine ⟨prepared, ctx, posting, prepares.1, sameId, posts, adds.latest, ?_, ?_⟩
  · rw [adds.version, (same _).previousVersion]
  · intro selects _
    rw [adds.net]
    unfold documentNet
    rw [(same _).entries]

theorem refuseIfCarriedByOpening_ok {documentId : String} {middle : Ledger}
    (passes : execute (refuseIfCarriedByOpening documentId) ledger = (.ok (), middle)) :
    middle = ledger := by
  unfold refuseIfCarriedByOpening at passes
  rw [execute_bind_ok _ (execute_get ledger), execute_ofExcept, Prod.mk.injEq] at passes
  exact passes.2.symm

end SaveAndPost

section Credits

theorem post_net_congr (first second : LedgerDocument) {firstVersion : Nat}
    {ctx : PostingContext} {posting : Posting} (secondVersion : Nat)
    (sameKind : second.kind = first.kind) (notJournal : first.kind ≠ .journalEntry)
    (sameVoid : second.isVoided = first.isVoided)
    (sameLegs : postingLegs second ctx = postingLegs first ctx)
    (kindPosts : first.kind.posts = true)
    (posts : post first firstVersion ctx = .ok posting) :
    ∃ later, post second secondVersion ctx = .ok later ∧
      ∀ (selects : PostingKey → Prop) [DecidablePred selects],
        later.net selects = posting.net selects := by
  obtain ⟨legs, lines, builds, merges⟩ := exists_merged_of_post kindPosts posts
  have secondPosts := post_of_merged secondVersion (sameKind ▸ kindPosts)
    (sameLegs.trans builds) merges
  rw [post_of_merged firstVersion kindPosts builds merges] at posts
  rw [secondPosts, sameKind, sameVoid]
  simp only [notJournal, decide_false, Bool.false_and, Bool.false_eq_true, if_false]
    at posts ⊢
  split_ifs at posts ⊢ with isEmpty
  · exact ⟨_, rfl, fun _ _ => by rw [← Except.ok.inj posts]⟩
  · refine ⟨_, rfl, fun selects _ => ?_⟩
    rw [← Except.ok.inj posts]
    unfold Posting.net applyVoid
    split_ifs <;> rfl

theorem post_withApplications {credit : LedgerDocument} {version : Nat}
    {ctx : PostingContext} {posting : Posting}
    (isCredit : credit.kind = .creditMemo ∨ credit.kind = .vendorCredit)
    (applications : List Application) (later : Nat)
    (posts : post credit version ctx = .ok posting) :
    ∃ laterPosting, post { credit with applications } later ctx = .ok laterPosting ∧
      ∀ (selects : PostingKey → Prop) [DecidablePred selects],
        laterPosting.net selects = posting.net selects := by
  have notJournal : credit.kind ≠ .journalEntry := by
    rcases isCredit with isCredit | isCredit <;> simp [isCredit]
  have kindPosts : credit.kind.posts = true := by
    rcases isCredit with isCredit | isCredit <;> rw [isCredit] <;> rfl
  have sameLegs : postingLegs { credit with applications } ctx = postingLegs credit ctx := by
    unfold postingLegs
    rcases isCredit with isCredit | isCredit <;> rw [isCredit] <;> rfl
  exact post_net_congr credit _ later rfl notJournal rfl sameLegs kindPosts posts

theorem creditWithApplication_credit {ledger : Ledger} {creditId targetId : String}
    {amount : Option Money} {credit doc : LedgerDocument}
    (applies : creditWithApplication ledger creditId targetId amount = .ok (credit, doc)) :
    credit.isVoided = false ∧ (credit.kind = .creditMemo ∨ credit.kind = .vendorCredit) := by
  unfold creditWithApplication at applies
  simp only [bind_eq_ok_iff, pure_eq_ok_iff, Prod.mk.injEq] at applies
  obtain ⟨_, -, targetKind, isTarget, applied, applicable, applications, -, rfl, -⟩ := applies
  constructor
  · unfold applicableAmount at applicable
    rw [check_bind_eq_ok_iff, ensure_eq_ok_iff] at applicable
    simpa using applicable.1
  · unfold creditTargetKind at isTarget
    split at isTarget <;> simp_all

end Credits

namespace Operation

/-- What a tool that saves and posts whatever it is sent saves and posts, and
under which context. -/
def sent : Operation → Ledger → Option (LedgerDocument × PostingContext)
  | createDocument doc _, ledger | convertToInvoice doc _, ledger =>
    (execute (prepareDocument doc {}) ledger).1.toOption
  | saveAndPostDocument doc items _, _ => some (doc, { items })
  | _, _ => none

/-- The context under which an edit posts. -/
def editContext (ledger : Ledger) (doc : LedgerDocument) (config : PostingConfig) :
    Option PostingContext := do
  let old ← (latestDocument ledger doc.documentId).toOption
  let edited ← (checkEdit old doc).toOption
  let (_, ctx) ← (execute (prepareDocument edited config) ledger).1.toOption
  return ctx

/-- The context under which an operation posts a document, when it does. -/
def postsUnder (documentId : String) : Operation → Ledger → Option PostingContext
  | updateDocument doc config _, ledger =>
    if doc.documentId = documentId then editContext ledger doc config else none
  | operation, ledger =>
    (operation.sent ledger).bind fun (doc, ctx) =>
      if doc.documentId = documentId then some ctx else none

/-- A successful call of a write tool on a document. -/
def CallsTool (documentId : String) : Operation → Ledger → Prop
  | createDocument doc actor, ledger => doc.documentId = documentId ∧
    ∃ result, (execute (QuickBooks.createDocument doc actor) ledger).1 = .ok result
  | convertToInvoice doc actor, ledger => doc.documentId = documentId ∧
    ∃ result, (execute (QuickBooks.convertToInvoice doc actor) ledger).1 = .ok result
  | saveAndPostDocument doc items actor, ledger => doc.documentId = documentId ∧
    ∃ result,
      (execute (QuickBooks.saveAndPostDocument doc items actor) ledger).1 = .ok result
  | updateDocument doc config command, ledger => doc.documentId = documentId ∧
    ∃ revision,
      (execute (QuickBooks.updateDocument doc config command) ledger).1 = .ok revision
  | voidDocument target reason command, ledger => target = documentId ∧
    ∃ revision,
      (execute (QuickBooks.voidDocument target reason command) ledger).1 = .ok revision
  | applyCredit creditId targetId amount command, ledger => creditId = documentId ∧
    ∃ revision, (execute (QuickBooks.applyCredit creditId targetId amount command)
      ledger).1 = .ok revision
  | _, _ => False

/-- A successful call of a write tool on a document, or an operation that is
not about it. -/
def Serves (documentId : String) (operation : Operation) (ledger : Ledger) : Prop :=
  operation.CallsTool documentId ledger ∨
    ∀ written ∈ operation.kinds ledger, written.document ≠ some documentId

/-- Whatever is saved and posted under an id meets nothing that stands on it,
or is voided and takes off exactly what stands. -/
def MeetsNothing (documentId : String) (operation : Operation) (ledger : Ledger) : Prop :=
  ∀ doc ctx posting, operation.sent ledger = some (doc, ctx) →
    doc.documentId = documentId →
    post doc (ledger.previousVersion documentId + 1) ctx = .ok posting →
    ∀ (selects : PostingKey → Prop) [DecidablePred selects],
      documentNet selects ledger documentId +
        (if doc.isVoided then posting.net selects else 0) = 0

/-- A step of the book along with the context that a document was posted under
last. -/
def track (documentId : String) (operation : Operation) (state : Ledger × PostingContext) :
    Ledger × PostingContext :=
  (operation.run state.1, (operation.postsUnder documentId state.1).getD state.2)

end Operation

/-- The entries of a document add up to what its newest version posts under a
context, and to nothing when that version is voided. -/
def OnePosting (documentId : String) (state : Ledger × PostingContext) : Prop :=
  match state.1.latestDocumentPayload documentId with
  | none => ∀ (selects : PostingKey → Prop) [DecidablePred selects],
    documentNet selects state.1 documentId = 0
  | some doc =>
    if doc.isVoided then
      ∀ (selects : PostingKey → Prop) [DecidablePred selects],
        documentNet selects state.1 documentId = 0
    else
      ∃ posting, post doc (state.1.previousVersion documentId) state.2 = .ok posting ∧
        ∀ (selects : PostingKey → Prop) [DecidablePred selects],
          documentNet selects state.1 documentId = posting.net selects

section Steps

variable {ledger : Ledger} {documentId : String} {ctx : PostingContext}

theorem onePosting_of_latest {doc : LedgerDocument} {posting : Posting}
    (latest : ledger.latestDocumentPayload documentId = some doc)
    (posts : post doc (ledger.previousVersion documentId) ctx = .ok posting) :
    OnePosting documentId (ledger, ctx) ↔
      ∀ (selects : PostingKey → Prop) [DecidablePred selects],
        documentNet selects ledger documentId =
          if doc.isVoided then 0 else posting.net selects := by
  unfold OnePosting
  rw [latest]
  dsimp only
  split_ifs with isVoided
  · exact Iff.rfl
  · constructor
    · rintro ⟨other, otherPosts, net⟩
      rw [posts, Except.ok.injEq] at otherPosts
      subst otherPosts
      exact net
    · exact fun net => ⟨posting, posts, net⟩

theorem onePosting_of_adds {after : Ledger} {doc : LedgerDocument} {posting : Posting}
    (sameId : doc.documentId = documentId)
    (posts : post doc (ledger.previousVersion documentId + 1) ctx = .ok posting)
    (adds : AddsPosting ledger after doc posting) :
    OnePosting documentId (after, ctx) ↔
      ∀ (selects : PostingKey → Prop) [DecidablePred selects],
        documentNet selects ledger documentId +
          (if doc.isVoided then posting.net selects else 0) = 0 := by
  subst sameId
  rw [← adds.version] at posts
  rw [onePosting_of_latest adds.latest posts]
  refine forall_congr' fun selects => forall_congr' fun _ => ?_
  rw [adds.net selects]
  split_ifs <;> omega

theorem onePosting_of_same {after : Ledger}
    (same : Ledger.SameDocument documentId ledger after) :
    OnePosting documentId (after, ctx) ↔ OnePosting documentId (ledger, ctx) := by
  unfold OnePosting
  dsimp only
  rw [same.latest, same.previousVersion]
  unfold documentNet
  rw [same.entries]

theorem onePosting_of_applyCredit {after : Ledger} {creditId targetId : String}
    {amount : Option Money} {command : CommandMeta} {revision : Revision}
    (wellFormed : ledger.WellFormed) (carries : ledger.LiveCarries creditId)
    (stands : OnePosting creditId (ledger, ctx))
    (applies : execute (applyCredit creditId targetId amount command) ledger =
      (.ok revision, after)) : OnePosting creditId (after, ctx) := by
  unfold applyCredit at applies
  rw [execute_bind_eq_ok_iff] at applies
  obtain ⟨⟨credit, doc⟩, _, reads, applies⟩ := applies
  obtain ⟨built, rfl⟩ := execute_reading_eq_ok_iff.mp reads
  obtain ⟨stillStands, isCredit⟩ := creditWithApplication_credit built
  obtain ⟨finds, applications, docEq⟩ := creditWithApplication_eq_ok built
  have latest := latestDocument_eq_ok finds
  have creditSameId : credit.documentId = creditId :=
    latestDocumentPayload_documentId wellFormed latest
  have sameId : doc.documentId = creditId := by
    rw [docEq]
    exact creditSameId
  have docStands : doc.isVoided = false := by
    rw [docEq]
    exact stillStands
  unfold OnePosting at stands
  rw [latest] at stands
  simp only [stillStands, Bool.false_eq_true, if_false] at stands
  obtain ⟨posting, posts, net⟩ := stands
  obtain ⟨laterPosting, laterPosts, sameNet⟩ :=
    post_withApplications isCredit applications (after.previousVersion creditId) posts
  rw [← docEq] at laterPosts
  clear docEq
  subst sameId
  obtain ⟨newEntry, reverse, plans, writes⟩ := execute_commitRevision_ok applies
  rw [repostingPlan, pure_eq_ok_iff, Prod.mk.injEq] at plans
  obtain ⟨rfl, rfl⟩ := plans
  obtain ⟨-, settled⟩ := settledAs_of_writes wellFormed carries (by simp) writes laterPosting
    (fun selects _ => by
      rw [sameNet, ← net, carries]
      simp)
  refine (onePosting_of_latest settled.latest laterPosts).mpr fun selects _ => ?_
  rw [if_neg (by simp [docStands])]
  exact settled.net selects

theorem onePosting_of_settledAs {after : Ledger} {latest : LedgerDocument}
    {posting : Posting} (sameId : latest.documentId = documentId)
    (settled : SettledAs after latest posting)
    (voided : latest.isVoided = true → posting = .nonPosting)
    (posts : latest.isVoided = false →
      post latest (after.previousVersion documentId) ctx = .ok posting) :
    OnePosting documentId (after, ctx) := by
  subst sameId
  unfold OnePosting
  rw [settled.latest]
  dsimp only
  split_ifs with isVoided
  · intro selects _
    rw [settled.net, voided isVoided]
    rfl
  · exact ⟨posting, posts (by simpa using isVoided), settled.net⟩

end Steps

namespace Operation

variable {ledger : Ledger} {documentId : String} {ctx : PostingContext}

theorem onePosting_track_of_adds {operation : Operation} {doc : LedgerDocument}
    {sentCtx : PostingContext} {posting : Posting}
    (sends : operation.sent ledger = some (doc, sentCtx))
    (sameId : doc.documentId = documentId)
    (postsUnder_eq : operation.postsUnder documentId ledger = some sentCtx)
    (posts : post doc (ledger.previousVersion documentId + 1) sentCtx = .ok posting)
    (adds : AddsPosting ledger (operation.run ledger) doc posting) :
    OnePosting documentId (operation.track documentId (ledger, ctx)) ↔
      operation.MeetsNothing documentId ledger := by
  unfold track
  dsimp only
  rw [postsUnder_eq, Option.getD_some, onePosting_of_adds sameId posts adds]
  constructor
  · intro meets other otherCtx otherPosting otherSends _ otherPosts selects _
    rw [sends, Option.some.injEq, Prod.mk.injEq] at otherSends
    obtain ⟨rfl, rfl⟩ := otherSends
    rw [posts, Except.ok.injEq] at otherPosts
    subst otherPosts
    exact meets selects
  · intro meets selects _
    exact meets doc sentCtx posting sends sameId posts selects

theorem meetsNothing_of_sent_none {operation : Operation}
    (sends : operation.sent ledger = none) : operation.MeetsNothing documentId ledger := by
  intro doc ctx posting sendsSome
  rw [sends] at sendsSome
  simp at sendsSome

theorem sent_documentId {operation : Operation} {doc : LedgerDocument}
    (sends : operation.sent ledger = some (doc, ctx)) :
    .version doc.documentId ∈ operation.kinds ledger := by
  have prepared : ∀ typed : LedgerDocument,
      (execute (prepareDocument typed {}) ledger).1.toOption = some (doc, ctx) →
        doc.documentId = typed.documentId := by
    intro typed prepares
    rcases runs : execute (prepareDocument typed {}) ledger with ⟨outcome, after⟩
    rw [runs] at prepares
    cases outcome with
    | error failure => simp [Except.toOption] at prepares
    | ok result =>
      rw [Except.toOption, Option.some.injEq] at prepares
      rw [prepares] at runs
      exact (prepareDocument_sameDocument runs).documentId
  cases operation with
  | createDocument typed actor | convertToInvoice typed actor =>
    rw [prepared typed sends]
    exact .inr (.inl rfl)
  | saveAndPostDocument typed items actor =>
    simp only [sent, Option.some.injEq, Prod.mk.injEq] at sends
    rw [← sends.1]
    exact .inl rfl
  | _ => simp [sent] at sends

theorem postsUnder_of_other {operation : Operation}
    (other : ∀ written ∈ operation.kinds ledger, written.document ≠ some documentId) :
    operation.postsUnder documentId ledger = none := by
  have notSent : (operation.sent ledger).bind (fun (doc, ctx) =>
      if doc.documentId = documentId then some ctx else none) = none := by
    cases sends : operation.sent ledger with
    | none => rfl
    | some pair =>
      obtain ⟨doc, sentCtx⟩ := pair
      have notSame : doc.documentId ≠ documentId := fun same =>
        other _ (sent_documentId sends) (congrArg some same)
      simp [notSame]
  cases operation with
  | updateDocument doc config command =>
    have notSame : doc.documentId ≠ documentId := fun same =>
      other (.version doc.documentId) (.inr (.inl rfl)) (congrArg some same)
    simp [postsUnder, notSame]
  | _ => exact notSent

theorem onePosting_track_of_prepared {operation : Operation} {doc : LedgerDocument}
    {actor commandKind : String} {result : Nat × Option Nat}
    (wellFormed : ledger.WellFormed)
    (sends : operation.sent ledger = (execute (prepareDocument doc {}) ledger).1.toOption)
    (under : operation.postsUnder doc.documentId ledger =
      (operation.sent ledger).bind fun (sent, ctx) =>
        if sent.documentId = doc.documentId then some ctx else none)
    (succeeds : execute (do
      let (doc, ctx) ← refusingWith ToolError.books (prepareDocument doc {})
      saveAndPostPrepared doc ctx actor commandKind : ToolProgram (Nat × Option Nat))
        ledger = (.ok result, operation.run ledger)) :
    OnePosting doc.documentId (operation.track doc.documentId (ledger, ctx)) ↔
      operation.MeetsNothing doc.documentId ledger := by
  obtain ⟨prepared, preparedCtx, posting, prepares, sameId, posts, adds⟩ :=
    addsPosting_of_prepared wellFormed succeeds
  rw [prepares] at sends
  rw [sends] at under
  exact onePosting_track_of_adds sends sameId (by simpa [Except.toOption, sameId] using under)
    posts adds

theorem onePosting_track_iff {operation : Operation} (wellFormed : ledger.WellFormed)
    (carries : ledger.LiveCarries documentId)
    (serves : operation.Serves documentId ledger)
    (stands : OnePosting documentId (ledger, ctx)) :
    OnePosting documentId (operation.track documentId (ledger, ctx)) ↔
      operation.MeetsNothing documentId ledger := by
  rcases serves with calls | other
  swap
  · have unposted := postsUnder_of_other other
    unfold track
    dsimp only
    rw [unposted, Option.getD_none, onePosting_of_same (sameDocument_run wellFormed other)]
    refine iff_of_true stands fun doc sentCtx _ sends sameId => ?_
    exact absurd (congrArg some sameId) (other _ (sent_documentId sends))
  cases operation with
  | createDocument doc actor =>
    obtain ⟨rfl, result, succeeds⟩ := calls
    have runs : execute (QuickBooks.createDocument doc actor) ledger =
        (.ok result, (createDocument doc actor).run ledger) := Prod.ext succeeds rfl
    unfold QuickBooks.createDocument at runs
    rw [execute_bind_eq_ok_iff] at runs
    obtain ⟨_, middle, passes, runs⟩ := runs
    rw [refuseIfCarriedByOpening_ok passes] at runs
    exact onePosting_track_of_prepared wellFormed rfl rfl runs
  | convertToInvoice doc actor =>
    obtain ⟨rfl, result, succeeds⟩ := calls
    have runs : execute (QuickBooks.convertToInvoice doc actor) ledger =
        (.ok result, (convertToInvoice doc actor).run ledger) := Prod.ext succeeds rfl
    exact onePosting_track_of_prepared wellFormed rfl rfl runs
  | saveAndPostDocument doc items actor =>
    obtain ⟨rfl, result, succeeds⟩ := calls
    have runs : execute (QuickBooks.saveAndPostDocument doc items actor) ledger =
        (.ok result, (saveAndPostDocument doc items actor).run ledger) :=
      Prod.ext succeeds rfl
    unfold QuickBooks.saveAndPostDocument viaLedger at runs
    rw [execute_bind_eq_ok_iff] at runs
    obtain ⟨_, middle, passes, runs⟩ := runs
    rw [refuseIfCarriedByOpening_ok passes, execute_refusingWith, execute_refusingWith,
      Prod.mk.injEq, mapError_eq_ok_iff, mapError_eq_ok_iff] at runs
    obtain ⟨posting, posts, adds⟩ :=
      addsPosting_of_saveThenPost wellFormed (Prod.ext runs.1 runs.2)
    have sends : (saveAndPostDocument doc items actor).sent ledger =
        some (doc, { items }) := rfl
    exact onePosting_track_of_adds sends rfl (by simp [postsUnder, sent]) posts adds
  | updateDocument doc config command =>
    obtain ⟨rfl, revision, succeeds⟩ := calls
    have runs : execute (RevisionCall.update doc config command).program ledger =
        (.ok revision, (updateDocument doc config command).run ledger) :=
      Prod.ext succeeds rfl
    refine iff_of_true ?_ (meetsNothing_of_sent_none rfl)
    obtain ⟨old, edited, latest, editCtx, middle, posting, found, checked, preparation, sameId,
      posts, settled⟩ := RevisionCall.ok_settles wellFormed (by exact carries) runs
    have under : (updateDocument doc config command).postsUnder doc.documentId ledger =
        some editCtx := by
      simp [postsUnder, editContext, found, checked, preparation, Except.toOption]
    obtain ⟨sameDoc, -, docStands⟩ := checkEdit_sameDocument checked
    have latestStands : latest.isVoided = false :=
      (prepareDocument_sameDocument preparation).isVoided.trans
        (sameDoc.isVoided.trans docStands)
    unfold track
    dsimp only
    rw [under, Option.getD_some]
    exact onePosting_of_settledAs sameId settled (by simp [latestStands]) fun _ => posts
  | voidDocument target reason command =>
    obtain ⟨rfl, revision, succeeds⟩ := calls
    have runs : execute (RevisionCall.void target reason command).program ledger =
        (.ok revision, (voidDocument target reason command).run ledger) :=
      Prod.ext succeeds rfl
    refine iff_of_true ?_ (meetsNothing_of_sent_none rfl)
    obtain ⟨latest, sameId, isVoided, settled⟩ :=
      RevisionCall.ok_settles wellFormed (by exact carries) runs
    exact onePosting_of_settledAs sameId settled (fun _ => rfl) (by simp [isVoided])
  | applyCredit creditId targetId amount command =>
    obtain ⟨rfl, revision, succeeds⟩ := calls
    refine iff_of_true ?_ (meetsNothing_of_sent_none rfl)
    exact onePosting_of_applyCredit wellFormed carries stands (Prod.ext succeeds rfl)
  | _ => exact calls.elim

theorem Serves.noStray {operation : Operation} (serves : operation.Serves documentId ledger) :
    .strayReversal documentId ∉ operation.kinds ledger := by
  rcases serves with calls | other
  · cases operation <;> first
      | exact calls.elim
      | simp [kinds, documentWrites]
  · exact fun isStray => other _ isStray rfl

theorem meetsNothing_of_unseen {operation : Operation} (wellFormed : ledger.WellFormed)
    (unseen : ledger.versionsOf documentId = [])
    (stands : ∀ doc ctx, operation.sent ledger = some (doc, ctx) → doc.isVoided = false) :
    operation.MeetsNothing documentId ledger := by
  intro doc ctx posting sends _ _ selects _
  rw [stands doc ctx sends, documentNet, wellFormed.entries_of_unseen unseen]
  rfl

end Operation

theorem onePosting_of_unseen {ledger : Ledger} {documentId : String}
    (wellFormed : ledger.WellFormed) (unseen : ledger.versionsOf documentId = [])
    (ctx : PostingContext) :
    ledger.LiveCarries documentId ∧ OnePosting documentId (ledger, ctx) := by
  have noEntries := wellFormed.entries_of_unseen unseen
  constructor
  · intro selects _
    rw [documentNet, liveNet, noEntries, live_of_no_entries noEntries]
  · unfold OnePosting
    dsimp only
    rw [latest_of_unseen unseen]
    intro selects _
    rw [documentNet, noEntries]
    rfl

/-- From a ledger in which a document has one posting, it has one throughout an
interleaving of successful tool calls and operations about other documents
exactly when nothing is saved and posted on top of what stands. -/
theorem one_posting_iff {start : Ledger} {ctx : PostingContext} {documentId : String}
    (reachable : Reachable start) (carries : start.LiveCarries documentId)
    (stands : OnePosting documentId (start, ctx)) {operations : List Operation}
    (serves : EveryStep Operation.run (Operation.Serves documentId) start operations) :
    (∀ earlier, earlier <+: operations →
        OnePosting documentId
          (runFrom (Operation.track documentId) (start, ctx) earlier)) ↔
      EveryStep Operation.run (Operation.MeetsNothing documentId) start operations := by
  have acts : ∀ (operation : Operation) (state : Ledger × PostingContext),
      (operation.track documentId state).1 = operation.run state.1 := fun _ _ => rfl
  have part (condition : Operation → Ledger → Prop) :=
    everyStep_part_iff Prod.fst acts condition (start, ctx) operations
  rw [← part] at serves ⊢
  refine everyState_iff_everyStep
    (fun state => state.1.WellFormed ∧ state.1.LiveCarries documentId)
    (OnePosting documentId) ?_ ?_ ⟨reachable.wellFormed, carries⟩ stands serves
  · rintro ⟨ledger, lastCtx⟩ operation ⟨wellFormed, ledgerCarries⟩ stepServes
    refine ⟨(operation.evolves ledger).wellFormed wellFormed, ?_⟩
    have noStray : EveryStep Operation.run
        (fun operation ledger => .strayReversal documentId ∉ operation.kinds ledger)
        ledger [operation] := ⟨stepServes.noStray, trivial⟩
    exact liveCarries_after wellFormed ledgerCarries noStray
  · rintro ⟨ledger, lastCtx⟩ operation ⟨wellFormed, ledgerCarries⟩ stepServes stepStands
    exact Operation.onePosting_track_iff wellFormed ledgerCarries stepServes stepStands

def resentSale : List Operation :=
  [.saveAndPostDocument saleOf2026 [] "bookkeeper",
    .saveAndPostDocument saleOf2026 [] "bookkeeper"]

/-- Both calls succeed, and 200.00 stands where the newest version posts 100.00. -/
theorem resentSale_posts_twice :
    EveryStep Operation.run (Operation.Serves "sale-1") (createCompany "aquamentor")
        resentSale ∧
      ((createCompany "aquamentor").after resentSale).latestDocumentPayload "sale-1" =
        some saleOf2026 ∧
      documentNet (fun key => key.account = acct Chart.salesIncome)
        ((createCompany "aquamentor").after resentSale) "sale-1" = -20000 ∧
      ∃ posting, post saleOf2026 2 {} = .ok posting ∧
        posting.net (fun key => key.account = acct Chart.salesIncome) = -10000 := by
  refine ⟨⟨.inl ⟨rfl, _, rfl⟩, .inl ⟨rfl, _, rfl⟩, trivial⟩, by decide +kernel,
    by decide +kernel, _, rfl, by decide +kernel⟩

/-- The sale saved and posted once, and then voided. -/
theorem one_posting_iff_voidedSale :
    OnePosting "sale-1" (runFrom (Operation.track "sale-1") (createCompany "aquamentor", {})
      [.saveAndPostDocument saleOf2026 [] "bookkeeper",
        .voidDocument "sale-1" "entered twice" ⟨"bookkeeper", "void_document"⟩]) := by
  have reachable : Reachable (createCompany "aquamentor") := ⟨_, [], rfl⟩
  have unseen : (createCompany "aquamentor").versionsOf "sale-1" = [] := rfl
  obtain ⟨carries, stands⟩ := onePosting_of_unseen reachable.wellFormed unseen {}
  have serves : EveryStep Operation.run (Operation.Serves "sale-1")
      (createCompany "aquamentor")
      [.saveAndPostDocument saleOf2026 [] "bookkeeper",
        .voidDocument "sale-1" "entered twice" ⟨"bookkeeper", "void_document"⟩] :=
    ⟨.inl ⟨rfl, _, rfl⟩, .inl ⟨rfl, _, rfl⟩, trivial⟩
  refine (one_posting_iff reachable carries stands serves).mpr ⟨?_, ?_, trivial⟩ _
    (List.prefix_refl _)
  · apply Operation.meetsNothing_of_unseen reachable.wellFormed unseen
    intro doc ctx sends
    rw [Operation.sent, Option.some.injEq, Prod.mk.injEq] at sends
    rw [← sends.1]
    rfl
  · exact Operation.meetsNothing_of_sent_none rfl

end QuickBooks
