import QuickBooks.ClosedPeriods
import QuickBooks.ProcessedDocuments
import QuickBooks.SalesOrders

/-!
# Refused calls of the tools that save and post

Creating a document and making an invoice of a sales order check the document
and derive its entry before they save it; sending a document as it is saves it
first.  In all three the version is committed before the store is asked to take
the entry, so a call that fails after the save leaves the version behind.
-/

namespace QuickBooks

open DecimalNumbers ExceptPrograms TransactionPrograms
open Ledger

/-- The refusals of a call: of its arguments, of the program, and of the
amounts of its answer. -/
inductive CallError where
  | argument (text : String)
  | tool (failure : ToolError)
  | salesOrder (failure : SalesOrderError)
  | money (failure : MoneyError)
deriving DecidableEq

abbrev CallProgram :=
  Program Ledger CallError

/-- What a call answers: the document as it was saved, its version and entry,
the total where one is shown, and the sales order that an invoice was made
of. -/
structure WriteAnswer where
  document : LedgerDocument
  version : Nat
  entryId : Option Nat
  total : Option Money := none
  order : Option OpenSalesOrder := none
deriving DecidableEq

section Calls

/-- Save and post a prepared document, and answer with its total. -/
def answerPrepared (doc : LedgerDocument) (ctx : PostingContext)
    (actor commandKind : String) : CallProgram WriteAnswer := do
  let (version, entryId) ←
    refusingWith .tool (saveAndPostPrepared doc ctx actor commandKind)
  let total ← MonadExcept.ofExcept ((documentTotal doc).mapError CallError.money)
  return { document := doc, version, entryId, total := some total }

/-- A call that creates a document. -/
def callCreateDocument (document : Except String LedgerDocument) (actor : String) :
    CallProgram WriteAnswer := do
  let doc ← MonadExcept.ofExcept (document.mapError CallError.argument)
  refusingWith .tool (refuseIfCarriedByOpening doc.documentId)
  let (doc, ctx) ← refusingWith (.tool ∘ .books) (prepareDocument doc {})
  answerPrepared doc ctx actor "mcp_create_document"

/-- A call that makes an invoice of a sales order. -/
def callConvertToInvoice (divide : Decimal → Decimal → Option Decimal) (orderId : String)
    (request : Except String ConvertRequest) (actor : String) :
    CallProgram WriteAnswer := do
  let request ← MonadExcept.ofExcept (request.mapError CallError.argument)
  let ledger ← get
  let invoice ← MonadExcept.ofExcept
    ((invoiceFromSalesOrder divide ledger orderId request).mapError CallError.salesOrder)
  let (invoice, ctx) ← refusingWith (.tool ∘ .books) (prepareDocument invoice {})
  let answer ← answerPrepared invoice ctx actor "mcp_convert_to_invoice"
  let ledger ← get
  let orders ← MonadExcept.ofExcept
    ((salesOrders ledger none false).mapError CallError.money)
  return { answer with order := orders.find? fun order => order.documentId = orderId }

/-- Post a document that was sent as it is and has been saved.  Only now are its
items read. -/
def postSent (doc : LedgerDocument) (version : Nat)
    (items : Except String (List (String × ItemAccounts))) : CallProgram WriteAnswer := do
  let items ← MonadExcept.ofExcept (items.mapError CallError.argument)
  let posting ← MonadExcept.ofExcept
    ((post doc version { items }).mapError (CallError.tool ∘ .books ∘ .post))
  match posting with
  | .nonPosting => return { document := doc, version, entryId := none }
  | .entry entry => do
    let entryId ← refusingWith (.tool ∘ .books ∘ .ledger) (postEntry entry)
    return { document := doc, version, entryId := some entryId }

/-- A call that saves and posts a document as it is sent. -/
def callSaveAndPostDocument (document : Except String LedgerDocument)
    (items : Except String (List (String × ItemAccounts))) (actor : String) :
    CallProgram WriteAnswer := do
  let doc ← MonadExcept.ofExcept (document.mapError CallError.argument)
  refusingWith .tool (refuseIfCarriedByOpening doc.documentId)
  let version ← refusingWith (.tool ∘ .books ∘ .ledger)
    (saveDocument doc ⟨actor, "mcp_save_document"⟩)
  postSent doc version items

/-- A call of one of the three tools with whatever arguments it was sent. -/
inductive WriteCall where
  | createDocument (document : Except String LedgerDocument) (actor : String)
  | convertToInvoice (orderId : String) (request : Except String ConvertRequest)
      (actor : String)
  | saveAndPostDocument (document : Except String LedgerDocument)
      (items : Except String (List (String × ItemAccounts))) (actor : String)

def WriteCall.program (divide : Decimal → Decimal → Option Decimal) :
    WriteCall → CallProgram WriteAnswer
  | createDocument document actor => callCreateDocument document actor
  | convertToInvoice orderId request actor =>
    callConvertToInvoice divide orderId request actor
  | saveAndPostDocument document items actor =>
    callSaveAndPostDocument document items actor

end Calls

def LeavesNothing (before after : Ledger) : Prop :=
  after = { before with docSequences := after.docSequences }

instance : IsPreorder Ledger LeavesNothing where
  refl _ := rfl
  trans _ _ _ first second := by
    unfold LeavesNothing at *
    rw [second, first]

section Preparation

theorem LeavesNothing.reading {α : Type} (compute : Ledger → Except BooksError α) :
    Respects LeavesNothing (reading compute) :=
  .of_state_eq fun before => by rw [execute_reading]

theorem LeavesNothing.nextNumber (kind : DocKind) :
    Respects LeavesNothing (nextNumber kind) := by
  have advances : ∀ next, Respects LeavesNothing
      (modify fun ledger => ledger.withNextNumber kind next : BooksProgram Unit) :=
    fun _ => .modify fun _ => rfl
  apply Respects.get_bind
  intro ledger
  dsimp only
  split
  · exact refl ledger
  · exact Respects.bind (advances _) (fun _ => .pure _) ledger

theorem LeavesNothing.prepareDocument (doc : LedgerDocument) (config : PostingConfig) :
    Respects LeavesNothing (prepareDocument doc config) := by
  have numbers : Respects LeavesNothing (preparedNumber doc) := by
    unfold preparedNumber
    split
    · exact .pure _
    · cases doc.number with
      | none => exact .bind (LeavesNothing.nextNumber _) fun _ => .pure _
      | some number =>
        apply Respects.get_bind
        intro ledger
        split
        · exact refl ledger
        · split <;> exact refl ledger
  apply Respects.bind (LeavesNothing.reading _)
  intro contact
  apply Respects.bind (LeavesNothing.reading _)
  intro items
  apply Respects.bind numbers
  intro number
  apply Respects.bind (LeavesNothing.reading _)
  intro dueDate
  apply Respects.bind (LeavesNothing.reading _)
  intro tax
  exact .pure _

end Preparation

section Gate

variable (ledger : Ledger)

def Ledger.TakesPosting (posting : Posting) : Prop :=
  ∀ entry, posting = .entry entry → ledger.Takes entry

variable {ledger} {doc : LedgerDocument} {ctx : PostingContext} {entry : JournalEntry}

/-- What a call leaves of the documents and the contacts. -/
structure SavedAs (doc : LedgerDocument) (command : CommandMeta) (before after : Ledger) :
    Prop where
  versions : after.documentVersions = (before.recordVersion doc command).documentVersions
  contacts : after.contacts = before.contacts

theorem SavedAs.not_leavesNothing {command : CommandMeta} {before after : Ledger}
    (saved : SavedAs doc command before after) : ¬ LeavesNothing before after := by
  intro nothing
  have versions := saved.versions
  rw [nothing] at versions
  have lengths := congrArg List.length versions
  simp [recordVersion] at lengths

theorem salesOrders_congr {before after : Ledger}
    (versions : after.documentVersions = before.documentVersions)
    (contacts : after.contacts = before.contacts) (asOf : Option Date) (openOnly : Bool) :
    salesOrders after asOf openOnly = salesOrders before asOf openOnly := by
  unfold salesOrders invoicedByOrder latestDocuments isNewest previousVersion versionsOf
    contactNames
  rw [versions, contacts]

/-- After its version is saved a posting that the store takes goes through, and
one that it does not take leaves the version alone behind. -/
theorem postThenSave_cases (wellFormed : ledger.WellFormed) (command : CommandMeta)
    {posting : Posting}
    (posts : post doc (ledger.previousVersion doc.documentId + 1) ctx = .ok posting) :
    (ledger.TakesPosting posting ∧ ∃ result after,
      execute (postThenSave doc ctx command) ledger = (.ok result, after) ∧
        SavedAs doc command ledger after) ∨
    (¬ ledger.TakesPosting posting ∧ ∃ failure after,
      execute (postThenSave doc ctx command) ledger = (.error failure, after) ∧
        SavedAs doc command ledger after) := by
  have passes : execute (MonadExcept.ofExcept
      ((post doc (ledger.documentVersionCount doc.documentId + 1) ctx).mapError
        LedgerError.post) : LedgerProgram Posting) ledger = (.ok posting, ledger) := by
    rw [← wellFormed.previousVersion_eq_count, posts, execute_ofExcept]
    rfl
  unfold postThenSave
  rw [execute_bind_ok _ (execute_get ledger), execute_bind_ok _ passes,
    execute_bind_ok _ (execute_saveDocument ledger doc command)]
  cases posting with
  | nonPosting =>
    left
    refine ⟨fun entry isEntry => ?_, _, _, rfl, rfl, rfl⟩
    cases isEntry
  | entry entry =>
    by_cases taken : ledger.Takes entry
    · left
      have accepted : (ledger.recordVersion doc command).Accepts entry :=
        (accepts_derived_iff posts).mpr taken
      refine ⟨fun other isEntry => ?_, (ledger.previousVersion doc.documentId + 1,
          some (ledger.recordVersion doc command).nextEntryId),
        (ledger.recordVersion doc command).recordEntry entry, ?_, rfl, rfl⟩
      · cases isEntry
        exact taken
      · exact execute_bind_ok _ (execute_postEntry_of_accepts accepted)
    · right
      have refused : ¬ (ledger.recordVersion doc command).Accepts entry :=
        mt (accepts_derived_iff posts).mp taken
      obtain ⟨failure, refuses⟩ := execute_postEntry_of_not_accepts refused
      exact ⟨fun takes => taken (takes entry rfl), failure,
        ledger.recordVersion doc command, execute_bind_error _ refuses, rfl, rfl⟩

/-- However far the rules get with a document, the store takes what they derive
and the answer can show its total. -/
def Ledger.Finishes (ledger : Ledger) (doc : LedgerDocument) (ctx : PostingContext) : Prop :=
  ∀ posting, post doc (ledger.previousVersion doc.documentId + 1) ctx = .ok posting →
    ledger.TakesPosting posting ∧ DocumentTotalFits doc

theorem answerPrepared_cases (wellFormed : ledger.WellFormed) (doc : LedgerDocument)
    (ctx : PostingContext) (actor commandKind : String) :
    (∃ refusal, post doc (ledger.previousVersion doc.documentId + 1) ctx = .error refusal ∧
      ∃ failure, execute (answerPrepared doc ctx actor commandKind) ledger =
        (.error failure, ledger)) ∨
    ∃ posting, post doc (ledger.previousVersion doc.documentId + 1) ctx = .ok posting ∧
      ∃ after, SavedAs doc ⟨actor, commandKind⟩ ledger after ∧
        ((ledger.TakesPosting posting ∧ DocumentTotalFits doc ∧
            ∃ answer, execute (answerPrepared doc ctx actor commandKind) ledger =
              (.ok answer, after)) ∨
          (¬ (ledger.TakesPosting posting ∧ DocumentTotalFits doc) ∧
            ∃ failure, execute (answerPrepared doc ctx actor commandKind) ledger =
              (.error failure, after))) := by
  have saving : execute (refusingWith CallError.tool
      (saveAndPostPrepared doc ctx actor commandKind)) ledger =
        ((execute (postThenSave doc ctx ⟨actor, commandKind⟩) ledger).1.mapError
          (CallError.tool ∘ .books ∘ .ledger),
        (execute (postThenSave doc ctx ⟨actor, commandKind⟩) ledger).2) := by
    unfold saveAndPostPrepared viaLedger
    simp only [execute_refusingWith]
    cases (execute (postThenSave doc ctx ⟨actor, commandKind⟩) ledger).1 <;> rfl
  unfold answerPrepared
  cases posts : post doc (ledger.previousVersion doc.documentId + 1) ctx with
  | error refusal =>
    left
    refine ⟨refusal, rfl, CallError.tool (.books (.ledger (.post refusal))), ?_⟩
    have refuses : execute (postThenSave doc ctx ⟨actor, commandKind⟩) ledger =
        (.error (.post refusal), ledger) := by
      unfold postThenSave
      rw [execute_bind_ok _ (execute_get ledger), execute_bind_error ledger]
      rw [← wellFormed.previousVersion_eq_count, posts, execute_ofExcept]
      rfl
    rw [refuses] at saving
    exact execute_bind_error _ saving
  | ok posting =>
    right
    refine ⟨posting, rfl, ?_⟩
    rcases postThenSave_cases wellFormed ⟨actor, commandKind⟩ posts with
      ⟨taken, result, after, runs, saved⟩ | ⟨refused, failure, after, runs, saved⟩
    · rw [runs] at saving
      refine ⟨after, saved, ?_⟩
      rw [execute_bind_ok _ saving]
      cases totals : documentTotal doc with
      | ok total =>
        left
        refine ⟨taken, documentTotal_succeeds_iff.mp ⟨total, totals⟩,
          { document := doc, version := result.1, entryId := result.2
            total := some total }, ?_⟩
        rfl
      | error failure =>
        right
        refine ⟨?_, .money failure, rfl⟩
        rintro ⟨-, fits⟩
        obtain ⟨total, succeeds⟩ := documentTotal_succeeds_iff.mpr fits
        rw [totals] at succeeds
        cases succeeds
    · rw [runs] at saving
      exact ⟨after, saved, .inr ⟨fun both => refused both.1, _, execute_bind_error _ saving⟩⟩

end Gate

def RefusesCleanly {α : Type} (program : CallProgram α) (ledger : Ledger) : Prop :=
  ∀ failure after, execute program ledger = (.error failure, after) →
    LeavesNothing ledger after

namespace RefusesCleanly

variable {α β : Type} {program : CallProgram α} {next : α → CallProgram β}
  {ledger middle : Ledger} {value : α} {failure : CallError}

theorem of_ok (succeeds : execute program ledger = (.ok value, middle)) :
    RefusesCleanly program ledger := by
  intro failure after refuses
  rw [succeeds] at refuses
  cases refuses

theorem error_iff (refuses : execute program ledger = (.error failure, middle)) :
    RefusesCleanly program ledger ↔ LeavesNothing ledger middle := by
  constructor
  · intro cleanly
    exact cleanly _ _ refuses
  · intro nothing failure' after refuses'
    rw [refuses] at refuses'
    cases refuses'
    exact nothing

theorem bind_of_error (refuses : execute program ledger = (.error failure, middle))
    (nothing : LeavesNothing ledger middle) : RefusesCleanly (program >>= next) ledger :=
  (error_iff (execute_bind_error _ refuses)).mpr nothing

theorem bind_ok_iff (succeeds : execute program ledger = (.ok value, middle))
    (nothing : LeavesNothing ledger middle) :
    RefusesCleanly (program >>= next) ledger ↔ RefusesCleanly (next value) middle := by
  unfold RefusesCleanly
  rw [execute_bind_ok _ succeeds]
  constructor
  · intro cleanly failure after refuses
    have kept := cleanly failure after refuses
    unfold LeavesNothing at kept nothing ⊢
    rw [kept, nothing]
  · intro cleanly failure after refuses
    exact IsTrans.trans _ _ _ nothing (cleanly failure after refuses)

theorem ofExcept_bind_iff {outcome : Except CallError α} :
    RefusesCleanly (MonadExcept.ofExcept outcome >>= next) ledger ↔
      ∀ value, outcome = .ok value → RefusesCleanly (next value) ledger := by
  cases outcome with
  | error failure =>
    have refuses : RefusesCleanly
        (MonadExcept.ofExcept (.error failure : Except CallError α) >>= next) ledger :=
      bind_of_error (execute_ofExcept ledger _) (refl ledger)
    simp [refuses]
  | ok value =>
    rw [bind_ok_iff (execute_ofExcept ledger (.ok value)) (refl ledger)]
    simp

theorem guard_bind_iff {documentId : String} {rest : CallProgram β} :
    RefusesCleanly (refusingWith .tool (refuseIfCarriedByOpening documentId) >>=
        fun _ => rest) ledger ↔
      (ledger.carriedByOpening documentId = false → RefusesCleanly rest ledger) := by
  have guard : execute (refuseIfCarriedByOpening documentId) ledger =
      (ensure (!ledger.carriedByOpening documentId)
        (ToolError.carriedByOpening documentId), ledger) := by
    unfold refuseIfCarriedByOpening
    rw [execute_bind_ok _ (execute_get ledger), execute_ofExcept]
  cases carried : ledger.carriedByOpening documentId with
  | false =>
    have passes : execute (refusingWith CallError.tool
        (refuseIfCarriedByOpening documentId)) ledger = (.ok (), ledger) := by
      rw [execute_refusingWith, guard, carried]
      rfl
    rw [bind_ok_iff passes (refl ledger)]
    simp
  | true =>
    have refuses : execute (refusingWith CallError.tool
        (refuseIfCarriedByOpening documentId)) ledger =
          (.error (.tool (.carriedByOpening documentId)), ledger) := by
      rw [execute_refusingWith, guard, carried]
      rfl
    simp [bind_of_error refuses (refl ledger)]

theorem prepare_bind_iff {doc : LedgerDocument}
    {next : LedgerDocument × PostingContext → CallProgram β} {holds : Prop}
    (rest : ∀ prepared ctx after,
      execute (prepareDocument doc {}) ledger = (.ok (prepared, ctx), after) →
        LeavesNothing ledger after → (RefusesCleanly (next (prepared, ctx)) after ↔ holds))
    (fails : ∀ failure, (execute (prepareDocument doc {}) ledger).1 = .error failure → holds) :
    RefusesCleanly (refusingWith (CallError.tool ∘ .books) (prepareDocument doc {}) >>= next)
        ledger ↔ holds := by
  have nothing := LeavesNothing.prepareDocument doc {} ledger
  rcases prepares : execute (prepareDocument doc {}) ledger with ⟨outcome, after⟩
  rw [prepares] at nothing
  cases outcome with
  | error failure =>
    have refuses : execute (refusingWith (CallError.tool ∘ .books)
        (prepareDocument doc {})) ledger = (.error (.tool (.books failure)), after) := by
      rw [execute_refusingWith, prepares]
      rfl
    exact iff_of_true (bind_of_error refuses nothing) (fails failure (by rw [prepares]))
  | ok prepared =>
    have succeeds : execute (refusingWith (CallError.tool ∘ .books)
        (prepareDocument doc {})) ledger = (.ok prepared, after) := by
      rw [execute_refusingWith, prepares]
      rfl
    rw [bind_ok_iff succeeds nothing]
    exact rest prepared.1 prepared.2 after prepares nothing

/-- The common tail refuses cleanly exactly when the document finishes once the
rules derive a posting. -/
theorem answerPrepared_iff {doc : LedgerDocument} {ctx : PostingContext}
    (wellFormed : ledger.WellFormed) (actor commandKind : String) :
    RefusesCleanly (answerPrepared doc ctx actor commandKind) ledger ↔
      ledger.Finishes doc ctx := by
  rcases answerPrepared_cases wellFormed doc ctx actor commandKind with
    ⟨refusal, refused, failure, runs⟩ |
    ⟨posting, posts, after, saved, ⟨taken, fits, answer, runs⟩ | ⟨unfinished, failure, runs⟩⟩
  · refine iff_of_true ((error_iff runs).mpr (refl ledger)) ?_
    intro posting posts
    rw [refused] at posts
    cases posts
  · refine iff_of_true (of_ok runs) ?_
    intro other posts'
    rw [posts] at posts'
    cases posts'
    exact ⟨taken, fits⟩
  · refine iff_of_false ?_ fun finishes => unfinished (finishes posting posts)
    rw [error_iff runs]
    exact saved.not_leavesNothing

theorem answerPrepared_bind_iff {doc : LedgerDocument} {ctx : PostingContext}
    {actor commandKind : String} {next : WriteAnswer → CallProgram β}
    (wellFormed : ledger.WellFormed) (answers : Prop)
    (reads : ∀ answer after, SavedAs doc ⟨actor, commandKind⟩ ledger after →
      (answers ∧ ∃ value, execute (next answer) after = (.ok value, after)) ∨
      (¬ answers ∧ ∃ failure, execute (next answer) after = (.error failure, after))) :
    RefusesCleanly (answerPrepared doc ctx actor commandKind >>= next) ledger ↔
      ∀ posting, post doc (ledger.previousVersion doc.documentId + 1) ctx = .ok posting →
        ledger.TakesPosting posting ∧ DocumentTotalFits doc ∧ answers := by
  rcases answerPrepared_cases wellFormed doc ctx actor commandKind with
    ⟨refusal, refused, failure, runs⟩ |
    ⟨posting, posts, after, saved, ⟨taken, fits, answer, runs⟩ | ⟨unfinished, failure, runs⟩⟩
  · refine iff_of_true (bind_of_error runs (refl ledger)) ?_
    intro posting posts
    rw [refused] at posts
    cases posts
  · rcases reads answer after saved with ⟨readable, value, succeeds⟩ | ⟨unreadable, failure, fails⟩
    · refine iff_of_true (of_ok ((execute_bind_ok _ runs).trans succeeds)) ?_
      intro other posts'
      rw [posts] at posts'
      cases posts'
      exact ⟨taken, fits, readable⟩
    · refine iff_of_false ?_ fun holds => unreadable (holds posting posts).2.2
      rw [error_iff ((execute_bind_ok _ runs).trans fails)]
      exact saved.not_leavesNothing
  · refine iff_of_false ?_ fun holds =>
      unfinished ⟨(holds posting posts).1, (holds posting posts).2.1⟩
    rw [error_iff (execute_bind_error _ runs)]
    exact saved.not_leavesNothing

end RefusesCleanly

namespace LeavesNothing

variable {before after : Ledger}

theorem takesPosting_iff (nothing : LeavesNothing before after) {posting : Posting} :
    after.TakesPosting posting ↔ before.TakesPosting posting := by
  unfold LeavesNothing at nothing
  generalize after.docSequences = docSequences at nothing
  subst nothing
  constructor
  · intro taken entry isEntry
    obtain ⟨dateOpen, balanced, classRule⟩ := taken entry isEntry
    exact ⟨dateOpen, balanced, classRule⟩
  · intro taken entry isEntry
    obtain ⟨dateOpen, balanced, classRule⟩ := taken entry isEntry
    exact ⟨dateOpen, balanced, classRule⟩

theorem previousVersion_eq (nothing : LeavesNothing before after) (documentId : String) :
    after.previousVersion documentId = before.previousVersion documentId := by
  rw [nothing]
  rfl

theorem finishes_iff (nothing : LeavesNothing before after) {doc : LedgerDocument}
    {ctx : PostingContext} : after.Finishes doc ctx ↔ before.Finishes doc ctx := by
  unfold Finishes
  rw [nothing.previousVersion_eq]
  simp only [nothing.takesPosting_iff]

end LeavesNothing

theorem wellFormed_of_prepares {ledger after : Ledger} {doc : LedgerDocument}
    {outcome : Except BooksError (LedgerDocument × PostingContext)}
    (wellFormed : ledger.WellFormed)
    (prepares : execute (prepareDocument doc {}) ledger = (outcome, after)) :
    after.WellFormed := by
  have history := prepareDocument_respects (Set.mem_singleton _) doc {} ledger
  rw [prepares] at history
  exact Evolves.wellFormed history wellFormed

namespace WriteCall

open RefusesCleanly

variable (divide : Decimal → Decimal → Option Decimal) (ledger : Ledger)

/-- A call that gets as far as saving a version also gets to its answer.  A
document that is sent as it is gets there whenever the import did not bring it
across, so its items have to be readable and the rules to accept it; a prepared
one gets there when the rules accept it. -/
def Completes : WriteCall → Prop
  | createDocument document _ => ∀ doc, document = .ok doc →
    ledger.carriedByOpening doc.documentId = false →
    ∀ prepared ctx, (execute (prepareDocument doc {}) ledger).1 = .ok (prepared, ctx) →
      ledger.Finishes prepared ctx
  | convertToInvoice orderId request actor => ∀ read, request = .ok read →
    ∀ invoice, invoiceFromSalesOrder divide ledger orderId read = .ok invoice →
    ∀ prepared ctx, (execute (prepareDocument invoice {}) ledger).1 = .ok (prepared, ctx) →
    ∀ posting, post prepared (ledger.previousVersion prepared.documentId + 1) ctx =
        .ok posting →
      ledger.TakesPosting posting ∧ DocumentTotalFits prepared ∧
        ∃ orders, salesOrders (ledger.recordVersion prepared ⟨actor, "mcp_convert_to_invoice"⟩)
          none false = .ok orders
  | saveAndPostDocument document items _ => ∀ doc, document = .ok doc →
    ledger.carriedByOpening doc.documentId = false →
    ∃ accounts posting, items = .ok accounts ∧
      post doc (ledger.previousVersion doc.documentId + 1) { items := accounts } =
        .ok posting ∧ ledger.TakesPosting posting

variable {ledger}

theorem createDocument_iff (wellFormed : ledger.WellFormed)
    (document : Except String LedgerDocument) (actor : String) :
    RefusesCleanly (callCreateDocument document actor) ledger ↔
      (createDocument document actor).Completes divide ledger := by
  unfold callCreateDocument
  rw [ofExcept_bind_iff]
  simp only [mapError_eq_ok_iff, guard_bind_iff]
  apply forall₃_congr
  intro doc _ _
  apply prepare_bind_iff
  · intro prepared ctx after prepares nothing
    rw [answerPrepared_iff (wellFormed_of_prepares wellFormed prepares),
      nothing.finishes_iff, prepares]
    constructor
    · rintro finishes _ _ ⟨⟩
      exact finishes
    · intro finishes
      exact finishes _ _ rfl
  · intro failure fails prepared ctx prepares
    rw [fails] at prepares
    cases prepares

theorem convertToInvoice_iff (wellFormed : ledger.WellFormed) (orderId : String)
    (request : Except String ConvertRequest) (actor : String) :
    RefusesCleanly (callConvertToInvoice divide orderId request actor) ledger ↔
      (convertToInvoice orderId request actor).Completes divide ledger := by
  unfold callConvertToInvoice
  rw [ofExcept_bind_iff]
  simp only [mapError_eq_ok_iff]
  apply forall₂_congr
  intro read _
  rw [bind_ok_iff (execute_get ledger) (refl ledger), ofExcept_bind_iff]
  simp only [mapError_eq_ok_iff]
  apply forall₂_congr
  intro invoice _
  apply prepare_bind_iff
  · intro prepared ctx middle prepares nothing
    have listed : ∀ after, SavedAs prepared ⟨actor, "mcp_convert_to_invoice"⟩ middle after →
        salesOrders after none false =
          salesOrders (ledger.recordVersion prepared ⟨actor, "mcp_convert_to_invoice"⟩)
            none false := by
      intro after saved
      apply salesOrders_congr
      · rw [saved.versions, nothing]
        rfl
      · rw [saved.contacts, nothing]
        rfl
    rw [answerPrepared_bind_iff (wellFormed_of_prepares wellFormed prepares)
      (∃ orders, salesOrders (ledger.recordVersion prepared
        ⟨actor, "mcp_convert_to_invoice"⟩) none false = .ok orders)]
    · rw [nothing.previousVersion_eq, prepares]
      simp only [nothing.takesPosting_iff]
      constructor
      · rintro holds _ _ ⟨⟩
        exact holds
      · intro holds
        exact holds _ _ rfl
    · intro answer after saved
      rw [← listed after saved, execute_bind_ok _ (execute_get after), execute_bind,
        execute_ofExcept]
      cases salesOrders after none false with
      | ok orders => exact .inl ⟨⟨orders, rfl⟩, _, rfl⟩
      | error failure =>
        refine .inr ⟨?_, _, rfl⟩
        rintro ⟨_, ⟨⟩⟩
  · intro failure fails prepared ctx prepares
    rw [fails] at prepares
    cases prepares

theorem postSent_cases (ledger : Ledger) (doc : LedgerDocument) (command : CommandMeta)
    (items : Except String (List (String × ItemAccounts))) :
    let posts := ∃ accounts posting, items = .ok accounts ∧
      post doc (ledger.previousVersion doc.documentId + 1) { items := accounts } =
        .ok posting ∧ ledger.TakesPosting posting
    let outcome := execute (postSent doc (ledger.previousVersion doc.documentId + 1) items)
      (ledger.recordVersion doc command)
    (posts ∧ ∃ answer after, outcome = (.ok answer, after)) ∨
      (¬ posts ∧ ∃ failure, outcome = (.error failure, ledger.recordVersion doc command)) := by
  intro posts outcome
  cases items with
  | error text =>
    right
    refine ⟨?_, .argument text, rfl⟩
    rintro ⟨_, _, ⟨⟩, -⟩
  | ok accounts =>
    have reads : outcome = execute _ _ := execute_bind_ok _ (execute_ofExcept _ _)
    cases derived : post doc (ledger.previousVersion doc.documentId + 1)
        { items := accounts } with
    | error failure =>
      right
      constructor
      · rintro ⟨_, _, ⟨⟩, derives, -⟩
        rw [derived] at derives
        cases derives
      · refine ⟨.tool (.books (.post failure)), ?_⟩
        rw [reads, derived]
        rfl
    | ok posting =>
      rw [derived] at reads
      replace reads := reads.trans (execute_bind_ok _ (execute_ofExcept _ (.ok posting)))
      have posts_iff : posts ↔ ledger.TakesPosting posting := by
        constructor
        · rintro ⟨_, _, ⟨⟩, derives, taken⟩
          rw [derived] at derives
          cases derives
          exact taken
        · intro taken
          exact ⟨accounts, posting, rfl, derived, taken⟩
      rw [posts_iff, reads]
      cases posting with
      | nonPosting =>
        left
        refine ⟨fun entry isEntry => ?_, _, _, rfl⟩
        cases isEntry
      | entry entry =>
        by_cases taken : ledger.Takes entry
        · left
          constructor
          · rintro _ ⟨⟩
            exact taken
          · have accepted : (ledger.recordVersion doc command).Accepts entry :=
              (accepts_derived_iff derived).mpr taken
            have posted : execute (refusingWith
                (CallError.tool ∘ .books ∘ .ledger) (postEntry entry))
                (ledger.recordVersion doc command) =
                  (.ok (ledger.recordVersion doc command).nextEntryId,
                    (ledger.recordVersion doc command).recordEntry entry) := by
              rw [execute_refusingWith, execute_postEntry_of_accepts accepted]
              rfl
            exact ⟨_, _, execute_bind_ok _ posted⟩
        · right
          refine ⟨fun takes => taken (takes entry rfl), ?_⟩
          have refused : ¬ (ledger.recordVersion doc command).Accepts entry :=
            mt (accepts_derived_iff derived).mp taken
          obtain ⟨failure, refuses⟩ := execute_postEntry_of_not_accepts refused
          refine ⟨.tool (.books (.ledger failure)), execute_bind_error _ ?_⟩
          rw [execute_refusingWith, refuses]
          rfl

theorem saveAndPostDocument_iff (document : Except String LedgerDocument)
    (items : Except String (List (String × ItemAccounts))) (actor : String) :
    RefusesCleanly (callSaveAndPostDocument document items actor) ledger ↔
      (saveAndPostDocument document items actor).Completes divide ledger := by
  unfold callSaveAndPostDocument
  rw [ofExcept_bind_iff]
  simp only [mapError_eq_ok_iff, guard_bind_iff]
  apply forall₃_congr
  intro doc _ _
  have saves : execute (refusingWith (CallError.tool ∘ .books ∘ .ledger)
      (saveDocument doc ⟨actor, "mcp_save_document"⟩)) ledger =
        (.ok (ledger.previousVersion doc.documentId + 1),
          ledger.recordVersion doc ⟨actor, "mcp_save_document"⟩) := rfl
  have saved : SavedAs doc ⟨actor, "mcp_save_document"⟩ ledger
      (ledger.recordVersion doc ⟨actor, "mcp_save_document"⟩) := ⟨rfl, rfl⟩
  rcases postSent_cases ledger doc ⟨actor, "mcp_save_document"⟩ items with
    ⟨posts, answer, after, runs⟩ | ⟨fails, failure, runs⟩
  · exact iff_of_true (of_ok ((execute_bind_ok _ saves).trans runs)) posts
  · refine iff_of_false ?_ fails
    rw [error_iff ((execute_bind_ok _ saves).trans runs)]
    exact saved.not_leavesNothing

end WriteCall

/-- A call that refuses leaves nothing behind exactly when, once it gets as far
as saving a version, it completes. -/
theorem refused_calls_leave_nothing_iff (divide : Decimal → Decimal → Option Decimal)
    {ledger : Ledger} (reachable : Reachable ledger) (call : WriteCall) :
    (∀ failure after, execute (call.program divide) ledger = (.error failure, after) →
        LeavesNothing ledger after) ↔ call.Completes divide ledger := by
  cases call with
  | createDocument document actor =>
    exact WriteCall.createDocument_iff divide reachable.wellFormed document actor
  | convertToInvoice orderId request actor =>
    exact WriteCall.convertToInvoice_iff divide reachable.wellFormed orderId request actor
  | saveAndPostDocument document items actor =>
    exact WriteCall.saveAndPostDocument_iff divide document items actor

/-- A deposit dated in the year that is closed. -/
def depositOf2026 : LedgerDocument where
  documentId := "deposit-1"
  kind := .deposit
  txnDate := ⟨2026, 6, 30, Eq.refl true⟩
  lines :=
    [{ lineNo := 1, kind := .account, amount := .fromMinor 5000,
        account := some (acct Chart.undepositedFunds) }]

def depositCall : WriteCall :=
  .createDocument (.ok depositOf2026) "bookkeeper"

/-- The deposit is refused because its year is closed, and its version stays
saved. -/
theorem refused_deposit_stays_saved :
    Reachable closedBook ∧ ∃ failure after,
      execute (depositCall.program fun _ _ => none) closedBook = (.error failure, after) ∧
        after.documentVersions.length = closedBook.documentVersions.length + 1 ∧
        ¬ LeavesNothing closedBook after := by
  refine ⟨closedBook_reachable, ?_⟩
  have refused : (execute (depositCall.program fun _ _ => none)
      closedBook).1.toOption.isNone = true := by decide +kernel
  have grown : (execute (depositCall.program fun _ _ => none)
      closedBook).2.documentVersions.length = closedBook.documentVersions.length + 1 := by
    decide +kernel
  rcases runs : execute (depositCall.program fun _ _ => none) closedBook with ⟨outcome, after⟩
  rw [runs] at refused grown
  cases outcome with
  | ok answer => simp [Except.toOption] at refused
  | error failure =>
    refine ⟨failure, after, rfl, grown, fun nothing => ?_⟩
    rw [nothing] at grown
    simp at grown

/-- The condition at the deposit, which the closed year refuses. -/
theorem refused_calls_leave_nothing_iff_deposit :
    (∀ failure after, execute (depositCall.program fun _ _ => none) closedBook =
        (.error failure, after) → LeavesNothing closedBook after) ↔
      depositCall.Completes (fun _ _ => none) closedBook :=
  refused_calls_leave_nothing_iff _ closedBook_reachable _

end QuickBooks
