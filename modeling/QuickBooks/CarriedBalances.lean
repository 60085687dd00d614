import QuickBooks.BalanceSheetEquation
import QuickBooks.DocumentNets

/-!
# When live entries carry every balance

The correction paths reverse what is live and nothing else, so they rely on the
live entries of a document to add up to what all its entries do.  An entry that
names another as reversed keeps that equation exactly when it offsets what it
takes away from the live entries; a reversal does when the entry it reverses is
live, or has lines that cancel out.
-/

namespace QuickBooks

open ExceptPrograms KeyedTotals TransactionPrograms TransitionRuns

def CancelOut (lines : List JournalLine) : Prop :=
  ∀ (selects : PostingKey → Prop) [DecidablePred selects], lineTotal selects lines = 0

namespace Ledger

def displaced (ledger : Ledger) (entry : JournalEntry) : List PostedEntry :=
  (ledger.liveEntriesForDocument entry.sourceId).filter fun posted =>
    entry.reversalOf = some posted.entryId

/-- An entry that names another as reversed takes off the document's balance
what it takes away from the live entries. -/
def Offsets (ledger : Ledger) (entry : JournalEntry) : Prop :=
  entry.reversalOf ≠ none →
    ∀ (selects : PostingKey → Prop) [DecidablePred selects],
      lineTotal selects entry.lines + netOf selects (ledger.displaced entry) = 0

def CarriesAll (ledger : Ledger) : Prop :=
  ∀ documentId, ledger.LiveCarries documentId

section Recording

variable {ledger : Ledger} {entry : JournalEntry}

theorem mem_displaced {posted : PostedEntry} :
    posted ∈ ledger.displaced entry ↔
      posted ∈ ledger.liveEntriesForDocument entry.sourceId ∧
        entry.reversalOf = some posted.entryId := by
  simp [displaced]

theorem WellFormed.displaced_nodup (wellFormed : ledger.WellFormed) :
    (ledger.displaced entry).Nodup :=
  (wellFormed.live_nodup _).filter _

theorem live_recordEntry_naming_perm (wellFormed : ledger.WellFormed)
    (accepted : (ledger.recordEntry entry).WellFormed) {reversed : Nat}
    (names : entry.reversalOf = some reversed) :
    (ledger.liveEntriesForDocument entry.sourceId).Perm
      (ledger.displaced entry ++
        (ledger.recordEntry entry).liveEntriesForDocument entry.sourceId) := by
  rw [List.perm_ext_iff_of_nodup (wellFormed.live_nodup _)]
  · intro posted
    rw [List.mem_append, mem_live_recordEntry_naming names, mem_displaced, names,
      Option.some_inj, eq_comm]
    tauto
  · apply List.Nodup.append wellFormed.displaced_nodup (accepted.live_nodup _)
    intro posted isDisplaced remains
    rw [mem_displaced, names, Option.some_inj] at isDisplaced
    rw [mem_live_recordEntry_naming names] at remains
    exact remains.2 ⟨rfl, isDisplaced.2.symm⟩

/-- Recording an entry keeps the live entries carrying every balance exactly
when the entry offsets what it displaces. -/
theorem carriesAll_recordEntry_iff (wellFormed : ledger.WellFormed)
    (accepted : ledger.Accepts entry) (carries : ledger.CarriesAll) :
    (ledger.recordEntry entry).CarriesAll ↔ ledger.Offsets entry := by
  have recorded := wellFormed.recordEntry accepted
  cases names : entry.reversalOf with
  | none =>
    have written : Write (.suppliedEntry entry.sourceId) ledger (ledger.recordEntry entry) :=
      .suppliedEntry names accepted
    exact iff_of_true
      (fun documentId => written.liveCarries wellFormed (by simp) (carries documentId))
      (fun namesOne => absurd names namesOne)
  | some reversed =>
    have parts : ∀ (selects : PostingKey → Prop) [DecidablePred selects],
        liveNet selects ledger entry.sourceId =
          netOf selects (ledger.displaced entry) +
            liveNet selects (ledger.recordEntry entry) entry.sourceId := by
      intro selects _
      unfold liveNet
      rw [netOf_perm selects (live_recordEntry_naming_perm wellFormed recorded names),
        netOf_append]
    constructor
    · intro carriesOn _ selects _
      have before := carries entry.sourceId selects
      have after := carriesOn entry.sourceId selects
      rw [documentNet_recordEntry selects wellFormed recorded] at after
      have split := parts selects
      omega
    · intro offsets documentId selects _
      by_cases same : entry.sourceId = documentId
      · subst same
        have before := carries entry.sourceId selects
        have offset := offsets (by simp [names]) selects
        have split := parts selects
        rw [documentNet_recordEntry selects wellFormed recorded]
        omega
      · unfold documentNet liveNet
        rw [entries_recordEntry_other same, live_recordEntry_other same]
        exact carries documentId selects

/-- A reversal offsets what it takes away exactly when it reverses a live entry
or one whose lines cancel out. -/
theorem offsets_reversed_iff (wellFormed : ledger.WellFormed) {original : PostedEntry}
    (isPosted : original ∈ ledger.journal) (on : Date) :
    ledger.Offsets (original.entry.reversed on original.entryId) ↔
      original ∈ ledger.liveEntriesForDocument original.entry.sourceId ∨
        CancelOut original.entry.lines := by
  have reverses := JournalEntry.reverses_reversed original on
  have onlyOriginal : ∀ posted,
      posted ∈ ledger.displaced (original.entry.reversed on original.entryId) ↔
        posted = original ∧
          original ∈ ledger.liveEntriesForDocument original.entry.sourceId := by
    intro posted
    rw [mem_displaced, reverses.reversalOf, Option.some_inj, reverses.sourceId]
    constructor
    · rintro ⟨live, sameId⟩
      have same := wellFormed.eq_of_entryId (mem_liveEntriesForDocument.mp live).1.1
        isPosted sameId.symm
      subst same
      exact ⟨rfl, live⟩
    · rintro ⟨rfl, live⟩
      exact ⟨live, rfl⟩
  have swapped : ∀ (selects : PostingKey → Prop) [DecidablePred selects],
      lineTotal selects (original.entry.reversed on original.entryId).lines =
        -lineTotal selects original.entry.lines := by
    intro selects _
    rw [reverses.lines, lineTotal_swapped]
  by_cases live : original ∈ ledger.liveEntriesForDocument original.entry.sourceId
  · have displacedEq :
        ledger.displaced (original.entry.reversed on original.entryId) = [original] := by
      rw [← List.perm_singleton,
        List.perm_ext_iff_of_nodup wellFormed.displaced_nodup (List.nodup_singleton _)]
      intro posted
      rw [onlyOriginal, List.mem_singleton]
      exact and_iff_left live
    refine iff_of_true ?_ (.inl live)
    intro _ selects _
    rw [displacedEq, swapped, netOf_cons, netOf_nil]
    omega
  · have displacedEq :
        ledger.displaced (original.entry.reversed on original.entryId) = [] := by
      rw [List.eq_nil_iff_forall_not_mem]
      intro posted isDisplaced
      exact live ((onlyOriginal posted).mp isDisplaced).2
    constructor
    · intro offsets
      refine .inr fun selects _ => ?_
      have offset := offsets (by simp [reverses.reversalOf]) selects
      rw [displacedEq, swapped, netOf_nil] at offset
      omega
    · rintro (isLive | cancels)
      · exact absurd isLive live
      · intro _ selects _
        rw [displacedEq, swapped, netOf_nil, cancels selects]
        rfl

end Recording

end Ledger

namespace Operation

open Ledger

/-- Where an operation reverses by hand and the gate takes the reversal, it
reverses a live entry or one whose lines cancel out; a caller's own entry that
names another as reversed offsets it. -/
def LeavesNoRemainder : Operation → Ledger → Prop
  | reverseEntry entryId on, ledger => ∀ original,
      ledger.entry? entryId = some original →
      ledger.Accepts (original.reversed on entryId) →
      ⟨entryId, original⟩ ∈ ledger.liveEntriesForDocument original.sourceId ∨
        CancelOut original.lines
  | postEntry entry, ledger => ledger.Accepts entry → ledger.Offsets entry
  | _, _ => True

theorem strayReversal_notMem_kinds {operation : Operation} {ledger : Ledger}
    (notReverse : ∀ entryId on, operation ≠ .reverseEntry entryId on)
    (notPost : ∀ entry, operation ≠ .postEntry entry) (documentId : String) :
    .strayReversal documentId ∉ operation.kinds ledger := by
  cases operation with
  | reverseEntry entryId on => exact absurd rfl (notReverse entryId on)
  | postEntry entry => exact absurd rfl (notPost entry)
  | _ => simp [kinds, documentWrites, openingWrites]

theorem carriesAll_run_of_noStray {operation : Operation} {ledger : Ledger}
    (wellFormed : ledger.WellFormed)
    (noStray : ∀ documentId, .strayReversal documentId ∉ operation.kinds ledger)
    (carries : ledger.CarriesAll) : (operation.run ledger).CarriesAll := by
  apply (operation.evolves ledger).keeps wellFormed CarriesAll _ carries
  intro kind allowed earlier later earlierWellFormed write earlierCarries documentId
  apply write.liveCarries earlierWellFormed _ (earlierCarries documentId)
  intro isStray
  exact noStray documentId (isStray ▸ allowed)

theorem carriesAll_run_iff (operation : Operation) {ledger : Ledger}
    (wellFormed : ledger.WellFormed) (carries : ledger.CarriesAll) :
    (operation.run ledger).CarriesAll ↔ operation.LeavesNoRemainder ledger := by
  have posting : ∀ entry : JournalEntry,
      (execute (QuickBooks.postEntry entry) ledger).2.CarriesAll ↔
        (ledger.Accepts entry → ledger.Offsets entry) := by
    intro entry
    by_cases accepted : ledger.Accepts entry
    · rw [execute_postEntry_of_accepts accepted,
        carriesAll_recordEntry_iff wellFormed accepted carries]
      exact (imp_iff_right accepted).symm
    · obtain ⟨failure, refuses⟩ := execute_postEntry_of_not_accepts accepted
      rw [refuses]
      exact iff_of_true carries fun accepts => absurd accepts accepted
  cases operation with
  | postEntry entry => exact posting entry
  | reverseEntry entryId on =>
    cases found : ledger.entry? entryId with
    | none =>
      have unchanged : (reverseEntry entryId on).run ledger = ledger :=
        congrArg Prod.snd (execute_reverseEntry_of_none found)
      rw [unchanged]
      refine iff_of_true carries ?_
      intro original foundOriginal
      rw [found] at foundOriginal
      simp at foundOriginal
    | some original =>
      have isPosted := entry?_eq_some found
      have reversal : (reverseEntry entryId on).run ledger =
          (execute (QuickBooks.postEntry (original.reversed on entryId)) ledger).2 :=
        congrArg Prod.snd (execute_reverseEntry_of_some found)
      rw [reversal, posting, offsets_reversed_iff wellFormed isPosted on]
      constructor
      · intro holds other foundOther accepted
        rw [found, Option.some_inj] at foundOther
        subst foundOther
        exact holds accepted
      · exact fun holds accepted => holds original found accepted
  | _ =>
    refine iff_of_true (carriesAll_run_of_noStray wellFormed ?_ carries) trivial
    exact strayReversal_notMem_kinds (by simp) (by simp)

end Operation

open Ledger

/-- The live entries of every document carry its balance throughout a run
exactly when no step of the run leaves a remainder. -/
theorem balances_carried_iff (company : String) (operations : List Operation) :
    (∀ earlier, earlier <+: operations →
        ((createCompany company).after earlier).CarriesAll) ↔
      EveryStep Operation.run Operation.LeavesNoRemainder (createCompany company)
        operations :=
  everyState_iff_everyStep WellFormed CarriesAll
    (fun state operation wellFormed _ => (operation.evolves state).wellFormed wellFormed)
    (fun _ operation wellFormed _ carries => operation.carriesAll_run_iff wellFormed carries)
    (.createCompany company) (fun _ _ _ => rfl)
    (everyStep_of_forall fun _ _ _ => trivial)

def twiceReversedSale : List Operation :=
  [.saveAndPostDocument saleOf2026 [] "bookkeeper",
    .reverseEntry 0 ⟨2026, 11, 3, Eq.refl true⟩, .reverseEntry 0 ⟨2026, 11, 4, Eq.refl true⟩]

/-- Nothing of the sale is live, and 100.00 of it is left on its income. -/
theorem twiceReversedSale_leaves_remainder :
    Reachable ((createCompany "aquamentor").after twiceReversedSale) ∧
      ((createCompany "aquamentor").after twiceReversedSale).liveEntriesForDocument
        "sale-1" = [] ∧
      documentNet (fun key => key.account = acct Chart.salesIncome)
        ((createCompany "aquamentor").after twiceReversedSale) "sale-1" = 10000 ∧
      ¬((createCompany "aquamentor").after twiceReversedSale).CarriesAll := by
  have noneLive : ((createCompany "aquamentor").after
      twiceReversedSale).liveEntriesForDocument "sale-1" = [] := by decide +kernel
  have remainder : documentNet (fun key => key.account = acct Chart.salesIncome)
      ((createCompany "aquamentor").after twiceReversedSale) "sale-1" = 10000 := by
    decide +kernel
  refine ⟨⟨_, _, rfl⟩, noneLive, remainder, ?_⟩
  intro carries
  have carried := carries "sale-1" fun key => key.account = acct Chart.salesIncome
  rw [remainder, liveNet, noneLive] at carried
  exact absurd carried (by decide)

end QuickBooks
