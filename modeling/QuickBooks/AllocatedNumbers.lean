import QuickBooks.CorrectionHistories
import QuickBooks.FirstFreeNumbers
import QuickBooks.NumberSequences
import QuickBooks.TransitionRuns

/-!
# The numbers handed out

Whatever the order of allocations, raises and saves, the counter of a type
stays ahead of every number it handed out, so the numbers increase, and a
number that the newest version of a document holds is passed over.  This fails
only in the release build, at the allocation that takes the counter past the
largest integer.
-/

namespace QuickBooks

open ExceptPrograms FirstFreeNumbers TransactionPrograms TransitionRuns

section Link

variable {ledger : Ledger} {kind : DocKind}

theorem numericNumber_bounds {number : String} {value : Int}
    (numeric : Ledger.numericNumber number = some value) :
    0 ≤ value ∧ value ≤ 9223372036854775807 := by
  unfold Ledger.numericNumber at numeric
  dsimp only at numeric
  split_ifs at numeric
  rw [Option.some.injEq] at numeric
  omega

theorem highestNumber_bounds {highest : Int}
    (found : ledger.highestNumber kind = some highest) :
    0 ≤ highest ∧ highest ≤ 9223372036854775807 := by
  unfold Ledger.highestNumber at found
  have highestMem := List.max?_mem found
  obtain ⟨row, -, read⟩ := List.mem_filterMap.mp highestMem
  obtain ⟨number, -, numeric⟩ := Option.bind_eq_some_iff.mp read
  exact numericNumber_bounds numeric

theorem Ledger.SequencesFit.lookup (fits : ledger.SequencesFit) {next : Int}
    (found : ledger.docSequences.lookup kind = some next) :
    -9223372036854775808 ≤ next ∧ next ≤ 9223372036854775807 := by
  obtain ⟨before, after, split, -⟩ := List.lookup_eq_some_iff.mp found
  apply fits (kind, next)
  rw [split]
  simp

theorem le_freeNumber (ledger : Ledger) (kind : DocKind) (attempts : Nat)
    (candidate : Int) :
    candidate ≤ ledger.freeNumber kind attempts candidate := by
  induction attempts generalizing candidate with
  | zero => exact le_rfl
  | succ attempts ih =>
    unfold Ledger.freeNumber
    split_ifs
    · exact (Int.le_add_one le_rfl).trans (ih (candidate + 1))
    · exact le_rfl

theorem freeNumberIn_checked (ledger : Ledger) (kind : DocKind) (attempts : Nat)
    {candidate : Int}
    (inRange : candidate ≤ 9223372036854775807) :
    (ledger.freeNumberIn .checked kind attempts candidate =
        .ok (ledger.freeNumber kind attempts candidate) ∧
      ledger.freeNumber kind attempts candidate ≤ 9223372036854775807) ∨
    (ledger.freeNumberIn .checked kind attempts candidate = .error .additionOverflowed ∧
      9223372036854775807 < ledger.freeNumber kind attempts candidate) := by
  induction attempts generalizing candidate with
  | zero => exact .inl ⟨rfl, inRange⟩
  | succ attempts ih =>
    unfold Ledger.freeNumberIn Ledger.freeNumber Build.next
    split_ifs with isHeld isLast
    · have beyond := le_freeNumber ledger kind attempts (candidate + 1)
      exact .inr ⟨rfl, by omega⟩
    · exact ih (by omega)
    · exact .inl ⟨rfl, inRange⟩

end Link

section Search

variable {ledger : Ledger} {kind : DocKind}

namespace Ledger

def heldNumbers (ledger : Ledger) (kind : DocKind) : List String :=
  (ledger.documentVersions.filter fun row =>
    row.document.kind = kind ∧ ledger.isNewest row).filterMap fun row => row.document.number

theorem mem_heldNumbers {number : String} :
    number ∈ ledger.heldNumbers kind ↔ ∃ row ∈ ledger.documentVersions,
      row.document.kind = kind ∧ ledger.isNewest row = true ∧
        row.document.number = some number := by
  unfold heldNumbers
  simp only [List.mem_filterMap, List.mem_filter, decide_eq_true_eq, and_assoc]

theorem numberOwner_isSome_iff {number : String} :
    (ledger.numberOwner kind number).isSome = true ↔ number ∈ ledger.heldNumbers kind := by
  unfold numberOwner
  rw [Option.isSome_map, List.find?_isSome, mem_heldNumbers]
  simp only [decide_eq_true_eq, and_comm, and_left_comm]

theorem length_heldNumbers_le :
    (ledger.heldNumbers kind).length ≤ ledger.documentVersions.length :=
  (List.length_filterMap_le _ _).trans (List.length_filter_le _ _)

theorem freeNumber_eq_probe (ledger : Ledger) (kind : DocKind) (attempts : Nat)
    (first : Int) (steps : Nat) :
    ledger.freeNumber kind attempts (first + steps) =
      first + probe (fun step : Nat => toString (first + step : Int))
        (ledger.heldNumbers kind) attempts steps := by
  induction attempts generalizing steps with
  | zero => rfl
  | succ attempts ih =>
    unfold freeNumber probe
    simp only [numberOwner_isSome_iff]
    split_ifs
    · rw [← ih (steps + 1)]
      push_cast
      rw [add_assoc]
    · rfl

theorem freeNumber_not_held (ledger : Ledger) (kind : DocKind) (first : Int) :
    toString (ledger.freeNumber kind (ledger.documentVersions.length + 1) first) ∉
      ledger.heldNumbers kind := by
  have injective : Function.Injective fun step : Nat => toString (first + step : Int) := by
    intro step other same
    have sameNumber := intNumeral_injective same
    omega
  have free := probe_free _ injective (ledger.heldNumbers kind)
    (length_heldNumbers_le.trans (Nat.le_succ _)) 0
  have asProbe := freeNumber_eq_probe ledger kind (ledger.documentVersions.length + 1) first 0
  rw [Nat.cast_zero, add_zero] at asProbe
  rw [asProbe]
  exact free

end Ledger

theorem wrapInt64_of_inRange {number : Int} (lower : -9223372036854775808 ≤ number)
    (upper : number ≤ 9223372036854775807) : wrapInt64 number = number := by
  unfold wrapInt64
  rw [Int.bmod_def]
  omega

theorem wrapInt64_bounds (number : Int) :
    -9223372036854775808 ≤ wrapInt64 number ∧
      wrapInt64 number ≤ 9223372036854775807 := by
  unfold wrapInt64
  rw [Int.bmod_def]
  omega

theorem Build.next_bounds {build : Build} {number next : Int}
    (lower : -9223372036854775808 ≤ number) (advances : build.next number = .ok next) :
    -9223372036854775808 ≤ next ∧ next ≤ 9223372036854775807 := by
  cases build with
  | checked =>
    unfold Build.next at advances
    dsimp only at advances
    split_ifs at advances
    rw [pure_eq_ok_iff] at advances
    omega
  | wrapping =>
    unfold Build.next at advances
    dsimp only at advances
    rw [pure_eq_ok_iff] at advances
    rw [← advances]
    exact wrapInt64_bounds _

theorem savedNextIn_bounds {build : Build} {next : Int}
    (saved : ledger.savedNextIn build kind = .ok next) :
    -9223372036854775808 ≤ next ∧ next ≤ 9223372036854775807 := by
  unfold Ledger.savedNextIn at saved
  cases highestEq : ledger.highestNumber kind with
  | none =>
    rw [highestEq] at saved
    rw [← pure_eq_ok_iff.mp saved]
    decide
  | some highest =>
    rw [highestEq] at saved
    have bounds := highestNumber_bounds highestEq
    exact Build.next_bounds (by omega) saved

theorem freeNumberIn_wrapping (ledger : Ledger) (kind : DocKind) (attempts : Nat)
    {candidate free : Int} (lower : -9223372036854775808 ≤ candidate)
    (before : candidate ≤ free) (below : free < 9223372036854775807)
    (isFree : toString free ∉ ledger.heldNumbers kind) :
    ledger.freeNumberIn .wrapping kind attempts candidate =
        .ok (ledger.freeNumber kind attempts candidate) ∧
      ledger.freeNumber kind attempts candidate ≤ free := by
  induction attempts generalizing candidate with
  | zero => exact ⟨rfl, before⟩
  | succ attempts ih =>
    unfold Ledger.freeNumberIn Ledger.freeNumber
    split_ifs with isHeld
    · rw [Ledger.numberOwner_isSome_iff] at isHeld
      have notFree : candidate ≠ free := fun same => isFree (same ▸ isHeld)
      have wraps : wrapInt64 (candidate + 1) = candidate + 1 :=
        wrapInt64_of_inRange (by omega) (by omega)
      unfold Build.next
      rw [wraps]
      exact ih (by omega) (by omega)
    · exact ⟨rfl, before⟩

end Search

/-- The state of the numbering, with what it handed out so far. -/
structure Numbering where
  ledger : Ledger
  handed : List (DocKind × Int)

inductive NumberingAction where
  | nextNumber (kind : DocKind)
  | ensureNextNumber (kind : DocKind)
      (atLeast : CheckedIntegers.RangeInt (-9223372036854775808) 9223372036854775807)
  | save (doc : LedgerDocument) (command : CommandMeta)

namespace Numbering

variable {build : Build} {state : Numbering} {kind : DocKind}

def handedFor (state : Numbering) (kind : DocKind) : List Int :=
  (state.handed.filter fun row => row.1 = kind).map Prod.snd

/-- One step.  A refused allocation hands nothing out. -/
def step (build : Build) : NumberingAction → Numbering → Numbering
  | .nextNumber kind, state =>
    match execute (nextNumberIn build kind) state.ledger with
    | (.ok number, after) => ⟨after, state.handed ++ [(kind, number)]⟩
    | (.error _, after) => ⟨after, state.handed⟩
  | .ensureNextNumber kind atLeast, state =>
    ⟨(execute (ensureNextNumberIn build kind atLeast.value) state.ledger).2, state.handed⟩
  | .save doc command, state => ⟨state.ledger.recordVersion doc command, state.handed⟩

/-- The sequence of a type reaches a number that is not held before the largest
integer. -/
def RoomAhead (state : Numbering) (kind : DocKind) : Prop :=
  ∃ start free, state.ledger.sequenceStartIn .wrapping kind = .ok start ∧
    start ≤ free ∧ free < 9223372036854775807 ∧
    state.ledger.numberOwner kind (toString free) = none

def HasRoom (build : Build) : NumberingAction → Numbering → Prop
  | .nextNumber kind, state => build = .checked ∨ state.RoomAhead kind
  | _, _ => True

/-- The counters are ahead of the numbers handed out. -/
structure Ahead (state : Numbering) : Prop where
  fits : state.ledger.SequencesFit
  below : ∀ kind number, (kind, number) ∈ state.handed →
    ∃ next, state.ledger.docSequences.lookup kind = some next ∧ number < next
  increasing : ∀ kind, (state.handedFor kind).Pairwise (· < ·)

theorem sequenceStartIn_bounds {ledger : Ledger} (fits : ledger.SequencesFit) {start : Int}
    (starts : ledger.sequenceStartIn build kind = .ok start) :
    -9223372036854775808 ≤ start ∧ start ≤ 9223372036854775807 := by
  unfold Ledger.sequenceStartIn at starts
  cases found : ledger.docSequences.lookup kind with
  | some next =>
    rw [found, pure_eq_ok_iff] at starts
    rw [← starts]
    exact fits.lookup found
  | none =>
    rw [found] at starts
    exact savedNextIn_bounds starts

theorem freeNumberIn_eq_ok (fits : state.ledger.SequencesFit)
    (room : build = .checked ∨ state.RoomAhead kind) {start number next : Int}
    (starts : state.ledger.sequenceStartIn build kind = .ok start)
    (finds : state.ledger.freeNumberIn build kind
      (state.ledger.documentVersions.length + 1) start = .ok number)
    (advances : build.next number = .ok next) :
    number = state.ledger.freeNumber kind
        (state.ledger.documentVersions.length + 1) start ∧ next = number + 1 ∧
      next ≤ 9223372036854775807 := by
  have bounds := sequenceStartIn_bounds fits starts
  cases build with
  | checked =>
    unfold Build.next at advances
    dsimp only at advances
    split_ifs at advances
    rw [pure_eq_ok_iff] at advances
    rcases freeNumberIn_checked state.ledger kind
      (state.ledger.documentVersions.length + 1) bounds.2 with ⟨found, -⟩ | ⟨fails, -⟩
    · rw [found, Except.ok.injEq] at finds
      exact ⟨finds.symm, advances.symm, by omega⟩
    · rw [fails] at finds
      exact absurd finds (by simp)
  | wrapping =>
    obtain ⟨first, free, startsAt, before, below, isFree⟩ := room.resolve_left (by simp)
    rw [starts, Except.ok.injEq] at startsAt
    subst startsAt
    have unheld : toString free ∉ state.ledger.heldNumbers kind := by
      rw [← Ledger.numberOwner_isSome_iff, isFree]
      simp
    obtain ⟨found, within⟩ := freeNumberIn_wrapping state.ledger kind
      (state.ledger.documentVersions.length + 1) bounds.1 before below unheld
    rw [found, Except.ok.injEq] at finds
    have later := le_freeNumber state.ledger kind
      (state.ledger.documentVersions.length + 1) start
    unfold Build.next at advances
    dsimp only at advances
    rw [pure_eq_ok_iff, wrapInt64_of_inRange (by omega) (by omega)] at advances
    exact ⟨finds.symm, advances.symm, by omega⟩

theorem allocateIn_eq_ok (fits : state.ledger.SequencesFit)
    (room : build = .checked ∨ state.RoomAhead kind) {number next : Int}
    (allocates : state.ledger.allocateIn build kind = .ok (number, next)) :
    (∀ stored, state.ledger.docSequences.lookup kind = some stored → stored ≤ number) ∧
      -9223372036854775808 ≤ number ∧ number < 9223372036854775807 ∧ next = number + 1 ∧
      toString number ∉ state.ledger.heldNumbers kind := by
  unfold Ledger.allocateIn at allocates
  obtain ⟨start, starts, allocates⟩ := bind_eq_ok_iff.mp allocates
  obtain ⟨candidate, finds, allocates⟩ := bind_eq_ok_iff.mp allocates
  obtain ⟨after, advances, result⟩ := bind_eq_ok_iff.mp allocates
  rw [pure_eq_ok_iff, Prod.mk.injEq] at result
  obtain ⟨rfl, rfl⟩ := result
  obtain ⟨isFirst, nextEq, upper⟩ := freeNumberIn_eq_ok fits room starts finds advances
  have later := le_freeNumber state.ledger kind
    (state.ledger.documentVersions.length + 1) start
  have bounds := sequenceStartIn_bounds fits starts
  refine ⟨?_, by omega, by omega, nextEq, ?_⟩
  · intro stored found
    unfold Ledger.sequenceStartIn at starts
    rw [found, pure_eq_ok_iff] at starts
    omega
  · rw [isFirst]
    exact Ledger.freeNumber_not_held state.ledger kind start

theorem execute_nextNumberIn (build : Build) (kind : DocKind) (ledger : Ledger) :
    execute (nextNumberIn build kind) ledger =
      match ledger.allocateIn build kind with
      | .ok (number, next) => (.ok number, ledger.withNextNumber kind next)
      | .error failure => (.error failure, ledger) := by
  unfold nextNumberIn
  rw [execute_bind, execute_reading]
  cases ledger.allocateIn build kind <;> rfl

theorem lookup_withNextNumber (ledger : Ledger) (kind other : DocKind) (next : Int) :
    (ledger.withNextNumber kind next).docSequences.lookup other =
      if other = kind then some next else ledger.docSequences.lookup other := by
  unfold Ledger.withNextNumber
  dsimp only
  rw [List.lookup_cons]
  split_ifs with same
  · simp [same]
  · rw [beq_false_of_ne same]
    dsimp only
    induction ledger.docSequences with
    | nil => rfl
    | cons row rows ih =>
      by_cases dropped : row.1 = kind
      · rw [List.filter_cons_of_neg (by simpa using dropped), ih, List.lookup_cons,
          beq_false_of_ne (fun sameKind => same (sameKind.trans dropped))]
      · rw [List.filter_cons_of_pos (by simpa using dropped), List.lookup_cons,
          List.lookup_cons, ih]

theorem execute_ensureNextNumberIn (build : Build) (kind : DocKind) (atLeast : Int)
    (ledger : Ledger) :
    execute (ensureNextNumberIn build kind atLeast) ledger =
      match ledger.savedNextIn build kind with
      | .ok savedNext =>
        (.ok (max (max ((ledger.docSequences.lookup kind).getD savedNext) savedNext) atLeast),
          ledger.withNextNumber kind
            (max (max ((ledger.docSequences.lookup kind).getD savedNext) savedNext) atLeast))
      | .error failure => (.error failure, ledger) := by
  unfold ensureNextNumberIn
  rw [execute_bind_ok _ (execute_get ledger), execute_bind, execute_ofExcept]
  cases ledger.savedNextIn build kind <;> rfl

theorem fits_withNextNumber {ledger : Ledger} (fits : ledger.SequencesFit) {next : Int}
    (lower : -9223372036854775808 ≤ next) (upper : next ≤ 9223372036854775807) :
    (ledger.withNextNumber kind next).SequencesFit := by
  intro row rowMem
  rcases List.mem_cons.mp rowMem with rfl | kept
  · exact ⟨lower, upper⟩
  · exact fits row (List.mem_of_mem_filter kept)

theorem Ahead.raise (ahead : state.Ahead) {next : Int}
    (lower : -9223372036854775808 ≤ next) (upper : next ≤ 9223372036854775807)
    (raises : ∀ stored, state.ledger.docSequences.lookup kind = some stored →
      stored ≤ next) :
    (⟨state.ledger.withNextNumber kind next, state.handed⟩ : Numbering).Ahead := by
  refine ⟨fits_withNextNumber ahead.fits lower upper, ?_, ahead.increasing⟩
  intro other number handedOut
  obtain ⟨stored, found, less⟩ := ahead.below other number handedOut
  rw [lookup_withNextNumber]
  split_ifs with same
  · subst same
    have notLowered := raises stored found
    exact ⟨next, rfl, by omega⟩
  · exact ⟨stored, found, less⟩

theorem Ahead.handOut (ahead : state.Ahead) {number : Int}
    (lower : -9223372036854775808 ≤ number) (upper : number < 9223372036854775807)
    (after : ∀ stored, state.ledger.docSequences.lookup kind = some stored →
      stored ≤ number) :
    (⟨state.ledger.withNextNumber kind (number + 1), state.handed ++ [(kind, number)]⟩ :
      Numbering).Ahead := by
  have notLowered : ∀ stored, state.ledger.docSequences.lookup kind = some stored →
      stored ≤ number + 1 :=
    fun stored found => (after stored found).trans (Int.le_add_one le_rfl)
  have raised := ahead.raise (by omega) (by omega) notLowered
  refine ⟨raised.fits, ?_, ?_⟩
  · intro other given handedOut
    rcases List.mem_append.mp handedOut with old | new
    · exact raised.below other given old
    · rw [List.mem_singleton, Prod.mk.injEq] at new
      obtain ⟨rfl, rfl⟩ := new
      refine ⟨given + 1, ?_, by omega⟩
      rw [lookup_withNextNumber, if_pos rfl]
  · intro other
    unfold handedFor
    dsimp only
    rw [List.filter_append, List.map_append]
    by_cases same : kind = other
    · rw [List.filter_cons_of_pos (by simpa using same), List.filter_nil]
      refine List.pairwise_append.mpr ⟨ahead.increasing other, List.pairwise_singleton _ _, ?_⟩
      intro earlier earlierMem last lastMem
      rw [List.map_singleton, List.mem_singleton] at lastMem
      subst lastMem
      obtain ⟨⟨earlierKind, value⟩, rowMem, rfl⟩ := List.mem_map.mp earlierMem
      obtain ⟨handedOut, rowKind⟩ := List.mem_filter.mp rowMem
      rw [decide_eq_true_eq] at rowKind
      dsimp only at rowKind ⊢
      obtain ⟨stored, found, less⟩ := ahead.below earlierKind value handedOut
      rw [rowKind, ← same] at found
      have reached := after stored found
      omega
    · rw [List.filter_cons_of_neg (by simpa using same), List.filter_nil, List.map_nil,
        List.append_nil]
      exact ahead.increasing other

theorem Ahead.step (ahead : state.Ahead) {action : NumberingAction}
    (room : HasRoom build action state) : (step build action state).Ahead := by
  cases action with
  | nextNumber kind =>
    unfold Numbering.step
    dsimp only
    rw [execute_nextNumberIn]
    cases allocates : state.ledger.allocateIn build kind with
    | error failure => exact ahead
    | ok result =>
      obtain ⟨number, next⟩ := result
      obtain ⟨after, lower, upper, rfl, -⟩ := allocateIn_eq_ok ahead.fits room allocates
      exact ahead.handOut lower upper after
  | ensureNextNumber kind atLeast =>
    unfold Numbering.step
    dsimp only
    rw [execute_ensureNextNumberIn]
    cases saved : state.ledger.savedNextIn build kind with
    | error failure => exact ahead
    | ok savedNext =>
      have savedBounds := savedNextIn_bounds saved
      have atLeastLower := atLeast.lower_le
      have atLeastUpper := atLeast.le_upper
      apply ahead.raise
      · omega
      · cases found : state.ledger.docSequences.lookup kind with
        | none =>
          rw [Option.getD_none]
          omega
        | some stored =>
          have storedBounds := ahead.fits.lookup found
          rw [Option.getD_some]
          omega
      · intro stored found
        rw [found, Option.getD_some]
        omega
  | save doc command => exact ⟨ahead.fits, ahead.below, ahead.increasing⟩

end Numbering

end QuickBooks
