import Mathlib.Data.Fintype.Card
import QuickBooks.TransitionRuns

/-!
# A daily ceiling on calls

Every call reads the ledger of its day, compares it with the limit and writes it back with one
call more.  The file is not locked, so between a process's reading and its writing other
processes may read and write.  As long as every ledger that is written counts the calls granted
before it, unless it is the last of the day, and no day begins again, each process can exceed
the ceiling by one call and no more.
-/

namespace QuickBooks

namespace Budget

open TransitionRuns

/-- The calls of one day, days being numbered. -/
structure Ledger where
  day : ℤ
  calls : ℕ
deriving DecidableEq

inductive SpendError where
  | exhausted (day : ℤ) (used limit : ℕ)
  | ledger
deriving DecidableEq

inductive LedgerFile where
  | absent
  | unreadable
  | holds (ledger : Ledger)
deriving DecidableEq

/-- The ledger of a day: the stored one when it is of that day. -/
def load (today : ℤ) : LedgerFile → Except SpendError Ledger
  | .absent => .ok ⟨today, 0⟩
  | .unreadable => .error .ledger
  | .holds stored => .ok (if stored.day = today then stored else ⟨today, 0⟩)

def spend (limit : ℕ) (ledger : Ledger) : Except SpendError Ledger :=
  if limit ≤ ledger.calls then .error (.exhausted ledger.day ledger.calls limit)
  else .ok { ledger with calls := ledger.calls + 1 }

section Processes

variable {ι : Type} [DecidableEq ι]

/-- The file, the ledger that each process is about to store, and the calls that were granted
for each day. -/
structure Shared (ι : Type) where
  file : LedgerFile
  pending : ι → Option Ledger
  granted : ℤ → ℕ

/-- One process reads the file on the day its clock shows, or stores its ledger and calls. -/
inductive Action (ι : Type) where
  | load (process : ι) (today : ℤ)
  | store (process : ι)

/-- A call that is refused leaves nothing to store; a call is granted when it has stored. -/
def step (limit : ℕ) : Action ι → Shared ι → Shared ι
  | .load process today, shared =>
    { shared with
      pending := Function.update shared.pending process
        (load today shared.file >>= spend limit).toOption }
  | .store process, shared =>
    match shared.pending process with
    | none => shared
    | some ledger =>
      { file := .holds ledger
        pending := Function.update shared.pending process none
        granted := Function.update shared.granted ledger.day (shared.granted ledger.day + 1) }

def start (file : LedgerFile) : Shared ι :=
  ⟨file, fun _ => none, fun _ => 0⟩

/-- A day is only begun when no call was granted for it, and a ledger that is stored counts the
calls that were granted, or is the last of its day. -/
def CountsAll (limit : ℕ) : Action ι → Shared ι → Prop
  | .load _ today, shared =>
    match shared.file with
    | .holds stored => stored.day ≠ today → shared.granted today = 0
    | .absent => shared.granted today = 0
    | .unreadable => True
  | .store process, shared =>
    ∀ ledger, shared.pending process = some ledger →
      ledger.calls = limit ∨ shared.granted ledger.day < ledger.calls

def WithinCeiling [Fintype ι] (limit : ℕ) (shared : Shared ι) : Prop :=
  ∀ day, shared.granted day ≤ limit + Fintype.card ι

/-! ### The invariant -/

def finishing [Fintype ι] (limit : ℕ) (day : ℤ) (shared : Shared ι) : Finset ι :=
  Finset.univ.filter fun process => shared.pending process = some ⟨day, limit⟩

variable [Fintype ι] {limit : ℕ} {shared : Shared ι}

/-- The stored ledger counts the calls of its day until the limit is reached, and what is
granted beyond the limit is granted to the processes that read the day before it was. -/
structure Counted (limit : ℕ) (shared : Shared ι) : Prop where
  stored : ∀ ledger, shared.file = .holds ledger →
    ledger.calls < limit → shared.granted ledger.day ≤ ledger.calls
  pending : ∀ process ledger, shared.pending process = some ledger → ledger.calls ≤ limit
  ceiling : ∀ day, shared.granted day + (finishing limit day shared).card ≤
    limit + Fintype.card ι

omit [DecidableEq ι] in
theorem counted_start (limit : ℕ) (file : LedgerFile) : Counted limit (start file : Shared ι) where
  stored _ _ _ := Nat.zero_le _
  pending _ _ held := by cases held
  ceiling day := by simp [start, finishing]

theorem loaded_eq_some_iff {today : ℤ} {file : LedgerFile} {ledger : Ledger} :
    (load today file >>= spend limit).toOption = some ledger ↔
      ∃ found, load today file = .ok found ∧ found.calls < limit ∧
        ledger = ⟨found.day, found.calls + 1⟩ := by
  cases load today file with
  | error reason => simp [bind, Except.bind, Except.toOption]
  | ok found =>
    change (spend limit found).toOption = some ledger ↔ _
    unfold spend
    split_ifs with spent
    · simp [Except.toOption, spent]
    · simp [Except.toOption, not_le.1 spent, eq_comm]

omit [DecidableEq ι] in
theorem granted_le_of_load (counted : Counted limit shared) {process : ι} {today : ℤ}
    (counts : CountsAll limit (.load process today) shared) {found : Ledger}
    (loads : load today shared.file = .ok found) :
    found.day = today ∧ (found.calls < limit → shared.granted today ≤ found.calls) := by
  simp only [CountsAll] at counts
  cases file : shared.file with
  | absent =>
    rw [file] at loads counts
    cases loads
    exact ⟨rfl, fun _ => counts.le⟩
  | unreadable =>
    rw [file] at loads
    cases loads
  | holds stored =>
    rw [file] at loads counts
    simp only [load, Except.ok.injEq] at loads
    split_ifs at loads with same
    · rw [← loads]
      exact ⟨same, same ▸ counted.stored stored file⟩
    · rw [← loads]
      exact ⟨rfl, fun _ => (counts same).le⟩

omit [DecidableEq ι] in
theorem card_finishing_le_of_imp {after : Shared ι} {day : ℤ}
    (fewer : ∀ process, after.pending process = some ⟨day, limit⟩ →
      shared.pending process = some ⟨day, limit⟩) :
    (finishing limit day after).card ≤ (finishing limit day shared).card := by
  apply Finset.card_le_card
  intro process mem
  simp only [finishing, Finset.mem_filter, Finset.mem_univ, true_and] at mem ⊢
  exact fewer process mem

theorem Counted.load (counted : Counted limit shared) {process : ι} {today : ℤ}
    (counts : CountsAll limit (.load process today) shared) :
    Counted limit (step limit (.load process today) shared) := by
  have pendingAfter : ∀ other, (step limit (.load process today) shared).pending other =
      if other = process then (Budget.load today shared.file >>= spend limit).toOption
      else shared.pending other := by
    intro other
    simp [step, Function.update_apply]
  refine ⟨counted.stored, ?_, ?_⟩
  · intro other ledger held
    rw [pendingAfter] at held
    split_ifs at held with same
    · obtain ⟨found, -, below, rfl⟩ := loaded_eq_some_iff.1 held
      exact below
    · exact counted.pending other ledger held
  · intro day
    change shared.granted day + _ ≤ _
    by_cases last : (Budget.load today shared.file >>= spend limit).toOption = some ⟨day, limit⟩
    · obtain ⟨found, loads, below, ledgerEq⟩ := loaded_eq_some_iff.1 last
      obtain ⟨dayEq, granted⟩ := granted_le_of_load counted counts loads
      have sameDay : day = today := (congrArg Ledger.day ledgerEq).trans dayEq
      have card := Finset.card_le_univ
        (finishing limit day (step limit (.load process today) shared))
      have few := granted below
      rw [← sameDay] at few
      omega
    · refine (Nat.add_le_add_left (card_finishing_le_of_imp ?_) _).trans (counted.ceiling day)
      intro other held
      rw [pendingAfter] at held
      split_ifs at held with same
      · exact absurd held last
      · exact held

theorem Counted.store (counted : Counted limit shared) {process : ι}
    (counts : CountsAll limit (.store process) shared) :
    Counted limit (step limit (.store process) shared) := by
  unfold step
  cases pending : shared.pending process with
  | none => simpa [pending] using counted
  | some ledger =>
    simp only [pending]
    have atMost := counted.pending process ledger pending
    refine ⟨?_, ?_, ?_⟩
    · rintro stored ⟨rfl⟩ below
      rcases counts ledger pending with last | all
      · exact absurd last below.ne
      · simpa using Nat.succ_le_of_lt all
    · intro other held pendingOther
      simp only [Function.update_apply] at pendingOther
      split_ifs at pendingOther
      exact counted.pending other held pendingOther
    · intro day
      have ceiling := counted.ceiling day
      -- the process that stored has nothing left to store
      have erased : finishing limit day
          { file := .holds ledger
            pending := Function.update shared.pending process none
            granted := Function.update shared.granted ledger.day
              (shared.granted ledger.day + 1) } =
          (finishing limit day shared).erase process := by
        ext other
        by_cases same : other = process <;> simp [finishing, same]
      rw [erased]
      simp only [Function.update_apply]
      split_ifs with sameDay
      · rcases counts ledger pending with last | all
        · have mem : process ∈ finishing limit day shared := by
            simp [finishing, pending, sameDay, ← last]
          have card := Finset.card_erase_add_one mem
          rw [sameDay] at ceiling card ⊢
          omega
        · have card := Finset.card_le_univ ((finishing limit day shared).erase process)
          omega
      · have card : ((finishing limit day shared).erase process).card ≤ _ := Finset.card_erase_le
        omega

omit [DecidableEq ι] in
theorem Counted.withinCeiling (counted : Counted limit shared) : WithinCeiling limit shared :=
  fun day => (Nat.le_add_right _ _).trans (counted.ceiling day)

/-- In every run whose steps count all calls the ceiling holds in every state. -/
theorem ceiling_holds (limit : ℕ) (file : LedgerFile) (actions : List (Action ι))
    (counts : EveryStep (step limit) (CountsAll limit) (start file) actions) :
    ∀ earlier, earlier <+: actions →
      WithinCeiling limit (runFrom (step limit) (start file) earlier) := by
  rintro earlier ⟨later, rfl⟩
  refine Counted.withinCeiling (invariant_of_everyStep (Counted limit) ?_ (counted_start limit file)
    (everyStep_append.1 counts).1)
  intro shared action counted counts
  cases action with
  | load process today => exact counted.load counts
  | store process => exact counted.store counts

/-- Two processes that take turns within the limit. -/
theorem ceiling_holds_for_turns :
    EveryStep (step 2) (CountsAll 2) (start .absent)
        [Action.load false 7, .store false, .load true 7, .store true, .load false 7] ∧
      ∀ earlier, earlier <+: [Action.load false 7, .store false, .load true 7, .store true,
          .load false 7] →
        WithinCeiling 2 (runFrom (step 2) (start .absent) earlier) := by
  have counts : EveryStep (step 2) (CountsAll 2) (start .absent)
      [Action.load false 7, .store false, .load true 7, .store true, .load false 7] := by
    refine ⟨rfl, ?_, fun absurdly => absurd rfl absurdly, ?_,
      fun absurdly => absurd rfl absurdly, trivial⟩
    · rintro ledger ⟨rfl⟩
      exact .inr (by decide)
    · rintro ledger ⟨rfl⟩
      exact .inl rfl
  exact ⟨counts, ceiling_holds 2 .absent _ counts⟩

def bothAt (day : ℤ) : List (Action Bool) :=
  [.load false day, .load true day, .store false, .store true]

/-- Three times both processes store the same ledger, or one process calls on a day that its
clock shows again. -/
theorem ceiling_is_exceeded :
    ¬ WithinCeiling 3 (runFrom (step 3) (start .absent) (bothAt 7 ++ bothAt 7 ++ bothAt 7)) ∧
      ¬ WithinCeiling 1 (runFrom (step 1) (start .absent)
        (([7, 8, 7, 8, 7, 8, 7].map fun day =>
          [Action.load false day, Action.store false]).flatten : List (Action Bool))) := by
  constructor
  · intro within
    have := within 7
    revert this
    decide
  · intro within
    have := within 7
    revert this
    decide

end Processes

end Budget

end QuickBooks
