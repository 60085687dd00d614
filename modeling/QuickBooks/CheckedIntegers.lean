import Mathlib.Algebra.Order.BigOperators.Group.List
import Mathlib.Algebra.Order.Group.Int
import Mathlib.Algebra.Ring.Int.Defs
import QuickBooks.ExceptPrograms

/-!
# Checked machine integers

A machine integer is a mathematical integer together with the proof that it
lies in the range of its type.  The checked operations compute over the
integers and refuse a result outside the range, so a result that is returned
is exact.
-/

namespace CheckedIntegers

open ExceptPrograms

/-- An integer between two bounds, both included. -/
structure RangeInt (lower upper : Int) where
  value : Int
  lower_le : lower ≤ value
  le_upper : value ≤ upper
deriving DecidableEq

namespace RangeInt

variable {lower upper : Int} {ε : Type}

@[ext]
theorem ext {first second : RangeInt lower upper}
    (valueEq : first.value = second.value) : first = second := by
  cases first
  cases second
  simpa using valueEq

/-- The machine integer of a mathematical one, when it is in range. -/
def ofInt? (number : Int) : Option (RangeInt lower upper) :=
  if fits : lower ≤ number ∧ number ≤ upper then
    some ⟨number, fits.1, fits.2⟩
  else none

@[simp]
theorem ofInt?_eq_some_iff {number : Int} {result : RangeInt lower upper} :
    ofInt? number = some result ↔ result.value = number := by
  unfold ofInt?
  split_ifs with fits
  · rw [Option.some_inj]
    constructor
    · rintro rfl
      rfl
    · intro valueEq
      exact ext valueEq.symm
  · simp only [false_iff]
    rintro rfl
    exact fits ⟨result.lower_le, result.le_upper⟩

def checkedAdd (first second : RangeInt lower upper) : Option (RangeInt lower upper) :=
  ofInt? (first.value + second.value)

def checkedSub (first second : RangeInt lower upper) : Option (RangeInt lower upper) :=
  ofInt? (first.value - second.value)

def checkedNeg (number : RangeInt lower upper) : Option (RangeInt lower upper) :=
  ofInt? (-number.value)

def InRange (lower upper number : Int) : Prop :=
  lower ≤ number ∧ number ≤ upper

theorem exists_ofInt?_iff {number : Int} :
    (∃ result : RangeInt lower upper, ofInt? number = some result) ↔
      InRange lower upper number := by
  constructor
  · rintro ⟨result, found⟩
    rw [ofInt?_eq_some_iff] at found
    rw [← found]
    exact ⟨result.lower_le, result.le_upper⟩
  · intro fits
    exact ⟨⟨number, fits.1, fits.2⟩, by simp⟩

end RangeInt

/-- A running sum never leaves the range, from the start on. -/
def RunningSumFits (lower upper : Int) : Int → List Int → Prop
  | _, [] => True
  | start, step :: steps =>
    RangeInt.InRange lower upper (start + step) ∧
      RunningSumFits lower upper (start + step) steps

theorem runningSumFits_append {lower upper start : Int} {first second : List Int} :
    RunningSumFits lower upper start (first ++ second) ↔
      RunningSumFits lower upper start first ∧
        RunningSumFits lower upper (start + first.sum) second := by
  induction first generalizing start with
  | nil => simp [RunningSumFits]
  | cons step steps ih =>
    rw [List.cons_append, RunningSumFits, RunningSumFits, ih, List.sum_cons,
      add_assoc, and_assoc]

/-- A sum that only grows leaves the range last, so it stays in it exactly
when its end does. -/
theorem runningSumFits_iff_of_nonneg {lower upper start : Int} {steps : List Int}
    (startFits : RangeInt.InRange lower upper start)
    (grows : ∀ step ∈ steps, 0 ≤ step) :
    RunningSumFits lower upper start steps ↔ start + steps.sum ≤ upper := by
  induction steps generalizing start with
  | nil => simpa [RunningSumFits] using startFits.2
  | cons step steps ih =>
    have stepGrows := grows step (by simp)
    have restGrows : ∀ later ∈ steps, 0 ≤ later :=
      fun later laterMem => grows later (by simp [laterMem])
    have restSum : 0 ≤ steps.sum := List.sum_nonneg restGrows
    rw [RunningSumFits, List.sum_cons, ← add_assoc]
    constructor
    · rintro ⟨middleFits, restFits⟩
      exact (ih middleFits restGrows).mp restFits
    · intro finishFits
      have middleFits : RangeInt.InRange lower upper (start + step) :=
        ⟨le_trans startFits.1 (by omega), by omega⟩
      exact ⟨middleFits, (ih middleFits restGrows).mpr finishFits⟩

theorem runningSumFits_of_natAbs {lower upper bound start : Int} {steps : List Int}
    (lowerFits : lower ≤ -bound) (upperFits : bound ≤ upper)
    (fits : start.natAbs + (steps.map fun step => (step.natAbs : Int)).sum ≤ bound) :
    RunningSumFits lower upper start steps := by
  induction steps generalizing start with
  | nil => trivial
  | cons step steps ih =>
    have restNonneg : 0 ≤ (steps.map fun step => (step.natAbs : Int)).sum := by
      apply List.sum_nonneg
      intro amount amountMem
      obtain ⟨later, -, rfl⟩ := List.mem_map.mp amountMem
      exact Int.natCast_nonneg _
    rw [List.map_cons, List.sum_cons] at fits
    rw [RunningSumFits]
    exact ⟨⟨by omega, by omega⟩, ih (by omega)⟩

/-- A fold whose body adds an exact amount or refuses succeeds exactly when
the running sum stays in range. -/
theorem exists_foldlM_ok_iff {ι σ ε : Type} {lower upper : Int}
    {body : σ → ι → Except ε σ} {amountOf : ι → Int} {valueOf : σ → Int}
    (exact : ∀ state element result, body state element = .ok result →
      valueOf result = valueOf state + amountOf element)
    (succeeds : ∀ state element, (∃ result, body state element = .ok result) ↔
      RangeInt.InRange lower upper (valueOf state + amountOf element))
    (elements : List ι) (start : σ) :
    (∃ result, elements.foldlM body start = .ok result) ↔
      RunningSumFits lower upper (valueOf start) (elements.map amountOf) := by
  induction elements generalizing start with
  | nil => simp [RunningSumFits, pure_eq_ok_iff]
  | cons element elements ih =>
    rw [List.map_cons, RunningSumFits]
    constructor
    · rintro ⟨result, folds⟩
      rw [List.foldlM_cons, bind_eq_ok_iff] at folds
      obtain ⟨middle, first, rest⟩ := folds
      have middleValue := exact start element middle first
      rw [← middleValue]
      refine ⟨?_, (ih middle).mp ⟨result, rest⟩⟩
      rw [middleValue]
      exact (succeeds start element).mp ⟨middle, first⟩
    · rintro ⟨fits, restFits⟩
      obtain ⟨middle, first⟩ := (succeeds start element).mpr fits
      rw [← exact start element middle first] at restFits
      obtain ⟨result, rest⟩ := (ih middle).mpr restFits
      refine ⟨result, ?_⟩
      rw [List.foldlM_cons, bind_eq_ok_iff]
      exact ⟨middle, first, rest⟩

end CheckedIntegers
