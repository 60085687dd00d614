import Mathlib.Order.Defs.Unbundled

/-!
# Runs of a transition system

A deterministic system takes one total step for each action.  This file gives
the state a list of actions leads to and the induction rules over runs: an
invariant kept by every step, an invariant kept by the steps that meet a
condition, and a preorder that every step respects.
-/

namespace TransitionRuns

variable {σ ω : Type}

def runFrom (step : ω → σ → σ) : σ → List ω → σ
  | state, [] => state
  | state, action :: actions => runFrom step (step action state) actions

/-- Every action meets the condition in the state it is taken in. -/
def EveryStep (step : ω → σ → σ) (condition : ω → σ → Prop) : σ → List ω → Prop
  | _, [] => True
  | state, action :: actions =>
    condition action state ∧ EveryStep step condition (step action state) actions

variable {step : ω → σ → σ}

@[simp]
theorem runFrom_nil (start : σ) : runFrom step start [] = start :=
  rfl

@[simp]
theorem runFrom_cons (start : σ) (action : ω) (actions : List ω) :
    runFrom step start (action :: actions) =
      runFrom step (step action start) actions :=
  rfl

theorem runFrom_append (start : σ) (first second : List ω) :
    runFrom step start (first ++ second) =
      runFrom step (runFrom step start first) second := by
  induction first generalizing start with
  | nil => rfl
  | cons action actions ih => exact ih (step action start)

theorem everyStep_append {condition : ω → σ → Prop} {start : σ}
    {first second : List ω} :
    EveryStep step condition start (first ++ second) ↔
      EveryStep step condition start first ∧
        EveryStep step condition (runFrom step start first) second := by
  induction first generalizing start with
  | nil => simp [EveryStep]
  | cons action actions ih =>
    simp only [List.cons_append, EveryStep, runFrom_cons, ih, and_assoc]

theorem EveryStep.mono {condition weaker : ω → σ → Prop} {start : σ} {actions : List ω}
    (meets : EveryStep step condition start actions)
    (weakens : ∀ action state, condition action state → weaker action state) :
    EveryStep step weaker start actions := by
  induction actions generalizing start with
  | nil => trivial
  | cons action actions ih => exact ⟨weakens action start meets.1, ih meets.2⟩

instance decidableEveryStep {condition : ω → σ → Prop}
    [decidable : ∀ action state, Decidable (condition action state)] :
    ∀ (start : σ) (actions : List ω), Decidable (EveryStep step condition start actions)
  | _, [] => isTrue trivial
  | start, action :: actions =>
    @instDecidableAnd _ _ (decidable action start)
      (decidableEveryStep (step action start) actions)

theorem EveryStep.and_mem {condition : ω → σ → Prop} {start : σ} {actions : List ω}
    (meets : EveryStep step condition start actions) :
    EveryStep step (fun action state => condition action state ∧ action ∈ actions)
      start actions := by
  induction actions generalizing start with
  | nil => trivial
  | cons action actions ih =>
    refine ⟨⟨meets.1, List.mem_cons_self⟩, (ih meets.2).mono ?_⟩
    rintro later state ⟨holds, laterMem⟩
    exact ⟨holds, List.mem_cons_of_mem _ laterMem⟩

/-- An invariant that the steps meeting the condition keep holds at the end of
every run whose steps all meet it. -/
theorem invariant_of_everyStep {condition : ω → σ → Prop} (invariant : σ → Prop)
    (kept : ∀ state action, invariant state → condition action state →
      invariant (step action state))
    {start : σ} {actions : List ω} (startHolds : invariant start)
    (meets : EveryStep step condition start actions) :
    invariant (runFrom step start actions) := by
  induction actions generalizing start with
  | nil => exact startHolds
  | cons action actions ih =>
    obtain ⟨first, rest⟩ := meets
    exact ih (kept start action startHolds first) rest

/-- What the invariant and the condition imply of a step holds of every step of
such a run. -/
theorem EveryStep.of_invariant {condition implied : ω → σ → Prop} (invariant : σ → Prop)
    (kept : ∀ state action, invariant state → condition action state →
      invariant (step action state))
    (implies : ∀ state action, invariant state → condition action state →
      implied action state)
    {start : σ} {actions : List ω} (startHolds : invariant start)
    (meets : EveryStep step condition start actions) :
    EveryStep step implied start actions := by
  induction actions generalizing start with
  | nil => trivial
  | cons action actions ih =>
    obtain ⟨first, rest⟩ := meets
    exact ⟨implies start action startHolds first,
      ih (kept start action startHolds first) rest⟩

/-- Two conditions that agree in the states of an invariant are met by the same
runs from such a state. -/
theorem everyStep_congr_of_invariant {condition other : ω → σ → Prop} (invariant : σ → Prop)
    (kept : ∀ state action, invariant state → invariant (step action state))
    (agree : ∀ state action, invariant state → (condition action state ↔ other action state))
    {start : σ} (startHolds : invariant start) (actions : List ω) :
    EveryStep step condition start actions ↔ EveryStep step other start actions := by
  induction actions generalizing start with
  | nil => exact Iff.rfl
  | cons action actions ih =>
    exact and_congr (agree start action startHolds) (ih (kept start action startHolds))

theorem everyStep_of_forall {condition : ω → σ → Prop} {start : σ} {actions : List ω}
    (meets : ∀ action ∈ actions, ∀ state, condition action state) :
    EveryStep step condition start actions := by
  induction actions generalizing start with
  | nil => trivial
  | cons action actions ih =>
    exact ⟨meets action List.mem_cons_self start,
      ih fun other otherMem => meets other (List.mem_cons_of_mem _ otherMem)⟩

theorem invariant_of_run (invariant : σ → Prop)
    (kept : ∀ state action, invariant state → invariant (step action state))
    {start : σ} (startHolds : invariant start) (actions : List ω) :
    invariant (runFrom step start actions) :=
  invariant_of_everyStep invariant
    (fun state action holds _ => kept state action holds)
    startHolds (everyStep_of_forall fun _ _ _ => trivial)

/-- Where a step of the domain out of the invariant keeps it exactly when it
meets the condition, the invariant holds in every state that a run of such
steps goes through exactly when every step of the run meets it. -/
theorem everyState_iff_everyStep {domain condition : ω → σ → Prop}
    (good invariant : σ → Prop)
    (keepsGood : ∀ state action, good state → domain action state →
      good (step action state))
    (kept : ∀ state action, good state → domain action state → invariant state →
      (invariant (step action state) ↔ condition action state))
    {start : σ} {actions : List ω} (startGood : good start) (startHolds : invariant start)
    (inDomain : EveryStep step domain start actions) :
    (∀ earlier, earlier <+: actions → invariant (runFrom step start earlier)) ↔
      EveryStep step condition start actions := by
  induction actions generalizing start with
  | nil =>
    refine ⟨fun _ => trivial, ?_⟩
    intro _ earlier isPrefix
    rw [List.prefix_nil.mp isPrefix]
    exact startHolds
  | cons action actions ih =>
    obtain ⟨firstIn, restIn⟩ := inDomain
    have nextGood := keepsGood start action startGood firstIn
    constructor
    · intro everyState
      have nextHolds : invariant (step action start) :=
        everyState [action] (by simp)
      refine ⟨(kept start action startGood firstIn startHolds).mp nextHolds, ?_⟩
      apply (ih nextGood nextHolds restIn).mp
      intro earlier isPrefix
      exact everyState (action :: earlier) (by simpa using isPrefix)
    · rintro ⟨first, rest⟩ earlier isPrefix
      have nextHolds := (kept start action startGood firstIn startHolds).mpr first
      cases earlier with
      | nil => exact startHolds
      | cons other earlier =>
        obtain ⟨rfl, laterPrefix⟩ := List.cons_prefix_cons.mp isPrefix
        exact (ih nextGood nextHolds restIn).mpr rest earlier laterPrefix

/-- A condition on one part of the state along the runs of a system whose steps
act on that part as the steps of another. -/
theorem everyStep_part_iff {τ : Type} {partStep : ω → τ → τ} (part : σ → τ)
    (acts : ∀ action state, part (step action state) = partStep action (part state))
    (condition : ω → τ → Prop) (start : σ) (actions : List ω) :
    EveryStep step (fun action state => condition action (part state)) start actions ↔
      EveryStep partStep condition (part start) actions := by
  induction actions generalizing start with
  | nil => exact Iff.rfl
  | cons action actions ih =>
    rw [EveryStep, EveryStep, ih, acts]

end TransitionRuns
