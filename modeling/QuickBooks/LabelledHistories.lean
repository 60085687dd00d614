import Mathlib.Data.Set.Basic

/-!
# Histories of labelled steps

A system changes by steps that carry a kind.  A history is a sequence of steps
of permitted kinds that starts in a good state.  Where every step keeps states
good, histories form a preorder: a program that respects it writes by steps of
the permitted kinds only, and whatever such steps keep, the program keeps.
-/

namespace LabelledHistories

variable {σ κ : Type} (step : κ → σ → σ → Prop) (good : σ → Prop)

def Steps (permitted : Set κ) : σ → σ → Prop :=
  Relation.ReflTransGen fun before after =>
    ∃ kind ∈ permitted, step kind before after

def Evolves (permitted : Set κ) (before after : σ) : Prop :=
  good before → Steps step permitted before after ∧ good after

variable {step good} {permitted : Set κ}

instance : IsPreorder σ (Evolves step good permitted) where
  refl _ isGood := ⟨.refl, isGood⟩
  trans _ _ _ first second isGood :=
    have ⟨firstSteps, middleGood⟩ := first isGood
    have ⟨secondSteps, afterGood⟩ := second middleGood
    ⟨firstSteps.trans secondSteps, afterGood⟩

theorem Evolves.of_step {kind : κ} {before after : σ} (allowed : kind ∈ permitted)
    (taken : good before → step kind before after ∧ good after) :
    Evolves step good permitted before after := by
  intro isGood
  obtain ⟨steps, afterGood⟩ := taken isGood
  exact ⟨.single ⟨kind, allowed, steps⟩, afterGood⟩

theorem Evolves.mono {more : Set κ} {before after : σ} (included : permitted ⊆ more)
    (evolves : Evolves step good permitted before after) :
    Evolves step good more before after := by
  intro isGood
  obtain ⟨steps, afterGood⟩ := evolves isGood
  refine ⟨steps.lift id ?_, afterGood⟩
  rintro earlier later ⟨kind, allowed, taken⟩
  exact ⟨kind, included allowed, taken⟩

section Invariants

variable (stepKeepsGood : ∀ kind before after,
  step kind before after → good before → good after)
include stepKeepsGood

/-- An invariant that every permitted step keeps in good states is kept by
every history. -/
theorem Evolves.invariant {before after : σ}
    (evolves : Evolves step good permitted before after) (isGood : good before)
    (invariant : σ → Prop)
    (kept : ∀ kind ∈ permitted, ∀ earlier later, good earlier →
      step kind earlier later → invariant earlier → invariant later)
    (holds : invariant before) : invariant after := by
  obtain ⟨steps, -⟩ := evolves isGood
  have both : good after ∧ invariant after := by
    clear evolves
    induction steps with
    | refl => exact ⟨isGood, holds⟩
    | tail _ last ih =>
      obtain ⟨kind, allowed, taken⟩ := last
      exact ⟨stepKeepsGood kind _ _ taken ih.1, kept kind allowed _ _ ih.1 taken ih.2⟩
  exact both.2

end Invariants

end LabelledHistories
