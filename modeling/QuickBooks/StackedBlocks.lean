import Mathlib.Algebra.Order.Group.Basic
import Mathlib.Tactic.Abel

/-!
# Blocks of stacked pieces

Pieces are stacked downwards, each a step below the one before.  A block of pieces is placed
under a top: either as much room as its depth is left below the top, or the top is as high as
a top can be.  Either way the block stays above a floor exactly when it does so under the
highest top.
-/

namespace QuickBooks

variable {κ α β : Type}

section Stacked

variable [AddCommGroup κ]

def stacked (y step : κ) : List α → List (κ × α)
  | [] => []
  | piece :: pieces => (y, piece) :: stacked (y - step) step pieces

@[simp]
theorem map_stacked (f : α → β) (y step : κ) (pieces : List α) :
    ((stacked y step pieces).map fun piece => f piece.2) = pieces.map f := by
  induction pieces generalizing y with
  | nil => rfl
  | cons piece pieces ih => simp [stacked, ih]

theorem stacked_add (top y step : κ) (pieces : List α) :
    stacked (top + y) step pieces =
      (stacked y step pieces).map fun piece => (top + piece.1, piece.2) := by
  induction pieces generalizing y with
  | nil => rfl
  | cons piece pieces ih =>
    have moved : top + y - step = top + (y - step) := by abel
    simp [stacked, moved, ih]

variable [LinearOrder κ] [IsOrderedAddMonoid κ]

theorem le_stacked_iff {step : κ} (nonneg : 0 ≤ step) (floor y : κ) (pieces : List α) :
    (∀ piece ∈ stacked y step pieces, floor ≤ piece.1) ↔
      (pieces ≠ [] → floor ≤ y - (pieces.length - 1) • step) := by
  induction pieces generalizing y with
  | nil => simp [stacked]
  | cons piece pieces ih =>
    simp only [stacked, List.forall_mem_cons, ih, ne_eq, reduceCtorEq, not_false_eq_true,
      forall_const, List.length_cons, Nat.add_sub_cancel]
    cases pieces with
    | nil => simp
    | cons next rest =>
      have lower : y - step - rest.length • step = y - (rest.length + 1) • step := by
        rw [succ_nsmul]
        abel
      have below : y - (rest.length + 1) • step ≤ y :=
        sub_le_self _ (nsmul_nonneg nonneg _)
      simp only [List.length_cons, Nat.add_sub_cancel, reduceCtorEq, not_false_eq_true,
        forall_const, lower]
      exact ⟨fun above => above.2, fun above => ⟨above.trans below, above⟩⟩

end Stacked

section Blocks

variable [AddCommGroup κ] [LinearOrder κ] [IsOrderedAddMonoid κ]

/-- Pieces at heights relative to a top, all within a depth below it. -/
structure Block (κ α : Type) [AddCommGroup κ] [LinearOrder κ] where
  pieces : List (κ × α)
  depth : κ
  within : ∀ piece ∈ pieces, -depth ≤ piece.1

namespace Block

def under (top : κ) (block : Block κ α) : List (κ × α) :=
  block.pieces.map fun piece => (top + piece.1, piece.2)

theorem above_iff (block : Block κ α) {top highest floor : κ} (le : top ≤ highest)
    (kept : floor ≤ top - block.depth ∨ top = highest) :
    (∀ piece ∈ block.under top, floor ≤ piece.1) ↔
      ∀ piece ∈ block.pieces, floor - highest ≤ piece.1 := by
  simp only [under, List.forall_mem_map]
  obtain room | rfl := kept
  · have above : ∀ piece ∈ block.pieces, floor - top ≤ piece.1 := by
      intro piece mem
      have fits : floor - top ≤ -block.depth := by
        rw [sub_le_iff_le_add, neg_add_eq_sub]
        exact room
      exact fits.trans (block.within piece mem)
    constructor
    · intro _ piece mem
      exact (sub_le_sub_left le floor).trans (above piece mem)
    · intro _ piece mem
      exact sub_le_iff_le_add'.1 (above piece mem)
  · constructor
    · intro above piece mem
      exact sub_le_iff_le_add'.2 (above piece mem)
    · intro above piece mem
      exact sub_le_iff_le_add'.1 (above piece mem)

end Block

end Blocks

end QuickBooks
