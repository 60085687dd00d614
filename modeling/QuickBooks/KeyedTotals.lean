import Mathlib.Algebra.BigOperators.Ring.List
import Mathlib.Algebra.Ring.Int.Defs

/-!
# Totals over selected elements

The total of a list under a selection counts the amounts of the selected
elements and ignores the others.  Totals are additive over concatenation and
over pointwise sums and change sign with their amounts, and the totals of the
fibers of a classifying function add up to the total of the elements whose
class is listed.
-/

namespace KeyedTotals

variable {ι κ : Type}

def total (selects : ι → Prop) [DecidablePred selects] (amount : ι → Int)
    (elements : List ι) : Int :=
  (elements.map fun element => if selects element then amount element else 0).sum

section Selection

variable (selects : ι → Prop) [DecidablePred selects] (amount : ι → Int)

@[simp]
theorem total_nil : total selects amount [] = 0 :=
  rfl

@[simp]
theorem total_cons (element : ι) (elements : List ι) :
    total selects amount (element :: elements) =
      (if selects element then amount element else 0) +
        total selects amount elements := by
  simp [total]

@[simp]
theorem total_append (first second : List ι) :
    total selects amount (first ++ second) =
      total selects amount first + total selects amount second := by
  simp [total]

theorem total_perm {first second : List ι} (rearranged : first.Perm second) :
    total selects amount first = total selects amount second :=
  (rearranged.map _).sum_eq

theorem total_neg (elements : List ι) :
    total selects (fun element => -amount element) elements =
      -total selects amount elements := by
  induction elements with
  | nil => rfl
  | cons element elements ih =>
    rw [total_cons, total_cons, ih]
    split_ifs <;> omega

theorem total_add (second : ι → Int) (elements : List ι) :
    total selects (fun element => amount element + second element) elements =
      total selects amount elements + total selects second elements := by
  induction elements with
  | nil => rfl
  | cons element elements ih =>
    rw [total_cons, total_cons, total_cons, ih]
    split_ifs <;> omega

theorem total_sub (second : ι → Int) (elements : List ι) :
    total selects (fun element => amount element - second element) elements =
      total selects amount elements - total selects second elements := by
  simp only [sub_eq_add_neg]
  rw [total_add, total_neg]

theorem total_map {ι' : Type} (change : ι' → ι) (elements : List ι') :
    total selects amount (elements.map change) =
      total (fun element => selects (change element))
        (fun element => amount (change element)) elements := by
  simp [total, Function.comp_def]

theorem total_flatMap {ι' : Type} (expand : ι' → List ι) (groups : List ι') :
    total selects amount (groups.flatMap expand) =
      (groups.map fun group => total selects amount (expand group)).sum := by
  induction groups with
  | nil => rfl
  | cons group groups ih => simp [ih]

theorem total_split (keeps : ι → Prop) [DecidablePred keeps] (elements : List ι) :
    total selects amount elements =
      total (fun element => selects element ∧ keeps element) amount elements +
        total (fun element => selects element ∧ ¬keeps element) amount elements := by
  induction elements with
  | nil => rfl
  | cons element elements ih =>
    rw [total_cons, total_cons, total_cons, ih]
    by_cases kept : keeps element <;> simp only [kept, and_true, and_false, if_false,
      not_true_eq_false, not_false_eq_true] <;> omega

theorem total_filter (keeps : ι → Prop) [DecidablePred keeps]
    (elements : List ι) :
    total selects amount (elements.filter keeps) =
      total (fun element => selects element ∧ keeps element) amount elements := by
  induction elements with
  | nil => rfl
  | cons element elements ih =>
    by_cases kept : keeps element
    · rw [List.filter_cons_of_pos (by simpa using kept), total_cons, total_cons, ih]
      simp [kept]
    · rw [List.filter_cons_of_neg (by simpa using kept), total_cons, ih]
      simp [kept]

theorem total_eq_zero {elements : List ι}
    (noneSelected : ∀ element ∈ elements, selects element → amount element = 0) :
    total selects amount elements = 0 := by
  apply List.sum_eq_zero
  intro value valueMem
  obtain ⟨element, elementMem, rfl⟩ := List.mem_map.mp valueMem
  split_ifs with selected
  · exact noneSelected element elementMem selected
  · rfl

theorem total_nonneg {elements : List ι}
    (nonneg : ∀ element ∈ elements, 0 ≤ amount element) :
    0 ≤ total selects amount elements := by
  induction elements with
  | nil => exact Int.le_refl 0
  | cons element elements ih =>
    rw [total_cons]
    have rest := ih fun other otherMem => nonneg other (List.mem_cons_of_mem _ otherMem)
    have here := nonneg element List.mem_cons_self
    split_ifs <;> omega

theorem natAbs_total_le (elements : List ι) :
    ((total selects amount elements).natAbs : Int) ≤
      total selects (fun element => (amount element).natAbs) elements := by
  induction elements with
  | nil => exact Int.le_refl 0
  | cons element elements ih =>
    rw [total_cons, total_cons]
    split_ifs <;> omega

theorem total_of_forall {elements : List ι}
    (allSelected : ∀ element ∈ elements, selects element) :
    total selects amount elements = (elements.map amount).sum := by
  unfold total
  congr 1
  apply List.map_congr_left
  intro element elementMem
  rw [if_pos (allSelected element elementMem)]

theorem sum_map_filter (keeps : ι → Bool) (elements : List ι) :
    ((elements.filter keeps).map amount).sum =
      total (fun element => keeps element = true) amount elements := by
  induction elements with
  | nil => rfl
  | cons element elements ih =>
    cases kept : keeps element
    · rw [List.filter_cons_of_neg (by simp [kept]), total_cons, ih]
      simp [kept]
    · rw [List.filter_cons_of_pos kept, List.map_cons, List.sum_cons, total_cons, ih]
      simp [kept]

theorem total_of_unique {element : ι} {elements : List ι} (distinct : elements.Nodup)
    (elementMem : element ∈ elements)
    (only : ∀ other ∈ elements, selects other → other = element) :
    total selects amount elements = if selects element then amount element else 0 := by
  induction elements with
  | nil => exact absurd elementMem List.not_mem_nil
  | cons head elements ih =>
    rw [List.nodup_cons] at distinct
    rw [total_cons]
    rcases List.mem_cons.mp elementMem with rfl | inRest
    · rw [total_eq_zero selects amount, add_zero]
      intro other otherMem selected
      have isHead := only other (List.mem_cons_of_mem _ otherMem) selected
      exact absurd (isHead ▸ otherMem) distinct.1
    · have unselected : ¬selects head := fun selected =>
        distinct.1 (only head List.mem_cons_self selected ▸ inRest)
      rw [if_neg unselected, zero_add]
      exact ih distinct.2 inRest fun other otherMem =>
        only other (List.mem_cons_of_mem _ otherMem)

end Selection

theorem total_eq_find? (selects : ι → Bool) (amount : ι → Int) {elements : List ι}
    (alone : elements.Pairwise fun first second => selects first → selects second → False) :
    total (fun element => selects element = true) amount elements =
      ((elements.find? selects).map amount).getD 0 := by
  induction elements with
  | nil => rfl
  | cons element elements ih =>
    rw [List.pairwise_cons] at alone
    rw [total_cons]
    cases selected : selects element with
    | false =>
      rw [List.find?_cons_of_neg (by simp [selected]), ih alone.2]
      simp
    | true =>
      have others : total (fun other => selects other = true) amount elements = 0 := by
        rw [total_eq_zero]
        intro other otherMem isSelected
        exact absurd (alone.1 other otherMem selected isSelected) id
      rw [List.find?_cons_of_pos selected, others]
      simp

theorem total_le_total {selects selects' : ι → Prop} [DecidablePred selects]
    [DecidablePred selects'] {amount : ι → Int} {elements : List ι}
    (nonneg : ∀ element ∈ elements, 0 ≤ amount element)
    (included : ∀ element, selects element → selects' element) :
    total selects amount elements ≤ total selects' amount elements := by
  induction elements with
  | nil => exact Int.le_refl 0
  | cons element elements ih =>
    rw [total_cons, total_cons]
    have rest := ih fun other otherMem => nonneg other (List.mem_cons_of_mem _ otherMem)
    have here := nonneg element List.mem_cons_self
    by_cases selected : selects element
    · rw [if_pos selected, if_pos (included element selected)]
      omega
    · rw [if_neg selected]
      split_ifs <;> omega

theorem total_le_sum (selects : ι → Prop) [DecidablePred selects] {amount : ι → Int}
    {elements : List ι} (nonneg : ∀ element ∈ elements, 0 ≤ amount element) :
    total selects amount elements ≤ (elements.map amount).sum := by
  rw [← total_of_forall (fun _ => True) amount fun _ _ => trivial]
  exact total_le_total nonneg fun _ _ => trivial

theorem total_congr {selects selects' : ι → Prop} [DecidablePred selects]
    [DecidablePred selects'] {amount amount' : ι → Int} {elements : List ι}
    (agrees : ∀ element ∈ elements, (selects element ↔ selects' element) ∧
      (selects element → amount element = amount' element)) :
    total selects amount elements = total selects' amount' elements := by
  unfold total
  congr 1
  apply List.map_congr_left
  intro element elementMem
  obtain ⟨sameSelection, sameAmount⟩ := agrees element elementMem
  by_cases selected : selects element
  · rw [if_pos selected, if_pos (sameSelection.mp selected), sameAmount selected]
  · rw [if_neg selected, if_neg (fun holds => selected (sameSelection.mpr holds))]

theorem total_forall₂ {ι' : Type} {related : ι → ι' → Prop} {selects : ι → Prop}
    [DecidablePred selects] {selects' : ι' → Prop} [DecidablePred selects'] {amount : ι → Int}
    {amount' : ι' → Int} {elements : List ι} {others : List ι'}
    (correspond : List.Forall₂ related elements others)
    (agrees : ∀ element other, related element other →
      (selects element ↔ selects' other) ∧ amount element = amount' other) :
    total selects amount elements = total selects' amount' others := by
  induction correspond with
  | nil => rfl
  | cons here rest ih =>
    obtain ⟨sameSelection, sameAmount⟩ := agrees _ _ here
    rw [total_cons, total_cons, ih, sameAmount]
    congr 1
    exact if_congr sameSelection rfl rfl

/-- The totals of the fibers over distinct classes add up to the total of the
elements whose class is listed. -/
theorem sum_total_fibers [DecidableEq κ] (selects : ι → Prop)
    [DecidablePred selects] (amount : ι → Int) (classOf : ι → κ)
    {classes : List κ} (distinct : classes.Nodup) (elements : List ι) :
    (classes.map fun label =>
      total (fun element => selects element ∧ classOf element = label)
        amount elements).sum =
      total (fun element => selects element ∧ classOf element ∈ classes)
        amount elements := by
  induction classes with
  | nil => simp [total]
  | cons label labels ih =>
    obtain ⟨labelFresh, restDistinct⟩ := List.nodup_cons.mp distinct
    rw [List.map_cons, List.sum_cons, ih restDistinct]
    clear ih
    induction elements with
    | nil => rfl
    | cons element elements ih =>
      rw [total_cons, total_cons, total_cons, ← ih]
      by_cases here : classOf element = label
      · subst here
        by_cases selected : selects element <;> simp [selected, labelFresh]
        omega
      · by_cases selected : selects element <;> simp [selected, here]
        split_ifs <;> omega

end KeyedTotals
