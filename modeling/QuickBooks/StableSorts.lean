import Mathlib.Data.Finset.Sort
import QuickBooks.ExceptPrograms

/-!
# Stable sorts by a key

A stable sort puts the elements of one key after those of another and keeps them
in the order they came in.  So it is determined by the keys and, for each key, the
elements that have it.  A loop over a sorted list goes through it key by key, and
where the steps of one key commute it does not matter in which order they came.
-/

namespace StableSorts

open ExceptPrograms

variable {α κ : Type} [LinearOrder κ] {key : α → κ}

def sortedBy (key : α → κ) (elements : List α) : List α :=
  elements.insertionSort fun first second => key first ≤ key second

def fiber (key : α → κ) (elements : List α) (label : κ) : List α :=
  elements.filter fun element => key element = label

def labels (key : α → κ) (elements : List α) : List κ :=
  (elements.map key).toFinset.sort

theorem perm_sortedBy (elements : List α) : (sortedBy key elements).Perm elements :=
  List.perm_insertionSort _ elements

theorem pairwise_sortedBy (elements : List α) :
    (sortedBy key elements).Pairwise fun first second => key first ≤ key second := by
  have isTotal : Std.Total fun first second : α => key first ≤ key second :=
    ⟨fun first second => le_total (key first) (key second)⟩
  have isTrans : IsTrans α fun first second : α => key first ≤ key second :=
    ⟨fun first second third => le_trans⟩
  exact List.pairwise_insertionSort _ elements

theorem fiber_sortedBy (elements : List α) (label : κ) :
    fiber key (sortedBy key elements) label = fiber key elements label := by
  have related : (fiber key elements label).Pairwise fun first second =>
      key first ≤ key second := by
    apply List.pairwise_iff_forall_sublist.mpr
    intro first second pair
    have firstKey := of_decide_eq_true (List.mem_filter.mp
      (pair.subset (List.mem_cons_self : first ∈ [first, second]))).2
    have secondKey := of_decide_eq_true (List.mem_filter.mp
      (pair.subset (by simp : second ∈ [first, second]))).2
    exact (firstKey.trans secondKey.symm).le
  have kept : (fiber key elements label).Sublist (sortedBy key elements) :=
    List.sublist_insertionSort related List.filter_sublist
  have same := kept.filter fun element => decide (key element = label)
  rw [fiber, List.filter_filter] at same
  simp only [Bool.and_self] at same
  exact (same.eq_of_length ((perm_sortedBy elements).filter _).length_eq.symm).symm

/-- Sorted lists with the same elements of each key, in the same order, are the
same. -/
theorem eq_of_fiber_eq {first second : List α}
    (firstSorted : first.Pairwise fun earlier later => key earlier ≤ key later)
    (secondSorted : second.Pairwise fun earlier later => key earlier ≤ key later)
    (same : ∀ label, fiber key first label = fiber key second label) : first = second := by
  induction first generalizing second with
  | nil =>
    cases second with
    | nil => rfl
    | cons element rest =>
      have absurdly := same (key element)
      simp [fiber] at absurdly
  | cons element rest ih =>
    have elementMem : element ∈ second := by
      have found : element ∈ fiber key second (key element) := by
        rw [← same]
        simp [fiber]
      exact List.mem_of_mem_filter found
    cases second with
    | nil => exact absurd elementMem List.not_mem_nil
    | cons other others =>
      have otherMem : other ∈ element :: rest := by
        have found : other ∈ fiber key (element :: rest) (key other) := by
          rw [same]
          simp [fiber]
        exact List.mem_of_mem_filter found
      have sameKey : key element = key other := by
        apply le_antisymm
        · rcases List.mem_cons.mp otherMem with rfl | later
          · exact le_rfl
          · exact List.rel_of_pairwise_cons firstSorted later
        · rcases List.mem_cons.mp elementMem with rfl | later
          · exact le_rfl
          · exact List.rel_of_pairwise_cons secondSorted later
      have heads := same (key other)
      simp only [fiber, List.filter_cons, sameKey, decide_true, if_true,
        List.cons.injEq] at heads
      obtain ⟨rfl, -⟩ := heads
      congr 1
      apply ih firstSorted.of_cons secondSorted.of_cons
      intro label
      have here := same label
      simp only [fiber, List.filter_cons] at here
      split_ifs at here
      · exact (List.cons.inj here).2
      · exact here

theorem mem_labels {elements : List α} {label : κ} :
    label ∈ labels key elements ↔ ∃ element ∈ elements, key element = label := by
  simp [labels]

theorem labels_perm {first second : List α} (rearranged : first.Perm second) :
    labels key first = labels key second := by
  unfold labels
  congr 1
  ext label
  simp [rearranged.mem_iff]

theorem fiber_flatMap {elements : List α} {known : List κ} (distinct : known.Nodup) (label : κ) :
    fiber key (known.flatMap (fiber key elements)) label =
      if label ∈ known then fiber key elements label else [] := by
  induction known with
  | nil => rfl
  | cons first rest ih =>
    obtain ⟨fresh, restDistinct⟩ := List.nodup_cons.mp distinct
    have split : fiber key ((first :: rest).flatMap (fiber key elements)) label =
        fiber key (fiber key elements first) label ++
          fiber key (rest.flatMap (fiber key elements)) label := by
      rw [List.flatMap_cons]
      exact List.filter_append ..
    rw [split, ih restDistinct]
    by_cases here : label = first
    · subst here
      have whole : fiber key (fiber key elements label) label = fiber key elements label := by
        simp [fiber]
      simp [whole, fresh]
    · have nothing : fiber key (fiber key elements first) label = [] := by
        apply List.filter_eq_nil_iff.mpr
        intro element elementMem
        have firstKey := of_decide_eq_true (List.mem_filter.mp elementMem).2
        simp [firstKey, Ne.symm here]
      simp [nothing, here]

theorem pairwise_flatMap_fiber {elements : List α} {known : List κ}
    (ordered : known.Pairwise (· < ·)) :
    (known.flatMap (fiber key elements)).Pairwise fun first second =>
      key first ≤ key second := by
  have keyOf : ∀ label, ∀ element ∈ fiber key elements label, key element = label :=
    fun label element elementMem => of_decide_eq_true (List.mem_filter.mp elementMem).2
  apply List.pairwise_flatMap.mpr
  constructor
  · intro label _
    apply List.pairwise_iff_forall_sublist.mpr
    intro first second pair
    rw [keyOf label first (pair.subset (by simp)), keyOf label second (pair.subset (by simp))]
  · apply ordered.imp
    intro first second below element elementMem other otherMem
    rw [keyOf first element elementMem, keyOf second other otherMem]
    exact below.le

theorem sortedBy_eq_flatMap (elements : List α) :
    sortedBy key elements = (labels key elements).flatMap (fiber key elements) := by
  have ordered : (labels key elements).Pairwise (· < ·) :=
    (Finset.sortedLT_sort _).pairwise
  apply eq_of_fiber_eq (pairwise_sortedBy elements) (pairwise_flatMap_fiber ordered)
  intro label
  rw [fiber_sortedBy, fiber_flatMap (ordered.imp fun below => below.ne)]
  split_ifs with known
  · rfl
  · apply List.filter_eq_nil_iff.mpr
    intro element elementMem
    exact fun here => known (mem_labels.mpr ⟨element, elementMem, of_decide_eq_true here⟩)

/-! ### Loops -/

variable {σ ε : Type} {step : σ → α → Except ε σ}

/-- Steps that commute wherever an invariant holds lead to the same state in every
order. -/
theorem foldlM_perm (invariant : σ → Prop) (admits : α → Prop)
    (kept : ∀ state element after, invariant state → admits element →
      step state element = .ok after → invariant after)
    (commutes : ∀ state first second between after, invariant state → admits first →
      admits second → step state first = .ok between → step between second = .ok after →
        ∃ other, step state second = .ok other ∧ step other first = .ok after)
    {elements others : List α} (rearranged : elements.Perm others) {start finish : σ}
    (startHolds : invariant start) (admitted : ∀ element ∈ elements, admits element)
    (runs : elements.foldlM step start = .ok finish) :
    others.foldlM step start = .ok finish := by
  induction rearranged generalizing start with
  | nil => exact runs
  | cons element rearranged ih =>
    rw [List.foldlM_cons, bind_eq_ok_iff] at runs ⊢
    obtain ⟨between, here, rest⟩ := runs
    have holds := kept start element between startHolds
      (admitted element List.mem_cons_self) here
    exact ⟨between, here,
      ih holds (fun other otherMem => admitted other (List.mem_cons_of_mem _ otherMem)) rest⟩
  | swap first second rest =>
    simp only [List.foldlM_cons, bind_eq_ok_iff] at runs ⊢
    obtain ⟨between, here, after, next, later⟩ := runs
    obtain ⟨other, firstRuns, secondRuns⟩ := commutes start second first between after
      startHolds (admitted second (by simp)) (admitted first (by simp)) here next
    exact ⟨other, firstRuns, after, secondRuns, later⟩
  | trans rearranged _ ih ih' =>
    exact ih' startHolds
      (fun element elementMem => admitted element (rearranged.mem_iff.mpr elementMem))
      (ih startHolds admitted runs)

end StableSorts
