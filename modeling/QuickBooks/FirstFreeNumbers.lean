import Mathlib.Order.Interval.Finset.Nat

/-!
# Numbers handed out by probing

Requests come one after another, each with a base, and each gets the first
number at or after its base whose label is free.  Which numbers are taken after
a list of requests depends only on the bases, and is a matter of counting: a
number is taken exactly when some window that ends at it holds more bases than
the window has numbers before it.
-/

namespace FirstFreeNumbers

section Probing

variable {Key : Type*} [DecidableEq Key] (label : ℕ → Key)

/-- Step up from a number while its label is used, at most `fuel` times. -/
def probe (used : List Key) : ℕ → ℕ → ℕ
  | 0, number => number
  | fuel + 1, number =>
    if label number ∈ used then probe used fuel (number + 1) else number

def firstFree (used : List Key) (base : ℕ) : ℕ :=
  probe label used used.length base

theorem le_probe (used : List Key) (fuel number : ℕ) :
    number ≤ probe label used fuel number := by
  induction fuel generalizing number with
  | zero => exact le_rfl
  | succ fuel induction =>
    rw [probe]
    split
    · exact (Nat.le_succ number).trans (induction (number + 1))
    · exact le_rfl

theorem used_of_lt_probe (used : List Key) (fuel number n : ℕ)
    (after : number ≤ n) (before : n < probe label used fuel number) :
    label n ∈ used := by
  induction fuel generalizing number with
  | zero =>
    rw [probe] at before
    omega
  | succ fuel induction =>
    rw [probe] at before
    split at before
    · rename_i taken
      rcases Nat.eq_or_lt_of_le after with same | later
      · rw [← same]
        exact taken
      · exact induction (number + 1) later before
    · omega

theorem probe_eq_add_of_used (used : List Key) (fuel number : ℕ)
    (taken : label (probe label used fuel number) ∈ used) :
    probe label used fuel number = number + fuel := by
  induction fuel generalizing number with
  | zero => rfl
  | succ fuel induction =>
    rw [probe] at taken ⊢
    split
    · rename_i here
      rw [if_pos here] at taken
      rw [induction (number + 1) taken]
      omega
    · rename_i free
      rw [if_neg free] at taken
      exact absurd taken free

theorem le_firstFree (used : List Key) (base : ℕ) :
    base ≤ firstFree label used base :=
  le_probe label used used.length base

theorem used_of_lt_firstFree {used : List Key} {base n : ℕ} (after : base ≤ n)
    (before : n < firstFree label used base) : label n ∈ used :=
  used_of_lt_probe label used used.length base n after before

/-- Fuel for every used label suffices: a list cannot hold one label more than
its length. -/
theorem probe_free (injective : Function.Injective label) (used : List Key)
    {fuel : ℕ} (enough : used.length ≤ fuel) (number : ℕ) :
    label (probe label used fuel number) ∉ used := by
  intro taken
  have spent : probe label used fuel number = number + fuel :=
    probe_eq_add_of_used label used fuel number taken
  have covered : (Finset.Icc number (number + fuel)).image label ⊆ used.toFinset := by
    intro key member
    rcases Finset.mem_image.mp member with ⟨n, within, rfl⟩
    have bounds := Finset.mem_Icc.mp within
    rw [List.mem_toFinset]
    rcases Nat.eq_or_lt_of_le bounds.2 with last | earlier
    · rw [last, ← spent]
      exact taken
    · exact used_of_lt_probe label used fuel number n bounds.1 (spent ▸ earlier)
  have counted := Finset.card_le_card covered
  rw [Finset.card_image_of_injective _ injective, Nat.card_Icc] at counted
  have short := List.toFinset_card_le used
  omega

theorem firstFree_free (injective : Function.Injective label) (used : List Key)
    (base : ℕ) : label (firstFree label used base) ∉ used :=
  probe_free label injective used le_rfl base

end Probing

section Numerals

theorem numeral_injective : Function.Injective (toString : ℕ → String) := by
  intro first second same
  have digits := congrArg String.toList same
  rw [Nat.toString_eq_repr, Nat.toString_eq_repr, Nat.toList_repr, Nat.toList_repr]
    at digits
  rw [← @Nat.ofDigitChars_ten_toDigits first, digits,
    Nat.ofDigitChars_ten_toDigits]

theorem repr_ne_minus (number : ℕ) (rest : String) : number.repr ≠ "-" ++ rest := by
  intro same
  have chars := congrArg String.toList same
  rw [Nat.toList_repr, String.toList_append] at chars
  have signMem : '-' ∈ Nat.toDigits 10 number := by
    rw [chars]
    simp
  have isDigit := Nat.isDigit_of_mem_toDigits (by omega) (by omega) signMem
  exact absurd isDigit (by decide)

theorem intNumeral_injective : Function.Injective (toString : ℤ → String) := by
  intro first second same
  rw [Int.toString_eq_repr, Int.toString_eq_repr, Int.repr_eq_if, Int.repr_eq_if] at same
  split_ifs at same with firstSign secondSign secondSign
  · have sameNumeral := numeral_injective same
    omega
  · exact absurd same (repr_ne_minus _ _)
  · exact absurd same.symm (repr_ne_minus _ _)
  · have sameNumeral := numeral_injective (String.append_right_inj "-" |>.mp same)
    omega

end Numerals

/-- The requests served so far, oldest first: the base of each and the number
it got.  No number is given twice, and every number a request passed over was
taken. -/
structure Filled (served : List (ℕ × ℕ)) : Prop where
  distinct : (served.map Prod.snd).Nodup
  reached : ∀ request ∈ served, request.1 ≤ request.2
  passed : ∀ request ∈ served, ∀ n, request.1 ≤ n → n < request.2 →
    n ∈ served.map Prod.snd

def basesWithin (bases : List ℕ) (first last : ℕ) : ℕ :=
  bases.countP fun base => first ≤ base ∧ base ≤ last

/-- A number that the bases leave free: no window that ends at it holds more
bases than the numbers before it can take. -/
def LeavesFree (bases : List ℕ) (n : ℕ) : Prop :=
  ∀ first ≤ n, basesWithin bases first n ≤ n - first

def RoomFor (bases : List ℕ) (base limit : ℕ) : Prop :=
  ∃ n, base ≤ n ∧ n ≤ limit ∧ LeavesFree bases n

theorem basesWithin_served (served : List (ℕ × ℕ)) (first last : ℕ) :
    basesWithin (served.map Prod.fst) first last =
      ((served.filter fun request => first ≤ request.1 ∧ request.1 ≤ last).map
        Prod.snd).length := by
  rw [basesWithin, List.countP_map, List.countP_eq_length_filter, List.length_map]
  rfl

theorem label_mem_served {Key : Type*} {label : ℕ → Key}
    (injective : Function.Injective label) (served : List (ℕ × ℕ)) (n : ℕ) :
    label n ∈ served.map (fun request => label request.2) ↔
      n ∈ served.map Prod.snd := by
  simp only [List.mem_map, injective.eq_iff]

namespace Filled

variable {served : List (ℕ × ℕ)}

theorem nil : Filled [] where
  distinct := List.nodup_nil
  reached := by simp
  passed := by simp

theorem concat {Key : Type*} [DecidableEq Key] {label : ℕ → Key}
    (injective : Function.Injective label) (filled : Filled served) (base : ℕ) :
    Filled (served ++
      [(base, firstFree label (served.map fun request => label request.2) base)]) := by
  generalize number_eq :
    firstFree label (served.map fun request => label request.2) base = number
  have fresh : number ∉ served.map Prod.snd := by
    rw [← label_mem_served injective, ← number_eq]
    exact firstFree_free label injective _ base
  have grown : ∀ n, n ∈ served.map Prod.snd →
      n ∈ (served ++ [(base, number)]).map Prod.snd := by
    intro n member
    rw [List.map_append]
    exact List.mem_append_left _ member
  refine ⟨?_, ?_, ?_⟩
  · rw [List.map_append, List.nodup_append']
    refine ⟨filled.distinct, List.nodup_singleton _, ?_⟩
    rw [List.map_singleton, List.disjoint_singleton]
    exact fresh
  · intro request member
    rcases List.mem_append.mp member with old | new
    · exact filled.reached request old
    · rw [List.mem_singleton.mp new, ← number_eq]
      exact le_firstFree label _ base
  · intro request member n after before
    apply grown
    rcases List.mem_append.mp member with old | new
    · exact filled.passed request old n after before
    · rw [List.mem_singleton.mp new] at after before
      rw [← label_mem_served injective]
      exact used_of_lt_firstFree label after (number_eq ▸ before)

/-- A window ending at a number that is still free holds no more bases than
numbers before it: each such base was served below the number. -/
theorem leavesFree_of_notMem (filled : Filled served) {n : ℕ}
    (free : n ∉ served.map Prod.snd) : LeavesFree (served.map Prod.fst) n := by
  intro first below
  let inside := served.filter fun request => first ≤ request.1 ∧ request.1 ≤ n
  have counted : basesWithin (served.map Prod.fst) first n =
      (inside.map Prod.snd).length := basesWithin_served served first n
  have distinct : (inside.map Prod.snd).Nodup :=
    filled.distinct.sublist (List.filter_sublist.map Prod.snd)
  have bounded : (inside.map Prod.snd).toFinset ⊆ Finset.Ico first n := by
    intro number member
    rcases List.mem_map.mp (List.mem_toFinset.mp member) with ⟨request, here, rfl⟩
    have kept := List.mem_filter.mp here
    have within := of_decide_eq_true kept.2
    have reached := filled.reached request kept.1
    refine Finset.mem_Ico.mpr ⟨within.1.trans reached, ?_⟩
    by_contra beyond
    rcases Nat.eq_or_lt_of_le (Nat.le_of_not_lt beyond) with same | passed
    · exact free (same ▸ List.mem_map_of_mem kept.1)
    · exact free (filled.passed request kept.1 n within.2 passed)
  have sizes := Finset.card_le_card bounded
  rw [List.toFinset_card_of_nodup distinct, Nat.card_Ico] at sizes
  rw [counted]
  exact sizes

/-- The longest full window that ends at a taken number was filled by bases of
its own, one for each of its numbers. -/
theorem exists_window_of_mem (filled : Filled served) {n : ℕ}
    (taken : n ∈ served.map Prod.snd) :
    ∃ first ≤ n, n - first < basesWithin (served.map Prod.fst) first n := by
  classical
  let Full : ℕ → Prop := fun first =>
    ∀ m, first ≤ m → m ≤ n → m ∈ served.map Prod.snd
  have full : ∃ first, Full first := by
    refine ⟨n, ?_⟩
    intro m after before
    rw [Nat.le_antisymm before after]
    exact taken
  let first := Nat.find full
  have filledWindow : Full first := Nat.find_spec full
  have below : first ≤ n := by
    apply Nat.find_min' full
    intro m after before
    rw [Nat.le_antisymm before after]
    exact taken
  -- a base before the window would have stopped at the free number before it
  have edge : ∀ base number, (base, number) ∈ served → first ≤ number →
      first ≤ base := by
    intro base number member reached
    by_contra outside
    have smaller : first - 1 < first := by omega
    apply Nat.find_min full smaller
    intro m after before
    rcases Nat.eq_or_lt_of_le after with same | later
    · rw [← same]
      exact filled.passed (base, number) member (first - 1)
        (by change base ≤ first - 1; omega) (by change first - 1 < number; omega)
    · exact filledWindow m (by omega) before
  let inside := served.filter fun request => first ≤ request.1 ∧ request.1 ≤ n
  have counted : basesWithin (served.map Prod.fst) first n =
      (inside.map Prod.snd).length := basesWithin_served served first n
  have covered : Finset.Icc first n ⊆ (inside.map Prod.snd).toFinset := by
    intro m member
    have bounds := Finset.mem_Icc.mp member
    rcases List.mem_map.mp (filledWindow m bounds.1 bounds.2) with
      ⟨⟨base, number⟩, here, rfl⟩
    have reached : base ≤ number := filled.reached (base, number) here
    rw [List.mem_toFinset]
    apply List.mem_map_of_mem
    refine List.mem_filter.mpr ⟨here, decide_eq_true ⟨?_, reached.trans bounds.2⟩⟩
    exact edge base number here bounds.1
  have sizes := Finset.card_le_card covered
  have short := List.toFinset_card_le (inside.map Prod.snd)
  rw [Nat.card_Icc] at sizes
  refine ⟨first, below, ?_⟩
  rw [counted]
  omega

theorem notMem_iff_leavesFree (filled : Filled served) (n : ℕ) :
    n ∉ served.map Prod.snd ↔ LeavesFree (served.map Prod.fst) n := by
  constructor
  · exact filled.leavesFree_of_notMem
  · intro leaves taken
    rcases filled.exists_window_of_mem taken with ⟨first, below, crowded⟩
    have fits := leaves first below
    omega

theorem firstFree_le_iff_roomFor {Key : Type*} [DecidableEq Key] {label : ℕ → Key}
    (injective : Function.Injective label) (filled : Filled served) (base limit : ℕ) :
    firstFree label (served.map fun request => label request.2) base ≤ limit ↔
      RoomFor (served.map Prod.fst) base limit := by
  constructor
  · intro within
    refine ⟨_, le_firstFree label _ base, within, ?_⟩
    rw [← filled.notMem_iff_leavesFree, ← label_mem_served injective]
    exact firstFree_free label injective _ base
  · rintro ⟨n, after, below, leaves⟩
    rw [← filled.notMem_iff_leavesFree, ← label_mem_served injective] at leaves
    refine le_trans ?_ below
    by_contra beyond
    exact leaves (used_of_lt_firstFree label after (by omega))

end Filled

end FirstFreeNumbers
