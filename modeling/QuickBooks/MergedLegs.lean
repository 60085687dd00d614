import QuickBooks.PostingLegTotals

/-!
# Where merged lines come from

Every merged line has the key and the taxability of a leg, and untaxed legs
whose amounts are positive merge as soon as each side of them adds up to an
amount of money.  The two sides of the lines are then the two sides of the
legs.
-/

namespace QuickBooks

open ExceptPrograms KeyedTotals

section Origins

def PostsWhere (others legs : List Leg) : Prop :=
  ∀ leg ∈ legs, ∃ other ∈ others, other.key = leg.key ∧ other.isTaxable = leg.isTaxable

theorem PostsWhere.cons {others legs : List Leg} {leg : Leg}
    (here : ∃ other ∈ others, other.key = leg.key ∧ other.isTaxable = leg.isTaxable)
    (later : PostsWhere others legs) : PostsWhere others (leg :: legs) := by
  intro kept keptMem
  rcases List.mem_cons.mp keptMem with rfl | keptMem
  · exact here
  · exact later kept keptMem

theorem PostsWhere.mono {others more legs : List Leg} (posts : PostsWhere others legs)
    (included : others ⊆ more) : PostsWhere more legs := by
  intro leg legMem
  obtain ⟨other, otherMem, same⟩ := posts leg legMem
  exact ⟨other, included otherMem, same⟩

theorem mergeInto_postsWhere {others : List Leg} {leg : Leg} {merged result : List Leg}
    (here : ∃ other ∈ others, other.key = leg.key ∧ other.isTaxable = leg.isTaxable)
    (posts : PostsWhere others merged) (merges : mergeInto leg merged = .ok result) :
    PostsWhere others result := by
  induction merged generalizing result with
  | nil =>
    simp only [mergeInto, pure_eq_ok_iff] at merges
    subst merges
    exact posts.cons here
  | cons existing rest ih =>
    have restPosts : PostsWhere others rest :=
      fun other otherMem => posts other (List.mem_cons_of_mem _ otherMem)
    have existingPosts := posts existing List.mem_cons_self
    rw [mergeInto] at merges
    split_ifs at merges
    · simp only [bind_eq_ok_iff, pure_eq_ok_iff] at merges
      obtain ⟨amount, _, taxAmount, _, rfl⟩ := merges
      exact restPosts.cons existingPosts
    · simp only [bind_eq_ok_iff, pure_eq_ok_iff] at merges
      obtain ⟨tail, tailMerges, rfl⟩ := merges
      exact (ih restPosts tailMerges).cons existingPosts

theorem mergeLeg_postsWhere {others : List Leg} {leg : Leg} {merged result : List Leg}
    (legMem : leg ∈ others) (posts : PostsWhere others merged)
    (merges : mergeLeg merged leg = .ok result) : PostsWhere others result := by
  unfold mergeLeg at merges
  split_ifs at merges with isZero
  · rw [pure_eq_ok_iff] at merges
    subst merges
    exact posts
  · rw [bind_eq_ok_iff] at merges
    obtain ⟨normal, normalizes, merges⟩ := merges
    rw [Money.isZero_iff] at isZero
    have sameKey := (normalizeLeg_spec isZero normalizes).1
    exact mergeInto_postsWhere
      ⟨leg, legMem, sameKey.symm, (isTaxable_normalizeLeg normalizes).symm⟩ posts merges

theorem numberLegs_from_legs (lineNo : Int) (legs : List Leg) :
    ∀ line ∈ numberLegs lineNo legs,
      ∃ leg ∈ legs, leg.key = line.key ∧ leg.isTaxable = line.isTaxable := by
  induction legs generalizing lineNo with
  | nil => simp [numberLegs]
  | cons leg legs ih =>
    intro line lineMem
    rw [numberLegs] at lineMem
    split_ifs at lineMem
    · obtain ⟨other, otherMem, same⟩ := ih lineNo line lineMem
      exact ⟨other, List.mem_cons_of_mem _ otherMem, same⟩
    · rcases List.mem_cons.mp lineMem with here | later
      · subst here
        exact ⟨leg, List.mem_cons_self, rfl, rfl⟩
      · obtain ⟨other, otherMem, same⟩ := ih (lineNo + 1) line later
        exact ⟨other, List.mem_cons_of_mem _ otherMem, same⟩

theorem mergeLegs_from_legs {legs : List Leg} {lines : List JournalLine}
    (merges : mergeLegs legs = .ok lines) :
    ∀ line ∈ lines, ∃ leg ∈ legs, leg.key = line.key ∧ leg.isTaxable = line.isTaxable := by
  unfold mergeLegs at merges
  rw [bind_eq_ok_iff] at merges
  obtain ⟨merged, folds, linesEq⟩ := merges
  rw [pure_eq_ok_iff] at linesEq
  subst linesEq
  have posts : PostsWhere legs merged :=
    foldlM_invariant (fun consumed merged => PostsWhere consumed merged)
      (fun consumed leg before after holds step => mergeLeg_postsWhere
        (List.mem_append_right _ (List.mem_singleton_self leg))
        (holds.mono (List.subset_append_left _ _)) step)
      (by simp [PostsWhere]) folds
  intro line lineMem
  obtain ⟨leg, legMem, sameKey, sameTaxable⟩ := numberLegs_from_legs 1 merged line lineMem
  obtain ⟨other, otherMem, otherKey, otherTaxable⟩ := posts leg legMem
  exact ⟨other, otherMem, otherKey.trans sameKey, otherTaxable.trans sameTaxable⟩

end Origins

section Success

def sideTotal (side : Side) (legs : List Leg) : Int :=
  total (fun leg : Leg => leg.side = side) (fun leg => leg.amount.minor) legs

@[simp]
theorem sideTotal_nil (side : Side) : sideTotal side [] = 0 :=
  rfl

@[simp]
theorem sideTotal_cons (side : Side) (leg : Leg) (legs : List Leg) :
    sideTotal side (leg :: legs) =
      (if leg.side = side then leg.amount.minor else 0) + sideTotal side legs :=
  total_cons _ _ _ _

def PlainLeg (leg : Leg) : Prop :=
  0 < leg.amount.minor ∧ leg.taxAmount = none

theorem sideTotal_nonneg {legs : List Leg} (plain : ∀ leg ∈ legs, PlainLeg leg)
    (side : Side) : 0 ≤ sideTotal side legs :=
  total_nonneg _ _ fun leg legMem => (plain leg legMem).1.le

theorem exists_mergeInto {leg : Leg} {merged : List Leg} (legPlain : PlainLeg leg)
    (plain : ∀ existing ∈ merged, PlainLeg existing)
    (fits : sideTotal leg.side merged + leg.amount.minor ≤ 9223372036854775807) :
    ∃ result, mergeInto leg merged = .ok result ∧ (∀ kept ∈ result, PlainLeg kept) ∧
      ∀ side, sideTotal side result =
        sideTotal side merged + if leg.side = side then leg.amount.minor else 0 := by
  induction merged with
  | nil =>
    refine ⟨[leg], rfl, by simpa using legPlain, fun side => ?_⟩
    simp
  | cons existing rest ih =>
    have existingPlain := plain existing List.mem_cons_self
    have restPlain : ∀ other ∈ rest, PlainLeg other :=
      fun other otherMem => plain other (List.mem_cons_of_mem _ otherMem)
    have restNonneg := sideTotal_nonneg restPlain leg.side
    have existingPositive := existingPlain.1
    have legPositive := legPlain.1
    rw [sideTotal_cons] at fits
    by_cases merges : mergesWith existing leg = true
    · obtain ⟨-, sameSide, -⟩ := mergesWith_iff.mp merges
      rw [if_pos sameSide] at fits
      obtain ⟨amount, adds⟩ : ∃ amount, existing.amount.checkedAdd leg.amount = .ok amount :=
        Money.exists_checkedAdd_iff.mpr ⟨by omega, by omega⟩
      have amountEq := Money.checkedAdd_eq_ok_iff.mp adds
      let combined : Leg :=
        { existing with
          amount
          taxAmount := none
          taxRate := existing.taxRate <|> leg.taxRate }
      refine ⟨combined :: rest, ?_, ?_, fun side => ?_⟩
      · rw [mergeInto, if_pos merges, adds, existingPlain.2, legPlain.2]
        rfl
      · intro kept keptMem
        rcases List.mem_cons.mp keptMem with rfl | keptMem
        · exact ⟨by simp only [combined, amountEq]; omega, rfl⟩
        · exact restPlain kept keptMem
      · rw [sideTotal_cons, sideTotal_cons, sameSide]
        simp only [combined, amountEq]
        split_ifs <;> omega
    · have restFits : sideTotal leg.side rest + leg.amount.minor ≤ 9223372036854775807 := by
        split_ifs at fits <;> omega
      obtain ⟨tail, tailMerges, tailPlain, tailTotal⟩ := ih restPlain restFits
      refine ⟨existing :: tail, ?_, ?_, fun side => ?_⟩
      · rw [mergeInto, if_neg merges, tailMerges]
        rfl
      · intro kept keptMem
        rcases List.mem_cons.mp keptMem with rfl | keptMem
        · exact existingPlain
        · exact tailPlain kept keptMem
      · rw [sideTotal_cons, sideTotal_cons, tailTotal]
        omega

theorem exists_mergeLeg {leg : Leg} {merged : List Leg} (legPlain : PlainLeg leg)
    (plain : ∀ existing ∈ merged, PlainLeg existing)
    (fits : sideTotal leg.side merged + leg.amount.minor ≤ 9223372036854775807) :
    ∃ result, mergeLeg merged leg = .ok result ∧ (∀ kept ∈ result, PlainLeg kept) ∧
      ∀ side, sideTotal side result =
        sideTotal side merged + if leg.side = side then leg.amount.minor else 0 := by
  have positive := legPlain.1
  have notZero : ¬leg.amount.isZero = true := by
    rw [Money.isZero_iff]
    omega
  have notNegative : ¬leg.amount.isNegative = true := by
    rw [Money.isNegative_iff]
    omega
  have runs : mergeLeg merged leg = mergeInto leg merged := by
    unfold mergeLeg normalizeLeg
    rw [if_neg notZero, if_neg notNegative]
    rfl
  rw [runs]
  exact exists_mergeInto legPlain plain fits

theorem exists_foldlM_mergeLeg {legs : List Leg} (merged : List Leg)
    (legsPlain : ∀ leg ∈ legs, PlainLeg leg) (plain : ∀ existing ∈ merged, PlainLeg existing)
    (fits : ∀ side, sideTotal side merged + sideTotal side legs ≤ 9223372036854775807) :
    ∃ result, legs.foldlM mergeLeg merged = .ok result ∧ (∀ kept ∈ result, PlainLeg kept) ∧
      ∀ side, sideTotal side result = sideTotal side merged + sideTotal side legs := by
  induction legs generalizing merged with
  | nil => exact ⟨merged, rfl, plain, fun side => by simp⟩
  | cons leg legs ih =>
    have legPlain := legsPlain leg List.mem_cons_self
    have restPlain : ∀ other ∈ legs, PlainLeg other :=
      fun other otherMem => legsPlain other (List.mem_cons_of_mem _ otherMem)
    have here : sideTotal leg.side merged + leg.amount.minor ≤ 9223372036854775807 := by
      have bound := fits leg.side
      have restNonneg := sideTotal_nonneg restPlain leg.side
      rw [sideTotal_cons, if_pos rfl] at bound
      omega
    obtain ⟨next, step, nextPlain, nextTotal⟩ := exists_mergeLeg legPlain plain here
    have rest : ∀ side, sideTotal side next + sideTotal side legs ≤ 9223372036854775807 := by
      intro side
      have bound := fits side
      rw [sideTotal_cons] at bound
      rw [nextTotal]
      omega
    obtain ⟨result, folds, resultPlain, resultTotal⟩ := ih next restPlain nextPlain rest
    refine ⟨result, ?_, resultPlain, fun side => ?_⟩
    · rw [List.foldlM_cons, step]
      exact folds
    · rw [resultTotal, nextTotal, sideTotal_cons]
      omega

theorem sums_numberLegs {legs : List Leg} (plain : ∀ leg ∈ legs, PlainLeg leg) (lineNo : Int) :
    ((numberLegs lineNo legs).map fun line => line.debit.minor).sum = sideTotal .debit legs ∧
      ((numberLegs lineNo legs).map fun line => line.credit.minor).sum =
        sideTotal .credit legs := by
  induction legs generalizing lineNo with
  | nil => exact ⟨rfl, rfl⟩
  | cons leg legs ih =>
    have positive := (plain leg List.mem_cons_self).1
    have notZero : ¬leg.amount.isZero = true := by
      rw [Money.isZero_iff]
      omega
    obtain ⟨debits, credits⟩ := ih
      (fun other otherMem => plain other (List.mem_cons_of_mem _ otherMem)) (lineNo + 1)
    rw [numberLegs, if_neg notZero, List.map_cons, List.map_cons, List.sum_cons,
      List.sum_cons, debits, credits, sideTotal_cons, sideTotal_cons]
    unfold journalLineOf
    cases leg.side <;> simp

theorem exists_mergeLegs {legs : List Leg} (plain : ∀ leg ∈ legs, PlainLeg leg)
    (fits : ∀ side, sideTotal side legs ≤ 9223372036854775807) :
    ∃ lines, mergeLegs legs = .ok lines ∧
      (lines.map fun line => line.debit.minor).sum = sideTotal .debit legs ∧
      (lines.map fun line => line.credit.minor).sum = sideTotal .credit legs := by
  obtain ⟨merged, folds, mergedPlain, totals⟩ :=
    exists_foldlM_mergeLeg [] plain (by simp) (by simpa using fits)
  have sums := sums_numberLegs mergedPlain 1
  simp only [sideTotal_nil, zero_add] at totals
  rw [totals, totals] at sums
  refine ⟨numberLegs 1 merged, ?_, sums⟩
  unfold mergeLegs
  rw [folds]
  rfl

end Success

end QuickBooks
