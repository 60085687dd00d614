import QuickBooks.KeyedTotals
import QuickBooks.PostingRules

/-!
# Totals of legs and lines

Merging keeps, for every selection of keys, the net amount that the legs put
on the selected keys, and turns the legs into one-sided lines numbered from
one.  Everything that later files say about the amounts of an entry is read
off its legs through this.
-/

namespace QuickBooks

open ExceptPrograms KeyedTotals

/-- What an amount is posted to. -/
structure PostingKey where
  account : AccountId
  «class» : Option ClassId
  entity : Option ContactRef
deriving DecidableEq

namespace Leg

def key (leg : Leg) : PostingKey :=
  ⟨leg.account, leg.class, leg.entity⟩

/-- What the leg adds to the balance of its account. -/
def net (leg : Leg) : Int :=
  match leg.side with
  | .debit => leg.amount.minor
  | .credit => -leg.amount.minor

@[simp]
theorem net_withTax (leg : Leg) (isTaxable : Bool) (taxAmount : Option Money)
    (taxRate : Option DecimalNumbers.Decimal) :
    (leg.withTax isTaxable taxAmount taxRate).net = leg.net :=
  rfl

@[simp]
theorem key_withTax (leg : Leg) (isTaxable : Bool) (taxAmount : Option Money)
    (taxRate : Option DecimalNumbers.Decimal) :
    (leg.withTax isTaxable taxAmount taxRate).key = leg.key :=
  rfl

end Leg

namespace JournalLine

def key (line : JournalLine) : PostingKey :=
  ⟨line.account, line.class, line.entity⟩

@[simp]
theorem key_swapped (line : JournalLine) : line.swapped.key = line.key :=
  rfl

end JournalLine

section DebitCredit

variable (account : AccountId) (amount : Money) («class» : Option ClassId)
  (entity : Option ContactRef)

@[simp]
theorem net_debit : (debit account amount «class» entity).net = amount.minor :=
  rfl

@[simp]
theorem net_credit : (credit account amount «class» entity).net = -amount.minor :=
  rfl

@[simp]
theorem key_debit :
    (debit account amount «class» entity).key = ⟨account, «class», entity⟩ :=
  rfl

@[simp]
theorem key_credit :
    (credit account amount «class» entity).key = ⟨account, «class», entity⟩ :=
  rfl

end DebitCredit

section Totals

variable (selects : PostingKey → Prop) [DecidablePred selects]

def legTotal (legs : List Leg) : Int :=
  total (fun leg => selects leg.key) Leg.net legs

def lineTotal (lines : List JournalLine) : Int :=
  total (fun line => selects line.key) JournalLine.net lines

@[simp]
theorem legTotal_nil : legTotal selects [] = 0 :=
  rfl

@[simp]
theorem legTotal_cons (leg : Leg) (legs : List Leg) :
    legTotal selects (leg :: legs) =
      (if selects leg.key then leg.net else 0) + legTotal selects legs :=
  total_cons _ _ _ _

@[simp]
theorem legTotal_append (first second : List Leg) :
    legTotal selects (first ++ second) =
      legTotal selects first + legTotal selects second :=
  total_append _ _ _ _

@[simp]
theorem lineTotal_nil : lineTotal selects [] = 0 :=
  rfl

@[simp]
theorem lineTotal_cons (line : JournalLine) (lines : List JournalLine) :
    lineTotal selects (line :: lines) =
      (if selects line.key then line.net else 0) + lineTotal selects lines :=
  total_cons _ _ _ _

@[simp]
theorem lineTotal_append (first second : List JournalLine) :
    lineTotal selects (first ++ second) =
      lineTotal selects first + lineTotal selects second :=
  total_append _ _ _ _

theorem lineTotal_swapped (lines : List JournalLine) :
    lineTotal selects (lines.map JournalLine.swapped) = -lineTotal selects lines := by
  unfold lineTotal
  rw [total_map, ← total_neg]
  simp only [JournalLine.key_swapped, JournalLine.net_swapped]

end Totals

section Marked

variable (selects : PostingKey → Bool → Prop) [∀ key, DecidablePred (selects key)]

def markedLegTotal (legs : List Leg) : Int :=
  total (fun leg : Leg => selects leg.key leg.isTaxable) Leg.net legs

def markedLineTotal (lines : List JournalLine) : Int :=
  total (fun line : JournalLine => selects line.key line.isTaxable) JournalLine.net lines

@[simp]
theorem markedLegTotal_nil : markedLegTotal selects [] = 0 :=
  rfl

@[simp]
theorem markedLegTotal_cons (leg : Leg) (legs : List Leg) :
    markedLegTotal selects (leg :: legs) =
      (if selects leg.key leg.isTaxable then leg.net else 0) + markedLegTotal selects legs :=
  total_cons _ _ _ _

@[simp]
theorem markedLegTotal_append (first second : List Leg) :
    markedLegTotal selects (first ++ second) =
      markedLegTotal selects first + markedLegTotal selects second :=
  total_append _ _ _ _

@[simp]
theorem markedLineTotal_nil : markedLineTotal selects [] = 0 :=
  rfl

@[simp]
theorem markedLineTotal_cons (line : JournalLine) (lines : List JournalLine) :
    markedLineTotal selects (line :: lines) =
      (if selects line.key line.isTaxable then line.net else 0) +
        markedLineTotal selects lines :=
  total_cons _ _ _ _

theorem markedLineTotal_swapped (lines : List JournalLine) :
    markedLineTotal selects (lines.map JournalLine.swapped) =
      -markedLineTotal selects lines := by
  unfold markedLineTotal
  rw [total_map, ← total_neg]
  simp only [JournalLine.key_swapped, JournalLine.net_swapped]
  rfl

end Marked

theorem normalizeLeg_spec {leg result : Leg} (nonzero : leg.amount.minor ≠ 0)
    (normalizes : normalizeLeg leg = .ok result) :
    result.key = leg.key ∧ result.net = leg.net ∧ 0 < result.amount.minor := by
  unfold normalizeLeg at normalizes
  split_ifs at normalizes with negative
  · rw [Money.isNegative_iff] at negative
    rw [bind_eq_ok_iff] at normalizes
    obtain ⟨amount, negates, resultEq⟩ := normalizes
    rw [liftM_money_eq_ok_iff, Money.checkedNeg_eq_ok_iff] at negates
    rw [pure_eq_ok_iff] at resultEq
    subst resultEq
    refine ⟨rfl, ?_, by simpa [negates] using negative⟩
    unfold Leg.net
    cases leg.side <;> simp only [Side.flip] <;> omega
  · rw [Money.isNegative_iff] at negative
    rw [pure_eq_ok_iff] at normalizes
    subst normalizes
    exact ⟨rfl, rfl, by omega⟩

theorem mergesWith_iff {existing leg : Leg} :
    mergesWith existing leg = true ↔
      existing.key = leg.key ∧ existing.side = leg.side ∧
        existing.isTaxable = leg.isTaxable := by
  simp only [mergesWith, Leg.key, PostingKey.mk.injEq, decide_eq_true_eq]
  tauto

theorem isTaxable_normalizeLeg {leg result : Leg} (normalizes : normalizeLeg leg = .ok result) :
    result.isTaxable = leg.isTaxable := by
  unfold normalizeLeg at normalizes
  split_ifs at normalizes
  · simp only [bind_eq_ok_iff, pure_eq_ok_iff] at normalizes
    obtain ⟨amount, _, rfl⟩ := normalizes
    rfl
  · rw [pure_eq_ok_iff] at normalizes
    rw [normalizes]

theorem markedLegTotal_mergeInto (selects : PostingKey → Bool → Prop)
    [∀ key, DecidablePred (selects key)] {leg : Leg} {merged result : List Leg}
    (merges : mergeInto leg merged = .ok result) :
    markedLegTotal selects result =
      markedLegTotal selects merged + if selects leg.key leg.isTaxable then leg.net else 0 := by
  induction merged generalizing result with
  | nil =>
    simp only [mergeInto, pure_eq_ok_iff] at merges
    subst merges
    simp
  | cons existing rest ih =>
    rw [mergeInto] at merges
    split_ifs at merges with sameKey
    · obtain ⟨keyEq, sideEq, sameMark⟩ := mergesWith_iff.mp sameKey
      simp only [bind_eq_ok_iff, liftM_money_eq_ok_iff,
        Money.checkedAdd_eq_ok_iff, pure_eq_ok_iff] at merges
      obtain ⟨amount, adds, taxAmount, _, rfl⟩ := merges
      have combinedNet : ∀ taxRate,
          ({ existing with amount, taxAmount, taxRate } : Leg).net =
            existing.net + leg.net := by
        intro taxRate
        simp only [Leg.net, sideEq, adds]
        cases leg.side
        · rfl
        · simp only
          omega
      have combinedKey : ∀ taxRate,
          ({ existing with amount, taxAmount, taxRate } : Leg).key = leg.key :=
        fun _ => keyEq
      rw [markedLegTotal_cons, markedLegTotal_cons, combinedNet, combinedKey, keyEq, sameMark]
      split_ifs <;> omega
    · rw [bind_eq_ok_iff] at merges
      obtain ⟨tail, tailMerges, resultEq⟩ := merges
      rw [pure_eq_ok_iff] at resultEq
      subst resultEq
      rw [markedLegTotal_cons, markedLegTotal_cons, ih tailMerges]
      omega

theorem positive_mergeInto {leg : Leg} {merged result : List Leg}
    (legPositive : 0 < leg.amount.minor)
    (positive : ∀ existing ∈ merged, 0 < existing.amount.minor)
    (merges : mergeInto leg merged = .ok result) :
    ∀ kept ∈ result, 0 < kept.amount.minor := by
  induction merged generalizing result with
  | nil =>
    simp only [mergeInto, pure_eq_ok_iff] at merges
    subst merges
    simpa using legPositive
  | cons existing rest ih =>
    have existingPositive := positive existing (by simp)
    have restPositive : ∀ other ∈ rest, 0 < other.amount.minor :=
      fun other otherMem => positive other (by simp [otherMem])
    rw [mergeInto] at merges
    split_ifs at merges
    · simp only [bind_eq_ok_iff, liftM_money_eq_ok_iff,
        Money.checkedAdd_eq_ok_iff, pure_eq_ok_iff] at merges
      obtain ⟨amount, adds, _, _, rfl⟩ := merges
      intro kept keptMem
      rcases List.mem_cons.mp keptMem with rfl | keptMem
      · simp only [adds]
        omega
      · exact restPositive kept keptMem
    · rw [bind_eq_ok_iff] at merges
      obtain ⟨tail, tailMerges, resultEq⟩ := merges
      rw [pure_eq_ok_iff] at resultEq
      subst resultEq
      intro kept keptMem
      rcases List.mem_cons.mp keptMem with rfl | keptMem
      · exact existingPositive
      · exact ih restPositive tailMerges kept keptMem

theorem mergeLeg_spec (selects : PostingKey → Bool → Prop)
    [∀ key, DecidablePred (selects key)]
    {merged result : List Leg} {leg : Leg} (merges : mergeLeg merged leg = .ok result)
    (positive : ∀ existing ∈ merged, 0 < existing.amount.minor) :
    (∀ kept ∈ result, 0 < kept.amount.minor) ∧
      markedLegTotal selects result =
        markedLegTotal selects merged +
          if selects leg.key leg.isTaxable then leg.net else 0 := by
  unfold mergeLeg at merges
  split_ifs at merges with isZero
  · rw [pure_eq_ok_iff] at merges
    subst merges
    rw [Money.isZero_iff] at isZero
    have netZero : leg.net = 0 := by
      unfold Leg.net
      cases leg.side <;> simp [isZero]
    exact ⟨positive, by simp [netZero]⟩
  · rw [Money.isZero_iff] at isZero
    rw [bind_eq_ok_iff] at merges
    obtain ⟨normal, normalizes, merges⟩ := merges
    obtain ⟨keyEq, netEq, normalPositive⟩ := normalizeLeg_spec isZero normalizes
    refine ⟨positive_mergeInto normalPositive positive merges, ?_⟩
    rw [markedLegTotal_mergeInto selects merges, keyEq, netEq,
      isTaxable_normalizeLeg normalizes]

theorem foldlM_mergeLeg_spec (selects : PostingKey → Bool → Prop)
    [∀ key, DecidablePred (selects key)]
    {legs merged : List Leg} (merges : legs.foldlM mergeLeg [] = .ok merged) :
    (∀ kept ∈ merged, 0 < kept.amount.minor) ∧
      markedLegTotal selects merged = markedLegTotal selects legs := by
  apply foldlM_invariant
    (fun consumed merged => (∀ kept ∈ merged, 0 < kept.amount.minor) ∧
      markedLegTotal selects merged = markedLegTotal selects consumed)
    ?_ (by simp) merges
  intro consumed leg before after holds step
  obtain ⟨positive, totalEq⟩ := mergeLeg_spec selects step holds.1
  refine ⟨positive, ?_⟩
  rw [totalEq, holds.2]
  simp

theorem net_journalLineOf (lineNo : Int) (leg : Leg) :
    (journalLineOf lineNo leg).net = leg.net := by
  unfold JournalLine.net journalLineOf Leg.net
  cases leg.side <;> simp

def OneSided (line : JournalLine) : Prop :=
  (0 < line.debit.minor ∧ line.credit.minor = 0) ∨
    (line.debit.minor = 0 ∧ 0 < line.credit.minor)

theorem OneSided.swapped {line : JournalLine} (oneSided : OneSided line) :
    OneSided line.swapped := by
  rcases oneSided with ⟨debited, credited⟩ | ⟨debited, credited⟩
  · exact Or.inr ⟨credited, debited⟩
  · exact Or.inl ⟨credited, debited⟩

theorem oneSided_journalLineOf {leg : Leg} (lineNo : Int)
    (positive : 0 < leg.amount.minor) : OneSided (journalLineOf lineNo leg) := by
  unfold OneSided journalLineOf
  cases leg.side <;> simp [positive]

theorem numberLegs_of_positive {legs : List Leg} (lineNo : Int)
    (positive : ∀ leg ∈ legs, 0 < leg.amount.minor) :
    (∀ line ∈ numberLegs lineNo legs, OneSided line) ∧
      (numberLegs lineNo legs).map JournalLine.lineNo =
        (List.range legs.length).map (fun index : Nat => lineNo + index) := by
  induction legs generalizing lineNo with
  | nil => simp [numberLegs]
  | cons leg legs ih =>
    have legPositive := positive leg (by simp)
    have notZero : ¬ leg.amount.isZero = true := by
      rw [Money.isZero_iff]
      omega
    obtain ⟨sides, numbers⟩ := ih (lineNo + 1)
      fun other otherMem => positive other (by simp [otherMem])
    rw [numberLegs, if_neg notZero]
    constructor
    · intro line lineMem
      rcases List.mem_cons.mp lineMem with rfl | lineMem
      · exact oneSided_journalLineOf lineNo legPositive
      · exact sides line lineMem
    · rw [List.map_cons, numbers, List.length_cons, List.range_succ_eq_map]
      simp [journalLineOf, Function.comp_def]
      intro index _
      omega

theorem markedLineTotal_numberLegs (selects : PostingKey → Bool → Prop)
    [∀ key, DecidablePred (selects key)] (lineNo : Int) (legs : List Leg) :
    markedLineTotal selects (numberLegs lineNo legs) = markedLegTotal selects legs := by
  induction legs generalizing lineNo with
  | nil => rfl
  | cons leg legs ih =>
    rw [numberLegs, markedLegTotal_cons]
    split_ifs with isZero selected selected
    · have netZero : leg.net = 0 := by
        rw [Money.isZero_iff] at isZero
        unfold Leg.net
        cases leg.side <;> simp [isZero]
      rw [ih, netZero, zero_add]
    · rw [ih, zero_add]
    · rw [markedLineTotal_cons, if_pos (by exact selected), net_journalLineOf, ih]
    · rw [markedLineTotal_cons, if_neg (by exact selected), ih]

theorem markedLineTotal_mergeLegs (selects : PostingKey → Bool → Prop)
    [∀ key, DecidablePred (selects key)] {legs : List Leg} {lines : List JournalLine}
    (merges : mergeLegs legs = .ok lines) :
    markedLineTotal selects lines = markedLegTotal selects legs := by
  unfold mergeLegs at merges
  rw [bind_eq_ok_iff] at merges
  obtain ⟨merged, folds, linesEq⟩ := merges
  rw [pure_eq_ok_iff] at linesEq
  subst linesEq
  rw [markedLineTotal_numberLegs, (foldlM_mergeLeg_spec selects folds).2]

theorem lineTotal_mergeLegs (selects : PostingKey → Prop) [DecidablePred selects]
    {legs : List Leg} {lines : List JournalLine} (merges : mergeLegs legs = .ok lines) :
    lineTotal selects lines = legTotal selects legs :=
  markedLineTotal_mergeLegs (fun key _ => selects key) merges

theorem mergeLegs_wellFormed {legs : List Leg} {lines : List JournalLine}
    (merges : mergeLegs legs = .ok lines) :
    (∀ line ∈ lines, OneSided line) ∧
      lines.map JournalLine.lineNo =
        (List.range lines.length).map (fun index : Nat => (1 : Int) + index) := by
  unfold mergeLegs at merges
  rw [bind_eq_ok_iff] at merges
  obtain ⟨merged, folds, linesEq⟩ := merges
  rw [pure_eq_ok_iff] at linesEq
  subst linesEq
  have positive := (foldlM_mergeLeg_spec (fun _ _ => True) folds).1
  obtain ⟨sides, numbers⟩ := numberLegs_of_positive 1 positive
  have sameLength := congrArg List.length numbers
  rw [List.length_map, List.length_map, List.length_range] at sameLength
  rw [sameLength]
  exact ⟨sides, numbers⟩

theorem sum_debit_sub_sum_credit (lines : List JournalLine) :
    (lines.map fun line => line.debit.minor).sum -
        (lines.map fun line => line.credit.minor).sum =
      lineTotal (fun _ => True) lines := by
  induction lines with
  | nil => rfl
  | cons line lines ih =>
    rw [List.map_cons, List.map_cons, List.sum_cons, List.sum_cons,
      lineTotal_cons, if_pos trivial, ← ih]
    unfold JournalLine.net
    omega

end QuickBooks
