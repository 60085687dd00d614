import QuickBooks.JournalLegs
import QuickBooks.KeyedMerges

/-!
# What merged lines keep of their legs

Legs merge by account, class, entity, side and taxability, where a negative amount counts on
the other side and a zero one not at all.  Each line has the sums and the first rate of its
legs, so the lines are the same in whatever order the legs come, but for their numbers and
rates.
-/

namespace QuickBooks

open ExceptPrograms KeyedMerges

/-- What the legs of one line share. -/
structure MergeKey where
  posted : PostingKey
  side : Side
  isTaxable : Bool
deriving DecidableEq

def Leg.mergeKey (leg : Leg) : MergeKey :=
  ⟨leg.key, leg.side, leg.isTaxable⟩

def Leg.postedMergeKey (leg : Leg) : MergeKey :=
  ⟨leg.key, leg.postedSide, leg.isTaxable⟩

namespace JournalLine

def side (line : JournalLine) : Side :=
  if line.credit.isZero then .debit else .credit

def mergeKey (line : JournalLine) : MergeKey :=
  ⟨line.key, line.side, line.isTaxable⟩

def amount (line : JournalLine) : ℤ :=
  line.debit.minor + line.credit.minor

def unordered (line : JournalLine) : JournalLine :=
  { line with lineNo := 0, taxRate := none }

end JournalLine

def legsOf (key : MergeKey) (legs : List Leg) : List Leg :=
  ofLabel Leg.postedMergeKey key (legs.filter fun leg => leg.amount.minor ≠ 0)

def taxTotal (legs : List Leg) : Option ℤ :=
  if legs.filterMap Leg.taxAmount = [] then none
  else some ((legs.filterMap Leg.taxAmount).map Money.minor).sum

def absTotal (legs : List Leg) : ℤ :=
  (legs.map fun leg => (leg.amount.minor.natAbs : ℤ)).sum

def firstRate (legs : List Leg) : Option DecimalNumbers.Decimal :=
  legs.findSome? Leg.taxRate

/-- The lines are those of the legs: one for each key of a leg that is not zero, with the
sums and the first rate of the legs of that key. -/
structure LinesOf (legs : List Leg) (lines : List JournalLine) : Prop where
  oneSided : ∀ line ∈ lines, OneSided line ∧ line.memo = none
  distinct : (lines.map JournalLine.mergeKey).Nodup
  kept : ∀ key, key ∈ lines.map JournalLine.mergeKey ↔ legsOf key legs ≠ []
  amount : ∀ line ∈ lines, line.amount = absTotal (legsOf line.mergeKey legs)
  taxAmount : ∀ line ∈ lines,
    line.taxAmount.map Money.minor = taxTotal (legsOf line.mergeKey legs)
  taxRate : ∀ line ∈ lines, line.taxRate = firstRate (legsOf line.mergeKey legs)
  net : ∀ key isTaxable, markedLineTotal (fun other mark => other = key ∧ mark = isTaxable) lines =
    markedLegTotal (fun other mark => other = key ∧ mark = isTaxable) legs

/-! ### Merging is by key -/

def combineLegs (existing leg : Leg) : Except PostError Leg := do
  let amount ← existing.amount.checkedAdd leg.amount
  let taxAmount ← combineTax existing.taxAmount leg.taxAmount
  let taxRate := existing.taxRate <|> leg.taxRate
  return { existing with amount, taxAmount, taxRate }

def addLeg (entry : Option Leg) (leg : Leg) : Except PostError Leg := do
  let normal ← normalizeLeg leg
  match entry with
  | none => return normal
  | some existing => combineLegs existing normal

section Merging

variable {leg normal : Leg} {legs merged : List Leg}

theorem normalizeLeg_keys (normalizes : normalizeLeg leg = .ok normal) :
    normal.mergeKey = leg.postedMergeKey ∧ normal.taxRate = leg.taxRate := by
  unfold normalizeLeg at normalizes
  unfold Leg.postedMergeKey Leg.postedSide
  split_ifs at normalizes with negative
  · rw [Money.isNegative_iff] at negative
    simp only [bind_eq_ok_iff, pure_eq_ok_iff] at normalizes
    obtain ⟨amount, -, rfl⟩ := normalizes
    rw [if_pos negative]
    exact ⟨rfl, rfl⟩
  · rw [Money.isNegative_iff] at negative
    rw [pure_eq_ok_iff] at normalizes
    subst normalizes
    rw [if_neg negative]
    exact ⟨rfl, rfl⟩

theorem mergesWith_iff_mergeKey {existing : Leg} :
    mergesWith existing leg = true ↔ existing.mergeKey = leg.mergeKey := by
  simp [mergesWith_iff, Leg.mergeKey]

theorem mergeInto_eq (normalizes : normalizeLeg leg = .ok normal) :
    mergeInto normal merged = mergeAt Leg.mergeKey Leg.postedMergeKey addLeg leg merged := by
  obtain ⟨keyEq, -⟩ := normalizeLeg_keys normalizes
  induction merged with
  | nil =>
    rw [mergeInto, mergeAt, addLeg, normalizes]
    rfl
  | cons existing rest ih =>
    rw [mergeInto, mergeAt, ih]
    by_cases merges : mergesWith existing normal = true
    · have here := mergesWith_iff_mergeKey.mp merges
      rw [if_pos merges, if_pos (here.trans keyEq)]
      have added : addLeg (some existing) leg = combineLegs existing normal := by
        rw [addLeg, normalizes]
        rfl
      rw [added, combineLegs]
      simp only [bind_assoc, pure_bind]
    · have other : existing.mergeKey ≠ leg.postedMergeKey := by
        intro same
        exact merges (mergesWith_iff_mergeKey.mpr (same.trans keyEq.symm))
      rw [if_neg merges, if_neg other]

theorem mergeAt_of_error {failure : PostError} (fails : normalizeLeg leg = .error failure) :
    mergeAt Leg.mergeKey Leg.postedMergeKey addLeg leg merged = .error failure := by
  induction merged with
  | nil =>
    rw [mergeAt, addLeg, fails]
    rfl
  | cons existing rest ih =>
    rw [mergeAt, ih, addLeg, fails]
    split_ifs <;> rfl

theorem mergeLeg_eq (nonzero : leg.amount.minor ≠ 0) :
    mergeLeg merged leg = mergeAt Leg.mergeKey Leg.postedMergeKey addLeg leg merged := by
  rw [mergeLeg, if_neg (by rwa [Money.isZero_iff])]
  cases normalizes : normalizeLeg leg with
  | error failure =>
    rw [mergeAt_of_error normalizes]
    rfl
  | ok normal => exact mergeInto_eq normalizes

theorem foldlM_mergeLeg_eq : legs.foldlM mergeLeg merged =
    (legs.filter fun leg => leg.amount.minor ≠ 0).foldlM
      (fun merged leg => mergeAt Leg.mergeKey Leg.postedMergeKey addLeg leg merged) merged := by
  induction legs generalizing merged with
  | nil => rfl
  | cons leg legs ih =>
    rw [List.foldlM_cons, List.filter_cons]
    by_cases isZero : leg.amount.minor = 0
    · have skipped : mergeLeg merged leg = .ok merged := by
        rw [mergeLeg, if_pos (Money.isZero_iff.mpr isZero)]
        rfl
      rw [skipped, if_neg (by simpa using isZero)]
      exact ih
    · rw [if_pos (by simpa using isZero), List.foldlM_cons, mergeLeg_eq isZero]
      exact congrArg _ (funext fun next => ih)

theorem keeps_addLeg : Keeps Leg.mergeKey Leg.postedMergeKey addLeg := by
  intro entry leg result adds sameKey
  rw [addLeg, bind_eq_ok_iff] at adds
  obtain ⟨normal, normalizes, adds⟩ := adds
  cases entry with
  | none =>
    rw [pure_eq_ok_iff] at adds
    rw [← adds]
    exact (normalizeLeg_keys normalizes).1
  | some existing =>
    simp only [combineLegs, bind_eq_ok_iff, pure_eq_ok_iff] at adds
    obtain ⟨amount, -, taxAmount, -, rfl⟩ := adds
    exact sameKey existing rfl

end Merging

/-! ### What the legs of a key come to -/

section Sums

variable {leg : Leg} {legs others : List Leg}

/-- An entry with the sums and the first rate of its legs; none where there are none. -/
def SumsUp (legs : List Leg) : Option Leg → Prop
  | none => legs = []
  | some entry =>
    legs ≠ [] ∧ entry.amount.minor = absTotal legs ∧
      entry.taxAmount.map Money.minor = taxTotal legs ∧ entry.taxRate = firstRate legs

@[simp]
theorem absTotal_append_singleton : absTotal (legs ++ [leg]) =
    absTotal legs + leg.amount.minor.natAbs := by
  simp [absTotal]

/-- A sum of tax shares and one more. -/
def addShare : Option ℤ → Option Money → Option ℤ
  | some sum, some tax => some (sum + tax.minor)
  | some sum, none => some sum
  | none, tax => tax.map Money.minor

theorem taxTotal_append_singleton :
    taxTotal (legs ++ [leg]) = addShare (taxTotal legs) leg.taxAmount := by
  have shares : (legs ++ [leg]).filterMap Leg.taxAmount =
      legs.filterMap Leg.taxAmount ++ leg.taxAmount.toList := by
    cases share : leg.taxAmount <;> simp [share]
  unfold taxTotal
  rw [shares]
  cases leg.taxAmount <;> cases legs.filterMap Leg.taxAmount <;>
    simp [addShare, add_assoc]

theorem firstRate_append_singleton :
    firstRate (legs ++ [leg]) = (firstRate legs <|> leg.taxRate) := by
  have alone : [leg].findSome? Leg.taxRate = leg.taxRate := by
    cases rate : leg.taxRate <;> simp [rate]
  unfold firstRate
  rw [List.findSome?_append, alone]
  cases legs.findSome? Leg.taxRate <;> rfl

theorem combineTax_map {first second result : Option Money}
    (combines : combineTax first second = .ok result) :
    result.map Money.minor = addShare (first.map Money.minor) second := by
  cases first with
  | none =>
    simp only [combineTax, pure_eq_ok_iff] at combines
    simp [combines, addShare]
  | some first =>
    cases second with
    | none =>
      simp only [combineTax, pure_eq_ok_iff] at combines
      simp [← combines, addShare]
    | some second =>
      simp only [combineTax, bind_eq_ok_iff, liftM_money_eq_ok_iff,
        Money.checkedAdd_eq_ok_iff, pure_eq_ok_iff] at combines
      obtain ⟨sum, adds, rfl⟩ := combines
      simp [adds, addShare]

theorem SumsUp.addLeg {entry : Option Leg} {result : Leg} (sums : SumsUp legs entry)
    (adds : addLeg entry leg = .ok result) : SumsUp (legs ++ [leg]) (some result) := by
  rw [QuickBooks.addLeg, bind_eq_ok_iff] at adds
  obtain ⟨normal, normalizes, adds⟩ := adds
  obtain ⟨amountEq, -, taxEq⟩ := normalizeLeg_posted normalizes
  obtain ⟨-, rateEq⟩ := normalizeLeg_keys normalizes
  cases entry with
  | none =>
    rw [pure_eq_ok_iff] at adds
    subst adds
    rw [show legs = [] from sums]
    refine ⟨by simp, ?_, ?_, ?_⟩
    · rw [absTotal_append_singleton, amountEq]
      simp [absTotal]
    · rw [taxTotal_append_singleton, taxEq]
      rfl
    · rw [firstRate_append_singleton, rateEq]
      rfl
  | some existing =>
    obtain ⟨-, amount, taxAmount, taxRate⟩ := sums
    simp only [combineLegs, bind_eq_ok_iff, liftM_money_eq_ok_iff, Money.checkedAdd_eq_ok_iff,
      pure_eq_ok_iff] at adds
    obtain ⟨total, adds, tax, combines, rfl⟩ := adds
    refine ⟨by simp, ?_, ?_, ?_⟩
    · rw [absTotal_append_singleton, ← amount, ← amountEq]
      exact adds
    · rw [taxTotal_append_singleton, ← taxAmount, ← taxEq]
      exact combineTax_map combines
    · rw [firstRate_append_singleton, ← taxRate, ← rateEq]

theorem sumsUp_of_gather {entry : Option Leg} (gathers : gather addLeg legs = .ok entry) :
    SumsUp legs entry := by
  have start : SumsUp [] none := rfl
  refine foldlM_invariant (fun consumed entry => SumsUp consumed entry) ?_ start gathers
  intro consumed leg before after sums adds
  rw [map_eq_ok_iff] at adds
  obtain ⟨result, adds, rfl⟩ := adds
  exact sums.addLeg adds

end Sums

/-! ### The lines of the merged legs -/

section Lines

variable {legs merged others : List Leg} {lines otherLines : List JournalLine}

theorem mergeKey_journalLineOf {leg : Leg} (lineNo : Int) (positive : 0 < leg.amount.minor) :
    (journalLineOf lineNo leg).mergeKey = leg.mergeKey ∧
      (journalLineOf lineNo leg).amount = leg.amount.minor := by
  unfold JournalLine.mergeKey JournalLine.side JournalLine.amount Leg.mergeKey journalLineOf
  have notZero : ¬leg.amount.isZero = true := by
    rw [Money.isZero_iff]
    omega
  cases leg.side <;> simp [notZero, JournalLine.key, Leg.key]

theorem numberLegs_eq (lineNo : Int) (positive : ∀ leg ∈ legs, 0 < leg.amount.minor) :
    List.Forall₂ (fun leg line => ∃ number, line = journalLineOf number leg) legs
      (numberLegs lineNo legs) := by
  induction legs generalizing lineNo with
  | nil => exact .nil
  | cons leg legs ih =>
    have notZero : ¬leg.amount.isZero = true := by
      rw [Money.isZero_iff]
      exact (positive leg (.head _)).ne'
    rw [numberLegs, if_neg notZero]
    exact .cons ⟨lineNo, rfl⟩ (ih (lineNo + 1) fun other otherMem =>
      positive other (.tail _ otherMem))

theorem map_mergeKey_numberLegs (lineNo : Int) (positive : ∀ leg ∈ legs, 0 < leg.amount.minor) :
    (numberLegs lineNo legs).map JournalLine.mergeKey = legs.map Leg.mergeKey := by
  induction legs generalizing lineNo with
  | nil => rfl
  | cons leg legs ih =>
    have legPositive := positive leg (.head _)
    have notZero : ¬leg.amount.isZero = true := by
      rw [Money.isZero_iff]
      exact legPositive.ne'
    rw [numberLegs, if_neg notZero, List.map_cons, List.map_cons,
      (mergeKey_journalLineOf lineNo legPositive).1,
      ih (lineNo + 1) fun other otherMem => positive other (.tail _ otherMem)]

theorem linesOf_of_mergeLegs (merges : mergeLegs legs = .ok lines) : LinesOf legs lines := by
  have nets := fun key isTaxable =>
    markedLineTotal_mergeLegs (fun other mark => other = key ∧ mark = isTaxable) merges
  have sides := (mergeLegs_wellFormed merges).1
  unfold mergeLegs at merges
  rw [bind_eq_ok_iff] at merges
  obtain ⟨merged, folds, linesEq⟩ := merges
  rw [pure_eq_ok_iff] at linesEq
  subst linesEq
  have positive := (foldlM_mergeLeg_spec (fun _ _ => True) folds).1
  rw [foldlM_mergeLeg_eq] at folds
  have gathered := gathered_of_foldlM keeps_addLeg folds
  have ofLine : ∀ line ∈ numberLegs 1 merged, ∃ leg ∈ merged, ∃ number,
      line = journalLineOf number leg := by
    intro line lineMem
    obtain ⟨index, inRange, rfl⟩ := List.getElem_of_mem lineMem
    have numbered := numberLegs_eq 1 positive
    have sameLength := numbered.length_eq
    have inMerged : index < merged.length := by omega
    refine ⟨merged[index], List.getElem_mem _, ?_⟩
    exact List.Forall₂.get numbered (by omega) inRange
  have sums : ∀ leg ∈ merged, SumsUp (legsOf leg.mergeKey legs) (some leg) := by
    intro leg legMem
    have entry := gathered.entries leg.mergeKey
    rw [entryAt_of_mem gathered.nodup legMem] at entry
    exact sumsUp_of_gather entry
  refine ⟨?_, ?_, ?_, ?_, ?_, ?_, nets⟩
  · intro line lineMem
    obtain ⟨leg, -, number, rfl⟩ := ofLine line lineMem
    exact ⟨sides _ lineMem, rfl⟩
  · rw [map_mergeKey_numberLegs 1 positive]
    exact gathered.nodup
  · intro key
    rw [map_mergeKey_numberLegs 1 positive]
    have entry := sumsUp_of_gather (gathered.entries key)
    cases found : entryAt Leg.mergeKey merged key with
    | none =>
      rw [found] at entry
      exact iff_of_false (entryAt_eq_none_iff.mp found) (not_not_intro entry)
    | some leg =>
      rw [found] at entry
      refine iff_of_true ?_ entry.1
      by_contra missing
      rw [entryAt_eq_none_iff.mpr missing] at found
      exact absurd found (by simp)
  · intro line lineMem
    obtain ⟨leg, legMem, number, rfl⟩ := ofLine line lineMem
    obtain ⟨sameKey, amount⟩ := mergeKey_journalLineOf number (positive leg legMem)
    rw [sameKey, amount]
    exact (sums leg legMem).2.1
  · intro line lineMem
    obtain ⟨leg, legMem, number, rfl⟩ := ofLine line lineMem
    rw [(mergeKey_journalLineOf number (positive leg legMem)).1]
    exact (sums leg legMem).2.2.1
  · intro line lineMem
    obtain ⟨leg, legMem, number, rfl⟩ := ofLine line lineMem
    rw [(mergeKey_journalLineOf number (positive leg legMem)).1]
    exact (sums leg legMem).2.2.2

theorem perm_legsOf (perm : others.Perm legs) (key : MergeKey) :
    (legsOf key others).Perm (legsOf key legs) :=
  (perm.filter _).filter _

theorem absTotal_perm (perm : others.Perm legs) : absTotal others = absTotal legs :=
  (perm.map _).sum_eq

theorem taxTotal_perm (perm : others.Perm legs) : taxTotal others = taxTotal legs := by
  have shares := perm.filterMap Leg.taxAmount
  have noShare : others.filterMap Leg.taxAmount = [] ↔ legs.filterMap Leg.taxAmount = [] := by
    rw [← List.length_eq_zero_iff, ← List.length_eq_zero_iff, shares.length_eq]
  have sums : ((others.filterMap Leg.taxAmount).map Money.minor).sum =
      ((legs.filterMap Leg.taxAmount).map Money.minor).sum :=
    (shares.map _).sum_eq
  unfold taxTotal
  rw [if_congr noShare rfl (congrArg some sums)]

theorem unordered_eq {first second : JournalLine} (firstSided : OneSided first)
    (secondSided : OneSided second) (sameMemo : first.memo = second.memo)
    (sameKey : first.mergeKey = second.mergeKey) (sameAmount : first.amount = second.amount)
    (sameTax : first.taxAmount.map Money.minor = second.taxAmount.map Money.minor) :
    first.unordered = second.unordered := by
  have minor_injective : Function.Injective Money.minor := fun _ _ => Money.ext
  have taxEq := Option.map_injective minor_injective sameTax
  obtain ⟨firstNo, firstAccount, firstClass, firstDebit, firstCredit⟩ := first
  obtain ⟨secondNo, secondAccount, secondClass, secondDebit, secondCredit⟩ := second
  simp only [JournalLine.mergeKey, JournalLine.key, JournalLine.side, JournalLine.amount,
    MergeKey.mk.injEq, PostingKey.mk.injEq, OneSided] at *
  obtain ⟨⟨rfl, rfl, rfl⟩, sameSide, rfl⟩ := sameKey
  subst sameMemo taxEq
  have sides : firstDebit = secondDebit ∧ firstCredit = secondCredit := by
    simp only [Money.ext_iff_minor]
    have firstZero : firstCredit.isZero = true ↔ firstCredit.minor = 0 := Money.isZero_iff
    have secondZero : secondCredit.isZero = true ↔ secondCredit.minor = 0 := Money.isZero_iff
    split_ifs at sameSide <;> simp_all
  rw [JournalLine.unordered, JournalLine.unordered, sides.1, sides.2]

theorem LinesOf.perm_unordered (first : LinesOf others otherLines) (second : LinesOf legs lines)
    (perm : others.Perm legs) :
    (otherLines.map JournalLine.unordered).Perm (lines.map JournalLine.unordered) := by
  have nodup_unordered {legs : List Leg} {lines : List JournalLine} (linesOf : LinesOf legs lines) :
      (lines.map JournalLine.unordered).Nodup := by
    refine List.Nodup.of_map JournalLine.mergeKey ?_
    rw [List.map_map]
    exact linesOf.distinct
  have mem_of {legs others : List Leg} {lines otherLines : List JournalLine}
      (first : LinesOf others otherLines) (second : LinesOf legs lines)
      (perm : others.Perm legs) : ∀ line ∈ otherLines.map JournalLine.unordered,
        line ∈ lines.map JournalLine.unordered := by
    intro line lineMem
    obtain ⟨other, otherMem, rfl⟩ := List.mem_map.mp lineMem
    have otherKept := (first.kept other.mergeKey).mp (List.mem_map_of_mem otherMem)
    have sameLegs := perm_legsOf perm other.mergeKey
    have someLeg : legsOf other.mergeKey legs ≠ [] := by
      intro none
      rw [none] at sameLegs
      exact otherKept sameLegs.eq_nil
    obtain ⟨line, lineMem, sameKey⟩ := List.mem_map.mp ((second.kept other.mergeKey).mpr someLeg)
    refine List.mem_map.mpr ⟨line, lineMem, ?_⟩
    obtain ⟨sided, memo⟩ := second.oneSided line lineMem
    obtain ⟨otherSided, otherMemo⟩ := first.oneSided other otherMem
    refine unordered_eq sided otherSided (memo.trans otherMemo.symm) sameKey ?_ ?_
    · rw [second.amount line lineMem, first.amount other otherMem, sameKey,
        absTotal_perm sameLegs]
    · rw [second.taxAmount line lineMem, first.taxAmount other otherMem, sameKey,
        taxTotal_perm sameLegs]
  rw [List.perm_ext_iff_of_nodup (nodup_unordered first) (nodup_unordered second)]
  exact fun line => ⟨mem_of first second perm line, mem_of second first perm.symm line⟩

end Lines

/-! ### When legs merge in any order -/

section Orders

variable {leg : Leg} {legs others : List Leg} {lines : List JournalLine}

def taxSum (legs : List Leg) : ℤ :=
  ((legs.filterMap Leg.taxAmount).map Money.minor).sum

def SharesNonneg (legs : List Leg) : Prop :=
  ∀ leg ∈ legs, ∀ tax ∈ leg.taxAmount, 0 ≤ tax.minor

theorem taxSum_append (first second : List Leg) :
    taxSum (first ++ second) = taxSum first + taxSum second := by
  simp [taxSum]

theorem taxSum_nonneg (nonneg : SharesNonneg legs) : 0 ≤ taxSum legs := by
  refine List.sum_nonneg fun share shareMem => ?_
  obtain ⟨tax, taxMem, rfl⟩ := List.mem_map.mp shareMem
  obtain ⟨leg, legMem, isShare⟩ := List.mem_filterMap.mp taxMem
  exact nonneg leg legMem tax isShare

theorem absTotal_append (first second : List Leg) :
    absTotal (first ++ second) = absTotal first + absTotal second := by
  simp [absTotal]

theorem absTotal_nonneg (legs : List Leg) : 0 ≤ absTotal legs := by
  refine List.sum_nonneg fun amount amountMem => ?_
  obtain ⟨leg, -, rfl⟩ := List.mem_map.mp amountMem
  exact Int.natCast_nonneg _

theorem getD_taxTotal (legs : List Leg) : (taxTotal legs).getD 0 = taxSum legs := by
  unfold taxTotal taxSum
  split_ifs with noShare
  · simp [noShare]
  · rfl

theorem exists_combineTax {first second : Option Money}
    (fits : ∀ one ∈ first, ∀ two ∈ second, Money.Fits (one.minor + two.minor)) :
    ∃ result, combineTax first second = .ok result := by
  cases first with
  | none => exact ⟨second, rfl⟩
  | some first =>
    cases second with
    | none => exact ⟨some first, rfl⟩
    | some second =>
      obtain ⟨sum, adds⟩ := Money.exists_checkedAdd_iff.mpr (fits first rfl second rfl)
      refine ⟨some sum, ?_⟩
      simp only [combineTax, bind_eq_ok_iff, liftM_money_eq_ok_iff, pure_eq_ok_iff]
      exact ⟨sum, adds, rfl⟩

theorem exists_normalizeLeg (fits : leg.amount.minor.natAbs ≤ 9223372036854775807) :
    ∃ normal, normalizeLeg leg = .ok normal := by
  have fitsAll : ∀ other ∈ [leg], other.amount.minor.natAbs ≤ 9223372036854775807 := by
    simpa using fits
  obtain ⟨normals, normalizes⟩ := exists_normals fitsAll
  cases normalizes with
  | cons here _ => exact ⟨_, here⟩

theorem exists_gather (amountFits : absTotal legs ≤ 9223372036854775807)
    (nonneg : SharesNonneg legs) (taxFits : taxSum legs ≤ 9223372036854775807) :
    ∃ entry, gather addLeg legs = .ok entry := by
  have start : SumsUp [] none := rfl
  have advances : ∀ consumed leg rest before, legs = consumed ++ leg :: rest →
      SumsUp consumed before → ∃ after, (some <$> addLeg before leg) = .ok after ∧
        SumsUp (consumed ++ [leg]) after := by
    intro consumed leg rest before split sums
    have pieces : legs = consumed ++ [leg] ++ rest := by simp [split]
    have consumedNonneg := absTotal_nonneg consumed
    have restNonneg := absTotal_nonneg rest
    rw [pieces, absTotal_append, absTotal_append_singleton] at amountFits
    have restTax : 0 ≤ taxSum rest := taxSum_nonneg fun other otherMem =>
      nonneg other (pieces ▸ List.mem_append_right _ otherMem)
    have consumedTax : 0 ≤ taxSum consumed := taxSum_nonneg fun other otherMem =>
      nonneg other (pieces ▸ List.mem_append_left _ (List.mem_append_left _ otherMem))
    rw [pieces, taxSum_append, taxSum_append] at taxFits
    obtain ⟨normal, normalizes⟩ := exists_normalizeLeg
      (show leg.amount.minor.natAbs ≤ 9223372036854775807 by omega)
    obtain ⟨amountEq, -, taxEq⟩ := normalizeLeg_posted normalizes
    obtain ⟨result, adds⟩ : ∃ result, addLeg before leg = .ok result := by
      cases before with
      | none => exact ⟨normal, by rw [addLeg, normalizes]; rfl⟩
      | some existing =>
        obtain ⟨-, amount, taxAmount, -⟩ := sums
        obtain ⟨total, addsAmount⟩ : ∃ total, existing.amount.checkedAdd normal.amount = .ok total :=
          Money.exists_checkedAdd_iff.mpr (by
            rw [amount, amountEq]
            exact ⟨by omega, by omega⟩)
        obtain ⟨tax, combines⟩ : ∃ tax, combineTax existing.taxAmount normal.taxAmount = .ok tax := by
          refine exists_combineTax fun one isOne two isTwo => ?_
          have oneEq : one.minor = taxSum consumed := by
            rw [← getD_taxTotal, ← taxAmount, Option.mem_def.mp isOne]
            rfl
          rw [taxEq] at isTwo
          have twoEq : taxSum [leg] = two.minor := by
            simp [taxSum, Option.mem_def.mp isTwo]
          have twoNonneg : 0 ≤ two.minor :=
            nonneg leg (by simp [split]) two isTwo
          rw [twoEq] at taxFits
          rw [oneEq]
          exact ⟨by omega, by omega⟩
        refine ⟨{ existing with
          amount := total
          taxAmount := tax
          taxRate := existing.taxRate <|> normal.taxRate }, ?_⟩
        simp only [addLeg, combineLegs, bind_eq_ok_iff, liftM_money_eq_ok_iff, pure_eq_ok_iff]
        exact ⟨normal, normalizes, total, addsAmount, tax, combines, rfl⟩
    exact ⟨some result, by rw [adds]; rfl, sums.addLeg adds⟩
  obtain ⟨entry, gathers, -⟩ := exists_foldlM_of_invariant
    (fun consumed entry => SumsUp consumed entry) advances start
  exact ⟨entry, gathers⟩

theorem fits_of_gather {entry : Option Leg} (gathers : gather addLeg legs = .ok entry) :
    absTotal legs ≤ 9223372036854775807 ∧ taxSum legs ≤ 9223372036854775807 := by
  have sums := sumsUp_of_gather gathers
  cases entry with
  | none =>
    rw [show legs = [] from sums]
    decide
  | some entry =>
    obtain ⟨-, amount, taxAmount, -⟩ := sums
    rw [← amount, ← getD_taxTotal, ← taxAmount]
    refine ⟨entry.amount.cents.le_upper, ?_⟩
    cases entry.taxAmount with
    | none => exact (by decide : (0 : ℤ) ≤ 9223372036854775807)
    | some tax => exact tax.cents.le_upper

theorem exists_mergeLegs_of_perm (merges : mergeLegs legs = .ok lines) (perm : others.Perm legs)
    (nonneg : SharesNonneg legs) : ∃ otherLines, mergeLegs others = .ok otherLines := by
  unfold mergeLegs at merges ⊢
  rw [bind_eq_ok_iff] at merges
  obtain ⟨merged, folds, -⟩ := merges
  rw [foldlM_mergeLeg_eq] at folds
  have gathered := gathered_of_foldlM keeps_addLeg folds
  have othersGather : ∀ key, ∃ entry, gather addLeg (ofLabel Leg.postedMergeKey key
      (others.filter fun leg => leg.amount.minor ≠ 0)) = .ok entry := by
    intro key
    have sameLegs := perm_legsOf perm key
    obtain ⟨amountFits, taxFits⟩ := fits_of_gather (gathered.entries key)
    refine exists_gather ?_ ?_ ?_
    · exact (absTotal_perm sameLegs).trans_le amountFits
    · intro leg legMem
      have legMem : leg ∈ legs :=
        perm.mem_iff.mp (List.mem_of_mem_filter (List.mem_of_mem_filter legMem))
      exact nonneg leg legMem
    · have sameTax : taxSum (legsOf key others) = taxSum (legsOf key legs) :=
        ((sameLegs.filterMap _).map _).sum_eq
      exact sameTax.trans_le taxFits
  obtain ⟨table, folds⟩ := exists_foldlM_mergeAt keeps_addLeg othersGather
  rw [← foldlM_mergeLeg_eq] at folds
  exact ⟨numberLegs 1 table, by rw [folds]; rfl⟩

/-- Merged legs give one line for each account, class, entity, side and taxability of a leg
that is not zero, with the sums of these legs; in any other order the lines are the same but
for numbers and rates, and where no tax share is negative they merge in any order. -/
theorem mergeLegs_linesOf (merges : mergeLegs legs = .ok lines) :
    LinesOf legs lines ∧ ∀ others, others.Perm legs →
      (∀ otherLines, mergeLegs others = .ok otherLines →
        (otherLines.map JournalLine.unordered).Perm (lines.map JournalLine.unordered)) ∧
      (SharesNonneg legs → ∃ otherLines, mergeLegs others = .ok otherLines) := by
  have linesOf := linesOf_of_mergeLegs merges
  refine ⟨linesOf, fun others perm => ⟨?_, exists_mergeLegs_of_perm merges perm⟩⟩
  intro otherLines otherMerges
  exact (linesOf_of_mergeLegs otherMerges).perm_unordered linesOf perm

def taxedLeg (side : Side) (amount : Money) (tax : Option Money)
    (rate : Option DecimalNumbers.Decimal) : Leg where
  account := ⟨"4000"⟩
  «class» := none
  entity := none
  side := side
  amount := amount
  isTaxable := true
  taxAmount := tax
  taxRate := rate

def refundedSale : List Leg :=
  [taxedLeg .credit (.fromMinor 100) (some (.fromMinor 8)) none,
    taxedLeg .credit (.fromMinor (-40)) none none]

theorem mergeLegs_linesOf_refund :
    ∃ lines, mergeLegs refundedSale = .ok lines ∧
      LinesOf refundedSale lines ∧ ∀ others, others.Perm refundedSale →
        (∀ otherLines, mergeLegs others = .ok otherLines →
          (otherLines.map JournalLine.unordered).Perm (lines.map JournalLine.unordered)) ∧
        (SharesNonneg refundedSale → ∃ otherLines, mergeLegs others = .ok otherLines) := by
  have evaluates : (mergeLegs refundedSale).toOption.map List.length = some 2 := by
    decide +kernel
  obtain ⟨lines, merges, -⟩ := exists_ok_of_map_toOption evaluates
  exact ⟨lines, merges, mergeLegs_linesOf merges⟩

/-- A debit and a credit of one account, class, entity and taxability stay two lines, a leg of
no amount is dropped with its tax, the first rate is kept, and whether tax shares of both
signs can be added depends on their order. -/
theorem mergeLegs_keeps_sides :
    (mergeLegs refundedSale).toOption.map
        (fun lines => lines.map fun line => (line.key, line.isTaxable)) =
      some [(⟨⟨"4000"⟩, none, none⟩, true), (⟨⟨"4000"⟩, none, none⟩, true)] ∧
    (mergeLegs [taxedLeg .credit .zero (some (.fromMinor 8)) none]).toOption = some [] ∧
    (mergeLegs [taxedLeg .credit (.fromMinor 1) none (some .zero),
        taxedLeg .credit (.fromMinor 2) none (some .hundred)]).toOption.map
        (fun lines => lines.map JournalLine.taxRate) = some [some .zero] ∧
    (mergeLegs [taxedLeg .credit (.fromMinor 2) none (some .hundred),
        taxedLeg .credit (.fromMinor 1) none (some .zero)]).toOption.map
        (fun lines => lines.map JournalLine.taxRate) = some [some .hundred] ∧
    (mergeLegs [taxedLeg .credit (.fromMinor 1) (some (.fromMinor 9223372036854775807)) none,
        taxedLeg .credit (.fromMinor 2) (some (.fromMinor 1)) none,
        taxedLeg .credit (.fromMinor 3) (some (.fromMinor (-1))) none]).toOption = none ∧
    (mergeLegs [taxedLeg .credit (.fromMinor 1) (some (.fromMinor 9223372036854775807)) none,
        taxedLeg .credit (.fromMinor 3) (some (.fromMinor (-1))) none,
        taxedLeg .credit (.fromMinor 2) (some (.fromMinor 1)) none]).toOption.isSome = true := by
  decide +kernel

end Orders

end QuickBooks
