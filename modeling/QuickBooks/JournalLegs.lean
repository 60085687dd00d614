import QuickBooks.MergedLegs
import QuickBooks.PostingBalance

/-!
# Legs of journal documents

A journal document is not refused exactly when every line that moves money
names its account and side and has a class where its account needs one.  Its
legs are then one for each such line.  Legs whose sides agree merge whenever
what either side adds up to is an amount, whatever the signs they were stated
with.
-/

namespace QuickBooks

open ExceptPrograms KeyedTotals

section JournalLines

variable {doc : LedgerDocument} {line : DocLine} {legs after : List Leg}

/-- A journal line that is not refused. -/
def JournalLinePosts (doc : LedgerDocument) (line : DocLine) : Prop :=
  line.kind = .journal → line.amount.minor ≠ 0 →
    ∃ account side, line.account = some account ∧ line.posting = some side ∧
      (requiresClass account = true → (resolveClass line none doc.headerClass).isSome)

/-- The leg of a journal line that moves money. -/
def journalLineLegs (doc : LedgerDocument) (line : DocLine) : List Leg :=
  if line.kind ≠ .journal ∨ line.amount.isZero then []
  else
    match line.account, line.posting with
    | some account, some side =>
      let «class» :=
        if requiresClass account then resolveClass line none doc.headerClass else none
      [⟨account, «class», line.entity, side, line.amount, false, none, none⟩]
    | _, _ => []

theorem classFor_eq_ok_iff {account : AccountId} {header result : Option ClassId} :
    classFor line none header account = .ok result ↔
      (requiresClass account = true → (resolveClass line none header).isSome) ∧
        result = if requiresClass account then resolveClass line none header else none := by
  unfold classFor
  cases requiresClass account with
  | false => simpa [pure_eq_ok_iff] using eq_comm
  | true =>
    cases resolveClass line none header with
    | none => simp
    | some resolved => simpa [pure_eq_ok_iff] using eq_comm

theorem journalLeg_eq_ok_iff :
    journalLeg doc legs line = .ok after ↔
      JournalLinePosts doc line ∧ after = legs ++ journalLineLegs doc line := by
  unfold journalLeg JournalLinePosts journalLineLegs
  split_ifs with skipped
  · rw [pure_eq_ok_iff, List.append_nil]
    have vacuous : line.kind = .journal → line.amount.minor ≠ 0 → False := by
      intro isJournal nonzero
      rcases skipped with other | zero
      · exact other isJournal
      · exact nonzero (Money.isZero_iff.mp zero)
    constructor
    · rintro rfl
      exact ⟨fun isJournal nonzero => (vacuous isJournal nonzero).elim, rfl⟩
    · rintro ⟨-, rfl⟩
      rfl
  · obtain ⟨isJournal, nonzero⟩ := not_or.mp skipped
    rw [not_not] at isJournal
    rw [Money.isZero_iff] at nonzero
    simp only [bind_eq_ok_iff, orRefuse_eq_ok_iff, classFor_eq_ok_iff, pure_eq_ok_iff]
    constructor
    · rintro ⟨account, accountEq, side, sideEq, «class», ⟨hasClass, rfl⟩, rfl⟩
      rw [accountEq, sideEq]
      exact ⟨fun _ _ => ⟨account, side, rfl, rfl, hasClass⟩, rfl⟩
    · rintro ⟨posts, rfl⟩
      obtain ⟨account, side, accountEq, sideEq, hasClass⟩ := posts isJournal nonzero
      rw [accountEq, sideEq]
      exact ⟨account, rfl, side, rfl, _, ⟨hasClass, rfl⟩, rfl⟩

theorem foldlM_journalLeg_eq_ok_iff {lines : List DocLine} :
    lines.foldlM (journalLeg doc) legs = .ok after ↔
      (∀ line ∈ lines, JournalLinePosts doc line) ∧
        after = legs ++ lines.flatMap (journalLineLegs doc) := by
  induction lines generalizing legs with
  | nil =>
    rw [List.foldlM_nil, pure_eq_ok_iff]
    simp [eq_comm]
  | cons line lines ih =>
    simp only [List.foldlM_cons, bind_eq_ok_iff, journalLeg_eq_ok_iff, ih,
      List.forall_mem_cons, List.flatMap_cons]
    constructor
    · rintro ⟨middle, ⟨here, rfl⟩, rest, rfl⟩
      exact ⟨⟨here, rest⟩, List.append_assoc _ _ _⟩
    · rintro ⟨⟨here, rest⟩, rfl⟩
      exact ⟨_, ⟨here, rfl⟩, rest, (List.append_assoc _ _ _).symm⟩

theorem postJournalEntry_eq_ok_iff :
    postJournalEntry doc = .ok legs ↔
      (∀ line ∈ doc.lines, JournalLinePosts doc line) ∧
        legs = doc.lines.flatMap (journalLineLegs doc) := by
  unfold postJournalEntry
  rw [foldlM_journalLeg_eq_ok_iff, List.nil_append]

theorem plain_journalLineLegs {leg : Leg} (legMem : leg ∈ journalLineLegs doc line) :
    leg.amount.minor ≠ 0 ∧ leg.taxAmount = none := by
  unfold journalLineLegs at legMem
  split_ifs at legMem with skipped
  · exact absurd legMem List.not_mem_nil
  · split at legMem
    · rw [List.mem_singleton] at legMem
      subst legMem
      exact ⟨fun zero => skipped (.inr (Money.isZero_iff.mpr zero)), rfl⟩
    · exact absurd legMem List.not_mem_nil

theorem sum_natAbs_journalLineLegs {lines : List DocLine}
    (areJournal : ∀ line ∈ lines, line.kind = .journal)
    (posts : ∀ line ∈ lines, JournalLinePosts doc line) :
    ((lines.flatMap (journalLineLegs doc)).map fun leg => (leg.amount.minor.natAbs : Int)).sum =
      (lines.map fun line => (line.amount.minor.natAbs : Int)).sum := by
  induction lines with
  | nil => rfl
  | cons line lines ih =>
    have isJournal := areJournal line List.mem_cons_self
    have rest := ih (fun other otherMem => areJournal other (List.mem_cons_of_mem _ otherMem))
      (fun other otherMem => posts other (List.mem_cons_of_mem _ otherMem))
    rw [List.flatMap_cons, List.map_append, List.sum_append, rest, List.map_cons,
      List.sum_cons]
    congr 1
    unfold journalLineLegs
    by_cases zero : line.amount.minor = 0
    · rw [if_pos (.inr (Money.isZero_iff.mpr zero)), zero]
      rfl
    · obtain ⟨account, side, accountEq, sideEq, -⟩ :=
        posts line List.mem_cons_self isJournal zero
      rw [if_neg (by simp [isJournal, Money.isZero_iff, zero]), accountEq, sideEq]
      exact List.sum_singleton

end JournalLines

section Sides

variable {leg normal : Leg} {legs normals : List Leg}

namespace Leg

/-- The side that an amount ends up on, which for a negative one is the
other. -/
def postedSide (leg : Leg) : Side :=
  if leg.amount.minor < 0 then leg.side.flip else leg.side

end Leg

def postedTotal (side : Side) (legs : List Leg) : Int :=
  total (fun leg : Leg => leg.postedSide = side) (fun leg => leg.amount.minor.natAbs) legs

@[simp]
theorem postedTotal_nil (side : Side) : postedTotal side [] = 0 :=
  rfl

@[simp]
theorem postedTotal_cons (side : Side) (leg : Leg) (legs : List Leg) :
    postedTotal side (leg :: legs) =
      (if leg.postedSide = side then (leg.amount.minor.natAbs : Int) else 0) + postedTotal side legs :=
  total_cons _ _ _ _

theorem postedTotal_nonneg (side : Side) (legs : List Leg) : 0 ≤ postedTotal side legs :=
  total_nonneg _ _ fun _ _ => Int.natCast_nonneg _

theorem natAbs_le_postedTotal (legMem : leg ∈ legs) :
    leg.amount.minor.natAbs ≤ postedTotal leg.postedSide legs := by
  induction legs with
  | nil => exact absurd legMem List.not_mem_nil
  | cons head rest ih =>
    rw [postedTotal_cons]
    have restNonneg := postedTotal_nonneg leg.postedSide rest
    rcases List.mem_cons.mp legMem with rfl | inRest
    · rw [if_pos rfl]
      omega
    · have inRestLe := ih inRest
      split_ifs <;> omega

theorem postedTotal_sub (legs : List Leg) :
    postedTotal .debit legs - postedTotal .credit legs = legBalance legs := by
  induction legs with
  | nil => rfl
  | cons leg legs ih =>
    rw [postedTotal_cons, postedTotal_cons, legBalance_cons, ← ih]
    unfold Leg.postedSide Leg.net
    by_cases negative : leg.amount.minor < 0 <;> cases leg.side <;>
      simp [negative, Side.flip, -Nat.cast_natAbs] <;> omega

theorem postedTotal_add (legs : List Leg) :
    postedTotal .debit legs + postedTotal .credit legs =
      (legs.map fun leg => (leg.amount.minor.natAbs : Int)).sum := by
  induction legs with
  | nil => rfl
  | cons leg legs ih =>
    rw [postedTotal_cons, postedTotal_cons, List.map_cons, List.sum_cons, ← ih]
    cases leg.postedSide <;> simp <;> omega

theorem normalizeLeg_posted (normalizes : normalizeLeg leg = .ok normal) :
    normal.amount.minor = leg.amount.minor.natAbs ∧ normal.side = leg.postedSide ∧
      normal.taxAmount = leg.taxAmount := by
  unfold normalizeLeg at normalizes
  unfold Leg.postedSide
  split_ifs at normalizes with negative
  · rw [Money.isNegative_iff] at negative
    simp only [bind_eq_ok_iff, liftM_money_eq_ok_iff, Money.checkedNeg_eq_ok_iff,
      pure_eq_ok_iff] at normalizes
    obtain ⟨amount, negates, rfl⟩ := normalizes
    exact ⟨by rw [negates]; omega, (if_pos negative).symm, rfl⟩
  · rw [Money.isNegative_iff] at negative
    rw [pure_eq_ok_iff] at normalizes
    subst normalizes
    exact ⟨by omega, (if_neg negative).symm, rfl⟩

theorem mergeLeg_normal (nonzero : leg.amount.minor ≠ 0)
    (normalizes : normalizeLeg leg = .ok normal) (merged : List Leg) :
    mergeLeg merged normal = mergeLeg merged leg := by
  have positive := (normalizeLeg_spec nonzero normalizes).2.2
  have unchanged : normalizeLeg normal = .ok normal := by
    unfold normalizeLeg
    rw [if_neg (by rw [Money.isNegative_iff]; omega)]
    rfl
  unfold mergeLeg
  rw [if_neg (by rw [Money.isZero_iff]; omega), if_neg (by rw [Money.isZero_iff]; omega),
    unchanged, normalizes]

theorem foldlM_mergeLeg_normals
    (normalizes : List.Forall₂ (fun leg normal => normalizeLeg leg = .ok normal) legs normals)
    (nonzero : ∀ leg ∈ legs, leg.amount.minor ≠ 0) (merged : List Leg) :
    normals.foldlM mergeLeg merged = legs.foldlM mergeLeg merged := by
  induction normalizes generalizing merged with
  | nil => rfl
  | cons here rest ih =>
    rw [List.foldlM_cons, List.foldlM_cons,
      mergeLeg_normal (nonzero _ List.mem_cons_self) here]
    exact congrArg _ (funext fun next =>
      ih (fun leg legMem => nonzero leg (List.mem_cons_of_mem _ legMem)) next)

theorem sideTotal_normals
    (normalizes : List.Forall₂ (fun leg normal => normalizeLeg leg = .ok normal) legs normals)
    (side : Side) : sideTotal side normals = postedTotal side legs := by
  induction normalizes with
  | nil => rfl
  | cons here rest ih =>
    obtain ⟨amountEq, sideEq, -⟩ := normalizeLeg_posted here
    rw [sideTotal_cons, postedTotal_cons, ih, amountEq, sideEq]

theorem exists_normals (fits : ∀ leg ∈ legs, leg.amount.minor.natAbs ≤ 9223372036854775807) :
    ∃ normals, List.Forall₂ (fun leg normal => normalizeLeg leg = .ok normal) legs normals := by
  have succeeds : ∀ leg ∈ legs, ∃ normal, normalizeLeg leg = .ok normal := by
    intro leg legMem
    have legFits := fits leg legMem
    unfold normalizeLeg
    split_ifs with negative
    · obtain ⟨amount, negates⟩ : ∃ amount, Money.zero.checkedSub leg.amount = .ok amount :=
        Money.exists_checkedSub_iff.mpr ⟨by simp; omega, by simp; omega⟩
      rw [Money.checkedSub_eq_ok_iff, Money.minor_zero, zero_sub] at negates
      refine ⟨{ leg with amount, side := leg.side.flip }, ?_⟩
      simp only [bind_eq_ok_iff, liftM_money_eq_ok_iff, Money.checkedNeg_eq_ok_iff]
      exact ⟨amount, negates, rfl⟩
    · exact ⟨leg, rfl⟩
  obtain ⟨normals, runs⟩ := exists_mapM_ok succeeds
  exact ⟨normals, mapM_eq_ok_iff.mp runs⟩

theorem exists_mergeLegs_of_balanced
    (plain : ∀ leg ∈ legs, leg.amount.minor ≠ 0 ∧ leg.taxAmount = none)
    (balanced : legBalance legs = 0)
    (fits : (legs.map fun leg => (leg.amount.minor.natAbs : Int)).sum ≤
      2 * 9223372036854775807) :
    ∃ lines, mergeLegs legs = .ok lines ∧
      2 * (lines.map fun line => line.debit.minor).sum =
        (legs.map fun leg => (leg.amount.minor.natAbs : Int)).sum ∧
      2 * (lines.map fun line => line.credit.minor).sum =
        (legs.map fun leg => (leg.amount.minor.natAbs : Int)).sum := by
  have apart := postedTotal_sub legs
  have together := postedTotal_add legs
  have sideFits : ∀ side, postedTotal side legs ≤ 9223372036854775807 := by
    intro side
    cases side <;> omega
  have legsFit : ∀ leg ∈ legs, leg.amount.minor.natAbs ≤ 9223372036854775807 := by
    intro leg legMem
    have legLe := natAbs_le_postedTotal legMem
    have sideLe := sideFits leg.postedSide
    omega
  obtain ⟨normals, normalizes⟩ := exists_normals legsFit
  have normalsPlain : ∀ normal ∈ normals, PlainLeg normal := by
    intro normal normalMem
    obtain ⟨leg, legMem, here⟩ := exists_of_mem_mapM (mapM_eq_ok_iff.mpr normalizes) normalMem
    obtain ⟨nonzero, untaxed⟩ := plain leg legMem
    exact ⟨(normalizeLeg_spec nonzero here).2.2, (normalizeLeg_posted here).2.2.trans untaxed⟩
  obtain ⟨lines, merges, debits, credits⟩ := exists_mergeLegs normalsPlain fun side => by
    rw [sideTotal_normals normalizes]
    exact sideFits side
  refine ⟨lines, ?_, ?_, ?_⟩
  · unfold mergeLegs at merges ⊢
    rw [foldlM_mergeLeg_normals normalizes fun leg legMem => (plain leg legMem).1] at merges
    exact merges
  · rw [debits, sideTotal_normals normalizes]
    omega
  · rw [credits, sideTotal_normals normalizes]
    omega

end Sides

end QuickBooks
