import Mathlib.Algebra.BigOperators.Ring.Finset
import QuickBooks.MaterialCosting
import QuickBooks.RoundedDecimals

/-!
# How freight is dealt out

Every line's share is cut to the cent and the cents left over go to the lines with the
largest remainders, one each and around again.
-/

namespace QuickBooks

open DecimalNumbers ExceptPrograms TransactionPrograms

namespace ShopFloor

variable {arith : DecimalArithmetic} {freight : Money} {order : List ℕ}
  {shares : List (Int × Decimal)} {allocations : List Money} {floors : List Int}

/-! ### Dealing the cents -/

theorem sum_modify_add_one {place : ℕ} (inList : place < floors.length) :
    (floors.modify place (· + 1)).sum = floors.sum + 1 := by
  induction floors generalizing place with
  | nil => simp at inList
  | cons floor floors ih =>
    cases place with
    | zero =>
      simp only [List.modify_zero_cons, List.sum_cons]
      omega
    | succ place =>
      rw [List.modify_succ_cons, List.sum_cons, List.sum_cons, ih (by simpa using inList)]
      omega

theorem dealCents_succ (notEmpty : order ≠ []) (floors : List Int) (leftover cursor : ℕ) :
    ∃ place ∈ order, order[cursor % order.length]? = some place ∧
      dealCents order (leftover + 1) cursor floors =
        dealCents order leftover (cursor + 1) (floors.modify place (· + 1)) := by
  have inOrder : cursor % order.length < order.length :=
    Nat.mod_lt _ (List.length_pos_iff.mpr notEmpty)
  refine ⟨order[cursor % order.length], List.getElem_mem inOrder,
    List.getElem?_eq_getElem inOrder, ?_⟩
  rw [dealCents, List.getElem?_eq_getElem inOrder]

theorem length_dealCents (notEmpty : order ≠ []) (leftover cursor : ℕ) :
    (dealCents order leftover cursor floors).length = floors.length := by
  induction leftover generalizing cursor floors with
  | zero => rfl
  | succ leftover ih =>
    obtain ⟨named, -, -, deals⟩ := dealCents_succ notEmpty floors leftover cursor
    rw [deals, ih, List.length_modify]

theorem sum_dealCents (notEmpty : order ≠ []) (inList : ∀ place ∈ order, place < floors.length)
    (leftover cursor : ℕ) :
    (dealCents order leftover cursor floors).sum = floors.sum + leftover := by
  induction leftover generalizing cursor floors with
  | zero => simp [dealCents]
  | succ leftover ih =>
    obtain ⟨named, namedMem, -, deals⟩ :=
      dealCents_succ notEmpty floors leftover cursor
    rw [deals, ih (by simpa using inList), sum_modify_add_one (inList named namedMem)]
    push_cast
    omega

/-! ### The order of the remainders -/

/-- The lines by their remainders, the largest first. -/
def dealOrder (shares : List (Int × Decimal)) : List ℕ :=
  (shares.zipIdx.insertionSort fun first second =>
    isLess second.1.2 first.1.2 ∨
      (!isLess first.1.2 second.1.2 ∧ first.2 ≤ second.2)).map Prod.snd

theorem dealOrder_perm (shares : List (Int × Decimal)) :
    (dealOrder shares).Perm (List.range shares.length) := by
  unfold dealOrder
  have sorted := (List.perm_insertionSort (fun first second : (Int × Decimal) × ℕ =>
    isLess second.1.2 first.1.2 ∨
      (!isLess first.1.2 second.1.2 ∧ first.2 ≤ second.2)) shares.zipIdx).map Prod.snd
  rwa [List.zipIdx_map_snd, ← List.range_eq_range'] at sorted

theorem length_dealOrder : (dealOrder shares).length = shares.length := by
  rw [(dealOrder_perm shares).length_eq, List.length_range]

theorem lt_of_mem_dealOrder {place : ℕ} (placeMem : place ∈ dealOrder shares) :
    place < shares.length :=
  List.mem_range.mp ((dealOrder_perm shares).mem_iff.mp placeMem)

/-! ### The allocations of the shares -/

def dealFreight (freight : Money) (shares : List (Int × Decimal)) : Costing (List Money) := do
  let allocated ← shares.foldlM (fun sum share => inSixtyFour (sum + share.1)) 0
  let leftover ← inSixtyFour (freight.minor - allocated)
  (dealCents (dealOrder shares) leftover.toNat 0 (shares.map Prod.fst)).mapM fun minor =>
    orRefuse (.panicked "integer arithmetic overflowed") (Money.ofMinor? minor)

theorem inSixtyFour_eq_ok_iff {number result : Int} :
    inSixtyFour number = .ok result ↔
      (-9223372036854775808 ≤ number ∧ number ≤ 9223372036854775807) ∧ result = number := by
  unfold inSixtyFour
  split_ifs with fits
  · rw [pure_eq_ok_iff]
    exact ⟨fun same => ⟨fits, same.symm⟩, fun same => same.2.symm⟩
  · simp [fits]

theorem foldlM_inSixtyFour {sum : Int}
    (adds : shares.foldlM (fun sum share => inSixtyFour (sum + share.1)) 0 = .ok sum) :
    sum = (shares.map Prod.fst).sum := by
  apply foldlM_invariant (fun consumed (sum : Int) => sum = (consumed.map Prod.fst).sum) _ rfl adds
  intro consumed share before after same step
  rw [(inSixtyFour_eq_ok_iff.mp step).2, same]
  simp

theorem dealFreight_spec (deals : dealFreight freight shares = .ok allocations) :
    freight.minor - (shares.map Prod.fst).sum ≤ 9223372036854775807 ∧
      allocations.map Money.minor = dealCents (dealOrder shares)
        (freight.minor - (shares.map Prod.fst).sum).toNat 0 (shares.map Prod.fst) := by
  unfold dealFreight at deals
  rw [bind_eq_ok_iff] at deals
  obtain ⟨allocated, adds, deals⟩ := deals
  rw [bind_eq_ok_iff] at deals
  obtain ⟨leftover, subtracts, deals⟩ := deals
  obtain ⟨⟨-, atMost⟩, rfl⟩ := inSixtyFour_eq_ok_iff.mp subtracts
  rw [foldlM_inSixtyFour adds] at atMost deals
  refine ⟨atMost, ?_⟩
  rw [mapM_eq_ok_iff] at deals
  generalize dealCents (dealOrder shares) (freight.minor - (shares.map Prod.fst).sum).toNat 0
    (shares.map Prod.fst) = minors at deals
  induction deals with
  | nil => rfl
  | cons made _ ih =>
    rw [List.map_cons, ih, Money.ofMinor?_eq_some_iff.mp (orRefuse_eq_ok_iff.mp made)]

/-! ### The weights of a receipt -/

variable {lines : List ReceiptLine}

/-- The decimals that the lines share the freight by. -/
def shareWeights (arith : DecimalArithmetic) (lines : List ReceiptLine) :
    Costing (List Decimal) := do
  let boardFeet ← lines.mapM boardFootWeight
  let weights :=
    if boardFeet.any fun weight => 0 < weight.mantissa then boardFeet
    else lines.map ReceiptLine.qty
  let weightSum ← sumDecimals arith weights
  let one : Decimal := .ofParts 1 0
  return if 0 < weightSum.mantissa then weights else lines.map fun _ => one

def allocateByWeights (arith : DecimalArithmetic) (freight : Money) (weights : List Decimal) :
    Costing (List Money) := do
  let totalWeight ← sumDecimals arith weights
  let shares ← weights.mapM (freightShare arith freight totalWeight)
  dealFreight freight shares

theorem allocateFreight_eq (notEmpty : lines ≠ []) (notZero : freight.minor ≠ 0) :
    allocateFreight arith lines freight =
      shareWeights arith lines >>= allocateByWeights arith freight := by
  have someLine : lines.isEmpty = false := by
    simpa using notEmpty
  have someFreight : freight.isZero = false := by
    rw [Bool.eq_false_iff, Ne, Money.isZero_iff]
    exact notZero
  unfold allocateFreight shareWeights allocateByWeights
  simp only [someLine, someFreight, Bool.false_eq_true, if_false, bind_assoc, pure_bind]
  rfl

theorem allocateFreight_zero (notEmpty : lines ≠ []) (zero : freight.minor = 0) :
    allocateFreight arith lines freight = .ok (lines.map fun _ => Money.zero) := by
  have someLine : lines.isEmpty = false := by
    simpa using notEmpty
  unfold allocateFreight
  rw [someLine, Money.isZero_iff.mpr zero]
  rfl

end ShopFloor

end QuickBooks
