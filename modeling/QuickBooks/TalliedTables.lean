import QuickBooks.KeyedTotals
import QuickBooks.OrderedTables
import Mathlib.Algebra.Order.BigOperators.Group.List

/-!
# Tallied tables

A table tallies a list when its keys are those of the elements and what it
holds under a key is the total of the elements with that key.  Recording one
more element keeps a table tallied, so a loop that records its elements one by
one tallies them.  A tallied table depends on the elements only as a multiset.
-/

namespace OrderedTables

open KeyedTotals OrderedTable

variable {κ ν ι : Type} [LinearOrder κ] {value : ν → Int} {keyOf : ι → Option κ}
  {amount : ι → Int} {table before after : OrderedTable κ ν} {elements : List ι}
  {element : ι} {key : κ} {stored : ν}

namespace OrderedTable

@[simp]
theorem insert_insert {first second : ν} :
    (table.insert key first).insert key second = table.insert key second := by
  ext1 other
  simp only [get?_insert]
  split_ifs <;> rfl

end OrderedTable

/-- The keys are those of the elements, and each holds its total. -/
structure Tallies (value : ν → Int) (table : OrderedTable κ ν) (keyOf : ι → Option κ)
    (amount : ι → Int) (elements : List ι) : Prop where
  isSome_iff : ∀ key, (table.get? key).isSome ↔ ∃ element ∈ elements, keyOf element = some key
  total_eq : ∀ key, ((table.get? key).map value).getD 0 =
    total (fun element => keyOf element = some key) amount elements

/-- An amount is added at a key, if there is one. -/
def Records (value : ν → Int) (before after : OrderedTable κ ν) (amount : Int) :
    Option κ → Prop
  | none => after = before
  | some key => ∃ stored, after = before.insert key stored ∧
      value stored = ((before.get? key).map value).getD 0 + amount

theorem Records.trans {middle : OrderedTable κ ν} {first second : Int}
    (recordsFirst : Records value before middle first (some key))
    (recordsSecond : Records value middle after second (some key)) :
    Records value before after (first + second) (some key) := by
  obtain ⟨stored, rfl, addsFirst⟩ := recordsFirst
  obtain ⟨result, rfl, addsSecond⟩ := recordsSecond
  refine ⟨result, insert_insert, ?_⟩
  simp [addsSecond, get?_insert, addsFirst]
  omega

namespace Tallies

theorem empty : Tallies value (OrderedTable.empty : OrderedTable κ ν) keyOf amount [] :=
  ⟨by simp, by simp⟩

theorem record (tallies : Tallies value before keyOf amount elements)
    (records : Records value before after (amount element) (keyOf element)) :
    Tallies value after keyOf amount (elements ++ [element]) := by
  cases keyed : keyOf element with
  | none =>
    rw [keyed] at records
    cases records
    constructor
    · intro key
      simp [tallies.isSome_iff, keyed]
    · intro key
      simp [tallies.total_eq, keyed]
  | some key =>
    rw [keyed] at records
    obtain ⟨stored, rfl, adds⟩ := records
    constructor
    · intro other
      rw [get?_insert]
      by_cases same : key = other
      · simp [same, keyed]
      · simp [same, keyed, tallies.isSome_iff]
    · intro other
      rw [get?_insert]
      by_cases same : key = other
      · subst same
        simp [keyed, adds, tallies.total_eq]
      · simp [same, keyed, tallies.total_eq]

theorem value_eq (tallies : Tallies value table keyOf amount elements)
    (here : table.get? key = some stored) :
    value stored = total (fun element => keyOf element = some key) amount elements := by
  rw [← tallies.total_eq, here]
  rfl

theorem map_get?_eq {ι' : Type} {other : OrderedTable κ ν} {keyOf' : ι' → Option κ}
    {amount' : ι' → Int} {others : List ι'}
    (tallies : Tallies value table keyOf amount elements)
    (talliesOther : Tallies value other keyOf' amount' others)
    (sameKeys : ∀ key, (∃ element ∈ elements, keyOf element = some key) ↔
      ∃ element ∈ others, keyOf' element = some key)
    (sameTotals : ∀ key, total (fun element => keyOf element = some key) amount elements =
      total (fun element => keyOf' element = some key) amount' others) (key : κ) :
    (table.get? key).map value = (other.get? key).map value := by
  have sameSome := (tallies.isSome_iff key).trans
    ((sameKeys key).trans (talliesOther.isSome_iff key).symm)
  have sameValue := (tallies.total_eq key).trans
    ((sameTotals key).trans (talliesOther.total_eq key).symm)
  cases here : table.get? key <;> cases there : other.get? key <;>
    simp_all

theorem total_entries (tallies : Tallies value table keyOf amount elements)
    (selects : κ → Prop) [DecidablePred selects] :
    total (fun entry => selects entry.1) (fun entry => value entry.2) table.entries =
      total (fun element => ∃ key ∈ keyOf element, selects key) amount elements := by
  have distinct : ((table.entries.filter fun entry => selects entry.1).map
      fun entry => some entry.1).Nodup := by
    rw [List.nodup_iff_pairwise_ne, List.pairwise_map]
    exact (table.ordered.filter _).imp fun before same => before.ne (Option.some.inj same)
  have listed : ∀ element ∈ elements,
      (True ∧ keyOf element ∈ (table.entries.filter fun entry => selects entry.1).map
        fun entry => some entry.1) ↔ ∃ key ∈ keyOf element, selects key := by
    intro element elementMem
    rw [true_and, List.mem_map]
    constructor
    · rintro ⟨entry, entryMem, keyed⟩
      exact ⟨entry.1, keyed.symm, by simpa using List.of_mem_filter entryMem⟩
    · rintro ⟨key, keyed, selected⟩
      have present := (tallies.isSome_iff key).mpr ⟨element, elementMem, keyed⟩
      obtain ⟨stored, here⟩ := Option.isSome_iff_exists.mp present
      have entryMem : (key, stored) ∈ table.entries := mem_entries.mpr here
      exact ⟨(key, stored), List.mem_filter.mpr ⟨entryMem, by simpa using selected⟩,
        Eq.symm keyed⟩
  have fibers := sum_total_fibers (fun _ => True) amount keyOf distinct elements
  rw [List.map_map] at fibers
  calc
    total (fun entry => selects entry.1) (fun entry => value entry.2) table.entries =
        ((table.entries.filter fun entry => selects entry.1).map
          fun entry => value entry.2).sum := by
      rw [← total_of_forall (fun _ => True) (fun entry : κ × ν => value entry.2)
        (fun _ _ => trivial), total_filter]
      exact total_congr fun _ _ => ⟨by simp, fun _ => rfl⟩
    _ = ((table.entries.filter fun entry => selects entry.1).map
          ((fun label => total (fun element => True ∧ keyOf element = label) amount elements) ∘
            fun entry => some entry.1)).sum := by
      congr 1
      apply List.map_congr_left
      intro entry entryMem
      rw [tallies.value_eq (mem_entries.mp (List.mem_of_mem_filter entryMem))]
      exact total_congr fun _ _ => ⟨by simp, fun _ => rfl⟩
    _ = total (fun element => ∃ key ∈ keyOf element, selects key) amount elements := by
      rw [fibers]
      unfold total
      congr 1
      apply List.map_congr_left
      intro element elementMem
      by_cases keyed : ∃ key ∈ keyOf element, selects key
      · rw [if_pos ((listed element elementMem).mpr keyed), if_pos keyed]
      · rw [if_neg fun holds => keyed ((listed element elementMem).mp holds), if_neg keyed]

theorem sum_eq (tallies : Tallies value table keyOf amount elements) :
    (table.entries.map fun entry => value entry.2).sum =
      total (fun element => (keyOf element).isSome) amount elements := by
  have entries := tallies.total_entries fun _ => True
  rw [total_of_forall _ _ fun _ _ => trivial] at entries
  rw [entries]
  refine total_congr fun element _ => ⟨?_, fun _ => rfl⟩
  rw [Option.isSome_iff_exists]
  simp

theorem sum_natAbs_le (tallies : Tallies value table keyOf amount elements) :
    (table.entries.map fun entry => ((value entry.2).natAbs : Int)).sum ≤
      (elements.map fun element => ((amount element).natAbs : Int)).sum := by
  have valueLe : ∀ entry ∈ table.entries, ((value entry.2).natAbs : Int) ≤
      total (fun element => keyOf element = some entry.1)
        (fun element => (amount element).natAbs) elements := by
    intro entry entryMem
    rw [tallies.value_eq (mem_entries.mp entryMem)]
    exact natAbs_total_le _ _ _
  have distinct : (table.entries.map fun entry => some entry.1).Nodup := by
    rw [List.nodup_iff_pairwise_ne, List.pairwise_map]
    exact table.ordered.imp fun before same => before.ne (Option.some.inj same)
  have fibers := sum_total_fibers (fun _ => True)
    (fun element => ((amount element).natAbs : Int)) keyOf distinct elements
  rw [List.map_map] at fibers
  calc
    (table.entries.map fun entry => ((value entry.2).natAbs : Int)).sum ≤
        (table.entries.map ((fun label => total (fun element => True ∧ keyOf element = label)
          (fun element => ((amount element).natAbs : Int)) elements) ∘
            fun entry => some entry.1)).sum := by
      refine List.sum_le_sum fun entry entryMem => (valueLe entry entryMem).trans_eq ?_
      exact total_congr fun _ _ => ⟨by simp, fun _ => rfl⟩
    _ ≤ (elements.map fun element => ((amount element).natAbs : Int)).sum := by
      rw [fibers]
      refine List.sum_le_sum fun element _ => ?_
      beta_reduce
      split_ifs <;> omega

theorem natAbs_getD_le (tallies : Tallies value table keyOf amount elements) (key : κ) :
    ((((table.get? key).map value).getD 0).natAbs : Int) ≤
      (elements.map fun element => ((amount element).natAbs : Int)).sum := by
  rw [tallies.total_eq]
  refine le_trans (natAbs_total_le _ _ _) (total_le_sum _ fun element _ => ?_)
  exact Int.natCast_nonneg _

end Tallies

end OrderedTables
