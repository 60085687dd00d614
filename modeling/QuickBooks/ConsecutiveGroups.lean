import QuickBooks.ExceptPrograms
import Mathlib.Data.List.Induction
import Mathlib.Order.Defs.PartialOrder

/-!
# Consecutive groups

A loop reads elements one after the other, opens a group where the key of an
element is not that of the last group and adds the element to the last group,
which it may refuse.  Over elements in the order of their keys this leaves one
group for each key, made of all the elements with that key.
-/

namespace ConsecutiveGroups

open ExceptPrograms

variable {α γ κ ρ ε : Type} [DecidableEq κ] {keyOf : α → κ} {groupKey : γ → κ}
  {openGroup : α → γ} {add : γ → α → Except ε γ}

/-- The groups with the one that an element belongs to at the end. -/
def groupsFor (keyOf : α → κ) (groupKey : γ → κ) (openGroup : α → γ)
    (groups : List γ) (element : α) : List γ :=
  if groups.getLast?.map groupKey = some (keyOf element) then groups
  else groups ++ [openGroup element]

/-- Add an element to the last group, which is opened where its key is new. -/
def addToLast (keyOf : α → κ) (groupKey : γ → κ) (openGroup : α → γ)
    (add : γ → α → Except ε γ) (groups : List γ) (element : α) : Except ε (List γ) :=
  let groups := groupsFor keyOf groupKey openGroup groups element
  match groups.getLast? with
  | none => return groups
  | some last => do
    let last ← add last element
    return groups.dropLast ++ [last]

/-- A group holds exactly the elements with its key, in their order. -/
def HoldsAll (keyOf : α → κ) (groupKey : γ → κ) (openGroup : α → γ)
    (add : γ → α → Except ε γ) (elements : List α) (group : γ) : Prop :=
  ∃ first rest,
    elements.filter (fun element => keyOf element = groupKey group) = first :: rest ∧
      (first :: rest).foldlM add (openGroup first) = .ok group

/-- One group for each key of the elements, the last for the last one's. -/
structure GroupsOf (keyOf : α → κ) (groupKey : γ → κ) (openGroup : α → γ)
    (add : γ → α → Except ε γ) (elements : List α) (groups : List γ) : Prop where
  holdsAll : ∀ group ∈ groups, HoldsAll keyOf groupKey openGroup add elements group
  distinct : (groups.map groupKey).Nodup
  present : ∀ element ∈ elements, ∃ group ∈ groups, groupKey group = keyOf element
  last : groups.getLast?.map groupKey = elements.getLast?.map keyOf

/-- Adding keeps the key of a group, and a group has the key of its first
element. -/
structure KeepsKeys (keyOf : α → κ) (groupKey : γ → κ) (openGroup : α → γ)
    (add : γ → α → Except ε γ) : Prop where
  opened : ∀ element, groupKey (openGroup element) = keyOf element
  added : ∀ group element after, add group element = .ok after →
    groupKey after = groupKey group

section Step

variable {elements : List α} {groups after : List γ} {element : α}

theorem HoldsAll.append_other {group : γ}
    (holds : HoldsAll keyOf groupKey openGroup add elements group)
    (other : groupKey group ≠ keyOf element) :
    HoldsAll keyOf groupKey openGroup add (elements ++ [element]) group := by
  obtain ⟨first, rest, selected, folded⟩ := holds
  refine ⟨first, rest, ?_, folded⟩
  rw [List.filter_append, selected]
  simp [other.symm]

theorem addToLast_same {earlier : List γ} {last : γ}
    (sameKey : groupKey last = keyOf element) :
    addToLast keyOf groupKey openGroup add (earlier ++ [last]) element =
      (fun extended => earlier ++ [extended]) <$> add last element := by
  have kept : groupsFor keyOf groupKey openGroup (earlier ++ [last]) element =
      earlier ++ [last] := by
    unfold groupsFor
    simp [sameKey]
  unfold addToLast
  dsimp only
  rw [kept, List.getLast?_concat, List.dropLast_concat]
  rfl

theorem addToLast_new (newKey : groups.getLast?.map groupKey ≠ some (keyOf element)) :
    addToLast keyOf groupKey openGroup add groups element =
      (fun extended => groups ++ [extended]) <$> add (openGroup element) element := by
  unfold addToLast groupsFor
  dsimp only
  rw [if_neg newKey, List.getLast?_concat, List.dropLast_concat]
  rfl

theorem GroupsOf.addToLast_same (keeps : KeepsKeys keyOf groupKey openGroup add)
    {earlier : List γ} {last extended : γ}
    (groupsOf : GroupsOf keyOf groupKey openGroup add elements (earlier ++ [last]))
    (sameKey : groupKey last = keyOf element) (adds : add last element = .ok extended) :
    GroupsOf keyOf groupKey openGroup add (elements ++ [element])
      (earlier ++ [extended]) := by
  have extendedKey := keeps.added last element extended adds
  have sameKeys : (earlier ++ [extended]).map groupKey =
      (earlier ++ [last]).map groupKey := by
    simp [extendedKey]
  have distinct := groupsOf.distinct
  constructor
  · intro group groupMem
    rcases List.mem_append.mp groupMem with inEarlier | isExtended
    · apply (groupsOf.holdsAll group (List.mem_append_left _ inEarlier)).append_other
      rw [← sameKey]
      intro sameAsLast
      rw [List.map_append, List.nodup_append] at distinct
      exact distinct.2.2 _ (List.mem_map_of_mem inEarlier) _ (by simp) sameAsLast
    · rw [List.mem_singleton.mp isExtended]
      obtain ⟨first, rest, selected, folded⟩ := groupsOf.holdsAll last (by simp)
      refine ⟨first, rest ++ [element], ?_, ?_⟩
      · rw [extendedKey, List.filter_append, selected]
        simp [sameKey]
      · rw [← List.cons_append, List.foldlM_append, folded]
        change List.foldlM add last [element] = _
        rw [List.foldlM_cons, adds]
        rfl
  · rw [sameKeys]
    exact distinct
  · have listed : ∀ group ∈ earlier ++ [last],
        ∃ kept ∈ earlier ++ [extended], groupKey kept = groupKey group := by
      intro group groupMem
      have keyMem : groupKey group ∈ (earlier ++ [extended]).map groupKey := by
        rw [sameKeys]
        exact List.mem_map_of_mem groupMem
      exact List.mem_map.mp keyMem
    intro other otherMem
    rcases List.mem_append.mp otherMem with old | new
    · obtain ⟨group, groupMem, groupKeyEq⟩ := groupsOf.present other old
      obtain ⟨kept, keptMem, keptKey⟩ := listed group groupMem
      exact ⟨kept, keptMem, keptKey.trans groupKeyEq⟩
    · rw [List.mem_singleton.mp new]
      exact ⟨extended, by simp, extendedKey.trans sameKey⟩
  · simp [extendedKey, sameKey]

theorem GroupsOf.addToLast_new (keeps : KeepsKeys keyOf groupKey openGroup add)
    {opened : γ} (groupsOf : GroupsOf keyOf groupKey openGroup add elements groups)
    (newKey : ∀ other ∈ elements, keyOf other ≠ keyOf element)
    (adds : add (openGroup element) element = .ok opened) :
    GroupsOf keyOf groupKey openGroup add (elements ++ [element]) (groups ++ [opened]) := by
  have openedKey : groupKey opened = keyOf element :=
    (keeps.added _ _ _ adds).trans (keeps.opened element)
  have others : ∀ group ∈ groups, groupKey group ≠ keyOf element := by
    intro group groupMem
    obtain ⟨first, rest, selected, -⟩ := groupsOf.holdsAll group groupMem
    have firstMem : first ∈ elements.filter fun other => keyOf other = groupKey group := by
      rw [selected]
      exact List.mem_cons_self
    obtain ⟨firstMem, firstKey⟩ := List.mem_filter.mp firstMem
    rw [decide_eq_true_eq] at firstKey
    rw [← firstKey]
    exact newKey first firstMem
  constructor
  · intro group groupMem
    rcases List.mem_append.mp groupMem with old | new
    · exact (groupsOf.holdsAll group old).append_other (others group old)
    · rw [List.mem_singleton.mp new]
      refine ⟨element, [], ?_, ?_⟩
      · rw [openedKey, List.filter_append, List.filter_eq_nil_iff.mpr]
        · simp
        · intro other otherMem
          simpa using newKey other otherMem
      · rw [List.foldlM_cons, adds]
        rfl
  · rw [List.map_append, List.nodup_append]
    refine ⟨groupsOf.distinct, by simp, ?_⟩
    intro key keyMem other otherMem
    obtain ⟨group, groupMem, rfl⟩ := List.mem_map.mp keyMem
    rw [List.map_singleton, List.mem_singleton] at otherMem
    rw [otherMem, openedKey]
    exact others group groupMem
  · intro other otherMem
    rcases List.mem_append.mp otherMem with old | new
    · obtain ⟨group, groupMem, groupKeyEq⟩ := groupsOf.present other old
      exact ⟨group, List.mem_append_left _ groupMem, groupKeyEq⟩
    · rw [List.mem_singleton.mp new]
      exact ⟨opened, by simp, openedKey⟩
  · simp [openedKey]

end Step

section Sorted

variable [PartialOrder ρ] {rank : κ → ρ} {elements : List α} {element : α}
  {groups after : List γ}

omit [DecidableEq κ] in
theorem newKey_of_sorted (injective : Function.Injective rank)
    (sorted : (elements ++ [element]).Pairwise fun first second =>
      rank (keyOf first) ≤ rank (keyOf second))
    (notLast : elements.getLast?.map keyOf ≠ some (keyOf element)) :
    ∀ other ∈ elements, keyOf other ≠ keyOf element := by
  intro other otherMem sameKey
  obtain ⟨earlier, last, rfl⟩ : ∃ earlier last, elements = earlier ++ [last] :=
    ⟨_, _, (List.dropLast_append_getLast (List.ne_nil_of_mem otherMem)).symm⟩
  rw [List.getLast?_concat, Option.map_some, ne_eq, Option.some.injEq] at notLast
  rw [List.pairwise_append] at sorted
  have lastBefore := sorted.2.2 last (by simp) element (by simp)
  have otherBefore : rank (keyOf other) ≤ rank (keyOf last) := by
    rcases List.mem_append.mp otherMem with inEarlier | isLast
    · exact (List.pairwise_append.mp sorted.1).2.2 other inEarlier last (by simp)
    · rw [List.mem_singleton.mp isLast]
  rw [sameKey] at otherBefore
  exact notLast (injective (le_antisymm lastBefore otherBefore))

theorem GroupsOf.of_addToLast (keeps : KeepsKeys keyOf groupKey openGroup add)
    (injective : Function.Injective rank)
    (sorted : (elements ++ [element]).Pairwise fun first second =>
      rank (keyOf first) ≤ rank (keyOf second))
    (groupsOf : GroupsOf keyOf groupKey openGroup add elements groups)
    (adds : addToLast keyOf groupKey openGroup add groups element = .ok after) :
    GroupsOf keyOf groupKey openGroup add (elements ++ [element]) after := by
  by_cases isLast : groups.getLast?.map groupKey = some (keyOf element)
  · obtain ⟨last, lastEq, sameKey⟩ := Option.map_eq_some_iff.mp isLast
    obtain ⟨earlier, rfl⟩ := List.getLast?_eq_some_iff.mp lastEq
    rw [ConsecutiveGroups.addToLast_same sameKey, map_eq_ok_iff] at adds
    obtain ⟨extended, adds, rfl⟩ := adds
    exact groupsOf.addToLast_same keeps sameKey adds
  · rw [ConsecutiveGroups.addToLast_new isLast, map_eq_ok_iff] at adds
    obtain ⟨opened, adds, rfl⟩ := adds
    rw [groupsOf.last] at isLast
    exact groupsOf.addToLast_new keeps (newKey_of_sorted injective sorted isLast) adds

/-- Over elements in the order of their keys, the loop leaves one group for
each key. -/
theorem groupsOf_of_foldlM (keeps : KeepsKeys keyOf groupKey openGroup add)
    (injective : Function.Injective rank)
    (sorted : elements.Pairwise fun first second =>
      rank (keyOf first) ≤ rank (keyOf second))
    (folded : elements.foldlM (addToLast keyOf groupKey openGroup add) [] = .ok groups) :
    GroupsOf keyOf groupKey openGroup add elements groups := by
  refine foldlM_invariant (fun consumed groups =>
    (consumed.Pairwise fun first second => rank (keyOf first) ≤ rank (keyOf second)) →
      GroupsOf keyOf groupKey openGroup add consumed groups) ?_ ?_ folded sorted
  · intro consumed element before after holds adds sorted
    exact (holds (List.pairwise_append.mp sorted).1).of_addToLast keeps injective sorted adds
  · intro _
    exact ⟨by simp, by simp, by simp, rfl⟩

theorem exists_foldlM_addToLast (keeps : KeepsKeys keyOf groupKey openGroup add)
    (injective : Function.Injective rank)
    (sorted : elements.Pairwise fun first second =>
      rank (keyOf first) ≤ rank (keyOf second))
    (succeeds : ∀ key first rest,
      elements.filter (fun element => keyOf element = key) = first :: rest →
        ∃ group, (first :: rest).foldlM add (openGroup first) = .ok group) :
    ∃ groups, elements.foldlM (addToLast keyOf groupKey openGroup add) [] = .ok groups := by
  induction elements using List.reverseRecOn with
  | nil => exact ⟨[], rfl⟩
  | append_singleton elements element ih =>
    have sortedFront := (List.pairwise_append.mp sorted).1
    obtain ⟨groups, folded⟩ := ih sortedFront fun key first rest selected => by
      obtain ⟨group, whole⟩ := succeeds key first
        (rest ++ [element].filter fun element => keyOf element = key)
        (by rw [List.filter_append, selected, List.cons_append])
      rw [← List.cons_append, List.foldlM_append, bind_eq_ok_iff] at whole
      obtain ⟨front, frontFolded, -⟩ := whole
      exact ⟨front, frontFolded⟩
    have groupsOf := groupsOf_of_foldlM keeps injective sortedFront folded
    rw [List.foldlM_append, folded]
    change ∃ after, [element].foldlM (addToLast keyOf groupKey openGroup add) groups =
      .ok after
    simp only [List.foldlM_cons, List.foldlM_nil, bind_pure]
    by_cases isLast : groups.getLast?.map groupKey = some (keyOf element)
    · obtain ⟨last, lastEq, sameKey⟩ := Option.map_eq_some_iff.mp isLast
      obtain ⟨earlier, rfl⟩ := List.getLast?_eq_some_iff.mp lastEq
      obtain ⟨first, rest, selected, lastFolded⟩ := groupsOf.holdsAll last (by simp)
      obtain ⟨extended, whole⟩ := succeeds (groupKey last) first (rest ++ [element])
        (by rw [List.filter_append, selected]; simp [sameKey])
      rw [← List.cons_append, List.foldlM_append, lastFolded] at whole
      change [element].foldlM add last = .ok extended at whole
      rw [List.foldlM_cons, bind_eq_ok_iff] at whole
      obtain ⟨extended, adds, -⟩ := whole
      exact ⟨_, by rw [addToLast_same sameKey, adds]; rfl⟩
    · have newKey := isLast
      rw [groupsOf.last] at newKey
      obtain ⟨opened, whole⟩ := succeeds (keyOf element) element [] (by
        rw [List.filter_append, List.filter_eq_nil_iff.mpr]
        · simp
        · intro other otherMem
          simpa using newKey_of_sorted injective sorted newKey other otherMem)
      rw [List.foldlM_cons, bind_eq_ok_iff] at whole
      obtain ⟨opened, adds, -⟩ := whole
      exact ⟨_, by rw [addToLast_new isLast, adds]; rfl⟩

end Sorted

end ConsecutiveGroups
