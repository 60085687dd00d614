import Mathlib.Data.List.Nodup
import QuickBooks.ExceptPrograms

/-!
# Merging elements by key

A loop adds each element to the entry of its key, or opens an entry at the end.  The table it
ends with has one entry for each key, and that is what the elements of the key come to when
they are added alone, in their order.  So it succeeds just where each key does.
-/

namespace KeyedMerges

open ExceptPrograms

variable {α β κ ε : Type} [DecidableEq κ] (key : α → κ) (label : β → κ)
  (add : Option α → β → Except ε α)

/-- Add an element to the entry of its key, or to none at the end. -/
def mergeAt (element : β) : List α → Except ε (List α)
  | [] => do
    let entry ← add none element
    return [entry]
  | existing :: rest =>
    if key existing = label element then do
      let entry ← add (some existing) element
      return entry :: rest
    else do
      let merged ← mergeAt element rest
      return existing :: merged

def entryAt (table : List α) (name : κ) : Option α :=
  table.find? fun entry => key entry = name

def gather (elements : List β) : Except ε (Option α) :=
  elements.foldlM (fun entry element => some <$> add entry element) none

def ofLabel (name : κ) (elements : List β) : List β :=
  elements.filter fun element => label element = name

def Keeps : Prop :=
  ∀ entry element result, add entry element = .ok result →
    (∀ existing ∈ entry, key existing = label element) → key result = label element

/-- A table with one entry for each key, which is what the elements of the key come to. -/
structure Gathered (elements : List β) (table : List α) : Prop where
  nodup : (table.map key).Nodup
  entries : ∀ name, gather add (ofLabel label name elements) = .ok (entryAt key table name)

variable {key label add} {element : β} {elements : List β} {table result : List α} {name : κ}

@[simp]
theorem entryAt_nil : entryAt key [] name = none :=
  rfl

theorem entryAt_cons {existing : α} : entryAt key (existing :: table) name =
    if key existing = name then some existing else entryAt key table name := by
  by_cases here : key existing = name <;> simp [entryAt, here]

theorem entryAt_eq_none_iff : entryAt key table name = none ↔ name ∉ table.map key := by
  simp [entryAt, List.find?_eq_none]

theorem entryAt_of_mem (nodup : (table.map key).Nodup) {entry : α} (entryMem : entry ∈ table) :
    entryAt key table (key entry) = some entry := by
  induction table with
  | nil => exact absurd entryMem List.not_mem_nil
  | cons existing rest ih =>
    rw [List.map_cons, List.nodup_cons] at nodup
    rw [entryAt_cons]
    rcases List.mem_cons.mp entryMem with rfl | inRest
    · rw [if_pos rfl]
    · have other : key existing ≠ key entry := by
        intro same
        rw [same] at nodup
        exact nodup.1 (List.mem_map_of_mem inRest)
      rw [if_neg other]
      exact ih nodup.2 inRest

@[simp]
theorem ofLabel_append (first second : List β) : ofLabel label name (first ++ second) =
    ofLabel label name first ++ ofLabel label name second :=
  List.filter_append ..

theorem gather_append_singleton : gather add (elements ++ [element]) =
    gather add elements >>= fun entry => some <$> add entry element := by
  simp [gather]

theorem mergeAt_spec (keeps : Keeps key label add)
    (merges : mergeAt key label add element table = .ok result) :
    (∃ entry, add (entryAt key table (label element)) element = .ok entry ∧
        entryAt key result (label element) = some entry) ∧
      ∀ name, name ≠ label element → entryAt key result name = entryAt key table name := by
  induction table generalizing result with
  | nil =>
    simp only [mergeAt, bind_eq_ok_iff, pure_eq_ok_iff] at merges
    obtain ⟨entry, adds, rfl⟩ := merges
    have keyEq := keeps none element entry adds (by simp)
    refine ⟨⟨entry, adds, by rw [entryAt_cons, if_pos keyEq]⟩, ?_⟩
    intro name other
    rw [entryAt_cons, if_neg (by rw [keyEq]; exact other.symm)]
  | cons existing rest ih =>
    rw [mergeAt] at merges
    split_ifs at merges with here
    · simp only [bind_eq_ok_iff, pure_eq_ok_iff] at merges
      obtain ⟨entry, adds, rfl⟩ := merges
      have keyEq := keeps (some existing) element entry adds (by simpa using here)
      refine ⟨⟨entry, ?_, by rw [entryAt_cons, if_pos keyEq]⟩, ?_⟩
      · rw [entryAt_cons, if_pos here]
        exact adds
      · intro name other
        rw [entryAt_cons, entryAt_cons, if_neg (by rw [keyEq]; exact other.symm),
          if_neg (by rw [here]; exact other.symm)]
    · simp only [bind_eq_ok_iff, pure_eq_ok_iff] at merges
      obtain ⟨merged, mergesRest, rfl⟩ := merges
      obtain ⟨⟨entry, adds, found⟩, others⟩ := ih mergesRest
      refine ⟨⟨entry, ?_, ?_⟩, ?_⟩
      · rw [entryAt_cons, if_neg here]
        exact adds
      · rw [entryAt_cons, if_neg here]
        exact found
      · intro name other
        rw [entryAt_cons, entryAt_cons, others name other]

theorem nodup_mergeAt (keeps : Keeps key label add)
    (merges : mergeAt key label add element table = .ok result)
    (nodup : (table.map key).Nodup) : (result.map key).Nodup := by
  induction table generalizing result with
  | nil =>
    simp only [mergeAt, bind_eq_ok_iff, pure_eq_ok_iff] at merges
    obtain ⟨entry, -, rfl⟩ := merges
    exact List.nodup_singleton _
  | cons existing rest ih =>
    rw [List.map_cons, List.nodup_cons] at nodup
    rw [mergeAt] at merges
    split_ifs at merges with here
    · simp only [bind_eq_ok_iff, pure_eq_ok_iff] at merges
      obtain ⟨entry, adds, rfl⟩ := merges
      have keyEq := keeps (some existing) element entry adds (by simpa using here)
      rw [List.map_cons, List.nodup_cons, keyEq, ← here]
      exact nodup
    · simp only [bind_eq_ok_iff, pure_eq_ok_iff] at merges
      obtain ⟨merged, mergesRest, rfl⟩ := merges
      rw [List.map_cons, List.nodup_cons]
      refine ⟨?_, ih mergesRest nodup.2⟩
      rw [← entryAt_eq_none_iff, (mergeAt_spec keeps mergesRest).2 _ here, entryAt_eq_none_iff]
      exact nodup.1

theorem exists_mergeAt {entry : α}
    (adds : add (entryAt key table (label element)) element = .ok entry) :
    ∃ result, mergeAt key label add element table = .ok result := by
  induction table with
  | nil => exact ⟨[entry], by rw [mergeAt, show add none element = .ok entry from adds]; rfl⟩
  | cons existing rest ih =>
    rw [entryAt_cons] at adds
    rw [mergeAt]
    split_ifs at adds ⊢ with here
    · exact ⟨entry :: rest, by rw [adds]; rfl⟩
    · obtain ⟨merged, mergesRest⟩ := ih adds
      exact ⟨existing :: merged, by rw [mergesRest]; rfl⟩

theorem gathered_nil : Gathered key label add [] [] where
  nodup := List.nodup_nil
  entries := fun _ => rfl

theorem Gathered.mergeAt (gathered : Gathered key label add elements table)
    (keeps : Keeps key label add)
    (merges : mergeAt key label add element table = .ok result) :
    Gathered key label add (elements ++ [element]) result where
  nodup := nodup_mergeAt keeps merges gathered.nodup
  entries := by
    obtain ⟨⟨entry, adds, found⟩, others⟩ := mergeAt_spec keeps merges
    intro name
    rw [ofLabel_append]
    by_cases here : label element = name
    · subst here
      have only : ofLabel label (label element) [element] = [element] := by simp [ofLabel]
      rw [only, gather_append_singleton, gathered.entries, found, bind_eq_ok_iff]
      exact ⟨_, rfl, by rw [adds]; rfl⟩
    · have none : ofLabel label name [element] = [] := by simp [ofLabel, here]
      rw [none, List.append_nil, gathered.entries, others name (Ne.symm here)]

theorem gathered_of_foldlM (keeps : Keeps key label add)
    (folds : elements.foldlM (fun table element => mergeAt key label add element table) [] =
      .ok table) : Gathered key label add elements table :=
  foldlM_invariant (fun consumed table => Gathered key label add consumed table)
    (fun _ _ _ _ gathered merges => gathered.mergeAt keeps merges)
    gathered_nil folds

theorem exists_foldlM_mergeAt (keeps : Keeps key label add)
    (gathers : ∀ name, ∃ entry, gather add (ofLabel label name elements) = .ok entry) :
    ∃ table, elements.foldlM (fun table element => mergeAt key label add element table) [] =
      .ok table := by
  have advances : ∀ consumed element rest before, elements = consumed ++ element :: rest →
      Gathered key label add consumed before →
        ∃ after, KeyedMerges.mergeAt key label add element before = .ok after ∧
          Gathered key label add (consumed ++ [element]) after := by
    intro consumed element rest before split gathered
    obtain ⟨entry, runs⟩ := gathers (label element)
    have only : ofLabel label (label element) (element :: rest) =
        element :: ofLabel label (label element) rest := by
      simp [ofLabel]
    rw [split, ofLabel_append, only, gather, List.foldlM_append, bind_eq_ok_iff] at runs
    obtain ⟨earlier, runsEarlier, runs⟩ := runs
    rw [List.foldlM_cons, bind_eq_ok_iff] at runs
    obtain ⟨next, adds, -⟩ := runs
    have same := runsEarlier.symm.trans (gathered.entries (label element))
    rw [Except.ok.injEq] at same
    rw [same, map_eq_ok_iff] at adds
    obtain ⟨added, adds, -⟩ := adds
    obtain ⟨after, merges⟩ := exists_mergeAt adds
    exact ⟨after, merges, gathered.mergeAt keeps merges⟩
  obtain ⟨table, folds, -⟩ := exists_foldlM_of_invariant
    (fun consumed table => Gathered key label add consumed table) advances gathered_nil
  exact ⟨table, folds⟩

end KeyedMerges
