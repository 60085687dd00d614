import QuickBooks.ExceptPrograms
import Mathlib.Algebra.BigOperators.Group.List.Basic
import Mathlib.Algebra.Ring.Int.Defs
import Mathlib.Order.Lattice

/-!
# Ordered tables

A table holds values under keys and is read in the order of its keys, as an
ordered map of the standard library is.  The order is a field, so that what is
stored under each key determines the whole table.
-/

namespace OrderedTables

open ExceptPrograms

structure OrderedTable (κ ν : Type) [LinearOrder κ] where
  entries : List (κ × ν)
  ordered : entries.Pairwise fun first second => first.1 < second.1

variable {κ ν : Type} [LinearOrder κ]

/-- The entries with a value at a key, in place of the one it had. -/
def insertEntry (key : κ) (value : ν) : List (κ × ν) → List (κ × ν)
  | [] => [(key, value)]
  | (existing, old) :: rest =>
    if key < existing then (key, value) :: (existing, old) :: rest
    else if key = existing then (key, value) :: rest
    else (existing, old) :: insertEntry key value rest

def lookup (entries : List (κ × ν)) (key : κ) : Option ν :=
  (entries.find? fun entry => entry.1 = key).map Prod.snd

section Entries

variable {key other : κ} {value : ν} {entries : List (κ × ν)}

theorem mem_insertEntry {entry : κ × ν} (entryMem : entry ∈ insertEntry key value entries) :
    entry = (key, value) ∨ entry ∈ entries := by
  induction entries with
  | nil => exact .inl (List.mem_singleton.mp entryMem)
  | cons head rest ih =>
    obtain ⟨existing, old⟩ := head
    unfold insertEntry at entryMem
    split_ifs at entryMem with before same
    · exact List.mem_cons.mp entryMem
    · rcases List.mem_cons.mp entryMem with new | inRest
      · exact .inl new
      · exact .inr (List.mem_cons_of_mem _ inRest)
    · rcases List.mem_cons.mp entryMem with isHead | inRest
      · exact .inr (isHead ▸ List.mem_cons_self)
      · exact (ih inRest).imp_right (List.mem_cons_of_mem _)

theorem ordered_insertEntry
    (ordered : entries.Pairwise fun first second => first.1 < second.1) :
    (insertEntry key value entries).Pairwise fun first second => first.1 < second.1 := by
  induction entries with
  | nil => exact List.pairwise_singleton _ _
  | cons head rest ih =>
    obtain ⟨existing, old⟩ := head
    rw [List.pairwise_cons] at ordered
    unfold insertEntry
    split_ifs with before same
    · refine List.pairwise_cons.mpr ⟨?_, List.pairwise_cons.mpr ordered⟩
      intro entry entryMem
      rcases List.mem_cons.mp entryMem with isHead | inRest
      · rw [isHead]
        exact before
      · exact before.trans (ordered.1 entry inRest)
    · subst same
      exact List.pairwise_cons.mpr ordered
    · refine List.pairwise_cons.mpr ⟨?_, ih ordered.2⟩
      intro entry entryMem
      rcases mem_insertEntry entryMem with new | inRest
      · rw [new]
        exact lt_of_le_of_ne (not_lt.mp before) (Ne.symm same)
      · exact ordered.1 entry inRest

@[simp]
theorem lookup_nil : lookup ([] : List (κ × ν)) key = none :=
  rfl

theorem lookup_cons {head : κ × ν} :
    lookup (head :: entries) key =
      if head.1 = key then some head.2 else lookup entries key := by
  unfold lookup
  rw [List.find?_cons]
  split_ifs with same <;> simp [same]

theorem lookup_eq_none (absent : ∀ entry ∈ entries, entry.1 ≠ key) :
    lookup entries key = none := by
  induction entries with
  | nil => rfl
  | cons head rest ih =>
    rw [lookup_cons, if_neg (absent head List.mem_cons_self)]
    exact ih fun entry entryMem => absent entry (List.mem_cons_of_mem _ entryMem)

theorem lookup_insertEntry :
    lookup (insertEntry key value entries) other =
      if key = other then some value else lookup entries other := by
  induction entries with
  | nil => rw [insertEntry, lookup_cons]
  | cons head rest ih =>
    obtain ⟨existing, old⟩ := head
    unfold insertEntry
    split_ifs with before same sameKey sameKey sameKey <;>
      simp only [lookup_cons, ih] <;> grind

theorem mem_iff_lookup (ordered : entries.Pairwise fun first second => first.1 < second.1)
    {entry : κ × ν} : entry ∈ entries ↔ lookup entries entry.1 = some entry.2 := by
  induction entries with
  | nil => simp
  | cons head rest ih =>
    rw [List.pairwise_cons] at ordered
    rw [lookup_cons, List.mem_cons, ih ordered.2]
    split_ifs with same
    · have absent := lookup_eq_none fun other otherMem =>
        (same ▸ ordered.1 other otherMem).ne'
      rw [absent]
      grind
    · grind

end Entries

namespace OrderedTable

variable {key other : κ} {value : ν} {table first second : OrderedTable κ ν}

def empty : OrderedTable κ ν :=
  ⟨[], List.Pairwise.nil⟩

def get? (table : OrderedTable κ ν) (key : κ) : Option ν :=
  lookup table.entries key

def insert (table : OrderedTable κ ν) (key : κ) (value : ν) : OrderedTable κ ν :=
  ⟨insertEntry key value table.entries, ordered_insertEntry table.ordered⟩

/-- Store at a key what a change makes of the value there, if any. -/
def alterM {ε : Type} (table : OrderedTable κ ν) (key : κ)
    (change : Option ν → Except ε ν) : Except ε (OrderedTable κ ν) := do
  let value ← change (table.get? key)
  return table.insert key value

@[simp]
theorem get?_empty : (empty : OrderedTable κ ν).get? key = none :=
  rfl

theorem get?_insert :
    (table.insert key value).get? other =
      if key = other then some value else table.get? other :=
  lookup_insertEntry

theorem mem_entries {entry : κ × ν} :
    entry ∈ table.entries ↔ table.get? entry.1 = some entry.2 :=
  mem_iff_lookup table.ordered

theorem alterM_eq_ok_iff {ε : Type} {change : Option ν → Except ε ν}
    {after : OrderedTable κ ν} :
    table.alterM key change = .ok after ↔
      ∃ value, change (table.get? key) = .ok value ∧ table.insert key value = after := by
  unfold alterM
  simp only [bind_eq_ok_iff, pure_eq_ok_iff]

theorem get?_foldlM_alterM {ε ι : Type} {keyOf : ι → κ} {change : ι → Option ν → Except ε ν}
    {elements : List ι} {before after : OrderedTable κ ν}
    (succeeds : elements.foldlM (fun table element =>
      table.alterM (keyOf element) (change element)) before = .ok after) (key : κ) :
    (elements.filter fun element => keyOf element = key).foldlM
        (fun held element => some <$> change element held) (before.get? key) =
      .ok (after.get? key) := by
  induction elements generalizing before with
  | nil =>
    rw [List.foldlM_nil, pure_eq_ok_iff] at succeeds
    rw [succeeds]
    rfl
  | cons element elements ih =>
    rw [List.foldlM_cons, bind_eq_ok_iff] at succeeds
    obtain ⟨middle, altered, rest⟩ := succeeds
    obtain ⟨value, changed, rfl⟩ := alterM_eq_ok_iff.mp altered
    have later := ih rest
    rw [get?_insert] at later
    by_cases same : keyOf element = key
    · rw [if_pos same] at later
      rw [List.filter_cons_of_pos (by simpa using same), List.foldlM_cons,
        bind_eq_ok_iff]
      rw [same] at changed
      exact ⟨some value, map_eq_ok_iff.mpr ⟨value, changed, rfl⟩, later⟩
    · rw [if_neg same] at later
      rw [List.filter_cons_of_neg (by simpa using same)]
      exact later

@[ext]
theorem ext (same : ∀ key, first.get? key = second.get? key) : first = second := by
  have sameEntries : first.entries = second.entries := by
    have distinct : ∀ table : OrderedTable κ ν, table.entries.Nodup := by
      intro table
      refine List.Pairwise.imp ?_ table.ordered
      rintro entry other before rfl
      exact lt_irrefl _ before
    have rearranged : first.entries.Perm second.entries := by
      rw [List.perm_ext_iff_of_nodup (distinct first) (distinct second)]
      intro entry
      rw [mem_entries, mem_entries, same]
    refine rearranged.eq_of_pairwise ?_ first.ordered second.ordered
    intro entry other _ _ before after
    exact absurd (before.trans after) (lt_irrefl _)
  cases first
  cases second
  simpa using sameEntries

end OrderedTable

end OrderedTables
