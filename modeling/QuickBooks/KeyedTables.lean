import Mathlib.Data.List.Nodup

/-!
# Tables with a key

A table is a list of rows with pairwise distinct keys.  An upsert replaces the
row that has the key of the new one, or adds the new one at the end; it loses
no key and keeps the keys distinct.
-/

namespace KeyedTables

variable {ρ κ : Type} [DecidableEq κ]

/-- Insert a row or replace the one with the same key. -/
def upsert (key : ρ → κ) (row : ρ) (rows : List ρ) : List ρ :=
  if rows.any fun existing => key existing = key row then
    rows.map fun existing => if key existing = key row then row else existing
  else rows ++ [row]

variable (key : ρ → κ) (row : ρ) (rows : List ρ)

theorem mem_upsert {candidate : ρ} (candidateMem : candidate ∈ upsert key row rows) :
    candidate = row ∨ candidate ∈ rows ∧ key candidate ≠ key row := by
  unfold upsert at candidateMem
  split_ifs at candidateMem with present
  · obtain ⟨existing, existingMem, rfl⟩ := List.mem_map.mp candidateMem
    split_ifs with same
    · exact .inl rfl
    · exact .inr ⟨existingMem, same⟩
  · rcases List.mem_append.mp candidateMem with old | new
    · right
      refine ⟨old, ?_⟩
      intro same
      exact present (List.any_eq_true.mpr ⟨candidate, old, by simpa using same⟩)
    · exact .inl (List.mem_singleton.mp new)

theorem mem_upsert_row : row ∈ upsert key row rows := by
  unfold upsert
  split_ifs with present
  · obtain ⟨existing, existingMem, same⟩ := List.any_eq_true.mp present
    exact List.mem_map.mpr ⟨existing, existingMem, if_pos (of_decide_eq_true same)⟩
  · simp

theorem mem_upsert_of_ne {candidate : ρ} (candidateMem : candidate ∈ rows)
    (other : key candidate ≠ key row) : candidate ∈ upsert key row rows := by
  unfold upsert
  split_ifs
  · exact List.mem_map.mpr ⟨candidate, candidateMem, if_neg other⟩
  · exact List.mem_append_left _ candidateMem

theorem exists_mem_upsert {candidate : ρ} (candidateMem : candidate ∈ rows) :
    ∃ kept ∈ upsert key row rows, key kept = key candidate := by
  by_cases same : key candidate = key row
  · exact ⟨row, mem_upsert_row key row rows, same.symm⟩
  · exact ⟨candidate, mem_upsert_of_ne key row rows candidateMem same, rfl⟩

theorem find?_upsert (wanted : κ) :
    (upsert key row rows).find? (fun other => key other = wanted) =
      if key row = wanted then some row else rows.find? fun other => key other = wanted := by
  unfold upsert
  by_cases present : (rows.any fun existing => key existing = key row) = true
  · rw [if_pos present, List.find?_map]
    have sameKeys : (fun other => decide (key other = wanted)) ∘
        (fun existing => if key existing = key row then row else existing) =
          fun other => decide (key other = wanted) := by
      funext existing
      dsimp only [Function.comp_apply]
      split_ifs with same
      · rw [same]
      · rfl
    rw [sameKeys]
    cases found : rows.find? fun other => decide (key other = wanted) with
    | none =>
      obtain ⟨existing, existingMem, same⟩ := List.any_eq_true.mp present
      have notWanted : key existing ≠ wanted := by
        simpa using List.find?_eq_none.mp found existing existingMem
      rw [of_decide_eq_true same] at notWanted
      rw [if_neg notWanted]
      rfl
    | some other =>
      have isOther : key other = wanted := by simpa using List.find?_some found
      by_cases isWanted : key row = wanted
      · simp [isOther, isWanted]
      · have different : ¬ wanted = key row := fun same => isWanted same.symm
        simp [isOther, isWanted, different]
  · rw [if_neg present, List.find?_append]
    split_ifs with isWanted
    · have absent : (rows.find? fun other => decide (key other = wanted)) = none := by
        rw [List.find?_eq_none]
        intro existing existingMem same
        exact present (List.any_eq_true.mpr
          ⟨existing, existingMem, by simpa [isWanted] using same⟩)
      simp [absent, isWanted]
    · simp [isWanted]

theorem nodup_upsert {key : ρ → κ} {row : ρ} {rows : List ρ}
    (distinct : (rows.map key).Nodup) : ((upsert key row rows).map key).Nodup := by
  unfold upsert
  split_ifs with present
  · have sameKeys : ((rows.map fun existing =>
        if key existing = key row then row else existing).map key) = rows.map key := by
      rw [List.map_map]
      apply List.map_congr_left
      intro existing _
      by_cases same : key existing = key row <;> simp [same]
    rw [sameKeys]
    exact distinct
  · rw [List.map_append, List.map_singleton]
    apply List.Nodup.append distinct (List.nodup_singleton _)
    intro shared sharedMem isNew
    obtain ⟨existing, existingMem, rfl⟩ := List.mem_map.mp sharedMem
    rw [List.mem_singleton] at isNew
    exact present (List.any_eq_true.mpr ⟨existing, existingMem, by simpa using isNew⟩)

theorem foldl_upsert_eq_append {key : ρ → κ} {rows added : List ρ}
    (distinct : ((rows ++ added).map key).Nodup) :
    added.foldl (fun rows row => upsert key row rows) rows = rows ++ added := by
  induction added generalizing rows with
  | nil => simp
  | cons row added ih =>
    have absent : ¬(rows.any fun existing => key existing = key row) = true := by
      intro present
      obtain ⟨existing, existingMem, same⟩ := List.any_eq_true.mp present
      rw [List.map_append] at distinct
      refine List.disjoint_of_nodup_append distinct (List.mem_map_of_mem existingMem) ?_
      rw [of_decide_eq_true same]
      exact List.mem_map_of_mem (.head _)
    have first : upsert key row rows = rows ++ [row] := if_neg absent
    rw [List.foldl_cons, first, ih (by simpa using distinct), List.append_assoc,
      List.singleton_append]

theorem find?_eq_some_of_nodup {key : ρ → κ} {row : ρ} {rows : List ρ}
    (distinct : (rows.map key).Nodup) (rowMem : row ∈ rows) :
    (rows.find? fun other => key other = key row) = some row := by
  induction rows with
  | nil => exact absurd rowMem List.not_mem_nil
  | cons first rest ih =>
    rw [List.map_cons, List.nodup_cons] at distinct
    rcases List.mem_cons.mp rowMem with here | later
    · rw [here]
      exact List.find?_cons_of_pos (decide_eq_true rfl)
    · have differs : key first ≠ key row := by
        intro same
        rw [same] at distinct
        exact distinct.1 (List.mem_map_of_mem later)
      rw [List.find?_cons_of_neg (by simpa using differs)]
      exact ih distinct.2 later

theorem perm_of_find?_eq {key : ρ → κ} {rows others : List ρ} (distinct : (rows.map key).Nodup)
    (othersDistinct : (others.map key).Nodup)
    (same : ∀ wanted, (rows.find? fun row => key row = wanted) =
      others.find? fun row => key row = wanted) : rows.Perm others := by
  rw [List.perm_ext_iff_of_nodup (List.Nodup.of_map key distinct)
    (List.Nodup.of_map key othersDistinct)]
  intro row
  constructor
  · intro rowMem
    have found := find?_eq_some_of_nodup distinct rowMem
    rw [same] at found
    exact List.mem_of_find?_eq_some found
  · intro rowMem
    have found := find?_eq_some_of_nodup othersDistinct rowMem
    rw [← same] at found
    exact List.mem_of_find?_eq_some found

end KeyedTables
