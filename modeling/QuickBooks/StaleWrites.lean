import Mathlib.Algebra.BigOperators.Group.List.Basic
import Mathlib.Data.List.Nodup
import Mathlib.Tactic.Ring

/-!
# Rows written from values read before

A batch of updates is computed from the rows as they were before the batch and
then applied one by one, each to the rows with its key.  Of several updates of
one row only the last one stays, so the total over the rows grows by the
changes of the batch less those that a later update of the same key overwrites.
-/

namespace StaleWrites

variable {ρ κ ω : Type} [DecidableEq κ]

def writeRow (key : ρ → κ) (target : ω → κ) (put : ω → ρ → ρ) (update : ω)
    (rows : List ρ) : List ρ :=
  rows.map fun row => if key row = target update then put update row else row

def writeRows (key : ρ → κ) (target : ω → κ) (put : ω → ρ → ρ) (updates : List ω)
    (rows : List ρ) : List ρ :=
  updates.foldl (fun rows update => writeRow key target put update rows) rows

/-- The changes of the updates whose key a later update has too. -/
def superseded (target : ω → κ) (change : ω → Int) : List ω → Int
  | [] => 0
  | update :: updates =>
    (if target update ∈ updates.map target then change update else 0) +
      superseded target change updates

theorem superseded_congr {first second : ω → κ} (change : ω → Int) {updates : List ω}
    (same : ∀ update ∈ updates, first update = second update) :
    superseded first change updates = superseded second change updates := by
  induction updates with
  | nil => rfl
  | cons update updates induction =>
    have later : ∀ other ∈ updates, first other = second other :=
      fun other member => same other (List.mem_cons_of_mem update member)
    rw [superseded, superseded, induction later, same update List.mem_cons_self,
      List.map_congr_left later]

theorem superseded_map {ω' : Type} (target : ω → κ) (change : ω → Int)
    (transform : ω' → ω) (updates : List ω') :
    superseded target change (updates.map transform) =
      superseded (fun update => target (transform update))
        (fun update => change (transform update)) updates := by
  induction updates with
  | nil => rfl
  | cons update updates induction =>
    rw [List.map_cons, superseded, superseded, induction, List.map_map]
    rfl

theorem superseded_neg (target : ω → κ) (change : ω → Int) (updates : List ω) :
    superseded target (fun update => -change update) updates =
      -superseded target change updates := by
  induction updates with
  | nil => rfl
  | cons update updates induction =>
    rw [superseded, superseded, induction]
    split
    · ring
    · ring

section Batches

variable {key : ρ → κ} {target : ω → κ} {put : ω → ρ → ρ}

theorem writeRows_cons (update : ω) (updates : List ω) (rows : List ρ) :
    writeRows key target put (update :: updates) rows =
      writeRows key target put updates (writeRow key target put update rows) :=
  rfl

theorem map_key_writeRow (keepsKey : ∀ update row, key (put update row) = key row)
    (update : ω) (rows : List ρ) :
    (writeRow key target put update rows).map key = rows.map key := by
  rw [writeRow, List.map_map]
  apply List.map_congr_left
  intro row _
  simp only [Function.comp_apply]
  split
  · exact keepsKey update row
  · rfl

theorem writeRows_of_superseded (keepsKey : ∀ update row, key (put update row) = key row)
    (absorbs : ∀ first second row, put second (put first row) = put second row)
    {update : ω} {updates : List ω} (overwritten : target update ∈ updates.map target)
    (rows : List ρ) :
    writeRows key target put updates (writeRow key target put update rows) =
      writeRows key target put updates rows := by
  induction updates generalizing rows with
  | nil => cases overwritten
  | cons later updates induction =>
    rw [writeRows_cons, writeRows_cons]
    by_cases same : target update = target later
    · congr 1
      simp only [writeRow, List.map_map]
      apply List.map_congr_left
      intro row _
      simp only [Function.comp_apply, same]
      by_cases here : key row = target later
      · rw [if_pos here, keepsKey, if_pos here, absorbs, if_pos here]
      · rw [if_neg here, if_neg here]
    · have remains : target update ∈ updates.map target := by
        rw [List.map_cons, List.mem_cons] at overwritten
        exact overwritten.resolve_left same
      have commutes : writeRow key target put later (writeRow key target put update rows) =
          writeRow key target put update (writeRow key target put later rows) := by
        simp only [writeRow, List.map_map]
        apply List.map_congr_left
        intro row _
        simp only [Function.comp_apply]
        by_cases first : key row = target update
        · have other : key row ≠ target later := fun second => same (first.symm.trans second)
          rw [if_pos first, keepsKey, if_neg other, if_neg other, if_pos first]
        · rw [if_neg first]
          by_cases second : key row = target later
          · rw [if_pos second, keepsKey, if_neg first]
          · rw [if_neg second, if_neg first]
      rw [commutes, induction remains]

theorem sum_writeRow {value : ρ → Int} {change : Int} {update : ω} {rows : List ρ}
    (distinct : (rows.map key).Nodup) (present : target update ∈ rows.map key)
    (changes : ∀ row ∈ rows, key row = target update →
      value (put update row) = value row + change) :
    ((writeRow key target put update rows).map value).sum =
      (rows.map value).sum + change := by
  induction rows with
  | nil => cases present
  | cons row rows induction =>
    rw [List.map_cons, List.nodup_cons] at distinct
    rw [writeRow, List.map_cons, List.map_cons, List.sum_cons, ← writeRow, List.map_cons,
      List.sum_cons]
    by_cases here : key row = target update
    · have untouched : writeRow key target put update rows = rows := by
        refine (List.map_congr_left ?_).trans (List.map_id rows)
        intro other member
        rw [if_neg, id_eq]
        intro same
        apply distinct.1
        rw [here, ← same]
        exact List.mem_map_of_mem member
      rw [if_pos here, changes row List.mem_cons_self here, untouched]
      ring
    · have later : target update ∈ rows.map key := by
        rw [List.map_cons, List.mem_cons] at present
        exact present.resolve_left fun same => here same.symm
      rw [if_neg here, induction distinct.2 later fun other member =>
        changes other (List.mem_cons_of_mem row member)]
      ring

theorem sum_writeRows {value : ρ → Int} {change : ω → Int}
    (keepsKey : ∀ update row, key (put update row) = key row)
    (absorbs : ∀ first second row, put second (put first row) = put second row)
    {updates : List ω} {rows : List ρ} (distinct : (rows.map key).Nodup)
    (present : ∀ update ∈ updates, target update ∈ rows.map key)
    (changes : ∀ update ∈ updates, ∀ row ∈ rows, key row = target update →
      value (put update row) = value row + change update) :
    ((writeRows key target put updates rows).map value).sum =
      (rows.map value).sum + (updates.map change).sum -
        superseded target change updates := by
  induction updates generalizing rows with
  | nil => simp [writeRows, superseded]
  | cons update updates induction =>
    have presentHere := present update List.mem_cons_self
    have presentLater : ∀ later ∈ updates, target later ∈ rows.map key :=
      fun later member => present later (List.mem_cons_of_mem update member)
    have changesLater : ∀ later ∈ updates, ∀ row ∈ rows, key row = target later →
        value (put later row) = value row + change later :=
      fun later member => changes later (List.mem_cons_of_mem update member)
    rw [writeRows_cons, superseded, List.map_cons, List.sum_cons]
    by_cases overwritten : target update ∈ updates.map target
    · rw [writeRows_of_superseded keepsKey absorbs overwritten,
        induction distinct presentLater changesLater, if_pos overwritten]
      ring
    · have keys : (writeRow key target put update rows).map key = rows.map key :=
        map_key_writeRow keepsKey update rows
      rw [induction (by rw [keys]; exact distinct)
        (by intro later member; rw [keys]; exact presentLater later member),
        sum_writeRow distinct presentHere (changes update List.mem_cons_self),
        if_neg overwritten]
      · ring
      · -- no later update reads a row that this one wrote
        intro later member row rowMember same
        rcases List.mem_map.mp rowMember with ⟨old, oldMember, rfl⟩
        by_cases here : key old = target update
        · rw [if_pos here, keepsKey] at same
          have shared : target update = target later := here.symm.trans same
          rw [shared] at overwritten
          exact absurd (List.mem_map_of_mem member) overwritten
        · rw [if_neg here] at same ⊢
          exact changesLater later member old oldMember same

end Batches

end StaleWrites
