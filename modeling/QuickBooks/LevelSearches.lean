import Mathlib.Combinatorics.SimpleGraph.Metric

/-!
# Searching a graph level by level

A search holds the vertices that were visited and those of the last level.  One round goes
through the neighbours of the last level in order and visits each that was not visited before.
After as many rounds as a bound the visited vertices are the ball of that radius.
-/

namespace LevelSearches

variable {α : Type} [DecidableEq α]

/-- The visited vertices and those that were met for the first time in a round. -/
structure Search (α : Type) where
  visited : List α
  next : List α

namespace Search

def visit (search : Search α) (vertex : α) : Search α :=
  if vertex ∈ search.visited then search
  else ⟨search.visited ++ [vertex], search.next ++ [vertex]⟩

variable {search : Search α} {vertices : List α}

theorem mem_visited_visits {vertex : α} :
    vertex ∈ (vertices.foldl visit search).visited ↔
      vertex ∈ search.visited ∨ vertex ∈ vertices := by
  induction vertices generalizing search with
  | nil => simp
  | cons head vertices ih =>
    rw [List.foldl_cons, ih, visit]
    split_ifs with seen
    · simp only [List.mem_cons]
      constructor
      · rintro (before | later)
        · exact .inl before
        · exact .inr (.inr later)
      · rintro (before | rfl | later)
        · exact .inl before
        · exact .inl seen
        · exact .inr later
    · simp [or_assoc]

theorem nodup_visits (nodup : search.visited.Nodup) :
    (vertices.foldl visit search).visited.Nodup := by
  induction vertices generalizing search with
  | nil => exact nodup
  | cons head vertices ih =>
    apply ih
    unfold visit
    split_ifs with seen
    · exact nodup
    · rw [List.nodup_append]
      refine ⟨nodup, by simp, ?_⟩
      rintro vertex mem other (otherMem : other ∈ [head]) rfl
      rw [List.mem_singleton] at otherMem
      exact seen (otherMem ▸ mem)

theorem before_or_new {before : List α}
    (split : ∀ vertex ∈ search.visited, vertex ∈ before ∨ vertex ∈ search.next) :
    ∀ vertex ∈ (vertices.foldl visit search).visited,
      vertex ∈ before ∨ vertex ∈ (vertices.foldl visit search).next := by
  induction vertices generalizing search with
  | nil => exact split
  | cons head vertices ih =>
    apply ih
    unfold visit
    split_ifs with seen
    · exact split
    · simp only [List.mem_append]
      rintro vertex (held | new)
      · exact (split vertex held).imp_right .inl
      · exact .inr (.inr new)

theorem next_subset_visits (subset : ∀ vertex ∈ search.next, vertex ∈ search.visited) :
    ∀ vertex ∈ (vertices.foldl visit search).next,
      vertex ∈ (vertices.foldl visit search).visited := by
  induction vertices generalizing search with
  | nil => exact subset
  | cons head vertices ih =>
    apply ih
    unfold visit
    split_ifs with seen
    · exact subset
    · simp only [List.mem_append]
      rintro vertex (before | new)
      · exact .inl (subset vertex before)
      · exact .inr new

end Search

variable (neighbours : α → List α)

def expand (search : Search α) : Search α :=
  (search.next.flatMap neighbours).foldl Search.visit ⟨search.visited, []⟩

/-- Rounds until a bound, or until a round visits nothing new. -/
def levels : ℕ → Search α → Search α
  | 0, search => search
  | bound + 1, search =>
    let found := expand neighbours search
    if found.next = [] then found else levels bound found

theorem levels_succ (bound : ℕ) (search : Search α) :
    levels neighbours (bound + 1) search =
      levels neighbours bound (expand neighbours search) := by
  have idle : ∀ (bound : ℕ) (visited : List α),
      levels neighbours bound ⟨visited, []⟩ = ⟨visited, []⟩ := by
    intro bound visited
    cases bound <;> rfl
  rw [levels]
  split_ifs with none
  · cases found : expand neighbours search with
    | mk visited next =>
      rw [found] at none
      simp only at none
      rw [none, idle]
  · rfl

/-! ### Balls -/

section Balls

omit [DecidableEq α]

variable (graph : SimpleGraph α) (start : α)

def Within (bound : ℕ) (vertex : α) : Prop :=
  ∃ walk : graph.Walk start vertex, walk.length ≤ bound

theorem within_zero_iff (vertex : α) : Within graph start 0 vertex ↔ vertex = start := by
  constructor
  · rintro ⟨walk, le⟩
    exact (walk.eq_of_length_eq_zero (Nat.le_zero.1 le)).symm
  · rintro rfl
    exact ⟨.nil, le_rfl⟩

theorem within_succ_iff (bound : ℕ) (vertex : α) :
    Within graph start (bound + 1) vertex ↔ Within graph start bound vertex ∨
      ∃ last, Within graph start bound last ∧ graph.Adj last vertex := by
  constructor
  · rintro ⟨walk, le⟩
    -- the last step of the walk is the first of the walk back
    have length := walk.length_reverse
    cases back : walk.reverse with
    | nil => exact .inl ⟨.nil, Nat.zero_le _⟩
    | cons adj rest =>
      rw [back, SimpleGraph.Walk.length_cons] at length
      refine .inr ⟨_, ⟨rest.reverse, ?_⟩, adj.symm⟩
      rw [SimpleGraph.Walk.length_reverse]
      omega
  · rintro (⟨walk, le⟩ | ⟨last, ⟨walk, le⟩, adj⟩)
    · exact ⟨walk, Nat.le_succ_of_le le⟩
    · refine ⟨walk.concat adj, ?_⟩
      rw [SimpleGraph.Walk.length_concat]
      exact Nat.succ_le_succ le

theorem within_iff_edist_le (bound : ℕ) (vertex : α) :
    Within graph start bound vertex ↔ graph.edist start vertex ≤ bound := by
  constructor
  · rintro ⟨walk, le⟩
    exact walk.edist_le.trans (by exact_mod_cast le)
  · intro le
    have reachable : graph.Reachable start vertex :=
      graph.reachable_of_edist_ne_top (ne_top_of_le_ne_top (ENat.natCast_ne_top bound) le)
    obtain ⟨walk, length⟩ := reachable.exists_walk_length_eq_edist
    rw [← length] at le
    exact ⟨walk, by exact_mod_cast le⟩

/-- The visited vertices are a ball, and all but the last level have their neighbours in it. -/
structure Covers (bound : ℕ) (search : Search α) : Prop where
  nodup : search.visited.Nodup
  ball : ∀ vertex, vertex ∈ search.visited ↔ Within graph start bound vertex
  level : ∀ vertex ∈ search.next, vertex ∈ search.visited
  closed : ∀ vertex ∈ search.visited, vertex ∉ search.next → ∀ other, graph.Adj vertex other →
    other ∈ search.visited

variable [DecidableEq α] {graph start} {search : Search α} {bound : ℕ}

omit [DecidableEq α] in
theorem covers_start : Covers graph start 0 ⟨[start], [start]⟩ where
  nodup := by simp
  ball vertex := by simp [within_zero_iff]
  level := by simp
  closed := by simp

variable {neighbours} (agrees : ∀ vertex other, vertex ≠ other →
  (other ∈ neighbours vertex ↔ graph.Adj vertex other))

include agrees

theorem Covers.expand (covers : Covers graph start bound search) :
    Covers graph start (bound + 1) (expand neighbours search) := by
  have mem : ∀ vertex, vertex ∈ (LevelSearches.expand neighbours search).visited ↔
      vertex ∈ search.visited ∨ ∃ last ∈ search.next, vertex ∈ neighbours last := by
    intro vertex
    simp [LevelSearches.expand, Search.mem_visited_visits]
  -- a neighbour of a visited vertex is visited, or was met from the last level
  have step : ∀ last ∈ search.visited, ∀ vertex, graph.Adj last vertex →
      vertex ∈ (LevelSearches.expand neighbours search).visited := by
    intro last lastMem vertex adj
    rw [mem]
    by_cases isLast : last ∈ search.next
    · exact .inr ⟨last, isLast, (agrees _ _ adj.ne).2 adj⟩
    · exact .inl (covers.closed last lastMem isLast vertex adj)
  refine ⟨Search.nodup_visits covers.nodup, ?_, ?_, ?_⟩
  · intro vertex
    rw [within_succ_iff]
    constructor
    · intro found
      rcases (mem vertex).1 found with before | ⟨last, lastMem, neighbour⟩
      · exact .inl ((covers.ball vertex).1 before)
      · have visited := covers.level last lastMem
        by_cases same : last = vertex
        · exact .inl ((covers.ball vertex).1 (same ▸ visited))
        · exact .inr ⟨last, (covers.ball last).1 visited, (agrees _ _ same).1 neighbour⟩
    · rintro (before | ⟨last, within, adj⟩)
      · exact (mem vertex).2 (.inl ((covers.ball vertex).2 before))
      · exact step last ((covers.ball last).2 within) vertex adj
  · exact Search.next_subset_visits (by simp)
  · intro vertex visited notNew other adj
    have before : vertex ∈ search.visited :=
      (Search.before_or_new (by simp) vertex visited).resolve_right notNew
    exact step vertex before other adj

theorem covers_levels (rounds : ℕ) (covers : Covers graph start bound search) :
    Covers graph start (bound + rounds) (levels neighbours rounds search) := by
  induction rounds generalizing bound search with
  | zero => exact covers
  | succ rounds ih =>
    rw [levels_succ, ← Nat.succ_add_eq_add_succ]
    exact ih (covers.expand agrees)

end Balls

end LevelSearches
