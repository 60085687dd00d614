import Mathlib.Data.Prod.Lex
import Mathlib.Data.String.Basic
import QuickBooks.LevelSearches
import QuickBooks.MirrorTables
import QuickBooks.StableSorts

/-!
# The lineage of a document

The walk goes outward from a document along the stored links in both directions.  The
documents it finds and the ids that the mirror does not hold are together the ball around the
start in the graph of the links.
-/

namespace QuickBooks

namespace Mirror

open LevelSearches StableSorts

structure Lineage where
  root : String
  documents : List DocumentRow
  edges : List DocumentLink
  unresolved : List String

/-- The ids and edges that were met so far, and the ids that were new in this round. -/
structure Walked where
  visited : List String
  edges : List DocumentLink
  next : List String

namespace MirrorTables

variable (tables : MirrorTables)

def linksFrom (qboId : String) : List DocumentLink :=
  (sortedBy LinkRecord.seq (tables.links.filter fun record =>
    record.link.fromQboId = qboId)).map LinkRecord.link

def linksTo (qboId : String) : List DocumentLink :=
  (sortedBy (fun record => toLex (record.link.fromQboId, record.seq))
    (tables.links.filter fun record => record.link.toQboId = qboId)).map LinkRecord.link

def neighbour (current : String) (edge : DocumentLink) : String :=
  if edge.fromQboId = current then edge.toQboId else edge.fromQboId

def visitEdge (current : String) (walked : Walked) (edge : DocumentLink) : Walked :=
  let edges := if edge ∈ walked.edges then walked.edges else walked.edges ++ [edge]
  let id := neighbour current edge
  if id ∈ walked.visited then { walked with edges := edges }
  else ⟨walked.visited ++ [id], edges, walked.next ++ [id]⟩

def visitCurrent (walked : Walked) (current : String) : Walked :=
  (tables.linksFrom current ++ tables.linksTo current).foldl (visitEdge current) walked

/-- Rounds from the ids of the last one, at most so many and none after an empty one. -/
def walk : ℕ → Walked → Walked
  | 0, walked => walked
  | depth + 1, walked =>
    let after := walked.next.foldl tables.visitCurrent { walked with next := [] }
    if after.next = [] then after else walk depth after

def lineage (qboId : String) (maxDepth : ℕ) : Lineage :=
  let walked := tables.walk maxDepth ⟨[qboId], [], [qboId]⟩
  { root := qboId
    documents := sortedBy (fun row : DocumentRow => toLex (row.txnDate, row.qboId))
      (walked.visited.filterMap tables.getDocument)
    edges := walked.edges
    unresolved := walked.visited.filter fun id => (tables.getDocument id).isNone }

/-! ### The walk is a search -/

def neighbours (qboId : String) : List String :=
  (tables.linksFrom qboId ++ tables.linksTo qboId).map (neighbour qboId)

/-- The graph of the links, whichever way they point. -/
def linkGraph : SimpleGraph String where
  Adj first second := first ≠ second ∧ ∃ record ∈ tables.links,
    record.link.fromQboId = first ∧ record.link.toQboId = second ∨
      record.link.fromQboId = second ∧ record.link.toQboId = first
  symm := ⟨fun _ _ adj => ⟨adj.1.symm, adj.2.imp fun _ ends => ⟨ends.1, ends.2.symm⟩⟩⟩
  loopless := ⟨fun _ adj => adj.1 rfl⟩

theorem mem_linksFrom {qboId : String} {link : DocumentLink} :
    link ∈ tables.linksFrom qboId ↔
      (∃ record ∈ tables.links, record.link = link) ∧ link.fromQboId = qboId := by
  simp only [linksFrom, List.mem_map, (perm_sortedBy _).mem_iff, List.mem_filter,
    decide_eq_true_eq]
  constructor
  · rintro ⟨record, ⟨mem, same⟩, rfl⟩
    exact ⟨⟨record, mem, rfl⟩, same⟩
  · rintro ⟨⟨record, mem, rfl⟩, same⟩
    exact ⟨record, ⟨mem, same⟩, rfl⟩

theorem mem_linksTo {qboId : String} {link : DocumentLink} :
    link ∈ tables.linksTo qboId ↔
      (∃ record ∈ tables.links, record.link = link) ∧ link.toQboId = qboId := by
  simp only [linksTo, List.mem_map, (perm_sortedBy _).mem_iff, List.mem_filter,
    decide_eq_true_eq]
  constructor
  · rintro ⟨record, ⟨mem, same⟩, rfl⟩
    exact ⟨⟨record, mem, rfl⟩, same⟩
  · rintro ⟨⟨record, mem, rfl⟩, same⟩
    exact ⟨record, ⟨mem, same⟩, rfl⟩

theorem mem_neighbours_iff {first second : String} (distinct : first ≠ second) :
    second ∈ tables.neighbours first ↔ tables.linkGraph.Adj first second := by
  simp only [neighbours, List.mem_map, List.mem_append, mem_linksFrom, mem_linksTo, linkGraph]
  constructor
  · rintro ⟨link, ⟨⟨record, mem, rfl⟩, starts⟩ | ⟨⟨record, mem, rfl⟩, ends⟩, reached⟩
    · rw [neighbour, if_pos starts] at reached
      exact ⟨distinct, record, mem, .inl ⟨starts, reached⟩⟩
    · unfold neighbour at reached
      split_ifs at reached with starts
      · exact ⟨distinct, record, mem, .inl ⟨starts, reached⟩⟩
      · exact ⟨distinct, record, mem, .inr ⟨reached, ends⟩⟩
  · rintro ⟨-, record, mem, ⟨starts, ends⟩ | ⟨starts, ends⟩⟩
    · refine ⟨record.link, .inl ⟨⟨record, mem, rfl⟩, starts⟩, ?_⟩
      rw [neighbour, if_pos starts, ends]
    · refine ⟨record.link, .inr ⟨⟨record, mem, rfl⟩, ends⟩, ?_⟩
      rw [neighbour, if_neg (starts ▸ distinct.symm), starts]

def searchOf (walked : Walked) : Search String :=
  ⟨walked.visited, walked.next⟩

theorem searchOf_visitCurrent (walked : Walked) (current : String) :
    searchOf (tables.visitCurrent walked current) =
      (tables.neighbours current).foldl Search.visit (searchOf walked) := by
  unfold visitCurrent neighbours
  generalize tables.linksFrom current ++ tables.linksTo current = edges
  induction edges generalizing walked with
  | nil => rfl
  | cons edge edges ih =>
    have one : searchOf (visitEdge current walked edge) =
        (searchOf walked).visit (neighbour current edge) := by
      by_cases seen : neighbour current edge ∈ walked.visited
      · simp [visitEdge, Search.visit, searchOf, seen]
      · simp [visitEdge, Search.visit, searchOf, seen]
    rw [List.foldl_cons, ih, one]
    rfl

theorem searchOf_walk (depth : ℕ) (walked : Walked) :
    searchOf (tables.walk depth walked) =
      levels tables.neighbours depth (searchOf walked) := by
  induction depth generalizing walked with
  | zero => rfl
  | succ depth ih =>
    have round : searchOf (walked.next.foldl tables.visitCurrent { walked with next := [] }) =
        expand tables.neighbours (searchOf walked) := by
      have spread : ∀ (ids : List String) (state : Walked),
          searchOf (ids.foldl tables.visitCurrent state) =
            (ids.flatMap tables.neighbours).foldl Search.visit (searchOf state) := by
        intro ids
        induction ids with
        | nil => exact fun _ => rfl
        | cons id ids more =>
          intro state
          rw [List.foldl_cons, more, searchOf_visitCurrent, List.flatMap_cons, List.foldl_append]
      exact spread _ _
    have next : (walked.next.foldl tables.visitCurrent { walked with next := [] }).next =
        (expand tables.neighbours (searchOf walked)).next := by
      rw [← round]
      rfl
    rw [walk, levels, next]
    split_ifs
    · exact round
    · rw [ih, round]

theorem covers_walk (qboId : String) (maxDepth : ℕ) :
    Covers tables.linkGraph qboId maxDepth
      (searchOf (tables.walk maxDepth ⟨[qboId], [], [qboId]⟩)) := by
  rw [searchOf_walk]
  have start : Covers tables.linkGraph qboId 0 ⟨[qboId], [qboId]⟩ := covers_start
  have covers := covers_levels (fun _ _ distinct => tables.mem_neighbours_iff distinct)
    maxDepth start
  rwa [Nat.zero_add] at covers

theorem perm_split (ids : List String) :
    (((ids.filterMap tables.getDocument).map DocumentRow.qboId) ++
      ids.filter fun id => (tables.getDocument id).isNone).Perm ids := by
  induction ids with
  | nil => exact .refl _
  | cons id ids ih =>
    cases held : tables.getDocument id with
    | none =>
      simp only [List.filterMap_cons, held, List.filter_cons, Option.isNone_none, if_true]
      exact List.perm_middle.trans (ih.cons id)
    | some row =>
      simp only [List.filterMap_cons, held, List.filter_cons, Option.isNone_some,
        Bool.false_eq_true, if_false, List.map_cons, List.cons_append,
        tables.qboId_getDocument held]
      exact ih.cons id

/-- The documents of a lineage, each as the mirror holds it, and the unresolved ids, of which
it holds none, are together the ids within the bound, each once. -/
theorem lineage_is_ball (qboId : String) (maxDepth : ℕ) :
    let found := tables.lineage qboId maxDepth
    let ids := found.documents.map DocumentRow.qboId ++ found.unresolved
    ids.Nodup ∧
      (∀ id, id ∈ ids ↔ tables.linkGraph.edist qboId id ≤ maxDepth) ∧
      (∀ row ∈ found.documents, tables.getDocument row.qboId = some row) ∧
      ∀ id ∈ found.unresolved, tables.getDocument id = none := by
  intro found ids
  have covers := tables.covers_walk qboId maxDepth
  have perm : ids.Perm (tables.walk maxDepth ⟨[qboId], [], [qboId]⟩).visited :=
    (((perm_sortedBy _).map _).append_right _).trans (tables.perm_split _)
  refine ⟨perm.nodup_iff.2 covers.nodup, ?_, ?_, ?_⟩
  · intro id
    rw [perm.mem_iff, ← within_iff_edist_le]
    exact covers.ball id
  · intro row mem
    obtain ⟨id, -, held⟩ := List.mem_filterMap.1 ((perm_sortedBy _).mem_iff.1 mem)
    rw [tables.qboId_getDocument held, held]
  · intro id mem
    exact Option.isNone_iff_eq_none.1 (List.mem_filter.1 mem).2

end MirrorTables

end Mirror

end QuickBooks
