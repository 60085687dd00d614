import QuickBooks.BooksPreparation
import QuickBooks.WellFormedLedgers

/-!
# Newest versions

A measure of documents, summed over the newest version of every document,
changes with a saved version by what the document measured before and what it
measures now.
-/

namespace QuickBooks

open KeyedTotals

namespace Ledger

section Sums

variable (measure : LedgerDocument → Int)

def newestTotal (ledger : Ledger) : Int :=
  total (fun row => ledger.isNewest row = true) (fun row => measure row.document)
    ledger.documentVersions

def latestMeasure (ledger : Ledger) (documentId : String) : Int :=
  ((ledger.latestDocumentPayload documentId).map measure).getD 0

variable {ledger : Ledger}

theorem total_newest_of_document (wellFormed : ledger.WellFormed) (documentId : String) :
    total (fun row => ledger.isNewest row = true ∧ row.documentId = documentId)
        (fun row => measure row.document) ledger.documentVersions =
      ledger.latestMeasure measure documentId := by
  have versions : (ledger.versionsOf documentId).Pairwise fun first second =>
      first.version ≠ second.version := by
    rw [← List.pairwise_map, wellFormed.versionNumbers]
    exact List.nodup_range'
  have alone : ledger.documentVersions.Pairwise fun first second =>
      decide (first.documentId = documentId ∧
        first.version = ledger.previousVersion documentId) = true →
      decide (second.documentId = documentId ∧
        second.version = ledger.previousVersion documentId) = true → False := by
    unfold versionsOf at versions
    rw [List.pairwise_filter] at versions
    refine versions.imp ?_
    intro first second differ isFirst isSecond
    rw [decide_eq_true_eq] at isFirst isSecond
    exact differ (decide_eq_true isFirst.1) (decide_eq_true isSecond.1)
      (isFirst.2.trans isSecond.2.symm)
  unfold latestMeasure latestDocumentPayload documentAt
  rw [Option.map_map]
  refine Eq.trans ?_ (total_eq_find? _ (measure ∘ DocumentVersion.document) alone)
  refine total_congr fun row _ => ⟨?_, fun _ => rfl⟩
  rw [isNewest, decide_eq_true_eq, decide_eq_true_eq]
  constructor
  · rintro ⟨newest, rfl⟩
    exact ⟨rfl, newest⟩
  · rintro ⟨rfl, newest⟩
    exact ⟨newest, rfl⟩

theorem newestTotal_recordVersion (wellFormed : ledger.WellFormed) (doc : LedgerDocument)
    (command : CommandMeta) :
    newestTotal measure (ledger.recordVersion doc command) =
      newestTotal measure ledger - latestMeasure measure ledger doc.documentId +
        measure doc := by
  have split := total_split (fun row => ledger.isNewest row = true)
    (fun row => measure row.document) (fun row => row.documentId = doc.documentId)
    ledger.documentVersions
  rw [total_newest_of_document measure wellFormed] at split
  have kept : total (fun row => (ledger.recordVersion doc command).isNewest row = true)
        (fun row => measure row.document) ledger.documentVersions =
      total (fun row => ledger.isNewest row = true ∧ ¬ row.documentId = doc.documentId)
        (fun row => measure row.document) ledger.documentVersions := by
    refine total_congr fun row rowMem => ⟨?_, fun _ => rfl⟩
    rw [isNewest, isNewest, decide_eq_true_eq, decide_eq_true_eq]
    by_cases same : row.documentId = doc.documentId
    · have older := ledger.version_le_previousVersion rowMem
      rw [same, previousVersion_recordVersion]
      rw [same] at older
      constructor
      · intro newest
        omega
      · exact fun both => absurd rfl both.2
    · rw [previousVersion_recordVersion_other ledger doc command (Ne.symm same)]
      simp [same]
  unfold newestTotal
  change total _ _ (ledger.documentVersions ++ [_]) = _
  rw [total_append, kept, total_cons, total_nil, if_pos]
  · dsimp only
    omega
  · rw [isNewest, decide_eq_true_eq, previousVersion_recordVersion]

end Sums

end Ledger

end QuickBooks
