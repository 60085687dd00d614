import Mathlib.Data.List.Induction
import QuickBooks.SettlementPostings

/-!
# What the batches of an export move

A batch holds the settled rows of its id, in their order, and its net is the sum
of what they move.  Its settlement takes that net off the clearing account, and
each of its transactions brings its own amount to the account that the import is
configured with.
-/

namespace QuickBooks

open ExceptPrograms TransactionPrograms TransitionRuns

namespace Authnet

section Rows

def TxnKind.signed : TxnKind → Money → Int
  | sale, amount => amount.minor
  | refund, amount => -amount.minor

/-- What a row moves, in or out. -/
def TransactionRow.signed (row : TransactionRow) : Int :=
  match row.status.txnKind with
  | some kind => kind.signed row.amount
  | none => 0

def rowsOf (batchId : String) (rows : List TransactionRow) : List TransactionRow :=
  rows.filter fun row => row.status.txnKind.isSome && row.batchId = batchId

def netOfBatch (batchId : String) (rows : List TransactionRow) : Int :=
  ((rowsOf batchId rows).map TransactionRow.signed).sum

def batchOrder (rows : List TransactionRow) : List String :=
  ((rows.filter fun row => row.status.txnKind.isSome).map TransactionRow.batchId).eraseDups

theorem batchOrder_append_of_settled (rows : List TransactionRow) {row : TransactionRow}
    {kind : TxnKind} (settled : row.status.txnKind = some kind) :
    batchOrder (rows ++ [row]) =
      if row.batchId ∈ batchOrder rows then batchOrder rows
      else batchOrder rows ++ [row.batchId] := by
  unfold batchOrder
  simp only [List.filter_append, List.map_append, List.eraseDups_append, List.mem_eraseDups]
  rw [List.filter_cons_of_pos (by simp [settled]), List.filter_nil, List.map_singleton]
  split_ifs with known
  · simp [List.removeAll, known]
  · simp [List.removeAll, known, List.eraseDups_cons]

theorem nodup_batchOrder (rows : List TransactionRow) : (batchOrder rows).Nodup := by
  unfold batchOrder
  generalize (rows.filter _).map TransactionRow.batchId = batchIds
  induction batchIds using List.reverseRecOn with
  | nil => exact List.nodup_nil
  | append_singleton batchIds batchId ih =>
    rw [List.eraseDups_append]
    by_cases known : batchId ∈ batchIds
    · simpa [List.removeAll, known] using ih
    · have apart : List.Disjoint batchIds.eraseDups [batchId] := by
        simpa using known
      simpa [List.removeAll, known, List.eraseDups_cons] using
        List.Nodup.append ih (List.nodup_singleton batchId) apart

theorem rowsOf_append_of_settled (rows : List TransactionRow) {row : TransactionRow}
    {kind : TxnKind} (settled : row.status.txnKind = some kind) (batchId : String) :
    rowsOf batchId (rows ++ [row]) =
      rowsOf batchId rows ++ if row.batchId = batchId then [row] else [] := by
  unfold rowsOf
  rw [List.filter_append]
  congr 1
  split_ifs with same <;> simp [settled, same]

theorem rowsOf_eq_nil_of_unseen {rows : List TransactionRow} {batchId : String}
    (unseen : batchId ∉ batchOrder rows) : rowsOf batchId rows = [] := by
  unfold rowsOf
  rw [List.filter_eq_nil_iff]
  intro row rowMem selected
  rw [Bool.and_eq_true, decide_eq_true_eq] at selected
  apply unseen
  unfold batchOrder
  rw [List.mem_eraseDups, ← selected.2]
  exact List.mem_map_of_mem (List.mem_filter.mpr ⟨rowMem, selected.1⟩)

end Rows

section Batches

/-- The batch is made of the settled rows of its id. -/
structure SettlementBatch.MadeOf (batch : SettlementBatch) (rows : List TransactionRow) :
    Prop where
  transactions : (batch.transactions.map fun txn => (txn.txnId, txn.kind.signed txn.amount)) =
    (rowsOf batch.batchId rows).map fun row => (row.transactionId, row.signed)
  net : batch.gross.minor - batch.refunds.minor = netOfBatch batch.batchId rows
  fee : batch.fee = none

variable {rows : List TransactionRow} {row : TransactionRow} {kind : TxnKind}
  {batch after : SettlementBatch}

theorem SettlementBatch.addRow_spec (adds : batch.addRow row kind = .ok after) :
    after.batchId = batch.batchId ∧ after.fee = batch.fee ∧
      after.transactions = batch.transactions ++ [row.txn kind] ∧
      after.gross.minor - after.refunds.minor =
        batch.gross.minor - batch.refunds.minor + kind.signed row.amount := by
  unfold addRow at adds
  cases kind with
  | sale =>
    dsimp only at adds
    rw [bind_eq_ok_iff] at adds
    obtain ⟨gross, sums, adds⟩ := adds
    rw [pure_eq_ok_iff] at adds
    subst adds
    have grossEq := Money.checkedAdd_eq_ok_iff.mp sums
    refine ⟨rfl, rfl, rfl, ?_⟩
    simp only [TxnKind.signed]
    omega
  | refund =>
    dsimp only at adds
    rw [bind_eq_ok_iff] at adds
    obtain ⟨refunds, sums, adds⟩ := adds
    rw [pure_eq_ok_iff] at adds
    subst adds
    have refundsEq := Money.checkedAdd_eq_ok_iff.mp sums
    refine ⟨rfl, rfl, rfl, ?_⟩
    simp only [TxnKind.signed]
    omega

theorem SettlementBatch.MadeOf.addRow (made : batch.MadeOf rows)
    (settled : row.status.txnKind = some kind) (same : row.batchId = batch.batchId)
    (adds : batch.addRow row kind = .ok after) : after.MadeOf (rows ++ [row]) := by
  obtain ⟨sameId, sameFee, transactions, net⟩ := SettlementBatch.addRow_spec adds
  have signedEq : row.signed = kind.signed row.amount := by
    unfold TransactionRow.signed
    rw [settled]
  have ofBatch : rowsOf after.batchId (rows ++ [row]) =
      rowsOf batch.batchId rows ++ [row] := by
    rw [rowsOf_append_of_settled rows settled, sameId, if_pos same]
  refine ⟨?_, ?_, sameFee.trans made.fee⟩
  · rw [transactions, ofBatch, List.map_append, List.map_append, made.transactions]
    simp [TransactionRow.txn, signedEq]
  · unfold netOfBatch
    rw [net, made.net, ofBatch, List.map_append, List.sum_append]
    simp [netOfBatch, signedEq]

theorem SettlementBatch.MadeOf.append_other (made : batch.MadeOf rows)
    (settled : row.status.txnKind = some kind) (other : row.batchId ≠ batch.batchId) :
    batch.MadeOf (rows ++ [row]) := by
  have ofBatch : rowsOf batch.batchId (rows ++ [row]) = rowsOf batch.batchId rows := by
    rw [rowsOf_append_of_settled rows settled, if_neg other, List.append_nil]
  refine ⟨?_, ?_, made.fee⟩
  · rw [ofBatch, made.transactions]
  · rw [made.net]
    unfold netOfBatch
    rw [ofBatch]

theorem addToBatches_spec {batches result : List SettlementBatch}
    (settled : row.status.txnKind = some kind)
    (distinct : (batches.map SettlementBatch.batchId).Nodup)
    (made : ∀ batch ∈ batches, batch.MadeOf rows)
    (fresh : row.batchId ∉ batches.map SettlementBatch.batchId → rowsOf row.batchId rows = [])
    (adds : addToBatches row kind batches = .ok result) :
    result.map SettlementBatch.batchId =
        (if row.batchId ∈ batches.map SettlementBatch.batchId
          then batches.map SettlementBatch.batchId
          else batches.map SettlementBatch.batchId ++ [row.batchId]) ∧
      ∀ batch ∈ result, batch.MadeOf (rows ++ [row]) := by
  induction batches generalizing result with
  | nil =>
    rw [addToBatches, bind_eq_ok_iff] at adds
    obtain ⟨after, adds, isResult⟩ := adds
    rw [pure_eq_ok_iff] at isResult
    subst isResult
    have empty : SettlementBatch.MadeOf
        { batchId := row.batchId, settledOn := row.settlementDate } rows := by
      have noRows : rowsOf row.batchId rows = [] := fresh List.not_mem_nil
      refine ⟨?_, ?_, rfl⟩
      · rw [noRows]
        rfl
      · unfold netOfBatch
        rw [noRows]
        rfl
    refine ⟨?_, ?_⟩
    · simp [(SettlementBatch.addRow_spec adds).1]
    · intro batch batchMem
      rw [List.mem_singleton.mp batchMem]
      exact empty.addRow settled rfl adds
  | cons first rest ih =>
    rw [List.map_cons, List.nodup_cons] at distinct
    rw [addToBatches] at adds
    by_cases same : first.batchId = row.batchId
    · rw [if_pos same, bind_eq_ok_iff] at adds
      obtain ⟨after, adds, isResult⟩ := adds
      rw [pure_eq_ok_iff] at isResult
      subst isResult
      refine ⟨?_, ?_⟩
      · simp [(SettlementBatch.addRow_spec adds).1, same]
      · intro batch batchMem
        rcases List.mem_cons.mp batchMem with rfl | inRest
        · exact (made first List.mem_cons_self).addRow settled same.symm adds
        · refine (made batch (List.mem_cons_of_mem _ inRest)).append_other settled ?_
          intro again
          apply distinct.1
          rw [same, again]
          exact List.mem_map_of_mem inRest
    · rw [if_neg same, bind_eq_ok_iff] at adds
      obtain ⟨after, adds, isResult⟩ := adds
      rw [pure_eq_ok_iff] at isResult
      subst isResult
      have freshRest : row.batchId ∉ rest.map SettlementBatch.batchId →
          rowsOf row.batchId rows = [] := by
        intro notRest
        apply fresh
        rw [List.map_cons, List.mem_cons, not_or]
        exact ⟨fun again => same again.symm, notRest⟩
      obtain ⟨ids, madeRest⟩ := ih distinct.2
        (fun batch batchMem => made batch (List.mem_cons_of_mem _ batchMem)) freshRest adds
      refine ⟨?_, ?_⟩
      · rw [List.map_cons, List.map_cons, ids]
        have notFirst : row.batchId ≠ first.batchId := fun again => same again.symm
        simp only [List.mem_cons, notFirst, false_or]
        split_ifs <;> rfl
      · intro batch batchMem
        rcases List.mem_cons.mp batchMem with rfl | inRest
        · exact (made batch List.mem_cons_self).append_other settled
            fun again => same again.symm
        · exact madeRest batch inRest

/-- The batches so far are those of the rows so far. -/
structure Grouped (rows : List TransactionRow) (batches : List SettlementBatch) : Prop where
  ids : batches.map SettlementBatch.batchId = batchOrder rows
  made : ∀ batch ∈ batches, batch.MadeOf rows

theorem Grouped.collectRow {batches result : List SettlementBatch}
    (grouped : Grouped rows batches)
    (collects : Authnet.collectRow batches row = .ok result) :
    Grouped (rows ++ [row]) result := by
  unfold Authnet.collectRow at collects
  cases status : row.status.txnKind with
  | none =>
    rw [status] at collects
    dsimp only at collects
    rw [pure_eq_ok_iff] at collects
    subst collects
    have ofBatch : ∀ batchId, rowsOf batchId (rows ++ [row]) = rowsOf batchId rows := by
      intro batchId
      simp [rowsOf, status]
    refine ⟨?_, ?_⟩
    · rw [grouped.ids]
      simp [batchOrder, status]
    · intro batch batchMem
      have made := grouped.made batch batchMem
      refine ⟨?_, ?_, made.fee⟩
      · rw [ofBatch, made.transactions]
      · rw [made.net, netOfBatch, netOfBatch, ofBatch]
  | some kind =>
    rw [status] at collects
    have distinct : (batches.map SettlementBatch.batchId).Nodup := by
      rw [grouped.ids]
      exact nodup_batchOrder rows
    have fresh : row.batchId ∉ batches.map SettlementBatch.batchId →
        rowsOf row.batchId rows = [] := by
      rw [grouped.ids]
      exact rowsOf_eq_nil_of_unseen
    obtain ⟨ids, made⟩ := addToBatches_spec status distinct grouped.made fresh collects
    refine ⟨?_, made⟩
    rw [ids, batchOrder_append_of_settled rows status, grouped.ids]

theorem Grouped.foldlM {batches result : List SettlementBatch} (grouped : Grouped rows batches)
    {more : List TransactionRow} (folds : more.foldlM Authnet.collectRow batches = .ok result) :
    Grouped (rows ++ more) result := by
  induction more generalizing rows batches with
  | nil =>
    rw [List.foldlM_nil, pure_eq_ok_iff] at folds
    subst folds
    rw [List.append_nil]
    exact grouped
  | cons row more ih =>
    rw [List.foldlM_cons, bind_eq_ok_iff] at folds
    obtain ⟨middle, collects, folds⟩ := folds
    rw [List.append_cons]
    exact ih (grouped.collectRow collects) folds

/-- What a transaction brings to the clearing account: its amount, when the import
is configured with that account. -/
def AuthnetConfig.brings (config : AuthnetConfig) (amount : Int) : Int :=
  if config.clearing = acct Chart.authnetClearing then amount else 0

/-- What the documents of a batch move on the clearing account: the settlement
takes the net before fees off it, and each transaction brings its own amount. -/
def SettlementBatch.moves (config : AuthnetConfig) (batch : SettlementBatch) :
    List (String × Int) :=
  (settlementId batch.batchId, -batch.netBeforeFees.minor) ::
    batch.transactions.map fun txn =>
      (transactionDocumentId txn.txnId, config.brings (txn.kind.signed txn.amount))

/-- What the documents of an export move on the clearing account, by its rows. -/
def movesOf (config : AuthnetConfig) (rows : List TransactionRow) : List (String × Int) :=
  (batchOrder rows).flatMap fun batchId =>
    (settlementId batchId, -netOfBatch batchId rows) ::
      (rowsOf batchId rows).map fun row =>
        (transactionDocumentId row.transactionId, config.brings row.signed)

theorem groupBatches_spec (config : AuthnetConfig) {batches : List SettlementBatch}
    (groups : groupBatches rows = .ok batches) :
    batches.flatMap (SettlementBatch.moves config) = movesOf config rows ∧
      ∀ batch ∈ batches, batch.fee = none := by
  unfold groupBatches at groups
  rw [bind_eq_ok_iff] at groups
  obtain ⟨collected, folds, nets⟩ := groups
  have empty : Grouped [] [] := ⟨rfl, fun _ batchMem => nomatch batchMem⟩
  have grouped : Grouped rows collected := empty.foldlM folds
  unfold movesOf
  rw [← grouped.ids]
  have made := grouped.made
  clear folds grouped
  induction collected generalizing batches with
  | nil =>
    rw [List.mapM_nil, pure_eq_ok_iff] at nets
    subst nets
    exact ⟨rfl, fun _ batchMem => nomatch batchMem⟩
  | cons batch collected ih =>
    rw [List.mapM_cons, bind_eq_ok_iff] at nets
    obtain ⟨netted, subtracts, nets⟩ := nets
    rw [bind_eq_ok_iff] at nets
    obtain ⟨rest, following, nets⟩ := nets
    rw [pure_eq_ok_iff] at nets
    subst nets
    rw [bind_eq_ok_iff] at subtracts
    obtain ⟨net, isNet, subtracts⟩ := subtracts
    rw [pure_eq_ok_iff] at subtracts
    subst subtracts
    have ofBatch := made batch List.mem_cons_self
    have isNet := Money.checkedSub_eq_ok_iff.mp isNet
    obtain ⟨moves, noFee⟩ := ih following fun other otherMem =>
      made other (List.mem_cons_of_mem _ otherMem)
    refine ⟨?_, ?_⟩
    · rw [List.map_cons, List.flatMap_cons, List.flatMap_cons, moves]
      congr 1
      have transactions := congrArg
        (List.map fun moved : String × Int =>
          (transactionDocumentId moved.1, config.brings moved.2))
        ofBatch.transactions
      rw [List.map_map, List.map_map] at transactions
      unfold SettlementBatch.moves
      dsimp only
      rw [isNet, ofBatch.net]
      exact congrArg _ transactions
    · intro other otherMem
      rcases List.mem_cons.mp otherMem with rfl | inRest
      · exact ofBatch.fee
      · exact noFee other inRest

end Batches

end Authnet

end QuickBooks
