import QuickBooks.MaterialCosting
import QuickBooks.ProcessedDocuments

/-!
# Materials against the raw material account

The exact values of the materials add up to the balance of the raw material
account after every run of receipts and builds in which no line's change is
overwritten by a later line of the same material, unless what is overwritten
cancels out, and in which no statement is refused once positions or entries
were written.
-/

namespace QuickBooks

open ExceptPrograms KeyedTotals StaleWrites TransactionPrograms TransitionRuns
open Ledger

namespace ShopFloor

def OnRawMaterial (key : PostingKey) : Prop :=
  key.account = ⟨Chart.inventoryRaw⟩

instance : DecidablePred OnRawMaterial := fun key =>
  inferInstanceAs (Decidable (key.account = _))

namespace Shop

def materialValue (shop : Shop) : Int :=
  (shop.materials.map fun material => material.totalValue.minor).sum

def rawBalance (shop : Shop) : Int :=
  netOf OnRawMaterial shop.ledger.journal

def TiesOut (shop : Shop) : Prop :=
  shop.materialValue = shop.rawBalance

theorem material_eq_ok_iff {shop : Shop} {materialId : String} {material : Material} :
    shop.material materialId = .ok material ↔
      (shop.materials.find? fun row => row.materialId = materialId) = some material := by
  rw [Shop.material, orRefuse_eq_ok_iff]

theorem material_spec {shop : Shop} {materialId : String} {material : Material}
    (found : shop.material materialId = .ok material) :
    material.materialId = materialId ∧ material ∈ shop.materials := by
  rw [material_eq_ok_iff] at found
  have isRow := List.find?_some found
  exact ⟨of_decide_eq_true isRow, List.mem_of_find?_eq_some found⟩

theorem eq_of_materialId {shop : Shop} {first second : Material}
    (firstMem : first ∈ shop.materials) (secondMem : second ∈ shop.materials)
    (same : first.materialId = second.materialId) : first = second :=
  List.inj_on_of_nodup_map shop.distinct firstMem secondMem same

end Shop

section Writing

variable (arith : DecimalArithmetic)

def Shop.writePositions (shop : Shop) (positions : List MaterialPosition) : Shop :=
  positions.foldl (fun shop position => shop.setMaterialPosition arith position) shop

theorem Shop.materials_writePositions (shop : Shop) (positions : List MaterialPosition) :
    (shop.writePositions arith positions).materials =
      writeRows Material.materialId MaterialPosition.materialId (MaterialPosition.put arith)
        positions shop.materials := by
  induction positions generalizing shop with
  | nil => rfl
  | cons position positions induction =>
    rw [writePositions, List.foldl_cons, ← writePositions, induction]
    rfl

@[simp]
theorem Shop.ledger_writePositions (shop : Shop) (positions : List MaterialPosition) :
    (shop.writePositions arith positions).ledger = shop.ledger := by
  induction positions generalizing shop with
  | nil => rfl
  | cons position positions induction =>
    rw [writePositions, List.foldl_cons, ← writePositions, induction]
    rfl

theorem Shop.materialValue_setLedger (shop : Shop) (ledger : Ledger)
    (positions : List MaterialPosition) :
    ((shop.setLedger ledger).writePositions arith positions).materialValue =
      (shop.writePositions arith positions).materialValue := by
  rw [materialValue, materials_writePositions, materialValue, materials_writePositions]
  rfl

/-- A position computed from a material that was read, which moves its value by
a given amount. -/
structure MovesValue (shop : Shop) (position : MaterialPosition) (change : Int) : Prop where
  known : ∃ material ∈ shop.materials, material.materialId = position.materialId
  moves : ∀ material ∈ shop.materials, material.materialId = position.materialId →
    position.totalValue.minor = material.totalValue.minor + change

theorem materialValue_writePositions {ω : Type} {shop : Shop} {updates : List ω}
    {position : ω → MaterialPosition} {change : ω → Int}
    (computed : ∀ update ∈ updates, MovesValue shop (position update) (change update)) :
    (shop.writePositions arith (updates.map position)).materialValue =
      shop.materialValue + (updates.map change).sum -
        superseded (fun update => (position update).materialId) change updates := by
  have asRows : writeRows Material.materialId MaterialPosition.materialId
      (MaterialPosition.put arith) (updates.map position) shop.materials =
      writeRows Material.materialId (fun update => (position update).materialId)
        (fun update => (position update).put arith) updates shop.materials := by
    rw [writeRows, writeRows, List.foldl_map]
    rfl
  rw [Shop.materialValue, Shop.materials_writePositions, asRows]
  apply sum_writeRows
  · intro update material
    rfl
  · intro first second material
    rfl
  · exact shop.distinct
  · intro update member
    rcases (computed update member).known with ⟨material, materialMem, same⟩
    rw [← same]
    exact List.mem_map_of_mem materialMem
  · intro update member material materialMem same
    exact (computed update member).moves material materialMem same

end Writing

section Positions

variable {arith : DecimalArithmetic} {shop : Shop} {material : Material}

theorem money_eq_ok_iff {α : Type} {outcome : Except MoneyError α} {result : α} :
    money outcome = .ok result ↔ outcome = .ok result := by
  rw [money, mapError_eq_ok_iff]

theorem movesValue_of_read (materialMem : material ∈ shop.materials)
    {position : MaterialPosition} {change : Int}
    (same : position.materialId = material.materialId)
    (moved : position.totalValue.minor = material.totalValue.minor + change) :
    MovesValue shop position change where
  known := ⟨material, materialMem, same.symm⟩
  moves := by
    intro other otherMem otherSame
    rw [Shop.eq_of_materialId otherMem materialMem (otherSame.trans same)]
    exact moved

theorem positionAfter_movesValue (materialMem : material ∈ shop.materials)
    {qty : DecimalNumbers.Decimal} {value : Money} {position : MaterialPosition}
    (computes : positionAfter arith material qty value = .ok position) :
    MovesValue shop position value.minor := by
  simp only [positionAfter, bind_eq_ok_iff, pure_eq_ok_iff, money_eq_ok_iff,
    Money.checkedAdd_eq_ok_iff] at computes
  rcases computes with ⟨newQty, -, newValue, added, newAvg, -, rfl⟩
  exact movesValue_of_read materialMem rfl added

theorem positionWithout_materialId {qty : DecimalNumbers.Decimal} {cost : Money}
    {position : MaterialPosition}
    (computes : positionWithout arith material qty cost = .ok position) :
    position.materialId = material.materialId := by
  simp only [positionWithout, bind_eq_ok_iff, pure_eq_ok_iff] at computes
  rcases computes with ⟨newQty, -, newValue, -, newAvg, -, rfl⟩
  rfl

theorem positionWithout_movesValue (materialMem : material ∈ shop.materials)
    {qty : DecimalNumbers.Decimal} {cost : Money} {position : MaterialPosition}
    (computes : positionWithout arith material qty cost = .ok position) :
    MovesValue shop position (-cost.minor) := by
  simp only [positionWithout, bind_eq_ok_iff, pure_eq_ok_iff, money_eq_ok_iff,
    Money.checkedSub_eq_ok_iff] at computes
  rcases computes with ⟨newQty, -, newValue, taken, newAvg, -, rfl⟩
  exact movesValue_of_read materialMem rfl (taken.trans (Int.sub_eq_add_neg ..))

end Positions

section Receipts

variable (arith : DecimalArithmetic)

/-- The lines of a receipt as they land, with nothing written. -/
def landLines : List PricedLine → Money → Costing (List ReceivedLine × Money)
  | [], total => return ([], total)
  | priced :: rest, total => do
    let (received, total) ← landLine arith priced total
    let (others, total) ← landLines rest total
    return (received :: others, total)

variable {arith}

theorem execute_receiveLines {priced : List PricedLine} {total final : Money}
    {lines : List ReceivedLine} (lands : landLines arith priced total = .ok (lines, final))
    (shop : Shop) :
    execute (receiveLines arith priced total) shop =
      (.ok (lines, final),
        shop.writePositions arith (lines.map ReceivedLine.position)) := by
  induction priced generalizing total lines shop with
  | nil =>
    rw [landLines, pure_eq_ok_iff] at lands
    cases lands
    rfl
  | cons line rest induction =>
    simp only [landLines, bind_eq_ok_iff, pure_eq_ok_iff] at lands
    rcases lands with ⟨⟨received, subtotal⟩, landsHere, ⟨others, last⟩, landsLater, same⟩
    cases same
    rw [receiveLines]
    simp only [execute_bind, execute_ofExcept, landsHere, execute_modify]
    rw [induction landsLater]
    rfl

theorem landLine_spec {line : PricedLine} {total subtotal : Money} {received : ReceivedLine}
    (lands : landLine arith line total = .ok (received, subtotal)) :
    subtotal.minor = total.minor + received.landedCost.minor ∧
      ∀ shop : Shop, line.material ∈ shop.materials →
        MovesValue shop received.position received.landedCost.minor := by
  simp only [landLine, bind_eq_ok_iff, pure_eq_ok_iff, money_eq_ok_iff] at lands
  rcases lands with ⟨landedCost, -, sum, added, qty, -, position, computes, same⟩
  cases same
  refine ⟨Money.checkedAdd_eq_ok_iff.mp added, ?_⟩
  intro shop materialMem
  exact positionAfter_movesValue materialMem computes

theorem landLines_spec {priced : List PricedLine} {total final : Money}
    {lines : List ReceivedLine} (lands : landLines arith priced total = .ok (lines, final)) :
    final.minor = total.minor + (lines.map fun received => received.landedCost.minor).sum ∧
      ∀ shop : Shop, (∀ line ∈ priced, line.material ∈ shop.materials) →
        ∀ received ∈ lines,
          MovesValue shop received.position received.landedCost.minor := by
  induction priced generalizing total lines with
  | nil =>
    rw [landLines, pure_eq_ok_iff] at lands
    cases lands
    simp
  | cons line rest induction =>
    simp only [landLines, bind_eq_ok_iff, pure_eq_ok_iff] at lands
    rcases lands with ⟨⟨received, subtotal⟩, landsHere, ⟨others, last⟩, landsLater, same⟩
    cases same
    have here := landLine_spec landsHere
    have later := induction landsLater
    constructor
    · rw [List.map_cons, List.sum_cons]
      exact later.1.trans (by rw [here.1, add_assoc])
    · intro shop known moved member
      rcases List.mem_cons.mp member with rfl | other
      · exact here.2 shop (known line List.mem_cons_self)
      · exact later.2 shop (fun line lineMem => known line (List.mem_cons_of_mem _ lineMem))
          moved other

theorem priceReceipt_materials {shop : Shop} {receipt : RawMaterialReceipt}
    {priced : List PricedLine} (prices : shop.priceReceipt arith receipt = .ok priced) :
    ∀ line ∈ priced, line.material ∈ shop.materials := by
  simp only [Shop.priceReceipt, check_bind_eq_ok_iff] at prices
  rcases prices with ⟨-, prices⟩
  rw [bind_eq_ok_iff] at prices
  rcases prices with ⟨materials, reads, prices⟩
  rw [bind_eq_ok_iff] at prices
  rcases prices with ⟨allocation, -, same⟩
  rw [pure_eq_ok_iff] at same
  rw [← same]
  intro line member
  rw [← List.map_uncurry_zip_eq_zipWith] at member
  rcases List.mem_map.mp member with ⟨⟨⟨source, material⟩, share⟩, zipped, rfl⟩
  have read := List.of_mem_zip (List.of_mem_zip zipped).1
  rcases exists_of_mem_mapM reads read.2 with ⟨source, -, found⟩
  exact (Shop.material_spec found).2

end Receipts

section Postings

variable {ledger : Ledger}

theorem netOf_journal_recordEntry (selects : PostingKey → Prop) [DecidablePred selects]
    (doc : LedgerDocument) (command : CommandMeta) (entry : JournalEntry) :
    netOf selects ((ledger.recordVersion doc command).recordEntry entry).journal =
      netOf selects ledger.journal + lineTotal selects entry.lines := by
  change netOf selects (ledger.journal ++ [_]) = _
  rw [netOf_append, netOf_cons, lineTotal_stored]
  simp [netOf]

theorem lineTotal_receipt {documentId : String} {receipt : RawMaterialReceipt}
    {total : Money} {entry : JournalEntry}
    (reposts : ledger.Reposts (receiptDocument documentId receipt total) {} (.entry entry)) :
    lineTotal OnRawMaterial entry.lines = total.minor := by
  rcases post_eq_entry reposts.posts with ⟨legs, lines, derivation⟩
  have legs_eq : postingLegs (receiptDocument documentId receipt total) {} =
      .ok [debit (acct Chart.inventoryRaw) total none none,
        credit (acct Chart.inventoryReceivedNotBilled) total none none] := rfl
  have built := derivation.builds
  rw [legs_eq] at built
  cases built
  have unvoided : (receiptDocument documentId receipt total).isVoided = false := rfl
  rw [derivation.lineTotal_eq, unvoided]
  have onRaw : OnRawMaterial (debit (acct Chart.inventoryRaw) total none none).key := rfl
  have offRaw : ¬OnRawMaterial
      (credit (acct Chart.inventoryReceivedNotBilled) total none none).key := by
    change ¬(acct Chart.inventoryReceivedNotBilled = acct Chart.inventoryRaw)
    decide
  simp only [legTotal_cons, if_pos onRaw, if_neg offRaw, legTotal_nil, net_debit]
  simp

theorem varianceLegs_offRaw {variance : Money} {«class» : ClassId} {legs : List Leg}
    (plugs : varianceLegs variance «class» = .ok legs) : legTotal OnRawMaterial legs = 0 := by
  have offRaw : ∀ leg : Leg, leg.account = acct Chart.manufacturingVariance →
      ¬OnRawMaterial leg.key := by
    intro leg account onRaw
    have other : leg.account = acct Chart.inventoryRaw := onRaw
    rw [account] at other
    exact absurd other (by decide)
  rw [varianceLegs] at plugs
  split at plugs
  · simp only [bind_eq_ok_iff, pure_eq_ok_iff] at plugs
    rcases plugs with ⟨shortfall, -, rfl⟩
    rw [legTotal_cons, if_neg (offRaw _ rfl)]
    rfl
  · split at plugs
    · rw [pure_eq_ok_iff] at plugs
      rw [← plugs]
      rfl
    · rw [pure_eq_ok_iff] at plugs
      rw [← plugs, legTotal_cons, if_neg (offRaw _ rfl)]
      rfl

theorem lineTotal_build {documentId : String} {build : NewBuild} {priced : PricedBuild}
    {entry : JournalEntry}
    (reposts : ledger.Reposts (buildDocument documentId build priced) {} (.entry entry)) :
    lineTotal OnRawMaterial entry.lines = -priced.actualMaterial.minor := by
  rcases post_eq_entry reposts.posts with ⟨legs, lines, derivation⟩
  have built : postBuild (buildDocument documentId build priced) = .ok legs :=
    derivation.builds
  have classed : (buildDocument documentId build priced).headerClass = some build.class := rfl
  have finished : namedAccountAmount (buildDocument documentId build priced)
      Chart.inventoryFinished = some priced.finished := rfl
  have raw : namedAccountAmount (buildDocument documentId build priced)
      Chart.inventoryRaw = some priced.actualMaterial := rfl
  have applied : namedAccountAmount (buildDocument documentId build priced)
      Chart.partsLabourApplied = some priced.applied := rfl
  simp only [postBuild, classed, finished, raw, applied, bind_eq_ok_iff, orRefuse_eq_ok_iff,
    pure_eq_ok_iff, Option.some.injEq] at built
  rcases built with ⟨_, rfl, _, rfl, _, rfl, _, rfl, remainder, -, variance, -, plug, plugs,
    rfl⟩
  have unvoided : (buildDocument documentId build priced).isVoided = false := rfl
  rw [derivation.lineTotal_eq, unvoided, legTotal_append, varianceLegs_offRaw plugs]
  have offFinished : ¬OnRawMaterial
      (debit (acct Chart.inventoryFinished) priced.finished none none).key := by
    change ¬(acct Chart.inventoryFinished = acct Chart.inventoryRaw)
    decide
  have onRaw : OnRawMaterial
      (credit (acct Chart.inventoryRaw) priced.actualMaterial none none).key := rfl
  have offApplied : ¬OnRawMaterial
      (credit (acct Chart.partsLabourApplied) priced.applied (some build.class) none).key := by
    change ¬(acct Chart.partsLabourApplied = acct Chart.inventoryRaw)
    decide
  simp only [legTotal_cons, if_neg offFinished, if_pos onRaw, if_neg offApplied, legTotal_nil,
    net_credit]
  simp

end Postings

section PricedBuilds

variable {arith : DecimalArithmetic} {shop : Shop}

theorem components_mem {sheet : BuildSheet} {materials : List Material}
    (reads : shop.components sheet = .ok materials) :
    ∀ material ∈ materials, material ∈ shop.materials := by
  refine foldlM_invariant (fun _ found => ∀ material ∈ found, material ∈ shop.materials)
    ?_ ?_ reads
  · intro _ line before after known step
    cases component : line.componentId with
    | none =>
      rw [component, pure_eq_ok_iff] at step
      rw [← step]
      exact known
    | some materialId =>
      simp only [component] at step
      split at step
      · rw [pure_eq_ok_iff] at step
        rw [← step]
        exact known
      · rw [bind_eq_ok_iff] at step
        rcases step with ⟨material, found, same⟩
        rw [pure_eq_ok_iff] at same
        rw [← same]
        intro other member
        rcases List.mem_append.mp member with old | new
        · exact known other old
        · rw [List.mem_singleton.mp new]
          exact (Shop.material_spec found).2
  · intro material member
    cases member

theorem priceConsumptions_spec {materials : List Material}
    {consumed : List (String × DecimalNumbers.Decimal)} {total final : Money}
    {consumptions : List Consumption}
    (prices : priceConsumptions materials consumed total = .ok (consumptions, final)) :
    final.minor = total.minor + (consumptions.map fun row => row.cost.minor).sum ∧
      ∀ consumption ∈ consumptions, consumption.material ∈ materials := by
  induction consumed generalizing total consumptions with
  | nil =>
    rw [priceConsumptions, pure_eq_ok_iff] at prices
    cases prices
    simp
  | cons row rest induction =>
    simp only [priceConsumptions, bind_eq_ok_iff, pure_eq_ok_iff, money_eq_ok_iff,
      orRefuse_eq_ok_iff] at prices
    rcases prices with ⟨material, found, cost, -, sum, added, ⟨others, last⟩, later, same⟩
    cases same
    have laterSpec := induction later
    have addedHere := Money.checkedAdd_eq_ok_iff.mp added
    constructor
    · rw [List.map_cons, List.sum_cons]
      exact laterSpec.1.trans (by rw [addedHere, add_assoc])
    · intro consumption member
      rcases List.mem_cons.mp member with rfl | other
      · exact List.mem_of_find?_eq_some found
      · exact laterSpec.2 consumption other

theorem priceBuild_spec {build : NewBuild} {priced : PricedBuild}
    (prices : shop.priceBuild arith build = .ok priced) :
    priced.actualMaterial.minor =
        (priced.consumptions.map fun row => row.cost.minor).sum ∧
      ∀ consumption ∈ priced.consumptions, consumption.material ∈ shop.materials := by
  rw [Shop.priceBuild, bind_eq_ok_iff] at prices
  rcases prices with ⟨sheet, -, prices⟩
  rw [bind_eq_ok_iff] at prices
  rcases prices with ⟨materials, reads, prices⟩
  rw [check_bind_eq_ok_iff] at prices
  have known := components_mem reads
  simp only [bind_eq_ok_iff, pure_eq_ok_iff] at prices
  rcases prices with ⟨-, standard, -, finished, -, extended, -, applied, -,
    ⟨consumptions, actualMaterial⟩, priceRows, remainder, -, variance, -, labour, -, rfl⟩
  have rows := priceConsumptions_spec priceRows
  refine ⟨rows.1.trans (zero_add _), ?_⟩
  intro consumption member
  exact known _ (rows.2 consumption member)

end PricedBuilds

section Calls

variable {arith : DecimalArithmetic} {shop : Shop}

theorem execute_onLedger {α : Type} (program : LedgerProgram α) :
    execute (onLedger program) shop =
      ((execute program shop.ledger).1.mapError MfgError.ofLedger,
        shop.setLedger (execute program shop.ledger).2) := by
  rw [onLedger, execute_refusingWith, execute_onPart]

theorem execute_receiveMaterials {documentId : String} {receipt : RawMaterialReceipt}
    {priced : List PricedLine} {lines : List ReceivedLine} {total : Money}
    {entry : JournalEntry} (prices : shop.priceReceipt arith receipt = .ok priced)
    (lands : landLines arith priced Money.zero = .ok (lines, total))
    (reposts : shop.ledger.Reposts (receiptDocument documentId receipt total) {}
      (.entry entry)) :
    execute (receiveMaterials arith documentId receipt) shop =
      (.ok ⟨shop.ledger.nextEntryId, total, lines⟩,
        (shop.writePositions arith (lines.map ReceivedLine.position)).setLedger
          ((shop.ledger.recordVersion (receiptDocument documentId receipt total)
            ⟨"dan", "receive_materials"⟩).recordEntry entry)) := by
  have posts := execute_saveThenPostEntry_of_reposts ⟨"dan", "receive_materials"⟩ reposts
  simp only [receiveMaterials, execute_bind, execute_get, execute_ofExcept, prices,
    execute_receiveLines lands, execute_onLedger, Shop.ledger_writePositions,
    QuickBooks.receiveMaterials, posts]
  rfl

theorem execute_receiveMaterials_of_unpriced {documentId : String}
    {receipt : RawMaterialReceipt} {failure : MfgError}
    (refuses : shop.priceReceipt arith receipt = .error failure) :
    execute (receiveMaterials arith documentId receipt) shop = (.error failure, shop) := by
  simp only [receiveMaterials, execute_bind, execute_get, execute_ofExcept, refuses]

theorem execute_relieveMaterials {consumptions : List Consumption}
    {positions : List MaterialPosition}
    (computes : consumptions.mapM (fun consumption =>
      positionWithout arith consumption.material consumption.qtyActual consumption.cost) =
        .ok positions) (shop : Shop) :
    execute (relieveMaterials arith consumptions) shop =
      (.ok (), shop.writePositions arith positions) := by
  rw [mapM_eq_ok_iff] at computes
  induction computes generalizing shop with
  | nil => rfl
  | cons here later induction =>
    rw [relieveMaterials]
    simp only [execute_bind, execute_ofExcept, here, execute_modify]
    rw [induction]
    rfl

theorem execute_completeBuild_of_unpriced {documentId : String} {build : NewBuild}
    {failure : MfgError} (refuses : shop.priceBuild arith build = .error failure) :
    execute (completeBuild arith documentId build) shop = (.error failure, shop) := by
  simp only [completeBuild, execute_bind, execute_get, execute_ofExcept, refuses]

theorem execute_completeBuild_of_refused {documentId : String} {build : NewBuild}
    {priced : PricedBuild} (prices : shop.priceBuild arith build = .ok priced)
    (refused : ¬∃ entry, shop.ledger.Reposts (buildDocument documentId build priced) {}
      (.entry entry)) :
    ∃ failure, execute (completeBuild arith documentId build) shop =
      (.error failure, shop.setLedger (shop.ledger.recordVersion
        (buildDocument documentId build priced) ⟨"dan", "complete_build"⟩)) := by
  rcases execute_saveThenPostEntry_of_refused ⟨"dan", "complete_build"⟩ refused with
    ⟨failure, refuses⟩
  refine ⟨MfgError.ofLedger failure, ?_⟩
  simp only [completeBuild, execute_bind, execute_get, execute_ofExcept, prices,
    execute_onLedger, QuickBooks.completeBuild, refuses]
  rfl

theorem execute_completeBuild {documentId : String} {build : NewBuild}
    {priced : PricedBuild} {entry : JournalEntry} {positions : List MaterialPosition}
    (prices : shop.priceBuild arith build = .ok priced)
    (reposts : shop.ledger.Reposts (buildDocument documentId build priced) {} (.entry entry))
    (computes : priced.consumptions.mapM (fun consumption =>
      positionWithout arith consumption.material consumption.qtyActual consumption.cost) =
        .ok positions) :
    execute (completeBuild arith documentId build) shop =
      (.ok ⟨shop.ledger.nextEntryId, priced.finished, priced.actualMaterial, priced.applied,
          priced.variance, priced.actualLabour⟩,
        (shop.setLedger ((shop.ledger.recordVersion (buildDocument documentId build priced)
          ⟨"dan", "complete_build"⟩).recordEntry entry)).writePositions arith positions) := by
  have posts := execute_saveThenPostEntry_of_reposts ⟨"dan", "complete_build"⟩ reposts
  simp only [completeBuild, execute_bind, execute_get, execute_ofExcept, prices,
    execute_onLedger, QuickBooks.completeBuild, posts, mapError_ok,
    execute_relieveMaterials computes]
  rfl

end Calls

theorem materialValue_relieved {arith : DecimalArithmetic} {shop : Shop}
    {consumptions : List Consumption} {positions : List MaterialPosition}
    (computes : consumptions.mapM (fun consumption =>
      positionWithout arith consumption.material consumption.qtyActual consumption.cost) =
        .ok positions)
    (known : ∀ consumption ∈ consumptions, consumption.material ∈ shop.materials) :
    (shop.writePositions arith positions).materialValue =
      shop.materialValue + -(consumptions.map fun row => row.cost.minor).sum +
        superseded (fun consumption : Consumption => consumption.material.materialId)
          (fun consumption => consumption.cost.minor) consumptions := by
  rw [mapM_eq_ok_iff] at computes
  let updates := consumptions.zip positions
  have lengths := computes.length_eq
  have asPositions : updates.map Prod.snd = positions :=
    List.map_snd_zip (le_of_eq lengths.symm)
  have asConsumptions : updates.map Prod.fst = consumptions :=
    List.map_fst_zip (le_of_eq lengths)
  have computed : ∀ update ∈ updates,
      positionWithout arith update.1.material update.1.qtyActual update.1.cost =
        .ok update.2 := by
    intro update member
    exact (List.forall₂_iff_zip.mp computes).2 member
  have moved : (shop.writePositions arith (updates.map Prod.snd)).materialValue =
      shop.materialValue + (updates.map fun update => -update.1.cost.minor).sum -
        superseded (fun update => update.2.materialId)
          (fun update => -update.1.cost.minor) updates := by
    apply materialValue_writePositions arith
    intro update member
    apply positionWithout_movesValue _ (computed update member)
    exact known _ (List.of_mem_zip member).1
  have sums : (updates.map fun update => -update.1.cost.minor).sum =
      -(consumptions.map fun row => row.cost.minor).sum := by
    rw [← asConsumptions, List.sum_neg, List.map_map, List.map_map]
    rfl
  have keys : superseded (fun update => update.2.materialId)
      (fun update => -update.1.cost.minor) updates =
      superseded (fun update => update.1.material.materialId)
        (fun update => -update.1.cost.minor) updates :=
    superseded_congr _ fun update member =>
      positionWithout_materialId (computed update member)
  rw [asPositions, sums, keys, superseded_neg, sub_neg_eq_add] at moved
  rw [moved, ← asConsumptions, superseded_map]

section Runs

variable (arith : DecimalArithmetic)

/-- A receipt that is priced lands on every line and is taken by the book, and
what it overwrites of its own landed costs cancels out. -/
def CleanReceipt (shop : Shop) (documentId : String) (receipt : RawMaterialReceipt) : Prop :=
  ∀ priced, shop.priceReceipt arith receipt = .ok priced →
    ∃ lines total entry, landLines arith priced Money.zero = .ok (lines, total) ∧
      shop.ledger.Reposts (receiptDocument documentId receipt total) {} (.entry entry) ∧
      superseded (fun received : ReceivedLine => received.position.materialId)
        (fun received => received.landedCost.minor) lines = 0

/-- A build that is priced and that the book takes can relieve every material,
and what it overwrites of its own costs cancels out. -/
def CleanBuild (shop : Shop) (documentId : String) (build : NewBuild) : Prop :=
  ∀ priced entry, shop.priceBuild arith build = .ok priced →
    shop.ledger.Reposts (buildDocument documentId build priced) {} (.entry entry) →
    (∃ positions, priced.consumptions.mapM (fun consumption => positionWithout arith
      consumption.material consumption.qtyActual consumption.cost) = .ok positions) ∧
      superseded (fun consumption : Consumption => consumption.material.materialId)
        (fun consumption => consumption.cost.minor) priced.consumptions = 0

def CleanCall : ShopCall → Shop → Prop
  | .receive documentId receipt, shop => CleanReceipt arith shop documentId receipt
  | .build documentId newBuild, shop => CleanBuild arith shop documentId newBuild

/-- A refused call leaves the materials and the journal as they were. -/
def LeavesOnRefusal (call : ShopCall) (shop : Shop) : Prop :=
  ∀ failure, (call.result arith shop).1 = some failure →
    (call.run arith shop).materials = shop.materials ∧
      (call.run arith shop).ledger.journal = shop.ledger.journal

variable {arith} {shop : Shop}

theorem rawBalance_of_posted (shop : Shop) {after : Shop} {doc : LedgerDocument} {command : CommandMeta}
    {entry : JournalEntry}
    (posted : after.ledger = (shop.ledger.recordVersion doc command).recordEntry entry) :
    after.rawBalance = shop.rawBalance + lineTotal OnRawMaterial entry.lines := by
  rw [Shop.rawBalance, posted]
  exact netOf_journal_recordEntry OnRawMaterial doc command entry

theorem leavesOnRefusal_of_result {call : ShopCall} {after : Shop} {refusal : Option MfgError}
    (result : call.result arith shop = (refusal, after))
    (unchanged : refusal ≠ none →
      after.materials = shop.materials ∧ after.ledger.journal = shop.ledger.journal) :
    LeavesOnRefusal arith call shop := by
  intro failure refused
  rw [result] at refused
  rw [ShopCall.run, result]
  apply unchanged
  rw [show refusal = some failure from refused]
  exact Option.some_ne_none failure

theorem receipt_keeps {documentId : String} {receipt : RawMaterialReceipt}
    (clean : CleanReceipt arith shop documentId receipt) :
    (shop.TiesOut → ((ShopCall.receive documentId receipt).run arith shop).TiesOut) ∧
      LeavesOnRefusal arith (.receive documentId receipt) shop := by
  cases prices : shop.priceReceipt arith receipt with
  | error failure =>
    have result : (ShopCall.receive documentId receipt).result arith shop =
        (some failure, shop) :=
      congrArg refusal (execute_receiveMaterials_of_unpriced prices)
    refine ⟨?_, leavesOnRefusal_of_result result fun _ => ⟨rfl, rfl⟩⟩
    rw [ShopCall.run, result]
    exact id
  | ok priced =>
    rcases clean priced prices with ⟨lines, total, entry, lands, reposts, cancels⟩
    have result : (ShopCall.receive documentId receipt).result arith shop = (none, _) :=
      congrArg refusal (execute_receiveMaterials prices lands reposts)
    refine ⟨?_, leavesOnRefusal_of_result result fun refused => absurd rfl refused⟩
    intro tiesOut
    rw [ShopCall.run, result]
    have spec := landLines_spec lands
    have moved := materialValue_writePositions arith
      (spec.2 shop (priceReceipt_materials prices))
    have landed : total.minor =
        (lines.map fun received => received.landedCost.minor).sum :=
      spec.1.trans (zero_add _)
    rw [Shop.TiesOut, rawBalance_of_posted shop rfl, lineTotal_receipt reposts]
    change (shop.writePositions arith (lines.map ReceivedLine.position)).materialValue = _
    rw [moved, cancels, tiesOut, landed, sub_zero]

theorem build_keeps {documentId : String} {build : NewBuild}
    (clean : CleanBuild arith shop documentId build) :
    (shop.TiesOut → ((ShopCall.build documentId build).run arith shop).TiesOut) ∧
      LeavesOnRefusal arith (.build documentId build) shop := by
  cases prices : shop.priceBuild arith build with
  | error failure =>
    have result : (ShopCall.build documentId build).result arith shop =
        (some failure, shop) :=
      congrArg refusal (execute_completeBuild_of_unpriced prices)
    refine ⟨?_, leavesOnRefusal_of_result result fun _ => ⟨rfl, rfl⟩⟩
    rw [ShopCall.run, result]
    exact id
  | ok priced =>
    by_cases accepted : ∃ entry, shop.ledger.Reposts (buildDocument documentId build priced) {}
        (.entry entry)
    · rcases accepted with ⟨entry, reposts⟩
      rcases clean priced entry prices reposts with ⟨⟨positions, computes⟩, cancels⟩
      have result : (ShopCall.build documentId build).result arith shop = (none, _) :=
        congrArg refusal (execute_completeBuild prices reposts computes)
      refine ⟨?_, leavesOnRefusal_of_result result fun refused => absurd rfl refused⟩
      intro tiesOut
      rw [ShopCall.run, result]
      have spec := priceBuild_spec prices
      have relieved := materialValue_relieved computes spec.2
      rw [Shop.TiesOut, rawBalance_of_posted shop
        (Shop.ledger_writePositions arith _ positions), lineTotal_build reposts]
      rw [Shop.materialValue_setLedger, relieved, cancels, tiesOut, spec.1, add_zero]
    · rcases execute_completeBuild_of_refused prices accepted with ⟨failure, refuses⟩
      have result : (ShopCall.build documentId build).result arith shop =
          (some failure, shop.setLedger _) := congrArg refusal refuses
      refine ⟨?_, leavesOnRefusal_of_result result fun _ => ⟨rfl, rfl⟩⟩
      rw [ShopCall.run, result]
      exact id

theorem call_keeps {call : ShopCall} (clean : CleanCall arith call shop) :
    (shop.TiesOut → (call.run arith shop).TiesOut) ∧ LeavesOnRefusal arith call shop := by
  cases call with
  | receive documentId receipt => exact receipt_keeps clean
  | build documentId newBuild => exact build_keeps clean

theorem tiesOut_of_nothing
    (noPostings : ∀ posted ∈ shop.ledger.journal, ∀ line ∈ posted.entry.lines,
      line.account ≠ acct Chart.inventoryRaw)
    (noPositions : ∀ material ∈ shop.materials, material.totalValue = Money.zero) :
    shop.TiesOut := by
  have noValue : shop.materialValue = 0 := by
    apply List.sum_eq_zero
    intro value member
    rcases List.mem_map.mp member with ⟨material, materialMem, rfl⟩
    rw [noPositions material materialMem, Money.minor_zero]
  have noBalance : shop.rawBalance = 0 := by
    apply List.sum_eq_zero
    intro net member
    rcases List.mem_map.mp member with ⟨posted, postedMem, rfl⟩
    apply List.sum_eq_zero
    intro amount amountMem
    rcases List.mem_map.mp amountMem with ⟨line, lineMem, rfl⟩
    have elsewhere : ¬OnRawMaterial line.key := noPostings posted postedMem line lineMem
    exact if_neg elsewhere
  rw [Shop.TiesOut, noValue, noBalance]

/-- From a shop without material, every run of clean calls keeps the materials
and the raw material account together, and its refused calls change neither. -/
theorem materials_tie_out (arith : DecimalArithmetic) {shop : Shop}
    (noPostings : ∀ posted ∈ shop.ledger.journal, ∀ line ∈ posted.entry.lines,
      line.account ≠ acct Chart.inventoryRaw)
    (noPositions : ∀ material ∈ shop.materials, material.totalValue = Money.zero)
    (calls : List ShopCall)
    (clean : EveryStep (ShopCall.run arith) (CleanCall arith) shop calls) :
    (∀ taken rest, calls = taken ++ rest →
        (runFrom (ShopCall.run arith) shop taken).TiesOut) ∧
      EveryStep (ShopCall.run arith) (LeavesOnRefusal arith) shop calls := by
  constructor
  · intro taken rest split
    rw [split, everyStep_append] at clean
    exact invariant_of_everyStep Shop.TiesOut
      (fun _ _ tiesOut cleanHere => (call_keeps cleanHere).1 tiesOut)
      (tiesOut_of_nothing noPostings noPositions) clean.1
  · exact clean.mono fun _ _ cleanHere => (call_keeps cleanHere).2

end Runs

section Instances

/-- Decimal arithmetic where sums fit and quotients terminate. -/
def plainArithmetic : DecimalArithmetic where
  add first second :=
    let scale := max first.scale second.scale
    let sum := first.mantissa * 10 ^ (scale - first.scale) +
      second.mantissa * 10 ^ (scale - second.scale)
    if fits : sum.natAbs < 2 ^ 96 then
      some ⟨sum, scale, fits, max_le first.scale_le second.scale_le⟩
    else none
  div first second :=
    if second.mantissa = 0 then none
    else
      (List.range 29).findSome? fun scale =>
        let numerator := first.mantissa * 10 ^ (scale + second.scale)
        let denominator := second.mantissa * 10 ^ first.scale
        if fits : numerator % denominator = 0 ∧
            (numerator / denominator).natAbs < 2 ^ 96 ∧ scale ≤ 28 then
          some ⟨numerator / denominator, scale, fits.2.1, fits.2.2⟩
        else none
  reread number := number

/-- A new book with foam that was never received and a sheet that uses one
board foot of it. -/
def foamShop (ledger : Ledger) : Shop where
  ledger := ledger
  materials := [⟨"foam", .bf, none, Money.zero, DecimalNumbers.Decimal.zero, Money.zero⟩]
  sheets := [
    { sheetId := "float"
      yieldPct := .ofParts 1 0
      labourMinutes := .ofParts 60 0
      labourRate := .fromMinor 2000
      overhead := .fromMinor 500
      lines := [⟨1, some "foam", none, .ofParts 1 0, .bf⟩] }]
  distinct := List.nodup_singleton _

/-- Foam received on the first of March 2027 at the given costs of ten board feet
each. -/
def foamReceipt (costs : List Money) : RawMaterialReceipt where
  poRef := none
  receivedOn := ⟨2027, 3, 1, Eq.refl true⟩
  lines := costs.map fun baseCost => ⟨"foam", .ofParts 10 0, baseCost⟩
  freight := Money.zero

/-- One float built of two board feet. -/
def floatBuild : NewBuild where
  sheetId := "float"
  qtyBuilt := .ofParts 1 0
  consumptions := [("foam", .ofParts 2 0)]
  labourMinutesActual := .ofParts 30 0
  completedOn := ⟨2027, 3, 2, Eq.refl true⟩
  «class» := ⟨"foam"⟩
  note := none

def openShop : Shop :=
  foamShop (createCompany "aquamentor")

def closedShop : Shop :=
  foamShop ((createCompany "aquamentor").after
    [.closePeriod ⟨2027, 3, 31, Eq.refl true⟩ "accountant" "quarter"])

instance (shop : Shop) : Decidable shop.TiesOut :=
  inferInstanceAs (Decidable (_ = _))

/-- A receipt with the same material on two lines keeps the last line's value
only, and a receipt dated in a closed period is refused with its positions
written. -/
theorem receipts_drift :
    (((ShopCall.receive "r1" (foamReceipt [.fromMinor 10000, .fromMinor 5000])).result
        plainArithmetic openShop).1 = none ∧
      ¬((ShopCall.receive "r1" (foamReceipt [.fromMinor 10000, .fromMinor 5000])).run
        plainArithmetic openShop).TiesOut) ∧
      ((ShopCall.receive "r1" (foamReceipt [.fromMinor 10000])).result
        plainArithmetic closedShop).1 =
          some (.ledger (.periodClosed ⟨2027, 3, 31, Eq.refl true⟩)) ∧
      ((ShopCall.receive "r1" (foamReceipt [.fromMinor 10000])).run
        plainArithmetic closedShop).materials ≠ closedShop.materials ∧
      ¬((ShopCall.receive "r1" (foamReceipt [.fromMinor 10000])).run
        plainArithmetic closedShop).TiesOut := by
  decide +kernel

theorem cleanReceipt_of_check {shop : Shop} {documentId : String}
    {receipt : RawMaterialReceipt} {arith : DecimalArithmetic}
    (checks : ((shop.priceReceipt arith receipt).toOption.all fun priced =>
      (landLines arith priced Money.zero).toOption.any fun landed =>
        (execute (QuickBooks.receiveMaterials
            (receiptDocument documentId receipt landed.2)) shop.ledger).1.toOption.isSome &&
          decide (superseded (fun received : ReceivedLine => received.position.materialId)
            (fun received => received.landedCost.minor) landed.1 = 0)) = true) :
    CleanReceipt arith shop documentId receipt := by
  intro priced prices
  rw [prices] at checks
  cases landing : landLines arith priced Money.zero with
  | error failure =>
    rw [Except.toOption, Option.all_some, landing] at checks
    cases checks
  | ok landed =>
    rw [Except.toOption, Option.all_some, landing, Except.toOption, Option.any_some,
      Bool.and_eq_true] at checks
    rcases exists_reposts_of_ok _ checks.1 with ⟨entry, reposts⟩
    exact ⟨landed.1, landed.2, entry, rfl, reposts, of_decide_eq_true checks.2⟩

theorem cleanBuild_of_check {shop : Shop} {documentId : String} {build : NewBuild}
    {arith : DecimalArithmetic}
    (checks : ((shop.priceBuild arith build).toOption.all fun priced =>
      (priced.consumptions.mapM fun consumption => positionWithout arith
          consumption.material consumption.qtyActual consumption.cost).toOption.isSome &&
        decide (superseded (fun consumption : Consumption => consumption.material.materialId)
          (fun consumption => consumption.cost.minor) priced.consumptions = 0)) = true) :
    CleanBuild arith shop documentId build := by
  intro priced entry prices _
  rw [prices, Except.toOption, Option.all_some, Bool.and_eq_true] at checks
  refine ⟨?_, of_decide_eq_true checks.2⟩
  cases computes : priced.consumptions.mapM fun consumption => positionWithout arith
      consumption.material consumption.qtyActual consumption.cost with
  | error failure =>
    rw [computes] at checks
    cases checks.1
  | ok positions => exact ⟨positions, rfl⟩

theorem materials_tie_out_foam :
    let calls : List ShopCall :=
      [.receive "r1" (foamReceipt [.fromMinor 10000]), .build "b1" floatBuild]
    (∀ taken rest, calls = taken ++ rest →
        (runFrom (ShopCall.run plainArithmetic) openShop taken).TiesOut) ∧
      EveryStep (ShopCall.run plainArithmetic) (LeavesOnRefusal plainArithmetic) openShop
        calls := by
  have noPostings : ∀ posted ∈ openShop.ledger.journal, ∀ line ∈ posted.entry.lines,
      line.account ≠ acct Chart.inventoryRaw := by
    intro posted member
    cases member
  have noPositions : ∀ material ∈ openShop.materials, material.totalValue = Money.zero := by
    decide
  refine materials_tie_out plainArithmetic noPostings noPositions _ ⟨?_, ?_, trivial⟩
  · exact cleanReceipt_of_check (by decide +kernel)
  · exact cleanBuild_of_check (by decide +kernel)

/-- The run of the receipt and the build is one that posts both. -/
example : (ShopCall.run plainArithmetic (.build "b1" floatBuild)
    (ShopCall.run plainArithmetic (.receive "r1" (foamReceipt [.fromMinor 10000]))
      openShop)).rawBalance = 8000 := by
  decide +kernel

end Instances

end ShopFloor

end QuickBooks
