import QuickBooks.MaterialTieOut

/-!
# What a build records

A finished build keeps a row of what it was priced at, with one row for each
consumption, next to the entry it posts.  The variance is computed once for the
row and once more by the posting rules, from the three amounts of the document;
both are what the standard allowed in material less what was drawn.
-/

namespace QuickBooks

open DecimalNumbers ExceptPrograms KeyedTotals TransactionPrograms

namespace ShopFloor

/-- One row of the builds table. -/
structure BuildRow where
  buildId : ℕ
  sheetId : String
  qtyBuilt : Decimal
  completedOn : Date
  standardCost : Money
  actualMaterial : Money
  actualLabour : Money
  variance : Money
  entryId : Option ℕ
  note : Option String
deriving DecidableEq

structure BuildConsumptionRow where
  buildId : ℕ
  lineNo : Int
  materialId : String
  qtyActual : Decimal
  cost : Money
deriving DecidableEq

/-- A shop with the records of its builds. -/
structure BuildBook where
  shop : Shop
  builds : List BuildRow
  buildConsumptions : List BuildConsumptionRow

namespace BuildBook

def setShop (shop : Shop) (book : BuildBook) : BuildBook :=
  { book with shop }

def nextBuildId (book : BuildBook) : ℕ :=
  ((book.builds.map BuildRow.buildId).foldr max 0) + 1

def insertBuild (build : NewBuild) (result : BuildResult) (book : BuildBook) : BuildBook :=
  { book with
    builds := book.builds ++ [{
      buildId := book.nextBuildId
      sheetId := build.sheetId
      qtyBuilt := build.qtyBuilt
      completedOn := build.completedOn
      standardCost := result.standardCost
      actualMaterial := result.actualMaterial
      actualLabour := result.actualLabour
      variance := result.variance
      entryId := some result.entryId
      note := build.note }] }

def consumptionRow (buildId : ℕ) (numbered : Consumption × ℕ) : BuildConsumptionRow where
  buildId := buildId
  lineNo := numbered.2 + 1
  materialId := numbered.1.material.materialId
  qtyActual := numbered.1.qtyActual
  cost := numbered.1.cost

def insertBuildConsumptions (buildId : ℕ) (consumptions : List Consumption)
    (book : BuildBook) : BuildBook :=
  { book with
    buildConsumptions := book.buildConsumptions ++
      consumptions.zipIdx.map (consumptionRow buildId) }

end BuildBook

/-- Finish a build and keep its record. -/
def completeAndRecord (arith : DecimalArithmetic) (documentId : String) (build : NewBuild) :
    Program BuildBook MfgError BuildResult := do
  let book ← get
  let priced ← MonadExcept.ofExcept (book.shop.priceBuild arith build)
  let result ← onPart BuildBook.shop BuildBook.setShop (completeBuild arith documentId build)
  modify (BuildBook.insertBuild build result)
  modify (BuildBook.insertBuildConsumptions book.nextBuildId priced.consumptions)
  return result

section Running

variable {arith : DecimalArithmetic} {shop after : Shop} {documentId : String}
  {build : NewBuild} {result : BuildResult}

theorem ledger_relieveMaterials (consumptions : List Consumption) (shop : Shop) :
    (execute (relieveMaterials arith consumptions) shop).2.ledger = shop.ledger := by
  induction consumptions generalizing shop with
  | nil => rfl
  | cons consumption rest ih =>
    rw [relieveMaterials, execute_bind, execute_ofExcept]
    cases positionWithout arith consumption.material consumption.qtyActual
      consumption.cost with
    | error failure => rfl
    | ok position =>
      exact ih (shop.setMaterialPosition arith position)

theorem execute_completeBuild_eq_ok
    (completes : execute (completeBuild arith documentId build) shop = (.ok result, after)) :
    ∃ priced entry, shop.priceBuild arith build = .ok priced ∧
      shop.ledger.Reposts (buildDocument documentId build priced) {} (.entry entry) ∧
      result = ⟨shop.ledger.nextEntryId, priced.finished, priced.actualMaterial,
        priced.applied, priced.variance, priced.actualLabour⟩ ∧
      after.ledger = (shop.ledger.recordVersion (buildDocument documentId build priced)
        ⟨"dan", "complete_build"⟩).recordEntry entry := by
  cases prices : shop.priceBuild arith build with
  | error failure =>
    rw [execute_completeBuild_of_unpriced prices] at completes
    simp at completes
  | ok priced =>
    by_cases reposts : ∃ entry, shop.ledger.Reposts (buildDocument documentId build priced)
      {} (.entry entry)
    · obtain ⟨entry, reposts⟩ := reposts
      refine ⟨priced, entry, rfl, reposts, ?_⟩
      have posts := execute_saveThenPostEntry_of_reposts ⟨"dan", "complete_build"⟩ reposts
      simp only [completeBuild, execute_bind, execute_get, execute_ofExcept, prices,
        execute_onLedger, QuickBooks.completeBuild, posts, mapError_ok] at completes
      have kept := @ledger_relieveMaterials arith priced.consumptions
        (shop.setLedger ((shop.ledger.recordVersion (buildDocument documentId build priced)
          ⟨"dan", "complete_build"⟩).recordEntry entry))
      rcases relieves : execute (relieveMaterials arith priced.consumptions)
        (shop.setLedger ((shop.ledger.recordVersion (buildDocument documentId build priced)
          ⟨"dan", "complete_build"⟩).recordEntry entry)) with ⟨outcome, relieved⟩
      rw [relieves] at completes kept
      cases outcome with
      | error failure => simp at completes
      | ok relievedValue =>
        simp only [execute_pure, Prod.mk.injEq, Except.ok.injEq] at completes
        obtain ⟨rfl, rfl⟩ := completes
        exact ⟨rfl, kept⟩
    · obtain ⟨failure, refuses⟩ := execute_completeBuild_of_refused prices reposts
      rw [refuses] at completes
      simp at completes

/-- What a build is priced at, each amount from the ones before it. -/
structure PricedAs (arith : DecimalArithmetic) (shop : Shop) (build : NewBuild)
    (priced : PricedBuild) (materialExtended : Money) : Prop where
  extended : ∃ sheet materials standard, shop.buildSheet build.sheetId = .ok sheet ∧
    shop.components sheet = .ok materials ∧
    standardCost arith sheet materials = .ok standard ∧
    extend build.qtyBuilt standard.total = .ok priced.finished ∧
    extend build.qtyBuilt standard.material = .ok materialExtended
  applied : priced.finished.minor = materialExtended.minor + priced.applied.minor
  variance : priced.variance.minor = materialExtended.minor - priced.actualMaterial.minor
  drawn : priced.actualMaterial.minor =
    (priced.consumptions.map fun consumption => consumption.cost.minor).sum
  atAverage : ∀ consumption ∈ priced.consumptions,
    extend consumption.qtyActual consumption.material.avgCost = .ok consumption.cost

theorem priceConsumptions_atAverage {materials : List Material}
    {consumed : List (String × Decimal)} {total final : Money}
    {consumptions : List Consumption}
    (prices : priceConsumptions materials consumed total = .ok (consumptions, final)) :
    ∀ consumption ∈ consumptions,
      extend consumption.qtyActual consumption.material.avgCost = .ok consumption.cost := by
  induction consumed generalizing total consumptions with
  | nil =>
    rw [priceConsumptions, pure_eq_ok_iff, Prod.mk.injEq] at prices
    simp [← prices.1]
  | cons first rest ih =>
    simp only [priceConsumptions, bind_eq_ok_iff, pure_eq_ok_iff, Prod.mk.injEq] at prices
    obtain ⟨material, -, cost, extends_, sum, -, ⟨others, last⟩, later, rfl, rfl⟩ := prices
    intro consumption consumptionMem
    rcases List.mem_cons.mp consumptionMem with rfl | inRest
    · exact extends_
    · exact ih later consumption inRest

theorem priceBuild_pricedAs {priced : PricedBuild}
    (prices : shop.priceBuild arith build = .ok priced) :
    ∃ materialExtended, PricedAs arith shop build priced materialExtended := by
  have rows := (priceBuild_spec prices).1
  rw [Shop.priceBuild, bind_eq_ok_iff] at prices
  obtain ⟨sheet, foundSheet, prices⟩ := prices
  rw [bind_eq_ok_iff] at prices
  obtain ⟨materials, reads, prices⟩ := prices
  rw [check_bind_eq_ok_iff] at prices
  simp only [bind_eq_ok_iff, pure_eq_ok_iff, money_eq_ok_iff, Money.checkedSub_eq_ok_iff]
    at prices
  obtain ⟨-, standard, standardOf, finished, finishes, materialExtended, extends_, applied,
    appliedEq, ⟨consumptions, actualMaterial⟩, priceRows, remainder, remainderEq, variance,
    varianceEq, labour, -, rfl⟩ := prices
  refine ⟨materialExtended, ⟨sheet, materials, standard, foundSheet, reads, standardOf,
    finishes, extends_⟩, ?_, ?_, rows, priceConsumptions_atAverage priceRows⟩
  · change finished.minor = materialExtended.minor + applied.minor
    omega
  · change variance.minor = materialExtended.minor - actualMaterial.minor
    dsimp only at remainderEq
    omega

theorem legTotal_varianceLegs {variance : Money} {«class» : ClassId} {legs : List Leg}
    (plugs : varianceLegs variance «class» = .ok legs) (number : String) :
    legTotal (onAccount number) legs =
      if acct Chart.manufacturingVariance = acct number then -variance.minor else 0 := by
  unfold varianceLegs at plugs
  split at plugs
  · rw [bind_eq_ok_iff] at plugs
    obtain ⟨shortfall, negates, plugs⟩ := plugs
    have shortfallEq := Money.checkedNeg_eq_ok_iff.mp (liftM_money_eq_ok_iff.mp negates)
    rw [pure_eq_ok_iff] at plugs
    rw [← plugs, legTotal_cons, legTotal_nil, net_debit, shortfallEq, add_zero]
    rfl
  · split at plugs
    · rename_i isZero
      rw [pure_eq_ok_iff] at plugs
      rw [← plugs, Money.isZero_iff.mp isZero]
      simp
    · rw [pure_eq_ok_iff] at plugs
      rw [← plugs, legTotal_cons, legTotal_nil, net_credit, add_zero]
      rfl

/-- What the entry of a build puts on an account. -/
def PricedBuild.posted (priced : PricedBuild) (number : String) : Int :=
  (if acct Chart.inventoryFinished = acct number then priced.finished.minor else 0) -
    (if acct Chart.inventoryRaw = acct number then priced.actualMaterial.minor else 0) -
    (if acct Chart.partsLabourApplied = acct number then priced.applied.minor else 0) -
    (if acct Chart.manufacturingVariance = acct number then
      priced.finished.minor - priced.actualMaterial.minor - priced.applied.minor else 0)

theorem lineTotal_posted {ledger : Ledger} {priced : PricedBuild} {entry : JournalEntry}
    (reposts : ledger.Reposts (buildDocument documentId build priced) {} (.entry entry))
    (number : String) :
    lineTotal (onAccount number) entry.lines = priced.posted number := by
  obtain ⟨legs, lines, derivation⟩ := post_eq_entry reposts.posts
  have built : postBuild (buildDocument documentId build priced) = .ok legs :=
    derivation.builds
  have classed : (buildDocument documentId build priced).headerClass = some build.class := rfl
  have finished : namedAccountAmount (buildDocument documentId build priced)
      Chart.inventoryFinished = some priced.finished := rfl
  have raw : namedAccountAmount (buildDocument documentId build priced)
      Chart.inventoryRaw = some priced.actualMaterial := rfl
  have applied : namedAccountAmount (buildDocument documentId build priced)
      Chart.partsLabourApplied = some priced.applied := rfl
  simp only [postBuild, classed, finished, raw, applied, bind_eq_ok_iff, orRefuse_eq_ok_iff,
    pure_eq_ok_iff, Option.some.injEq, liftM_money_eq_ok_iff, Money.checkedSub_eq_ok_iff]
    at built
  obtain ⟨_, rfl, _, rfl, _, rfl, _, rfl, remainder, remainderEq, variance, varianceEq, plug,
    plugs, rfl⟩ := built
  have unvoided : (buildDocument documentId build priced).isVoided = false := rfl
  rw [derivation.lineTotal_eq, unvoided, if_neg Bool.false_ne_true, legTotal_append,
    legTotal_varianceLegs plugs]
  simp only [legTotal_cons, legTotal_nil, key_debit, key_credit, onAccount_mk, net_debit,
    net_credit, PricedBuild.posted, varianceEq, remainderEq]
  split_ifs <;> omega

end Running

section Recording

variable {arith : DecimalArithmetic} {documentId : String} {build : NewBuild}
  {book after : BuildBook} {result : BuildResult}

/-- The rows that a finished build added to the records. -/
structure Recorded (book after : BuildBook) (build : NewBuild) (row : BuildRow)
    (rows : List BuildConsumptionRow) : Prop where
  builds : after.builds = book.builds ++ [row]
  consumptions : after.buildConsumptions = book.buildConsumptions ++ rows
  rowsOfBuild : ∀ consumed ∈ rows, consumed.buildId = row.buildId

theorem map_cost_consumptionRow (buildId : ℕ) (consumptions : List Consumption) (start : ℕ) :
    ((consumptions.zipIdx start).map (BuildBook.consumptionRow buildId)).map
        (fun row => row.cost.minor) =
      consumptions.map fun consumption => consumption.cost.minor := by
  induction consumptions generalizing start with
  | nil => rfl
  | cons consumption rest ih =>
    rw [List.zipIdx_cons, List.map_cons, List.map_cons, List.map_cons, ih]
    rfl

theorem execute_completeAndRecord
    (completes : execute (completeAndRecord arith documentId build) book =
      (.ok result, after)) :
    ∃ priced finishedShop, book.shop.priceBuild arith build = .ok priced ∧
      execute (completeBuild arith documentId build) book.shop =
        (.ok result, finishedShop) ∧
      after = ((book.setShop finishedShop).insertBuild build result).insertBuildConsumptions
        book.nextBuildId priced.consumptions := by
  unfold completeAndRecord at completes
  rw [execute_bind_ok _ (execute_get book), execute_bind_eq_ok_iff] at completes
  obtain ⟨priced, middle, prices, completes⟩ := completes
  rw [execute_ofExcept, Prod.mk.injEq] at prices
  obtain ⟨prices, rfl⟩ := prices
  rw [execute_bind_eq_ok_iff] at completes
  obtain ⟨value, middle, runs, completes⟩ := completes
  rw [execute_onPart, Prod.mk.injEq] at runs
  obtain ⟨outcome, rfl⟩ := runs
  rw [execute_bind_ok _ (execute_modify _ _), execute_bind_ok _ (execute_modify _ _),
    execute_pure, Prod.mk.injEq, Except.ok.injEq] at completes
  obtain ⟨rfl, rfl⟩ := completes
  refine ⟨priced, (execute (completeBuild arith documentId build) book.shop).2, prices, ?_, rfl⟩
  exact Prod.ext outcome rfl

/-- A finished build: what it was priced at, the record it keeps and the entry it
posts agree.  The entry debits finished goods with the extended standard material
and the applied cost together, credits raw material with the sum of what the
recorded consumptions drew, each at its material's average, and credits the
variance account with the recorded variance. -/
theorem completeAndRecord_agrees
    (completes : execute (completeAndRecord arith documentId build) book =
      (.ok result, after)) :
    ∃ priced materialExtended row rows entry,
      PricedAs arith book.shop build priced materialExtended ∧
      Recorded book after build row rows ∧
      row.standardCost.minor = materialExtended.minor + result.applied.minor ∧
      row.variance.minor = materialExtended.minor - row.actualMaterial.minor ∧
      row.actualMaterial.minor = (rows.map fun consumed => consumed.cost.minor).sum ∧
      row.entryId = some result.entryId ∧
      (⟨result.entryId, entry⟩ : PostedEntry) ∈ after.shop.ledger.journal ∧
      entry.isBalanced = true ∧
      lineTotal (onAccount Chart.inventoryFinished) entry.lines = row.standardCost.minor ∧
      lineTotal (onAccount Chart.inventoryRaw) entry.lines = -row.actualMaterial.minor ∧
      lineTotal (onAccount Chart.partsLabourApplied) entry.lines = -result.applied.minor ∧
      lineTotal (onAccount Chart.manufacturingVariance) entry.lines = -row.variance.minor := by
  obtain ⟨priced, finishedShop, prices, runs, rfl⟩ := execute_completeAndRecord completes
  obtain ⟨pricedToo, entry, pricesToo, reposts, rfl, ledger⟩ :=
    execute_completeBuild_eq_ok runs
  obtain rfl : priced = pricedToo := Except.ok.inj (prices.symm.trans pricesToo)
  obtain ⟨materialExtended, pricedAs⟩ := priceBuild_pricedAs prices
  have posted := lineTotal_posted reposts
  have variance := pricedAs.variance
  have applied := pricedAs.applied
  have onFinished : lineTotal (onAccount Chart.inventoryFinished) entry.lines =
      priced.finished.minor := by
    rw [posted, PricedBuild.posted, if_pos rfl, if_neg (by decide), if_neg (by decide),
      if_neg (by decide)]
    omega
  have onRaw : lineTotal (onAccount Chart.inventoryRaw) entry.lines =
      -priced.actualMaterial.minor := by
    rw [posted, PricedBuild.posted, if_neg (by decide), if_pos rfl, if_neg (by decide),
      if_neg (by decide)]
    omega
  have onApplied : lineTotal (onAccount Chart.partsLabourApplied) entry.lines =
      -priced.applied.minor := by
    rw [posted, PricedBuild.posted, if_neg (by decide), if_neg (by decide), if_pos rfl,
      if_neg (by decide)]
    omega
  have onVariance : lineTotal (onAccount Chart.manufacturingVariance) entry.lines =
      -priced.variance.minor := by
    rw [posted, PricedBuild.posted, if_neg (by decide), if_neg (by decide),
      if_neg (by decide), if_pos rfl]
    omega
  refine ⟨priced, materialExtended, _, _, entry, pricedAs, ⟨rfl, rfl, ?_⟩, applied,
    variance, ?_, rfl, ?_, ?_, onFinished, onRaw, onApplied, onVariance⟩
  · intro consumed consumedMem
    obtain ⟨numbered, -, rfl⟩ := List.mem_map.mp consumedMem
    rfl
  · rw [map_cost_consumptionRow]
    exact pricedAs.drawn
  · change _ ∈ finishedShop.ledger.journal
    rw [ledger]
    apply List.mem_append_right
    rw [stored_of_post reposts.posts, List.mem_singleton]
    rfl
  · exact (reposts.takes entry rfl).balanced

/-- The shop of one receipt of foam, with no build recorded yet. -/
def stockedBook : BuildBook where
  shop := ShopCall.run plainArithmetic (.receive "r1" (foamReceipt [.fromMinor 10000])) openShop
  builds := []
  buildConsumptions := []

theorem completeAndRecord_float :
    ∃ result after row entry,
      execute (completeAndRecord plainArithmetic "b1" floatBuild) stockedBook =
        (.ok result, after) ∧
      row ∈ after.builds ∧ (⟨result.entryId, entry⟩ : PostedEntry) ∈ after.shop.ledger.journal ∧
      lineTotal (onAccount Chart.manufacturingVariance) entry.lines = -row.variance.minor := by
  have succeeds : (execute (completeAndRecord plainArithmetic "b1" floatBuild)
      stockedBook).1.toOption.isSome = true := by
    decide +kernel
  obtain ⟨result, after, completes⟩ := exists_execute_ok _ succeeds
  obtain ⟨priced, materialExtended, row, rows, entry, -, recorded, -, -, -, -, posted, -, -, -, -,
    onVariance⟩ := completeAndRecord_agrees completes
  refine ⟨result, after, row, entry, completes, ?_, posted, onVariance⟩
  rw [recorded.builds]
  exact List.mem_append_right _ (List.mem_singleton_self row)

end Recording

end ShopFloor

end QuickBooks
