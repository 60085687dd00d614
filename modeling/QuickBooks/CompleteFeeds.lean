import QuickBooks.ExportedIds
import QuickBooks.MirroredOrders
import QuickBooks.OpenParts

/-!
# Complete feeds replace the mirror

Every order that is not deleted stands with its lines as the projection of the order its
text was printed from.  So an order left as it is stands as the one of the feed does.
-/

namespace QuickBooks

open DecimalNumbers ExceptPrograms KeyedTables StableSorts

namespace OrderFeeds

/-! ### Orders with the same text -/

def givenValue (value : Option Json) : Option Json :=
  value.filter fun found => !found.isNull

def FeedLine.withoutNulls (line : FeedLine) : FeedLine :=
  { line with
    quantity := givenValue line.quantity
    rate := givenValue line.rate
    amount := givenValue line.amount
    quantityConsumedInInvoices := givenValue line.quantityConsumedInInvoices }

/-- An order as it is read back from its text. -/
def FeedSalesOrder.withoutNulls (order : FeedSalesOrder) : FeedSalesOrder :=
  { order with
    totalAmount := givenValue order.totalAmount
    totalDiscount := givenValue order.totalDiscount
    totalShipping := givenValue order.totalShipping
    version := givenValue order.version
    lines := order.lines.map FeedLine.withoutNulls }

section WithoutNulls

variable {arith : OrderArithmetic} {readers : FeedReaders}

@[simp]
theorem decimal_givenValue (value : Option Json) :
    decimal readers (givenValue value) = decimal readers value := by
  cases value with
  | none => rfl
  | some found => cases found <;> rfl

@[simp]
theorem money_givenValue (value : Option Json) :
    money readers (givenValue value) = money readers value := by
  simp [money]

@[simp]
theorem valueText_givenValue (value : Option Json) :
    valueText readers (givenValue value) = valueText readers value := by
  cases value with
  | none => rfl
  | some found => cases found <;> rfl

theorem projectLine_withoutNulls (isSettled : Bool) (line : FeedLine) (index : ℕ) :
    projectLine arith readers isSettled (line.withoutNulls, index) =
      projectLine arith readers isSettled (line, index) := by
  simp [projectLine, lineAmount, lineInvoiced, FeedLine.withoutNulls]

theorem settled_withoutNulls (order : FeedSalesOrder) :
    settled readers order.withoutNulls = settled readers order := by
  simp [settled, FeedSalesOrder.withoutNulls, FeedLine.withoutNulls, Function.comp_def]

theorem fromFeed_withoutNulls (order : FeedSalesOrder) :
    fromFeed arith readers order.withoutNulls = fromFeed arith readers order := by
  have lines : order.withoutNulls.lines.zipIdx.mapM
        (projectLine arith readers (settled readers order)) =
      order.lines.zipIdx.mapM (projectLine arith readers (settled readers order)) := by
    have same : projectLine arith readers (settled readers order) ∘
        Prod.map FeedLine.withoutNulls id = projectLine arith readers (settled readers order) :=
      funext fun indexed => projectLine_withoutNulls _ indexed.1 indexed.2
    simp [FeedSalesOrder.withoutNulls, List.zipIdx_map, List.mapM_map, same]
  unfold fromFeed
  rw [settled_withoutNulls, lines]
  simp only [FeedSalesOrder.withoutNulls, money_givenValue, valueText_givenValue]
  rfl

end WithoutNulls

def OrderTexts.Tells (texts : OrderTexts) (orders : List FeedSalesOrder) : Prop :=
  ∀ first ∈ orders, ∀ second ∈ orders, texts.orderText first = texts.orderText second →
    first.withoutNulls = second.withoutNulls

/-- What is printed of dates, decimals and lists of ids is read back. -/
structure OrderTexts.Documented (texts : OrderTexts) : Prop where
  date : ∀ date : Date, texts.readers.dateFromYmd date.render = some date
  decimal : ∀ number : Decimal, texts.readers.decimalFromStr number.render = some number
  ids : ∀ ids, texts.idsFromStr (texts.idsText ids) = some ids

section

variable {texts : OrderTexts} {arith : OrderArithmetic} {orders : List FeedSalesOrder}
  {replica : OrderReplica} {realm raw nowText : String} {so : SalesOrder} {order : FeedSalesOrder}
  {key : String × String}

theorem OrderTexts.Tells.fromFeed_eq (tells : texts.Tells orders) {other : FeedSalesOrder}
    (orderMem : order ∈ orders) (otherMem : other ∈ orders)
    (alike : texts.orderText order = texts.orderText other) :
    fromFeed arith texts.readers order = fromFeed arith texts.readers other := by
  rw [← fromFeed_withoutNulls order, tells order orderMem other otherMem alike,
    fromFeed_withoutNulls]

/-! ### Rows and what is read of them -/

theorem parseDecimal_render (documented : texts.Documented) (number : Option Decimal) :
    parseDecimal texts (number.map Decimal.render) = number := by
  cases number <;> simp [parseDecimal, documented.decimal]

theorem parseDate_render (documented : texts.Documented) (date : Option Date) :
    parseDate texts (date.map Date.render) = date := by
  cases date <;> simp [parseDate, documented.date]

theorem ids_idsText (documented : texts.Documented) (own : List String) :
    ids texts (texts.idsText own) = own := by
  simp [ids, documented.ids]

theorem lineFromRow_orderLineRow (documented : texts.Documented) (qboId : String)
    (line : SalesOrderLine) :
    lineFromRow texts (orderLineRow texts realm qboId line) = line := by
  have invoiced : parseDecimal texts (some line.qtyInvoiced.render) = some line.qtyInvoiced :=
    documented.decimal line.qtyInvoiced
  simp [lineFromRow, orderLineRow, parseDecimal_render documented, invoiced,
    ids_idsText documented]

theorem orderFromRow_orderRow (documented : texts.Documented) :
    orderFromRow texts (orderRow texts realm so raw nowText) =
      .ok { so with lines := [], isDeleted := false } := by
  simp [orderFromRow, orderRow, documented.date, orRefuse, parseDate_render documented,
    ids_idsText documented]

/-- What every projection has: the trimmed id of its order, and lines numbered upwards. -/
structure Numbered (order : FeedSalesOrder) (so : SalesOrder) : Prop where
  qboId : so.qboId = trimmed order.id
  isDeleted : so.isDeleted = false
  lines : so.lines.Pairwise fun earlier later => earlier.lineNo < later.lineNo

theorem lineNo_of_projectLine {readers : FeedReaders} {isSettled : Bool}
    {indexed : FeedLine × ℕ} {line : SalesOrderLine}
    (projects : projectLine arith readers isSettled indexed = .ok line) :
    line.lineNo = indexed.2 + 1 := by
  simp only [projectLine, bind_eq_ok_iff, pure_eq_ok_iff] at projects
  obtain ⟨amount, -, still, -, rfl⟩ := projects
  rfl

theorem numbered_of_fromFeed {readers : FeedReaders}
    (projects : fromFeed arith readers order = .ok so) : Numbered order so := by
  unfold fromFeed at projects
  simp only [bind_eq_ok_iff, pure_eq_ok_iff, mapError_eq_ok_iff] at projects
  obtain ⟨-, -, txnDate, -, lines, linesProject, lineTotal, -, stated, -, openAmount, -, rfl⟩ :=
    projects
  refine ⟨rfl, rfl, ?_⟩
  have numbers : lines.map SalesOrderLine.lineNo =
      (List.range order.lines.length).map fun index : ℕ => (index : ℤ) + 1 := by
    rw [map_eq_of_mapM (fun _ _ => lineNo_of_projectLine) linesProject, List.range_eq_range',
      ← List.zipIdx_map_snd 0 order.lines, List.map_map]
    rfl
  rw [← List.pairwise_map, numbers, List.pairwise_map]
  exact List.pairwise_lt_range.imp fun less => by omega

/-! ### Writing an order -/

/-- An order stands in a table as it is written, with its lines. -/
def Stands (texts : OrderTexts) (replica : OrderReplica) (realm : String)
    (entry : SalesOrder × String) : Prop :=
  (∃ nowText, replica.row? (realm, entry.1.qboId) =
      some (orderRow texts realm entry.1 entry.2 nowText)) ∧
    replica.linesOf (realm, entry.1.qboId) =
      entry.1.lines.map (orderLineRow texts realm entry.1.qboId)

def SameAt (first second : OrderReplica) (key : String × String) : Prop :=
  first.row? key = second.row? key ∧ first.linesOf key = second.linesOf key

theorem Stands.of_sameAt {other : OrderReplica} {entry : SalesOrder × String}
    (stands : Stands texts replica realm entry)
    (same : SameAt other replica (realm, entry.1.qboId)) : Stands texts other realm entry := by
  obtain ⟨⟨nowText, found⟩, lines⟩ := stands
  exact ⟨⟨nowText, same.1.trans found⟩, same.2.trans lines⟩

theorem insertLine_of_fresh {lines : List OrderLineRow} {line : OrderLineRow}
    (fresh : ∀ other ∈ lines, other.orderKey = line.orderKey → other.lineNo ≠ line.lineNo) :
    insertLine lines line = .ok (lines ++ [line]) := by
  have isFresh : (lines.all fun other =>
      !(other.orderKey = line.orderKey ∧ other.lineNo = line.lineNo)) = true := by
    simpa [imp_iff_not_or] using fresh
  rw [insertLine, isFresh]
  rfl

theorem foldlM_insertLine {others lines : List OrderLineRow}
    (apart : ∀ other ∈ others, ∀ line ∈ lines, other.orderKey ≠ line.orderKey)
    (upwards : lines.Pairwise fun earlier later => earlier.lineNo < later.lineNo) :
    lines.foldlM insertLine others = .ok (others ++ lines) := by
  have inserted : ∃ rows, lines.foldlM insertLine others = .ok rows ∧ rows = others ++ lines := by
    apply exists_foldlM_of_invariant fun consumed rows => rows = others ++ consumed
    · rintro consumed line rest _ split rfl
      refine ⟨_, insertLine_of_fresh ?_, List.append_assoc ..⟩
      intro other otherMem sameKey
      rcases List.mem_append.mp otherMem with old | earlier
      · exact absurd sameKey (apart other old line (by simp [split]))
      · rw [split, List.pairwise_append] at upwards
        exact (upwards.2.2 other earlier line List.mem_cons_self).ne
    · exact (List.append_nil others).symm
  obtain ⟨rows, runs, rfl⟩ := inserted
  exact runs

/-- What writing an order leaves of a replica. -/
def OrderReplica.withOrder (replica : OrderReplica) (texts : OrderTexts) (realm : String)
    (so : SalesOrder) (raw nowText : String) : OrderReplica :=
  { replica with
    salesOrders := upsert OrderRow.key (orderRow texts realm so raw nowText) replica.salesOrders
    salesOrderLines :=
      (replica.salesOrderLines.filter fun line => line.orderKey ≠ (realm, so.qboId)) ++
        so.lines.map (orderLineRow texts realm so.qboId) }

theorem writeOrder_eq (numbered : Numbered order so) :
    writeOrder texts realm nowText replica so raw =
      if realm ∈ replica.realms then .ok (replica.withOrder texts realm so raw nowText)
      else .error (.sqlite "FOREIGN KEY constraint failed") := by
  have apart : ∀ other ∈ replica.salesOrderLines.filter (fun line =>
      line.orderKey ≠ (realm, so.qboId)), ∀ line ∈ so.lines.map (orderLineRow texts realm so.qboId),
        other.orderKey ≠ line.orderKey := by
    intro other otherMem line lineMem
    obtain ⟨own, -, rfl⟩ := List.mem_map.mp lineMem
    exact of_decide_eq_true (List.mem_filter.mp otherMem).2
  have inserts := foldlM_insertLine apart (List.pairwise_map.mpr numbered.lines)
  rw [writeOrder, inserts]
  split_ifs with registered
  · rw [decide_eq_true registered]
    rfl
  · rw [decide_eq_false registered]
    rfl

@[simp]
theorem realms_withOrder :
    (replica.withOrder texts realm so raw nowText).realms = replica.realms :=
  rfl

theorem stands_withOrder :
    Stands texts (replica.withOrder texts realm so raw nowText) realm (so, raw) := by
  constructor
  · refine ⟨nowText, ?_⟩
    rw [OrderReplica.row?, OrderReplica.withOrder, find?_upsert]
    exact if_pos rfl
  · simp [OrderReplica.linesOf, OrderReplica.withOrder, List.filter_filter, List.filter_map,
      Function.comp_def, orderLineRow, OrderLineRow.orderKey]

theorem sameAt_withOrder (other : key ≠ (realm, so.qboId)) :
    SameAt (replica.withOrder texts realm so raw nowText) replica key := by
  constructor
  · rw [OrderReplica.row?, OrderReplica.withOrder, find?_upsert]
    exact if_neg (Ne.symm other)
  · have none : (so.lines.map (orderLineRow texts realm so.qboId)).filter
        (fun line => line.orderKey = key) = [] := by
      rw [List.filter_eq_nil_iff]
      intro line lineMem
      obtain ⟨own, -, rfl⟩ := List.mem_map.mp lineMem
      exact fun same => other (of_decide_eq_true same).symm
    rw [OrderReplica.linesOf, OrderReplica.withOrder, List.filter_append, none, List.append_nil,
      List.filter_filter]
    apply List.filter_congr
    intro line _
    by_cases isKey : line.orderKey = key <;> simp [isKey, other]

/-! ### The mirror -/

/-- An entry is the projection of one of some orders, with its text. -/
def IsEntry (texts : OrderTexts) (arith : OrderArithmetic) (orders : List FeedSalesOrder)
    (entry : SalesOrder × String) : Prop :=
  ∃ order ∈ orders, fromFeed arith texts.readers order = .ok entry.1 ∧
    entry.2 = texts.orderText order

/-- Every order that is not deleted stands as an entry of some orders. -/
structure Mirrors (texts : OrderTexts) (arith : OrderArithmetic) (orders : List FeedSalesOrder)
    (replica : OrderReplica) : Prop where
  nodup : (replica.salesOrders.map OrderRow.key).Nodup
  live : ∀ row ∈ replica.salesOrders, row.isDeleted = false →
    ∃ entry, IsEntry texts arith orders entry ∧ row.qboId = entry.1.qboId ∧
      Stands texts replica row.realmId entry

variable {entry : SalesOrder × String} {state after : SalesOrderSyncSummary × OrderReplica}

theorem IsEntry.numbered (isEntry : IsEntry texts arith orders entry) :
    ∃ order, Numbered order entry.1 := by
  obtain ⟨order, -, projects, -⟩ := isEntry
  exact ⟨order, numbered_of_fromFeed projects⟩

theorem IsEntry.eq_of_alike (isEntry : IsEntry texts arith orders entry)
    (tells : texts.Tells orders) {other : SalesOrder × String}
    (isOther : IsEntry texts arith orders other) (alike : entry.2 = other.2) : entry = other := by
  obtain ⟨order, orderMem, projects, text⟩ := isEntry
  obtain ⟨otherOrder, otherMem, otherProjects, otherText⟩ := isOther
  have same : fromFeed arith texts.readers order = fromFeed arith texts.readers otherOrder :=
    tells.fromFeed_eq orderMem otherMem (text.symm.trans (alike.trans otherText))
  rw [projects, otherProjects] at same
  exact Prod.ext (Except.ok.inj same) alike

theorem OrderReplica.mem_of_row? {row : OrderRow} (found : replica.row? key = some row) :
    row ∈ replica.salesOrders ∧ row.key = key :=
  ⟨List.mem_of_find?_eq_some found, by simpa using List.find?_some found⟩

theorem mirrors_withOrder (mirrors : Mirrors texts arith orders replica)
    (isEntry : IsEntry texts arith orders (so, raw)) :
    Mirrors texts arith orders (replica.withOrder texts realm so raw nowText) where
  nodup := nodup_upsert mirrors.nodup
  live := by
    intro row rowMem isLive
    rcases mem_upsert _ _ _ rowMem with rfl | ⟨oldMem, otherKey⟩
    · exact ⟨(so, raw), isEntry, rfl, stands_withOrder⟩
    · obtain ⟨entry, isOld, sameId, stands⟩ := mirrors.live row oldMem isLive
      refine ⟨entry, isOld, sameId, stands.of_sameAt (sameAt_withOrder ?_)⟩
      rw [← sameId]
      exact otherKey

/-! ### Applying an order -/

theorem applyOrder_cases (numbered : Numbered order entry.1)
    (applies : applyOrder texts realm nowText state entry = .ok after) :
    (∃ existing, state.2.row? (realm, entry.1.qboId) = some existing ∧
        existing.isDeleted = false ∧ existing.rawJson = entry.2 ∧ after.2 = state.2) ∨
      realm ∈ state.2.realms ∧
        after.2 = state.2.withOrder texts realm entry.1 entry.2 nowText := by
  have writes : ∀ written, writeOrder texts realm nowText state.2 entry.1 entry.2 = .ok written →
      realm ∈ state.2.realms ∧
        written = state.2.withOrder texts realm entry.1 entry.2 nowText := by
    intro written succeeds
    rw [writeOrder_eq numbered] at succeeds
    split_ifs at succeeds with registered
    exact ⟨registered, (Except.ok.inj succeeds).symm⟩
  unfold applyOrder at applies
  cases found : state.2.row? (realm, entry.1.qboId) with
  | none =>
    simp only [found, bind_eq_ok_iff, pure_eq_ok_iff] at applies
    obtain ⟨written, succeeds, rfl⟩ := applies
    exact .inr (writes written succeeds)
  | some existing =>
    simp only [found] at applies
    split_ifs at applies with isSame
    · cases pure_eq_ok_iff.mp applies
      exact .inl ⟨existing, rfl, isSame.1, isSame.2, rfl⟩
    · simp only [bind_eq_ok_iff, pure_eq_ok_iff] at applies
      obtain ⟨written, succeeds, rfl⟩ := applies
      exact .inr (writes written succeeds)

theorem exists_applyOrder (numbered : Numbered order entry.1) (registered : realm ∈ state.2.realms) :
    ∃ after, applyOrder texts realm nowText state entry = .ok after := by
  have writes : writeOrder texts realm nowText state.2 entry.1 entry.2 =
      .ok (state.2.withOrder texts realm entry.1 entry.2 nowText) := by
    rw [writeOrder_eq numbered, if_pos registered]
  unfold applyOrder
  rw [writes]
  cases state.2.row? (realm, entry.1.qboId) with
  | none => exact ⟨_, rfl⟩
  | some existing =>
    dsimp only
    split_ifs
    · exact ⟨_, rfl⟩
    · exact ⟨_, rfl⟩

theorem applyOrder_of_stands (stands : Stands texts state.2 realm entry) :
    applyOrder texts realm nowText state entry =
      .ok ({ state.1 with unchanged := state.1.unchanged + 1 }, state.2) := by
  obtain ⟨⟨before, found⟩, -⟩ := stands
  rw [applyOrder, found]
  exact if_pos ⟨rfl, rfl⟩

/-- What applying an order of a feed does to a replica. -/
structure Applied (texts : OrderTexts) (arith : OrderArithmetic) (orders : List FeedSalesOrder)
    (realm : String) (entry : SalesOrder × String) (before after : OrderReplica) : Prop where
  mirrors : Mirrors texts arith orders after
  stands : Stands texts after realm entry
  same : ∀ key, key ≠ (realm, entry.1.qboId) → SameAt after before key
  realms : after.realms = before.realms

theorem applied_of_applyOrder (mirrors : Mirrors texts arith orders state.2)
    (tells : texts.Tells orders) (isEntry : IsEntry texts arith orders entry)
    (applies : applyOrder texts realm nowText state entry = .ok after) :
    Applied texts arith orders realm entry state.2 after.2 := by
  obtain ⟨order, numbered⟩ := isEntry.numbered
  rcases applyOrder_cases numbered applies with ⟨existing, found, isLive, sameText, unchanged⟩ |
    ⟨-, written⟩
  · rw [unchanged]
    refine ⟨mirrors, ?_, fun _ _ => ⟨rfl, rfl⟩, rfl⟩
    obtain ⟨existingMem, sameKey⟩ := OrderReplica.mem_of_row? found
    obtain ⟨sameRealm, sameId⟩ := Prod.mk.inj sameKey
    obtain ⟨old, isOld, oldId, stands⟩ := mirrors.live existing existingMem isLive
    rw [sameRealm] at stands
    have alike : entry.2 = old.2 := by
      obtain ⟨⟨before, oldFound⟩, -⟩ := stands
      rw [← oldId, sameId, found] at oldFound
      rw [← sameText, Option.some.inj oldFound]
      rfl
    rwa [isEntry.eq_of_alike tells isOld alike]
  · rw [written]
    exact ⟨mirrors_withOrder mirrors isEntry, stands_withOrder,
      fun _ other => sameAt_withOrder other, rfl⟩

variable {projected : List (SalesOrder × String)} {start finish : SalesOrderSyncSummary × OrderReplica}

theorem mirrors_foldlM (tells : texts.Tells orders)
    (entries : ∀ entry ∈ projected, IsEntry texts arith orders entry)
    (mirrors : Mirrors texts arith orders start.2)
    (runs : projected.foldlM (applyOrder texts realm nowText) start = .ok finish) :
    Mirrors texts arith orders finish.2 := by
  induction projected generalizing start with
  | nil =>
    cases pure_eq_ok_iff.mp runs
    exact mirrors
  | cons entry projected ih =>
    rw [List.foldlM_cons, bind_eq_ok_iff] at runs
    obtain ⟨middle, applies, rest⟩ := runs
    have applied := applied_of_applyOrder mirrors tells (entries entry (.head _)) applies
    exact ih (fun other otherMem => entries other (.tail _ otherMem)) applied.mirrors rest

theorem exists_foldlM_applyOrder (nowText : String)
    (start : SalesOrderSyncSummary × OrderReplica) (tells : texts.Tells orders)
    (entries : ∀ entry ∈ projected, IsEntry texts arith orders entry)
    (distinct : (projected.map fun entry => entry.1.qboId).Nodup)
    (mirrors : Mirrors texts arith orders start.2) (registered : realm ∈ start.2.realms) :
    ∃ finish, projected.foldlM (applyOrder texts realm nowText) start = .ok finish ∧
      Mirrors texts arith orders finish.2 ∧ finish.2.realms = start.2.realms ∧
        ∀ entry ∈ projected, Stands texts finish.2 realm entry := by
  refine exists_foldlM_of_invariant
    (fun consumed (state : SalesOrderSyncSummary × OrderReplica) =>
      Mirrors texts arith orders state.2 ∧
      state.2.realms = start.2.realms ∧ ∀ entry ∈ consumed, Stands texts state.2 realm entry)
    ?_ ⟨mirrors, rfl, fun _ => by simp⟩
  rintro consumed entry rest before split ⟨beforeMirrors, beforeRealms, standing⟩
  have isEntry := entries entry (by simp [split])
  obtain ⟨order, numbered⟩ := isEntry.numbered
  obtain ⟨after, applies⟩ : ∃ after, applyOrder texts realm nowText before entry = .ok after :=
    exists_applyOrder numbered (by rwa [beforeRealms])
  have applied := applied_of_applyOrder beforeMirrors tells isEntry applies
  refine ⟨after, applies, applied.mirrors, applied.realms.trans beforeRealms, ?_⟩
  intro other otherMem
  rcases List.mem_append.mp otherMem with earlier | here
  · apply (standing other earlier).of_sameAt
    apply applied.same
    rw [split, List.map_append] at distinct
    intro sameKey
    exact List.disjoint_of_nodup_append distinct (List.mem_map_of_mem earlier)
      (by rw [(Prod.mk.inj sameKey).2]; exact .head _)
  · rw [List.mem_singleton.mp here]
    exact applied.stands

/-! ### What a complete feed lacks -/

/-- A row of one of some ids of a realm, marked deleted. -/
def markedRow (realm nowText : String) (missing : List String) (row : OrderRow) : OrderRow :=
  if row.realmId = realm ∧ row.qboId ∈ missing then
    { row with isDeleted := true, isOpen := false, mirroredAt := nowText }
  else row

@[simp]
theorem key_markedRow {missing : List String} (row : OrderRow) :
    (markedRow realm nowText missing row).key = row.key := by
  unfold markedRow
  split_ifs <;> rfl

theorem foldl_markDeleted (missing : List String) (rows : List OrderRow) :
    missing.foldl (markDeleted realm nowText) rows =
      rows.map (markedRow realm nowText missing) := by
  induction missing generalizing rows with
  | nil =>
    have same : markedRow realm nowText [] = id := by
      funext row
      simp [markedRow]
    simp [same]
  | cons first missing ih =>
    rw [List.foldl_cons, ih, markDeleted, List.map_map]
    apply List.map_congr_left
    intro row _
    by_cases ofRealm : row.realmId = realm <;> by_cases isFirst : row.qboId = first <;>
      simp [markedRow, OrderRow.key, ofRealm, isFirst]

variable {present : List String}

theorem row?_sweepOrders : (sweepOrders realm nowText present state).2.row? key =
    (state.2.row? key).map
      (markedRow realm nowText (missingIds realm present state.2.salesOrders)) := by
  rw [OrderReplica.row?, sweepOrders, foldl_markDeleted, List.find?_map]
  simp [Function.comp_def, OrderReplica.row?]

theorem sameAt_sweepOrders (kept : key.1 ≠ realm ∨
      key.2 ∉ missingIds realm present state.2.salesOrders) :
    SameAt (sweepOrders realm nowText present state).2 state.2 key := by
  refine ⟨?_, rfl⟩
  rw [row?_sweepOrders]
  cases found : state.2.row? key with
  | none => rfl
  | some row =>
    obtain ⟨-, rfl⟩ := OrderReplica.mem_of_row? found
    rw [Option.map_some, markedRow, if_neg]
    rintro ⟨sameRealm, isMissing⟩
    exact kept.elim (fun other => other sameRealm) fun held => held isMissing

theorem mem_sweepOrders {row : OrderRow}
    (rowMem : row ∈ (sweepOrders realm nowText present state).2.salesOrders)
    (isLive : row.isDeleted = false) :
    row ∈ state.2.salesOrders ∧ (row.realmId = realm → row.qboId ∈ present) := by
  rw [sweepOrders, foldl_markDeleted] at rowMem
  obtain ⟨old, oldMem, rfl⟩ := List.mem_map.mp rowMem
  unfold markedRow at isLive ⊢
  split_ifs at isLive ⊢ with isMarked
  refine ⟨oldMem, ?_⟩
  intro ofRealm
  by_contra absent
  apply isMarked
  simp only [missingIds, List.mem_filter, List.mem_map, Bool.and_eq_true, decide_eq_true_eq,
    Bool.not_eq_true']
  exact ⟨ofRealm, ⟨old, ⟨oldMem, ofRealm, isLive⟩, rfl⟩, absent⟩

theorem mirrors_sweepOrders (realm nowText : String) (present : List String)
    (mirrors : Mirrors texts arith orders state.2) :
    Mirrors texts arith orders (sweepOrders realm nowText present state).2 where
  nodup := by
    have sameKeys : ((sweepOrders realm nowText present state).2.salesOrders).map OrderRow.key =
        state.2.salesOrders.map OrderRow.key := by
      simp [sweepOrders, foldl_markDeleted, Function.comp_def]
    rw [sameKeys]
    exact mirrors.nodup
  live := by
    intro row rowMem isLive
    obtain ⟨oldMem, inFeed⟩ := mem_sweepOrders rowMem isLive
    obtain ⟨entry, isEntry, sameId, stands⟩ := mirrors.live row oldMem isLive
    refine ⟨entry, isEntry, sameId, stands.of_sameAt (sameAt_sweepOrders ?_)⟩
    rw [← sameId]
    by_cases ofRealm : row.realmId = realm
    · right
      intro isMissing
      exact of_decide_eq_true (List.mem_filter.mp isMissing).2 (inFeed ofRealm)
    · exact .inl ofRealm

theorem missingIds_eq_nil {rows : List OrderRow}
    (covered : ∀ row ∈ rows, row.realmId = realm → row.isDeleted = false → row.qboId ∈ present) :
    missingIds realm present rows = [] := by
  rw [missingIds, List.filter_eq_nil_iff, List.forall_mem_map]
  intro row rowMem
  simp only [List.mem_filter, Bool.and_eq_true, decide_eq_true_eq, Bool.not_eq_true'] at rowMem
  simpa using covered row rowMem.1 rowMem.2.1 rowMem.2.2

/-! ### The listing -/

theorem readLines_of_stands (documented : texts.Documented)
    (stands : Stands texts replica realm entry) (numbered : Numbered order entry.1) :
    readLines texts replica (realm, entry.1.qboId) = entry.1.lines := by
  have upwards : (entry.1.lines.map (orderLineRow texts realm entry.1.qboId)).Pairwise
      fun earlier later => earlier.lineNo ≤ later.lineNo :=
    List.pairwise_map.mpr (numbered.lines.imp le_of_lt)
  rw [readLines, stands.2, sortedBy, upwards.insertionSort_eq, List.map_map]
  have readsBack : lineFromRow texts ∘ orderLineRow texts realm entry.1.qboId = id :=
    funext (lineFromRow_orderLineRow documented entry.1.qboId)
  rw [readsBack, List.map_id]

/-- The orders of a realm are all of some entries, which all stand. -/
structure Holds (texts : OrderTexts) (arith : OrderArithmetic) (orders : List FeedSalesOrder)
    (replica : OrderReplica) (realm : String) (projected : List (SalesOrder × String)) : Prop where
  mirrors : Mirrors texts arith orders replica
  stands : ∀ entry ∈ projected, Stands texts replica realm entry
  covered : ∀ row ∈ replica.salesOrders, row.realmId = realm → row.isDeleted = false →
    row.qboId ∈ projected.map fun entry => entry.1.qboId

theorem Holds.exists_entry (holds : Holds texts arith orders replica realm projected)
    {row : OrderRow} (rowMem : row ∈ replica.salesOrders) (ofRealm : row.realmId = realm)
    (isLive : row.isDeleted = false) :
    ∃ entry ∈ projected, ∃ nowText, row = orderRow texts realm entry.1 entry.2 nowText := by
  obtain ⟨entry, entryMem, sameId⟩ := List.mem_map.mp (holds.covered row rowMem ofRealm isLive)
  obtain ⟨⟨nowText, found⟩, -⟩ := holds.stands entry entryMem
  have isRow := find?_eq_some_of_nodup holds.mirrors.nodup rowMem
  have sameKey : row.key = (realm, entry.1.qboId) := Prod.ext ofRealm sameId.symm
  rw [sameKey] at isRow
  exact ⟨entry, entryMem, nowText, Option.some.inj (isRow.symm.trans found)⟩

theorem qboId_of_orderFromRow {row : OrderRow} (reads : orderFromRow texts row = .ok so) :
    so.qboId = row.qboId := by
  simp only [orderFromRow, bind_eq_ok_iff, pure_eq_ok_iff] at reads
  obtain ⟨txnDate, -, rfl⟩ := reads
  rfl

theorem Holds.listed (holds : Holds texts arith orders replica realm projected)
    (documented : texts.Documented)
    (entries : ∀ entry ∈ projected, IsEntry texts arith orders entry)
    (distinct : (projected.map fun entry => entry.1.qboId).Nodup) :
    ∃ listed, listSalesOrders texts replica realm false = .ok listed ∧
      listed.Perm (projected.map Prod.fst) := by
  let rows := sortedBy listingKey (replica.salesOrders.filter fun row =>
    row.realmId = realm && !row.isDeleted && (!false || row.isOpen))
  let whole := fun order : SalesOrder =>
    { order with lines := readLines texts replica (realm, order.qboId) }
  have mem_rows : ∀ row, row ∈ rows ↔
      row ∈ replica.salesOrders ∧ row.realmId = realm ∧ row.isDeleted = false := by
    intro row
    simp [rows, (perm_sortedBy _).mem_iff]
  have reads : ∀ entry ∈ projected, ∀ nowText,
      orderFromRow texts (orderRow texts realm entry.1 entry.2 nowText) =
        .ok { entry.1 with lines := [], isDeleted := false } ∧
        whole { entry.1 with lines := [], isDeleted := false } = entry.1 := by
    intro entry entryMem nowText
    obtain ⟨order, numbered⟩ := (entries entry entryMem).numbered
    have lines := readLines_of_stands documented (holds.stands entry entryMem) numbered
    refine ⟨orderFromRow_orderRow documented, ?_⟩
    simp only [whole, lines, ← numbered.isDeleted]
  obtain ⟨bare, runs⟩ : ∃ bare, rows.mapM (orderFromRow texts) = .ok bare := by
    apply exists_mapM_ok
    intro row rowMem
    obtain ⟨held, ofRealm, isLive⟩ := (mem_rows row).mp rowMem
    obtain ⟨entry, entryMem, nowText, rfl⟩ := holds.exists_entry held ofRealm isLive
    exact ⟨_, (reads entry entryMem nowText).1⟩
  refine ⟨bare.map whole, ?_, ?_⟩
  · simp only [listSalesOrders, bind_eq_ok_iff, pure_eq_ok_iff]
    exact ⟨bare, runs, rfl⟩
  · have bareIds : (bare.map SalesOrder.qboId).Nodup := by
      rw [map_eq_of_mapM (fun _ _ => qboId_of_orderFromRow) runs]
      apply List.Nodup.of_map (Prod.mk realm)
      have keys : (rows.map OrderRow.qboId).map (Prod.mk realm) = rows.map OrderRow.key := by
        rw [List.map_map]
        apply List.map_congr_left
        intro row rowMem
        exact Prod.ext ((mem_rows row).mp rowMem).2.1.symm rfl
      rw [keys]
      have sublist := (List.filter_sublist (l := replica.salesOrders) (p := fun row =>
        row.realmId = realm && !row.isDeleted && (!false || row.isOpen))).map OrderRow.key
      exact ((perm_sortedBy _).map OrderRow.key).nodup_iff.mpr (holds.mirrors.nodup.sublist sublist)
    have wholeIds : ((bare.map whole).map SalesOrder.qboId).Nodup := by
      rw [List.map_map]
      exact bareIds
    have projectedIds : ((projected.map Prod.fst).map SalesOrder.qboId).Nodup := by
      rw [List.map_map]
      exact distinct
    rw [List.perm_ext_iff_of_nodup wholeIds.of_map projectedIds.of_map]
    intro so
    constructor
    · intro soMem
      obtain ⟨order, orderMem, rfl⟩ := List.mem_map.mp soMem
      obtain ⟨row, rowMem, isRead⟩ := exists_of_mem_mapM runs orderMem
      obtain ⟨held, ofRealm, isLive⟩ := (mem_rows row).mp rowMem
      obtain ⟨entry, entryMem, nowText, rfl⟩ := holds.exists_entry held ofRealm isLive
      obtain ⟨read, isWhole⟩ := reads entry entryMem nowText
      cases Except.ok.inj (read.symm.trans isRead)
      rw [isWhole]
      exact List.mem_map_of_mem entryMem
    · intro soMem
      obtain ⟨entry, entryMem, rfl⟩ := List.mem_map.mp soMem
      obtain ⟨⟨nowText, found⟩, -⟩ := holds.stands entry entryMem
      have rowMem := (mem_rows _).mpr ⟨(OrderReplica.mem_of_row? found).1, rfl, rfl⟩
      obtain ⟨order, orderMem, isRead⟩ := exists_mem_of_mapM runs rowMem
      obtain ⟨read, isWhole⟩ := reads entry entryMem nowText
      cases Except.ok.inj (read.symm.trans isRead)
      exact List.mem_map.mpr ⟨_, orderMem, isWhole⟩

/-! ### Feeds -/

variable {feed : SalesOrderFeed} {source : String} {written : OrderReplica}
  {summary : SalesOrderSyncSummary}

theorem isEntry_of_projectOrder (within : ∀ order ∈ feed.salesOrders, order ∈ orders)
    (projects : feed.salesOrders.mapM (projectOrder texts arith) = .ok projected) :
    ∀ entry ∈ projected, IsEntry texts arith orders entry := by
  intro entry entryMem
  obtain ⟨order, orderMem, isProjected⟩ := exists_of_mem_mapM projects entryMem
  simp only [projectOrder, bind_eq_ok_iff, mapError_eq_ok_iff, pure_eq_ok_iff] at isProjected
  obtain ⟨so, accepts, rfl⟩ := isProjected
  exact ⟨order, within order orderMem, accepts, rfl⟩

theorem ids_of_projectOrder
    (projects : feed.salesOrders.mapM (projectOrder texts arith) = .ok projected) :
    (projected.map fun entry => entry.1.qboId) =
      feed.salesOrders.map fun order => trimmed order.id := by
  apply map_eq_of_mapM _ projects
  intro order entry isProjected
  simp only [projectOrder, bind_eq_ok_iff, mapError_eq_ok_iff, pure_eq_ok_iff] at isProjected
  obtain ⟨so, accepts, rfl⟩ := isProjected
  exact (numbered_of_fromFeed accepts).qboId

theorem exists_projected {projections : List SalesOrder}
    (accepts : feed.salesOrders.mapM (fromFeed arith texts.readers) = .ok projections) :
    ∃ projected, feed.salesOrders.mapM (projectOrder texts arith) = .ok projected ∧
      projected.map Prod.fst = projections := by
  simp only [mapM_eq_ok_iff] at accepts ⊢
  generalize feed.salesOrders = sales at accepts ⊢
  induction accepts with
  | nil => exact ⟨[], .nil, rfl⟩
  | @cons order so _ _ first _ ih =>
    obtain ⟨projected, rest, rfl⟩ := ih
    refine ⟨(so, texts.orderText order) :: projected, .cons ?_ rest, rfl⟩
    rw [projectOrder, first]
    rfl

theorem mirrors_feedTransaction (tells : texts.Tells orders)
    (within : ∀ order ∈ feed.salesOrders, order ∈ orders)
    (mirrors : Mirrors texts arith orders replica)
    (runs : feedTransaction texts arith replica realm feed source nowText =
      .ok (summary, written)) : Mirrors texts arith orders written := by
  simp only [feedTransaction, bind_eq_ok_iff, pure_eq_ok_iff, Prod.mk.injEq] at runs
  obtain ⟨projected, projects, applied, applies, -, -, -, rfl⟩ := runs
  have appliedMirrors :=
    mirrors_foldlM tells (isEntry_of_projectOrder within projects) mirrors applies
  by_cases complete : feed.complete = true
  · have swept := mirrors_sweepOrders realm nowText
      (projected.map fun entry => entry.1.qboId) appliedMirrors
    rw [if_pos complete]
    exact ⟨swept.nodup, swept.live⟩
  · rw [if_neg complete]
    exact ⟨appliedMirrors.nodup, appliedMirrors.live⟩

theorem exists_feedTransaction (source nowText : String)
    (projects : feed.salesOrders.mapM (projectOrder texts arith) = .ok projected)
    (complete : feed.complete = true) {applied : SalesOrderSyncSummary × OrderReplica}
    (applies : projected.foldlM (applyOrder texts realm nowText)
      (⟨projected.length, 0, 0, 0, 0, 0⟩, replica) = .ok applied)
    (registered : realm ∈ replica.realms) :
    ∃ openCount snapshots, feedTransaction texts arith replica realm feed source nowText =
      let swept := sweepOrders realm nowText (projected.map fun entry => entry.1.qboId) applied
      .ok ({ swept.1 with isOpen := openCount }, { swept.2 with snapshots := snapshots }) := by
  let swept := sweepOrders realm nowText (projected.map fun entry => entry.1.qboId) applied
  refine ⟨swept.2.salesOrders.countP fun row => row.realmId = realm && row.isOpen && !row.isDeleted,
    upsert SnapshotRow.realmId
      ⟨realm, feed.capturedAt, nowText, source, projected.length, feed.complete⟩
      swept.2.snapshots, ?_⟩
  simp only [feedTransaction, bind_eq_ok_iff, pure_eq_ok_iff, ensure_eq_ok_iff, decide_eq_true_eq]
  exact ⟨projected, projects, applied, applies, (), registered, by rw [if_pos complete]⟩

theorem applySalesOrderFeed_of_ok
    (runs : feedTransaction texts arith replica realm feed source nowText =
      .ok (summary, written)) :
    applySalesOrderFeed texts arith replica realm feed source nowText =
      (.ok summary, written) := by
  rw [applySalesOrderFeed, runs]

theorem applySalesOrderFeed_of_error {failure : OrderStoreError}
    (fails : feedTransaction texts arith replica realm feed source nowText = .error failure) :
    applySalesOrderFeed texts arith replica realm feed source nowText =
      (.error failure, replica) := by
  rw [applySalesOrderFeed, fails]

theorem mirrors_orderStep {event : OrderEvent} (tells : texts.Tells orders)
    (within : ∀ order ∈ event.orders, order ∈ orders)
    (mirrors : Mirrors texts arith orders replica) :
    Mirrors texts arith orders (orderStep texts arith replica event) := by
  cases event with
  | register realm => exact ⟨mirrors.nodup, mirrors.live⟩
  | apply realm feed source nowText =>
    change Mirrors texts arith orders
      (applySalesOrderFeed texts arith replica realm feed source nowText).2
    cases runs : feedTransaction texts arith replica realm feed source nowText with
    | error failure =>
      rw [applySalesOrderFeed_of_error runs]
      exact mirrors
    | ok outcome =>
      rw [applySalesOrderFeed_of_ok runs]
      exact mirrors_feedTransaction tells within mirrors runs

theorem mirrors_mirroredAfter {history : List OrderEvent} (tells : texts.Tells orders)
    (within : ∀ order ∈ history.flatMap OrderEvent.orders, order ∈ orders) :
    Mirrors texts arith orders (mirroredAfter texts arith history) := by
  apply List.foldlRecOn history (orderStep texts arith) (motive := Mirrors texts arith orders)
  · exact ⟨List.nodup_nil, fun _ rowMem => absurd rowMem List.not_mem_nil⟩
  · intro replica mirrors event eventMem
    exact mirrors_orderStep tells
      (fun order orderMem => within order (List.mem_flatMap.mpr ⟨event, eventMem, orderMem⟩)) mirrors

theorem nodup_of_seeOrder {sales : List FeedSalesOrder} {seen : List String}
    (sees : sales.foldlM seeOrder [] = .ok seen) :
    (sales.map fun order => trimmed order.id).Nodup := by
  let Seen := fun (consumed : List FeedSalesOrder) (seen : List String) =>
    seen = (consumed.map fun order => trimmed order.id).reverse ∧ seen.Nodup
  have kept : ∀ consumed order before after, Seen consumed before →
      seeOrder before order = .ok after → Seen (consumed ++ [order]) after := by
    rintro consumed order before after ⟨beforeEq, distinct⟩ step
    unfold seeOrder at step
    rw [bind_eq_ok_iff] at step
    obtain ⟨_, isFresh, afterEq⟩ := step
    rw [ensure_eq_ok_iff] at isFresh
    rw [← pure_eq_ok_iff.mp afterEq]
    refine ⟨?_, List.nodup_cons.mpr ⟨of_decide_eq_true isFresh, distinct⟩⟩
    rw [beforeEq, List.map_append, List.reverse_append]
    rfl
  obtain ⟨seenEq, distinct⟩ := foldlM_invariant Seen kept ⟨rfl, List.nodup_nil⟩ sees
  rwa [← List.nodup_reverse, ← seenEq]

theorem nodup_of_parseFeed (parsed : parseFeed texts raw realm = .ok feed) :
    (feed.salesOrders.map fun order => trimmed order.id).Nodup := by
  simp only [parseFeed, bind_eq_ok_iff, pure_eq_ok_iff] at parsed
  obtain ⟨found, -, -, -, -, -, seen, sees, rfl⟩ := parsed
  exact nodup_of_seeOrder sees

/-! ### Replacing the mirror -/

theorem exists_applied (source nowText : String) (tells : texts.Tells orders)
    (projects : feed.salesOrders.mapM (projectOrder texts arith) = .ok projected)
    (entries : ∀ entry ∈ projected, IsEntry texts arith orders entry)
    (distinct : (projected.map fun entry => entry.1.qboId).Nodup)
    (complete : feed.complete = true) (mirrors : Mirrors texts arith orders replica)
    (registered : realm ∈ replica.realms) :
    ∃ summary written, applySalesOrderFeed texts arith replica realm feed source nowText =
        (.ok summary, written) ∧ Holds texts arith orders written realm projected ∧
      written.realms = replica.realms := by
  obtain ⟨applied, applies, appliedMirrors, sameRealms, standing⟩ :=
    exists_foldlM_applyOrder nowText (⟨projected.length, 0, 0, 0, 0, 0⟩, replica) tells entries
      distinct mirrors registered
  obtain ⟨openCount, snapshots, runs⟩ :=
    exists_feedTransaction source nowText projects complete applies registered
  refine ⟨_, _, applySalesOrderFeed_of_ok runs, ?_, sameRealms⟩
  have swept := mirrors_sweepOrders realm nowText
    (projected.map fun entry => entry.1.qboId) appliedMirrors
  refine ⟨⟨swept.nodup, swept.live⟩, ?_, ?_⟩
  · intro entry entryMem
    apply (standing entry entryMem).of_sameAt
    refine sameAt_sweepOrders (.inr ?_)
    intro isMissing
    exact of_decide_eq_true (List.mem_filter.mp isMissing).2
      (List.mem_map.mpr ⟨entry, entryMem, rfl⟩)
  · intro row rowMem ofRealm isLive
    exact (mem_sweepOrders rowMem isLive).2 ofRealm

theorem foldlM_applyOrder_of_stands (summary : SalesOrderSyncSummary)
    (standing : ∀ entry ∈ projected, Stands texts replica realm entry) :
    projected.foldlM (applyOrder texts realm nowText) (summary, replica) =
      .ok ({ summary with unchanged := summary.unchanged + projected.length }, replica) := by
  induction projected generalizing summary with
  | nil => rfl
  | cons entry projected ih =>
    rw [List.foldlM_cons, applyOrder_of_stands (standing entry (.head _))]
    change projected.foldlM _ ({ summary with unchanged := summary.unchanged + 1 }, replica) = _
    rw [ih _ fun other otherMem => standing other (.tail _ otherMem)]
    simp [Nat.add_comm, Nat.add_left_comm]

theorem Holds.unchanged (holds : Holds texts arith orders replica realm projected)
    (projects : feed.salesOrders.mapM (projectOrder texts arith) = .ok projected)
    (complete : feed.complete = true) (registered : realm ∈ replica.realms) :
    ∃ openCount written, applySalesOrderFeed texts arith replica realm feed source nowText =
      (.ok ⟨projected.length, 0, 0, projected.length, 0, openCount⟩, written) := by
  obtain ⟨openCount, snapshots, runs⟩ := exists_feedTransaction source nowText
    projects complete
    (foldlM_applyOrder_of_stands _ holds.stands) registered
  have nothing := missingIds_eq_nil holds.covered
  have isSame : feedTransaction texts arith replica realm feed source nowText =
      .ok (⟨projected.length, 0, 0, projected.length, 0, openCount⟩,
        { replica with snapshots := snapshots }) := by
    rw [runs]
    simp only [sweepOrders, nothing, List.length_nil, List.foldl_nil, Nat.zero_add]
  exact ⟨openCount, _, applySalesOrderFeed_of_ok isSame⟩

end

/-- A complete feed replaces the orders of its realm by the projections of its own, again it
changes none, and a feed with an order that has no projection changes nothing. -/
theorem completeFeed_replaces {texts : OrderTexts} {arith : OrderArithmetic}
    (documented : texts.Documented) {history : List OrderEvent} {raw realm : String}
    {feed : SalesOrderFeed} (parsed : parseFeed texts raw realm = .ok feed)
    (complete : feed.complete = true)
    (tells : texts.Tells (feed.salesOrders ++ history.flatMap OrderEvent.orders)) :
    (∀ projections source nowText,
      feed.salesOrders.mapM (fromFeed arith texts.readers) = .ok projections →
      realm ∈ (mirroredAfter texts arith history).realms →
      ∃ summary after, applySalesOrderFeed texts arith (mirroredAfter texts arith history)
          realm feed source nowText = (.ok summary, after) ∧
        (∃ listed, listSalesOrders texts after realm false = .ok listed ∧
          listed.Perm projections) ∧
        ∀ againSource later, ∃ openCount afterAgain,
          applySalesOrderFeed texts arith after realm feed againSource later =
            (.ok ⟨feed.salesOrders.length, 0, 0, feed.salesOrders.length, 0, openCount⟩,
              afterAgain)) ∧
    ∀ (other : SalesOrderFeed) (ofRealm source nowText : String), ∀ order ∈ other.salesOrders,
      (∀ so, fromFeed arith texts.readers order ≠ .ok so) →
      ∃ failure, applySalesOrderFeed texts arith (mirroredAfter texts arith history)
        ofRealm other source nowText = (.error failure, mirroredAfter texts arith history) := by
  constructor
  · intro projections source nowText accepts registered
    obtain ⟨projected, projects, rfl⟩ := exists_projected accepts
    have entries := isEntry_of_projectOrder
      (fun _ orderMem => List.mem_append_left (history.flatMap OrderEvent.orders) orderMem) projects
    have distinct : (projected.map fun entry => entry.1.qboId).Nodup := by
      rw [ids_of_projectOrder projects]
      exact nodup_of_parseFeed parsed
    have mirrors := @mirrors_mirroredAfter texts arith _ history tells
      fun _ orderMem => List.mem_append_right feed.salesOrders orderMem
    obtain ⟨summary, after, applies, holds, sameRealms⟩ := exists_applied source nowText
      tells projects entries distinct complete mirrors registered
    refine ⟨summary, after, applies, holds.listed documented entries distinct, ?_⟩
    intro againSource later
    have sameLength : projected.length = feed.salesOrders.length :=
      (mapM_eq_ok_iff.mp projects).length_eq.symm
    rw [← sameLength]
    exact holds.unchanged projects complete (sameRealms ▸ registered)
  · intro other ofRealm source nowText order orderMem refused
    cases runs : feedTransaction texts arith (mirroredAfter texts arith history) ofRealm other
        source nowText with
    | error failure => exact ⟨failure, applySalesOrderFeed_of_error runs⟩
    | ok outcome =>
      simp only [feedTransaction, bind_eq_ok_iff] at runs
      obtain ⟨projected, projects, -⟩ := runs
      obtain ⟨entry, -, isProjected⟩ := exists_mem_of_mapM projects orderMem
      simp only [projectOrder, bind_eq_ok_iff, mapError_eq_ok_iff] at isProjected
      obtain ⟨so, accepts, -⟩ := isProjected
      exact absurd accepts (refused so)

/-! ### Two feeds of a realm -/

/-- The characters of a text in quotes up to the one that closes it, and what follows. -/
def escaped : List Char → List Char → List Char
  | [], rest => '"' :: rest
  | char :: chars, rest =>
    if char = '"' ∨ char = '\\' then '\\' :: char :: escaped chars rest
    else char :: escaped chars rest

def quotedText (text : String) : String :=
  String.ofList ('"' :: escaped text.toList [])

def quotedItems : List String → List Char
  | [] => [']']
  | first :: rest => ',' :: '"' :: escaped first.toList (quotedItems rest)

def quotedList : List String → String
  | [] => "[]"
  | first :: rest => String.ofList ('[' :: '"' :: escaped first.toList (quotedItems rest))

theorem escaped_special {char : Char} (special : char = '"' ∨ char = '\\') (chars rest : List Char) :
    escaped (char :: chars) rest = '\\' :: char :: escaped chars rest :=
  if_pos special

theorem escaped_plain {char : Char} (plain : ¬(char = '"' ∨ char = '\\'))
    (chars rest : List Char) : escaped (char :: chars) rest = char :: escaped chars rest :=
  if_neg plain

theorem escaped_inj {chars characters rest others : List Char}
    (same : escaped chars rest = escaped characters others) :
    chars = characters ∧ rest = others := by
  induction chars generalizing characters with
  | nil =>
    cases characters with
    | nil => exact ⟨rfl, (List.cons.inj same).2⟩
    | cons other characters =>
      by_cases special : other = '"' ∨ other = '\\'
      · rw [escaped_special special] at same
        exact absurd (List.cons.inj same).1 (by decide)
      · rw [escaped_plain special] at same
        exact absurd (.inl (List.cons.inj same).1.symm) special
  | cons char chars ih =>
    by_cases special : char = '"' ∨ char = '\\'
    · rw [escaped_special special] at same
      cases characters with
      | nil => exact absurd (List.cons.inj same).1 (by decide)
      | cons other characters =>
        by_cases otherSpecial : other = '"' ∨ other = '\\'
        · rw [escaped_special otherSpecial] at same
          obtain ⟨sameChar, sameRest⟩ := List.cons.inj (List.cons.inj same).2
          obtain ⟨sameChars, sameOthers⟩ := ih sameRest
          exact ⟨by rw [sameChar, sameChars], sameOthers⟩
        · rw [escaped_plain otherSpecial] at same
          exact absurd (.inr (List.cons.inj same).1.symm) otherSpecial
    · rw [escaped_plain special] at same
      cases characters with
      | nil => exact absurd (.inl (List.cons.inj same).1) special
      | cons other characters =>
        by_cases otherSpecial : other = '"' ∨ other = '\\'
        · rw [escaped_special otherSpecial] at same
          exact absurd (.inr (List.cons.inj same).1) special
        · rw [escaped_plain otherSpecial] at same
          obtain ⟨sameChars, sameOthers⟩ := ih (List.cons.inj same).2
          exact ⟨by rw [(List.cons.inj same).1, sameChars], sameOthers⟩

theorem quotedItems_injective : Function.Injective quotedItems := by
  intro first
  induction first with
  | nil =>
    intro second same
    cases second with
    | nil => rfl
    | cons other others => exact absurd (List.cons.inj same).1 (by decide)
  | cons text texts ih =>
    intro second same
    cases second with
    | nil => exact absurd (List.cons.inj same).1 (by decide)
    | cons other others =>
      obtain ⟨sameText, sameItems⟩ := escaped_inj (List.cons.inj (List.cons.inj same).2).2
      rw [String.ext sameText, ih sameItems]

theorem quotedList_injective : Function.Injective quotedList := by
  intro first second same
  have chars := congrArg String.toList same
  cases first with
  | nil =>
    cases second with
    | nil => rfl
    | cons other others =>
      rw [quotedList, quotedList, String.toList_ofList, String.toList_ofList] at chars
      exact absurd (List.cons.inj (List.cons.inj chars).2).1 (by decide)
  | cons text texts =>
    cases second with
    | nil =>
      rw [quotedList, quotedList, String.toList_ofList, String.toList_ofList] at chars
      exact absurd (List.cons.inj (List.cons.inj chars).2).1 (by decide)
    | cons other others =>
      rw [quotedList, quotedList, String.toList_ofList, String.toList_ofList] at chars
      obtain ⟨sameText, sameItems⟩ := escaped_inj (List.cons.inj (List.cons.inj chars).2).2
      rw [String.ext sameText, quotedItems_injective sameItems]

/-- What prints as a text, when anything does. -/
noncomputable def readBack {α : Type} (print : α → String) (text : String) : Option α :=
  open Classical in if found : ∃ value, print value = text then some found.choose else none

theorem readBack_print {α : Type} {print : α → String} (injective : Function.Injective print)
    (value : α) : readBack print (print value) = some value := by
  have found : ∃ other, print other = print value := ⟨value, rfl⟩
  rw [readBack, dif_pos found, injective found.choose_spec]

def quotedObject (fields : List (String × String)) : String :=
  "\x7b" ++ ",".intercalate (fields.map fun field => quotedText field.1 ++ ":" ++ field.2) ++ "\x7d"

def optionText (text : Option String) : String :=
  (text.map quotedText).getD "null"

/-- A value that is a text, a number or nothing. -/
def plainText : Option Json → String
  | some (.string text) => quotedText text
  | some (.number found) => found.text
  | _ => "null"

def plainLine (line : FeedLine) : String :=
  quotedObject [("id", optionText line.id), ("itemId", optionText line.itemId),
    ("description", optionText line.description), ("quantity", plainText line.quantity),
    ("rate", plainText line.rate), ("amount", plainText line.amount),
    ("taxable", (line.taxable.map toString).getD "null"),
    ("quantityConsumedInInvoices", plainText line.quantityConsumedInInvoices),
    ("invoiceIds", quotedList line.invoiceIds)]

def plainOrder (order : FeedSalesOrder) : String :=
  quotedObject [("id", quotedText order.id), ("orderNumber", optionText order.orderNumber),
    ("issuedAt", quotedText order.issuedAt), ("customerId", optionText order.customerId),
    ("customerName", optionText order.customerName),
    ("customerPONumber", optionText order.customerPoNumber),
    ("dueDate", optionText order.dueDate), ("shipDate", optionText order.shipDate),
    ("orderStatus", optionText order.orderStatus),
    ("paymentStatus", optionText order.paymentStatus),
    ("fulfillmentStatus", optionText order.fulfillmentStatus),
    ("totalAmount", plainText order.totalAmount),
    ("totalDiscount", plainText order.totalDiscount),
    ("totalShipping", plainText order.totalShipping), ("memo", optionText order.memo),
    ("version", plainText order.version),
    ("lines", "[" ++ ",".intercalate (order.lines.map plainLine) ++ "]"),
    ("invoiceIds", quotedList order.invoiceIds)]

/-- An order of one line, and some of it on an invoice. -/
def orderOf (id : String) (consumed : ℤ) (invoiceIds : List String) : FeedSalesOrder :=
  { feedOrder [feedLine 2 100 200 consumed] with
    id := id
    invoiceIds := invoiceIds }

def feedOf (salesOrders : List FeedSalesOrder) : SalesOrderFeed where
  feed := feedFormat
  realmId := some "9341452983741"
  capturedAt := "2026-10-17T12:00:00+00:00"
  complete := true
  salesOrders := salesOrders

def dayOfOrder : Date := ⟨2026, 10, 13, Eq.refl true⟩

noncomputable def readDay (text : String) : Option Date :=
  if text = "2026-10-13" then some dayOfOrder else readBack Date.render text

theorem readDay_render (date : Date) : readDay date.render = some date := by
  unfold readDay
  split_ifs with isDay
  · have rendered : dayOfOrder.render = "2026-10-13" := by decide +kernel
    rw [Bank.render_injective (isDay.trans rendered.symm)]
  · exact readBack_print Bank.render_injective date

/-- Texts of which one document is a feed. -/
noncomputable def textsOf (feed : SalesOrderFeed) : OrderTexts where
  readers := { plainReaders with
    decimalFromStr := readPlainly
    dateFromYmd := readDay }
  feedFromStr text := if text = "feed" then .ok feed else .error "expected value at line 1 column 1"
  orderText := plainOrder
  idsText := quotedList
  idsFromStr := readBack quotedList

theorem documented_textsOf (feed : SalesOrderFeed) : (textsOf feed).Documented where
  date := by
    simp only [textsOf]
    exact readDay_render
  decimal := by
    simp only [textsOf]
    exact readPlainly_reads.plain
  ids := by
    simp only [textsOf]
    exact readBack_print quotedList_injective

def octoberFeed : SalesOrderFeed :=
  feedOf [orderOf "1490000011" 0 [], orderOf "1490000012" 0 []]

def laterFeed : SalesOrderFeed :=
  feedOf [orderOf "1490000011" 1 ["900"], orderOf " 1490000013" 0 []]

def octoberHistory : List OrderEvent :=
  [.register "9341452983741",
    .apply "9341452983741" octoberFeed "orders.json" "2026-10-17T13:00:00+00:00"]

/-- The orders of a realm are those of its later feed. -/
theorem completeFeed_replaces_october :
    ∃ projections summary after,
      laterFeed.salesOrders.mapM (fromFeed exactArithmetic (textsOf laterFeed).readers) =
        .ok projections ∧
      projections.map SalesOrder.qboId = ["1490000011", "1490000013"] ∧
      applySalesOrderFeed (textsOf laterFeed) exactArithmetic
          (mirroredAfter (textsOf laterFeed) exactArithmetic octoberHistory) "9341452983741"
          laterFeed "orders.json" "2026-10-18T13:00:00+00:00" = (.ok summary, after) ∧
      ∃ listed, listSalesOrders (textsOf laterFeed) after "9341452983741" false = .ok listed ∧
        listed.Perm projections := by
  have evaluates : (laterFeed.salesOrders.mapM
      (fromFeed exactArithmetic (textsOf laterFeed).readers)).toOption.map
        (fun projections => projections.map SalesOrder.qboId) =
          some ["1490000011", "1490000013"] := by
    decide +kernel
  obtain ⟨projections, accepts, ids⟩ := exists_ok_of_map_toOption evaluates
  have parsed : parseFeed (textsOf laterFeed) "feed" "9341452983741" = .ok laterFeed := by
    have sees : laterFeed.salesOrders.foldlM seeOrder [] =
        .ok ["1490000013", "1490000011"] := by
      decide +kernel
    simp only [parseFeed, bind_eq_ok_iff, pure_eq_ok_iff]
    exact ⟨laterFeed, rfl, (), rfl, (), rfl, _, sees, rfl⟩
  have tells : (textsOf laterFeed).Tells
      (laterFeed.salesOrders ++ octoberHistory.flatMap OrderEvent.orders) := by
    have texts : ((laterFeed.salesOrders ++ octoberHistory.flatMap OrderEvent.orders).map
        plainOrder).Nodup := by
      decide +kernel
    intro first firstMem second secondMem alike
    rw [List.inj_on_of_nodup_map texts firstMem secondMem alike]
  obtain ⟨summary, after, applies, lists, -⟩ := (completeFeed_replaces (documented_textsOf laterFeed)
    parsed rfl tells).1 projections "orders.json" "2026-10-18T13:00:00+00:00" accepts
      (by decide +kernel)
  exact ⟨projections, summary, after, accepts, ids, applies, lists⟩

end OrderFeeds

end QuickBooks
