import QuickBooks.DisplayedMoney
import QuickBooks.ItemClassSheets
import QuickBooks.TrimmedTexts

/-!
# What a reviewed worksheet does to the map

The text of the worksheet reads back as its rows, each id and class as trimming leaves
it.  Rows that are each in order, one class for an item, are all wanted; and what is
wanted is written, nothing else.
-/

namespace QuickBooks

open CsvTexts ExceptPrograms KeyedTables TransactionPrograms

namespace ItemClasses

/-! ### The text -/

/-- The fields of a row, before they are written. -/
def rowFields (choice : WorksheetRow × String) : List String :=
  [choice.1.item.qboId, choice.1.item.sku.getD "", choice.1.item.name, choice.1.item.itemType,
    choice.1.item.category.getD "", choice.1.item.incomeAccount.getD "",
    toString choice.1.salesLines, choice.1.salesAmount.display,
    choice.1.suggestedClass.getD "", choice.1.rule.getD "", choice.2]

def headerFields : List String :=
  ["qbo_id", "sku", "name", "type", "category", "income_account", "sales_lines_12m",
    "sales_amount_12m", "suggested_class", "rule", "class"]

theorem csvField_of_plain {text : String}
    (plain : ∀ char ∈ text.toList, char ≠ ',' ∧ char ≠ '"' ∧ char ≠ '\n') :
    csvField text = text := by
  have unquoted : needsQuotes text.toList = false := by
    apply List.any_eq_false.mpr
    intro char charMem
    obtain ⟨notComma, notQuote, notBreak⟩ := plain char charMem
    simp [notComma, notQuote, notBreak]
  unfold csvField fieldChars
  rw [unquoted]
  exact String.ofList_toList

theorem isDigit_toString {number : Nat} {char : Char} (charMem : char ∈ (toString number).toList) :
    char.isDigit = true := by
  rw [Nat.toString_eq_repr, Nat.toList_repr] at charMem
  exact DecimalNumbers.isDigit_toDigits charMem

theorem csvField_toString (number : Nat) : csvField (toString number) = toString number := by
  apply csvField_of_plain
  intro char charMem
  have isDigit := isDigit_toString charMem
  refine ⟨?_, ?_, ?_⟩ <;> rintro rfl <;> exact absurd isDigit (by decide)

theorem csvField_display (money : Money) : csvField money.display = money.display := by
  apply csvField_of_plain
  intro char charMem
  obtain isDigit | rfl | rfl := Money.mem_display charMem
  · refine ⟨?_, ?_, ?_⟩ <;> rintro rfl <;> exact absurd isDigit (by decide)
  · decide
  · decide

theorem reviewedCsv_eq (choices : List (WorksheetRow × String)) :
    reviewedCsv choices =
      String.join ((headerFields :: choices.map rowFields).map fun fields =>
        csvLine fields ++ "\n") := by
  have header : csvHeader = csvLine headerFields := by decide +kernel
  have line : ∀ choice : WorksheetRow × String,
      rowText choice.1 (csvField choice.2) = csvLine (rowFields choice) ++ "\n" := by
    intro choice
    unfold rowText csvLine rowFields
    simp only [List.map_cons, List.map_nil, csvField_toString, csvField_display]
  have lines : (choices.map fun choice => rowText choice.1 (csvField choice.2)) =
      (choices.map rowFields).map fun fields => csvLine fields ++ "\n" := by
    rw [List.map_map]
    exact List.map_congr_left fun choice _ => line choice
  rw [reviewedCsv, header, lines, List.map_cons, String.join_cons]

def readAs (raw : String) : String :=
  trimmed (readField raw)

theorem splitCsv_reviewedCsv (choices : List (WorksheetRow × String)) :
    (splitCsv (reviewedCsv choices)).map Prod.snd =
      (headerFields :: choices.map rowFields).map fun fields => fields.map readField := by
  rw [reviewedCsv_eq]
  apply splitCsv_csvLines
  intro fields fieldsMem
  rcases List.mem_cons.mp fieldsMem with rfl | rowMem
  · simp [headerFields]
  · obtain ⟨choice, -, rfl⟩ := List.mem_map.mp rowMem
    simp [rowFields]

theorem withoutMark_reviewedCsv (choices : List (WorksheetRow × String)) :
    withoutMark (reviewedCsv choices) = reviewedCsv choices := by
  have first : (reviewedCsv choices).toList.head? = some 'q' := by
    unfold reviewedCsv csvHeader
    simp [String.toList_append]
  unfold withoutMark
  rw [first]
  exact if_neg (by decide)

theorem trimmed_readField_toString (number : Nat) :
    trimmed (readField (toString number)) ≠ "" := by
  have noReturn : (toString number).toList.filter (fun char => char ≠ '\r') =
      (toString number).toList := by
    apply List.filter_eq_self.mpr
    intro char charMem
    apply decide_eq_true
    rintro rfl
    exact absurd (isDigit_toString charMem) (by decide)
  have same : readField (toString number) = toString number := by
    unfold readField readBack
    rw [noReturn, ite_self, String.ofList_toList]
  rw [same, trimmed_eq_self fun char charMem => isWhiteSpace_of_isDigit (isDigit_toString charMem)]
  intro isEmpty
  have chars : (toString number).toList = [] := by
    rw [isEmpty]
    rfl
  rw [Nat.toString_eq_repr, Nat.toList_repr] at chars
  exact Nat.toDigits_ne_nil chars

theorem isBlankRecord_rowFields (line : Nat) (choice : WorksheetRow × String) :
    isBlankRecord (line, (rowFields choice).map readField) = false := by
  unfold isBlankRecord
  rw [List.all_eq_false]
  refine ⟨readField (toString choice.1.salesLines), ?_, ?_⟩
  · exact List.mem_map_of_mem (by simp [rowFields])
  · simpa using trimmed_readField_toString choice.1.salesLines

theorem parseReviewed_reviewedCsv (lowered : String → String)
    (choices : List (WorksheetRow × String)) :
    ∃ rows, parseReviewed lowered (reviewedCsv choices) = .ok rows ∧
      (rows.map fun row => (row.qboId, row.classId)) =
        choices.map fun choice =>
          (readAs choice.1.item.qboId, lowered (readAs choice.2)) := by
  have fields := splitCsv_reviewedCsv choices
  rw [List.map_cons] at fields
  obtain ⟨⟨first, header⟩, records, split, headerEq, recordsEq⟩ := List.map_eq_cons_iff.mp fields
  have notBlank : ∀ record ∈ splitCsv (reviewedCsv choices), (!isBlankRecord record) = true := by
    intro record recordMem
    rw [split] at recordMem
    rcases List.mem_cons.mp recordMem with rfl | later
    · obtain rfl : header = headerFields.map readField := headerEq
      change (!isBlankRecord (1, headerFields.map readField)) = true
      decide +kernel
    · have rowFieldsMem : record.2 ∈ (choices.map rowFields).map fun fields =>
          fields.map readField := by
        rw [← recordsEq]
        exact List.mem_map_of_mem later
      simp only [List.map_map, List.mem_map, Function.comp_apply] at rowFieldsMem
      obtain ⟨choice, -, fieldsEq⟩ := rowFieldsMem
      have blank := isBlankRecord_rowFields record.1 choice
      rw [fieldsEq] at blank
      rw [blank]
      rfl
  obtain rfl : header = headerFields.map readField := headerEq
  have columns : column (headerFields.map readField) "qbo_id" = some 0 ∧
      column (headerFields.map readField) "class" = some 10 := by
    decide +kernel
  unfold parseReviewed
  rw [withoutMark_reviewedCsv, List.filter_eq_self.mpr notBlank, split]
  simp only [columns.1, columns.2]
  refine ⟨_, rfl, ?_⟩
  rw [List.map_map]
  have asFields : records.map (fun record => (fieldAt record.2 0, lowered (fieldAt record.2 10))) =
      ((choices.map rowFields).map fun fields => fields.map readField).map fun fields =>
        (fieldAt fields 0, lowered (fieldAt fields 10)) := by
    rw [← recordsEq, List.map_map]
    rfl
  refine Eq.trans asFields ?_
  rw [List.map_map, List.map_map]
  rfl

/-! ### The check -/

/-- A row with an id and a class that items can have. -/
structure Fine (classes : List (String × Bool)) (row : ReviewedRow) : Prop where
  someId : row.qboId ≠ ""
  someClass : row.classId ≠ ""
  notFallback : row.classId ≠ importFallbackClass
  active : classes.lookup row.classId = some true

def Once (rows : List ReviewedRow) : Prop :=
  ∀ first ∈ rows, ∀ second ∈ rows, first.qboId = second.qboId → first.classId = second.classId

/-- What is wanted after rows without a problem: theirs, each item once. -/
structure WantedOf (rows : List ReviewedRow) (checked : Checked) : Prop where
  problems : checked.problems = []
  distinct : (checked.wanted.map Prod.fst).Nodup
  wants : ∀ row ∈ rows, ∃ entry ∈ checked.wanted, entry.1 = row.qboId ∧ entry.2.1 = row.classId
  wantedBy : ∀ entry ∈ checked.wanted, ∃ row ∈ rows,
    row.qboId = entry.1 ∧ row.classId = entry.2.1

variable {quoted : String → String} {classes : List (String × Bool)} {known : List String}

theorem checkRow_of_fine {row : ReviewedRow} (fine : Fine classes row) (checked : Checked) :
    checkRow quoted classes known checked row =
      match checked.wanted.lookup row.qboId with
      | some (earlier, earlierLine) =>
        if earlier = row.classId then checked
        else checked.problem ((match row.name with
          | some name =>
            "line " ++ toString row.line ++ " (item " ++ row.qboId ++ " " ++ quoted name ++ ")"
          | none => "line " ++ toString row.line ++ " (item " ++ row.qboId ++ ")") ++
          ": class " ++ quoted row.classId ++ ", but line " ++
          toString earlierLine ++ " gives it " ++ quoted earlier)
      | none =>
        { checked with wanted := checked.wanted ++ [(row.qboId, row.classId, row.line)] } := by
  unfold checkRow
  dsimp only
  rewrite [if_neg fine.someId, if_neg fine.someClass, if_neg fine.notFallback, fine.active]
  rfl

theorem WantedOf.of_present {seen : List ReviewedRow} {row : ReviewedRow} {checked : Checked}
    (wanted : WantedOf seen checked) {entry : String × String × Nat}
    (entryMem : entry ∈ checked.wanted) (sameId : entry.1 = row.qboId)
    (sameClass : entry.2.1 = row.classId) : WantedOf (seen ++ [row]) checked where
  problems := wanted.problems
  distinct := wanted.distinct
  wants := by
    intro other otherMem
    rcases List.mem_append.mp otherMem with before | last
    · exact wanted.wants other before
    · obtain rfl := List.mem_singleton.mp last
      exact ⟨entry, entryMem, sameId, sameClass⟩
  wantedBy := by
    intro other otherMem
    obtain ⟨row, rowMem, same⟩ := wanted.wantedBy other otherMem
    exact ⟨row, by simp [rowMem], same⟩

theorem WantedOf.of_absent {seen : List ReviewedRow} {row : ReviewedRow} {checked : Checked}
    (wanted : WantedOf seen checked) (absent : row.qboId ∉ checked.wanted.map Prod.fst) :
    WantedOf (seen ++ [row])
      { checked with wanted := checked.wanted ++ [(row.qboId, row.classId, row.line)] } where
  problems := wanted.problems
  distinct := by
    rw [List.map_append]
    refine List.Nodup.append wanted.distinct (by simp) ?_
    simpa using absent
  wants := by
    intro other otherMem
    rcases List.mem_append.mp otherMem with before | last
    · obtain ⟨entry, entryMem, same⟩ := wanted.wants other before
      exact ⟨entry, by simp [entryMem], same⟩
    · obtain rfl := List.mem_singleton.mp last
      exact ⟨(other.qboId, other.classId, other.line), by simp, rfl, rfl⟩
  wantedBy := by
    intro other otherMem
    rcases List.mem_append.mp otherMem with before | last
    · obtain ⟨row, rowMem, same⟩ := wanted.wantedBy other before
      exact ⟨row, by simp [rowMem], same⟩
    · obtain rfl := List.mem_singleton.mp last
      exact ⟨row, by simp, rfl, rfl⟩

theorem wantedOf_checkRow {seen : List ReviewedRow} {row : ReviewedRow} {checked : Checked}
    (fine : Fine classes row) (once : Once (seen ++ [row])) (wanted : WantedOf seen checked) :
    WantedOf (seen ++ [row]) (checkRow quoted classes known checked row) := by
  rw [checkRow_of_fine fine]
  cases found : checked.wanted.lookup row.qboId with
  | some earlier =>
    obtain ⟨before, after, split, -⟩ := List.lookup_eq_some_iff.mp found
    have earlierMem : (row.qboId, earlier) ∈ checked.wanted := by simp [split]
    obtain ⟨other, otherMem, sameId, sameClass⟩ := wanted.wantedBy _ earlierMem
    have agrees : earlier.1 = row.classId :=
      sameClass.symm.trans (once other (by simp [otherMem]) row (by simp) sameId)
    dsimp only
    rw [if_pos agrees]
    exact wanted.of_present earlierMem rfl agrees
  | none =>
    refine wanted.of_absent ?_
    intro there
    obtain ⟨entry, entryMem, same⟩ := List.mem_map.mp there
    simpa [same] using List.lookup_eq_none_iff.mp found entry entryMem

theorem wantedOf_foldl {seen rows : List ReviewedRow} {checked : Checked}
    (fine : ∀ row ∈ rows, Fine classes row) (once : Once (seen ++ rows))
    (wanted : WantedOf seen checked) :
    WantedOf (seen ++ rows) (rows.foldl (checkRow quoted classes known) checked) := by
  induction rows generalizing seen checked with
  | nil =>
    rw [List.append_nil]
    exact wanted
  | cons row rows ih =>
    rw [List.append_cons] at once ⊢
    apply ih (fun other otherMem => fine other (by simp [otherMem])) once
    apply wantedOf_checkRow (fine row (by simp)) _ wanted
    intro first firstMem second secondMem
    exact once first (List.mem_append_left _ firstMem) second (List.mem_append_left _ secondMem)

/-! ### The map -/

section Writing

variable {company now actor : String} {book before : ClassBook}

theorem execute_insertItemClass {row : ItemClassRow}
    (active : book.classes.any (fun entry =>
      entry.companyId = row.companyId && entry.classId = row.classId) = true) :
    execute (insertItemClass row) book = (.ok (), book.put row) := by
  unfold insertItemClass
  rw [execute_bind_ok book (execute_get book), if_pos active]
  rfl

theorem rowOf_put (row : ItemClassRow) (other itemRef : String) :
    (book.put row).rowOf other itemRef =
      if row.key = (other, itemRef) then some row else book.rowOf other itemRef :=
  find?_upsert ItemClassRow.key row book.itemClassMap (other, itemRef)

/-- What one wanted class does to the books. -/
structure Writes (company itemRef classId : String) (book after : ClassBook) : Prop where
  classes : after.classes = book.classes
  written : after.classOf company itemRef = some classId
  frame : ∀ other ref, other ≠ company ∨ ref ≠ itemRef → after.rowOf other ref = book.rowOf other ref

theorem writes_put (row : ItemClassRow) :
    Writes row.companyId row.itemRef row.classId book (book.put row) where
  classes := rfl
  written := by
    have found : (book.put row).rowOf row.companyId row.itemRef = some row := by
      rw [rowOf_put]
      exact if_pos rfl
    rw [ClassBook.classOf, found]
    rfl
  frame := by
    intro other ref differs
    rw [rowOf_put, if_neg]
    intro same
    obtain ⟨rfl, rfl⟩ := Prod.mk.inj same
    rcases differs with notCompany | notItem
    · exact notCompany rfl
    · exact notItem rfl

theorem execute_applyOne {report : ApplyReport} {entry : String × String × Nat}
    (sameClass : before.classOf company entry.1 = book.classOf company entry.1)
    (active : book.classes.any (fun found =>
      found.companyId = company && found.classId = entry.2.1) = true) :
    ∃ next after, execute (applyOne company now actor before report entry) book =
        (.ok next, after) ∧ Writes company entry.1 entry.2.1 book after := by
  have writes := @writes_put book ⟨company, entry.1, entry.2.1, now, actor⟩
  have inserts := @execute_insertItemClass book ⟨company, entry.1, entry.2.1, now, actor⟩ active
  unfold applyOne
  rw [sameClass]
  cases found : book.classOf company entry.1 with
  | none => exact ⟨_, _, execute_bind_ok book inserts, writes⟩
  | some existing =>
    dsimp only
    by_cases same : existing = entry.2.1
    · rw [if_pos same]
      refine ⟨_, book, rfl, rfl, ?_, fun _ _ _ => rfl⟩
      rw [found, same]
    · rw [if_neg same]
      exact ⟨_, _, execute_bind_ok book inserts, writes⟩

/-- What the wanted classes do to the books, each item once. -/
structure WritesAll (company : String) (wanted : List (String × String × Nat))
    (book after : ClassBook) : Prop where
  classes : after.classes = book.classes
  written : ∀ entry ∈ wanted, after.classOf company entry.1 = some entry.2.1
  frame : ∀ other ref, other ≠ company ∨ ref ∉ wanted.map Prod.fst →
    after.rowOf other ref = book.rowOf other ref

theorem execute_foldlM_applyOne {wanted : List (String × String × Nat)} {report : ApplyReport}
    (distinct : (wanted.map Prod.fst).Nodup)
    (sameClass : ∀ entry ∈ wanted,
      before.classOf company entry.1 = book.classOf company entry.1)
    (active : ∀ entry ∈ wanted, book.classes.any (fun found =>
      found.companyId = company && found.classId = entry.2.1) = true) :
    ∃ next after,
      execute (wanted.foldlM (applyOne company now actor before) report) book =
        (.ok next, after) ∧ WritesAll company wanted book after := by
  induction wanted generalizing report book with
  | nil => exact ⟨report, book, rfl, rfl, by simp, fun _ _ _ => rfl⟩
  | cons entry wanted ih =>
    rw [List.map_cons, List.nodup_cons] at distinct
    obtain ⟨next, middle, writesOne, writes⟩ := @execute_applyOne company now actor book before
      report entry (sameClass entry (by simp)) (active entry (by simp))
    have framed : ∀ other ∈ wanted,
        middle.rowOf company other.1 = book.rowOf company other.1 := by
      intro other otherMem
      apply writes.frame
      right
      intro same
      exact distinct.1 (same ▸ List.mem_map_of_mem otherMem)
    obtain ⟨last, after, writesRest, all⟩ := @ih middle next distinct.2
      (by
        intro other otherMem
        rw [sameClass other (by simp [otherMem]), ClassBook.classOf, ClassBook.classOf,
          framed other otherMem])
      (by
        intro other otherMem
        rw [writes.classes]
        exact active other (by simp [otherMem]))
    refine ⟨last, after, ?_, all.classes.trans writes.classes, ?_, ?_⟩
    · rw [List.foldlM_cons, execute_bind_ok book writesOne]
      exact writesRest
    · rintro other (_ | ⟨_, otherMem⟩)
      · have kept := all.frame company entry.1 (.inr distinct.1)
        rw [ClassBook.classOf, kept]
        exact writes.written
      · exact all.written other otherMem
    · intro other ref differs
      have notFirst : other ≠ company ∨ ref ≠ entry.1 := by
        refine differs.imp_right fun absent same => absent ?_
        simp [same]
      have notRest : other ≠ company ∨ ref ∉ wanted.map Prod.fst := by
        refine differs.imp_right fun absent there => absent ?_
        simp only [List.map_cons, List.mem_cons]
        exact .inr there
      rw [all.frame other ref notRest, writes.frame other ref notFirst]

end Writing

/-! ### The whole sheet -/

section Sheet

variable {company now actor : String} {book : ClassBook} {rows : List ReviewedRow}

theorem wantedOf_rows (fine : ∀ row ∈ rows, Fine classes row) (once : Once rows) :
    WantedOf rows (rows.foldl (checkRow quoted classes known) {}) := by
  have start : WantedOf [] ({} : Checked) := ⟨rfl, by simp, by simp, by simp⟩
  have whole := @wantedOf_foldl quoted classes known [] rows {} fine once start
  exact whole

theorem wantedOf_eq_ok {wanted : List (String × String × Nat)}
    (fine : ∀ row ∈ rows, Fine classes row) (once : Once rows)
    (checks : wantedOf quoted company classes rows = .ok wanted) :
    ∃ checked, WantedOf rows checked ∧ wanted.Perm checked.wanted := by
  simp only [wantedOf, bind_eq_ok_iff, pure_eq_ok_iff] at checks
  obtain ⟨-, -, -, -, rfl⟩ := checks
  exact ⟨_, wantedOf_rows fine once, List.mergeSort_perm _ _⟩

theorem exists_wantedOf (someClass : classes.isEmpty = false)
    (fine : ∀ row ∈ rows, Fine classes row) (once : Once rows) :
    ∃ wanted, wantedOf quoted company classes rows = .ok wanted := by
  have noProblem := fun known : List String =>
    (@wantedOf_rows quoted classes known rows fine once).problems
  simp only [wantedOf, bind_eq_ok_iff, ensure_eq_ok_iff, pure_eq_ok_iff, someClass]
  exact ⟨_, (), rfl, (), by rw [noProblem]; rfl, rfl⟩

theorem any_of_lookup_listClasses {classId : String}
    (active : (book.listClasses company).lookup classId = some true) :
    book.classes.any (fun found =>
      found.companyId = company && found.classId = classId) = true := by
  obtain ⟨before, after, split, -⟩ := List.lookup_eq_some_iff.mp active
  have listed : (classId, true) ∈ book.listClasses company := by simp [split]
  obtain ⟨entry, entryMem, same⟩ := List.mem_map.mp listed
  obtain ⟨classMem, ofCompany⟩ := List.mem_filter.mp entryMem
  rw [List.any_eq_true]
  exact ⟨entry, classMem, by simpa [(Prod.mk.inj same).1] using ofCompany⟩

theorem execute_apply (fine : ∀ row ∈ rows, Fine (book.listClasses company) row)
    (once : Once rows) :
    (∀ row ∈ rows, (execute (apply quoted company now actor rows) book).2.classOf company
        row.qboId = some row.classId) ∧
    ∀ other ref, other ≠ company ∨ ref ∉ rows.map ReviewedRow.qboId →
      (execute (apply quoted company now actor rows) book).2.rowOf other ref =
        book.rowOf other ref := by
  unfold apply
  rw [execute_bind_ok book (execute_get book)]
  by_cases someClass : (book.listClasses company).isEmpty = false
  · obtain ⟨wanted, checks⟩ :=
      @exists_wantedOf quoted _ company rows someClass fine once
    obtain ⟨checked, all, perm⟩ := wantedOf_eq_ok fine once checks
    have wantedMem : ∀ entry, entry ∈ wanted ↔ entry ∈ checked.wanted := fun entry => perm.mem_iff
    have distinct : (wanted.map Prod.fst).Nodup :=
      ((perm.map Prod.fst).nodup_iff).mpr all.distinct
    have active : ∀ entry ∈ wanted, book.classes.any (fun found =>
        found.companyId = company && found.classId = entry.2.1) = true := by
      intro entry entryMem
      obtain ⟨row, rowMem, -, sameClass⟩ := all.wantedBy entry ((wantedMem entry).mp entryMem)
      rw [← sameClass]
      exact any_of_lookup_listClasses (fine row rowMem).active
    obtain ⟨report, after, writes, effect⟩ := @execute_foldlM_applyOne company now actor book book
      wanted { rows := rows.length } distinct (fun _ _ => rfl) active
    have outcome : execute (MonadExcept.ofExcept
        (wantedOf quoted company (book.listClasses company) rows) : ClassProgram _) book =
        (.ok wanted, book) := by
      rw [execute_ofExcept, checks]
    rw [execute_bind_ok book outcome, execute_bind_ok book
      ((execute_atomically_ok book).mpr writes)]
    change (∀ row ∈ rows, after.classOf company row.qboId = some row.classId) ∧
      ∀ other ref, other ≠ company ∨ ref ∉ rows.map ReviewedRow.qboId →
        after.rowOf other ref = book.rowOf other ref
    constructor
    · intro row rowMem
      obtain ⟨entry, entryMem, sameId, sameClass⟩ := all.wants row rowMem
      rw [← sameId, ← sameClass]
      exact effect.written entry ((wantedMem entry).mpr entryMem)
    · intro other ref differs
      apply effect.frame
      refine differs.imp_right fun absent there => absent ?_
      obtain ⟨entry, entryMem, rfl⟩ := List.mem_map.mp there
      obtain ⟨row, rowMem, sameId, -⟩ := all.wantedBy entry ((wantedMem entry).mp entryMem)
      rw [← sameId]
      exact List.mem_map_of_mem rowMem
  · have noClasses : book.listClasses company = [] :=
      List.isEmpty_iff.mp ((Bool.not_eq_false _).mp someClass)
    have noRows : rows = [] := by
      rw [List.eq_nil_iff_forall_not_mem]
      intro row rowMem
      have active := (fine row rowMem).active
      rw [noClasses] at active
      cases active
    subst noRows
    obtain ⟨failure, refuses⟩ : ∃ failure,
        wantedOf quoted company (book.listClasses company) [] = .error failure := by
      rw [noClasses]
      exact ⟨_, rfl⟩
    have outcome : execute (MonadExcept.ofExcept
        (wantedOf quoted company (book.listClasses company) []) : ClassProgram _) book =
        (.error failure, book) := by
      rw [execute_ofExcept, refuses]
    rw [execute_bind_error book outcome]
    exact ⟨by simp, fun _ _ _ => rfl⟩

theorem execute_apply_error {failure : WorksheetError} {after : ClassBook}
    (refuses : execute (apply quoted company now actor rows) book = (.error failure, after)) :
    after = book := by
  unfold apply at refuses
  rw [execute_bind_ok book (execute_get book)] at refuses
  rcases (execute_bind_eq_error_iff book).mp refuses with checks | ⟨wanted, middle, checks, rest⟩
  · rw [execute_ofExcept] at checks
    exact (Prod.mk.inj checks).2.symm
  · rw [execute_ofExcept] at checks
    obtain rfl := (Prod.mk.inj checks).2
    rcases (execute_bind_eq_error_iff _).mp rest with writes | ⟨report, written, -, absurdly⟩
    · exact execute_atomically_error _ writes
    · cases absurdly

end Sheet

/-- The items of a sheet have the classes chosen for them, and every other row of the map
is as it was. -/
structure Maps (company : String) (choices : List (WorksheetRow × String))
    (book after : ClassBook) : Prop where
  mapped : ∀ choice ∈ choices,
    after.classOf company choice.1.item.qboId = some choice.2
  others : ∀ other ref, other ≠ company ∨ ref ∉ choices.map (fun choice => choice.1.item.qboId) →
    after.rowOf other ref = book.rowOf other ref

/-- A choice that reads back as it was written: an id, and an active class that lower
case leaves as it is. -/
structure Readable (lowered : String → String) (choice : WorksheetRow × String) : Prop where
  someId : choice.1.item.qboId ≠ ""
  sameId : readAs choice.1.item.qboId = choice.1.item.qboId
  someClass : choice.2 ≠ ""
  sameClass : lowered (readAs choice.2) = choice.2

/-- A readable worksheet with one class for an item maps its items and nothing else, and
whatever is refused leaves the map as it was. -/
theorem worksheet_maps (lowered quoted : String → String) (company now actor : String)
    (book : ClassBook) (choices : List (WorksheetRow × String))
    (active : ∀ choice ∈ choices, (book.listClasses company).lookup choice.2 = some true ∧
      choice.2 ≠ importFallbackClass)
    (readable : ∀ choice ∈ choices, Readable lowered choice)
    (once : ∀ first ∈ choices, ∀ second ∈ choices,
      first.1.item.qboId = second.1.item.qboId → first.2 = second.2) :
    Maps company choices book
        (execute (applyCsv quoted company now actor lowered (reviewedCsv choices)) book).2 ∧
      ∀ rows before failure after,
        execute (apply quoted company now actor rows) before = (.error failure, after) →
          after = before := by
  refine ⟨?_, fun rows before failure after refuses => execute_apply_error refuses⟩
  obtain ⟨rows, parses, rowsEq⟩ := parseReviewed_reviewedCsv lowered choices
  have asChosen : (rows.map fun row => (row.qboId, row.classId)) =
      choices.map fun choice => (choice.1.item.qboId, choice.2) := by
    rw [rowsEq]
    apply List.map_congr_left
    intro choice choiceMem
    have reads := readable choice choiceMem
    rw [reads.sameId, reads.sameClass]
  have ofRow : ∀ row ∈ rows, ∃ choice ∈ choices,
      choice.1.item.qboId = row.qboId ∧ choice.2 = row.classId := by
    intro row rowMem
    have pairMem := List.mem_map_of_mem (f := fun row : ReviewedRow => (row.qboId, row.classId)) rowMem
    rw [asChosen] at pairMem
    obtain ⟨choice, choiceMem, same⟩ := List.mem_map.mp pairMem
    exact ⟨choice, choiceMem, Prod.mk.inj same⟩
  have fine : ∀ row ∈ rows, Fine (book.listClasses company) row := by
    intro row rowMem
    obtain ⟨choice, choiceMem, sameId, sameClass⟩ := ofRow row rowMem
    have reads := readable choice choiceMem
    obtain ⟨isActive, notFallback⟩ := active choice choiceMem
    rw [sameClass] at isActive notFallback
    exact ⟨sameId ▸ reads.someId, sameClass ▸ reads.someClass, notFallback, isActive⟩
  have onceRows : Once rows := by
    intro first firstMem second secondMem same
    obtain ⟨choice, choiceMem, sameId, sameClass⟩ := ofRow first firstMem
    obtain ⟨other, otherMem, otherId, otherClass⟩ := ofRow second secondMem
    rw [← sameClass, ← otherClass]
    exact once choice choiceMem other otherMem (sameId.trans (same.trans otherId.symm))
  have outcome : execute (MonadExcept.ofExcept
      (parseReviewed lowered (reviewedCsv choices)) : ClassProgram _) book = (.ok rows, book) := by
    rw [execute_ofExcept, parses]
  have written := @execute_apply quoted company now actor book rows fine onceRows
  rw [applyCsv, execute_bind_ok book outcome]
  constructor
  · intro choice choiceMem
    have pairMem := List.mem_map_of_mem
      (f := fun choice : WorksheetRow × String => (choice.1.item.qboId, choice.2)) choiceMem
    rw [← asChosen] at pairMem
    obtain ⟨row, rowMem, same⟩ := List.mem_map.mp pairMem
    obtain ⟨sameId, sameClass⟩ := Prod.mk.inj same
    rw [← sameId, ← sameClass]
    exact written.1 row rowMem
  · intro other ref differs
    apply written.2
    refine differs.imp_right fun absent there => absent ?_
    obtain ⟨row, rowMem, rfl⟩ := List.mem_map.mp there
    obtain ⟨choice, choiceMem, sameId, -⟩ := ofRow row rowMem
    exact List.mem_map.mpr ⟨choice, choiceMem, sameId⟩

/-! ### A small sheet -/

def smallBook : ClassBook where
  classes := [⟨"demo", "kits", true⟩, ⟨"demo", "parts", true⟩, ⟨"demo", "Tubes", true⟩]
  itemClassMap := []

/-- A row whose name has a comma, a quote, a line break and a carriage return. -/
def rowFor (qboId : String) : WorksheetRow where
  item := ⟨qboId, some "T-1,2", "Tube \"L\"\r\nblue\r", "Inventory", none, some "Sales, kits"⟩
  salesLines := 3
  salesAmount := .fromMinor 12500
  suggestedClass := some "parts"
  rule := none

theorem smallSheet_maps :
    Maps "demo" [(rowFor "12", "kits"), (rowFor "7", "parts")] smallBook
        (execute (applyCsv id "demo" "now" "clerk" String.toLower
          (reviewedCsv [(rowFor "12", "kits"), (rowFor "7", "parts")])) smallBook).2 ∧
      ∀ rows before failure after,
        execute (apply id "demo" "now" "clerk" rows) before = (.error failure, after) →
          after = before := by
  apply worksheet_maps
  · decide +kernel
  · intro choice choiceMem
    have both : choice = (rowFor "12", "kits") ∨ choice = (rowFor "7", "parts") := by
      simpa using choiceMem
    rcases both with rfl | rfl
    · exact ⟨by decide +kernel, by decide +kernel, by decide +kernel, by decide +kernel⟩
    · exact ⟨by decide +kernel, by decide +kernel, by decide +kernel, by decide +kernel⟩
  · decide +kernel

def applied (choices : List (WorksheetRow × String)) : ClassBook :=
  (execute (applyCsv id "demo" "now" "clerk" String.toLower (reviewedCsv choices)) smallBook).2

/-- An id with white space around it or a bare carriage return in it, no id, a class that
is not in lower case and two classes for an item are not mapped as chosen. -/
theorem reviewedCsv_not_maps :
    ¬Maps "demo" [(rowFor " 12", "kits")] smallBook (applied [(rowFor " 12", "kits")]) ∧
    ¬Maps "demo" [(rowFor "1\r2", "kits")] smallBook (applied [(rowFor "1\r2", "kits")]) ∧
    ¬Maps "demo" [(rowFor "", "kits")] smallBook (applied [(rowFor "", "kits")]) ∧
    ¬Maps "demo" [(rowFor "12", "Tubes")] smallBook (applied [(rowFor "12", "Tubes")]) ∧
    ¬Maps "demo" [(rowFor "12", "kits"), (rowFor "12", "parts")] smallBook
      (applied [(rowFor "12", "kits"), (rowFor "12", "parts")]) := by
  refine ⟨?_, ?_, ?_, ?_, ?_⟩
  all_goals
    intro maps
    exact absurd (maps.mapped _ (List.mem_cons_self ..)) (by decide +kernel)

end ItemClasses

end QuickBooks
