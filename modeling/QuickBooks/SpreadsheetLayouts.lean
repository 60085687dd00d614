import QuickBooks.DecimalTexts
import QuickBooks.SpreadsheetImports

/-!
# Layouts of a spreadsheet

A table is laid out in a file with its columns in some order, under headings of which each
is accepted for one field, in some quoting and with blank rows.  An import makes the same of
every layout, but it counts the rows that are not blank.
-/

namespace QuickBooks

open CsvTexts DecimalNumbers ExceptPrograms WrittenTables

namespace MfgImport

/-! ### The rows of a file -/

/-- The numbers, in a file, of its rows that are not blank. -/
def fileNumbers : ℕ → List (List String) → List ℕ
  | _, [] => []
  | number, row :: rows =>
    if hasText isBlank row then number :: fileNumbers (number + 1) rows
    else fileNumbers (number + 1) rows

theorem le_of_mem_fileNumbers {rows : List (List String)} {first place number : ℕ}
    (isNumber : (fileNumbers first rows)[place]? = some number) : first + place ≤ number := by
  induction rows generalizing first place with
  | nil => simp [fileNumbers] at isNumber
  | cons row rows ih =>
    rw [fileNumbers] at isNumber
    split_ifs at isNumber
    · cases place with
      | zero => simp_all
      | succ place =>
        have later := ih (by simpa using isNumber)
        omega
    · have later := ih isNumber
      omega

theorem fileNumbers_eq_iff {rows : List (List String)} {first place number : ℕ}
    (isNumber : (fileNumbers first rows)[place]? = some number) :
    number = first + place ↔ ∀ row ∈ rows.take (place + 1), hasText isBlank row = true := by
  induction rows generalizing first place with
  | nil => simp [fileNumbers] at isNumber
  | cons row rows ih =>
    rw [fileNumbers] at isNumber
    split_ifs at isNumber with isText
    · cases place with
      | zero =>
        have same : first = number := by simpa using isNumber
        simp [same, isText]
      | succ place =>
        have later := @ih (first + 1) place (by simpa using isNumber)
        rw [List.take_succ_cons, List.forall_mem_cons, ← later]
        simp only [isText, true_and]
        omega
    · have atLeast := le_of_mem_fileNumbers isNumber
      rw [List.take_succ_cons, List.forall_mem_cons]
      constructor
      · intro same
        omega
      · intro noBlanks
        exact absurd noBlanks.1 isText

theorem length_fileNumbers (first : ℕ) (rows : List (List String)) :
    (fileNumbers first rows).length = (rows.filter (hasText isBlank)).length := by
  induction rows generalizing first with
  | nil => rfl
  | cons row rows ih =>
    rw [fileNumbers, List.filter_cons]
    split_ifs
    · simp [ih]
    · exact ih (first + 1)

theorem findIdx?_congr {γ : Type} {elements : List γ} {wanted other : γ → Bool}
    (same : ∀ element ∈ elements, wanted element = other element) :
    elements.findIdx? wanted = elements.findIdx? other := by
  induction elements with
  | nil => rfl
  | cons element elements ih =>
    rw [List.findIdx?_cons, List.findIdx?_cons, same element (.head _),
      ih fun later laterMem => same later (.tail _ laterMem)]

theorem cell_findIdx? {γ : Type} [DecidableEq γ] (order : List γ) (row : γ → String) (field : γ) :
    cell (order.map row) (order.findIdx? fun column => column = field) =
      if field ∈ order then trimmed (row field) else "" := by
  induction order with
  | nil => rfl
  | cons column order ih =>
    rw [List.findIdx?_cons]
    by_cases isField : column = field
    · simp [isField, cell]
    · have other : field ≠ column := Ne.symm isField
      simp only [isField, decide_false, List.mem_cons, other, false_or, ← ih]
      cases order.findIdx? fun column => decide (column = field) with
      | none => rfl
      | some place => simp [cell]

/-! ### Tables and their layouts -/

/-- The fields that a table has columns of, and its rows. -/
structure Table (φ : Type) where
  columns : List φ
  distinct : columns.Nodup
  rows : List (φ → String)

variable {φ α β : Type}

namespace Table

def filled (table : Table φ) : List (φ → String) :=
  table.rows.filter fun row => table.columns.any fun field => !isBlank (row field)

def cells [DecidableEq φ] (table : Table φ) : List (φ → String) :=
  table.filled.map fun row field => if field ∈ table.columns then trimmed (row field) else ""

end Table

/-- What an import makes of a table, however it is laid out. -/
def Importer.outcome [DecidableEq φ] (importer : Importer φ α β) (table : Table φ) :
    Except (List RowError) (List α) := do
  importer.required.forM fun column =>
    ensure (column.1 ∈ table.columns) [⟨1, "no " ++ column.2 ++ " column in the header"⟩]
  importRows importer table.cells

/-- A text of a table: its columns in some order, under headings accepted for one field
each, and its rows, with blank ones between them. -/
structure Layout (texts : ImportTexts) (names : φ → List String) (table : Table φ) where
  order : List φ
  perm : order.Perm table.columns
  heading : φ → String
  accepted : ∀ field ∈ order, ∀ other, accepts texts (names other) (heading field) = true ↔ other = field
  fileRows : List (List String)
  filled : fileRows.filter (hasText isBlank) =
    order.map heading :: table.filled.map fun row => order.map row
  text : String
  writes : Writes text.toList fileRows

/-- A layout without blank rows. -/
structure PlainLayout (texts : ImportTexts) (names : φ → List String) (table : Table φ) extends
    Layout texts names table where
  noBlanks : ∀ row ∈ fileRows, hasText isBlank row = true

namespace Layout

variable {texts : ImportTexts} {names : φ → List String} {table : Table φ}
  (layout : Layout texts names table)

def numberOf (line : ℕ) : ℕ :=
  ((fileNumbers 1 layout.fileRows)[line - 1]?).getD 0

def NoBlankAbove (line : ℕ) : Prop :=
  ∀ row ∈ layout.fileRows.take line, hasText isBlank row = true

theorem numberOf_eq_iff {line : ℕ} (positive : 0 < line)
    (inRange : line ≤ table.filled.length + 1) :
    layout.numberOf line = line ↔ layout.NoBlankAbove line := by
  obtain ⟨place, rfl⟩ := Nat.exists_eq_add_of_lt positive
  rw [Nat.zero_add] at inRange ⊢
  have inFile : place < (fileNumbers 1 layout.fileRows).length := by
    rw [length_fileNumbers, layout.filled, List.length_cons, List.length_map]
    omega
  have isNumber := List.getElem?_eq_getElem inFile
  rw [numberOf, Nat.add_sub_cancel, isNumber, Option.getD_some, NoBlankAbove,
    ← fileNumbers_eq_iff isNumber, Nat.add_comm]

/-! ### What an import makes of a layout -/

variable [DecidableEq φ] {importer : Importer φ α β}

theorem findColumn_eq (field : φ) :
    findColumn texts (layout.order.map layout.heading) (names field) =
      layout.order.findIdx? fun column => column = field := by
  rw [findColumn, List.findIdx?_map]
  apply findIdx?_congr
  intro column columnMem
  rw [Function.comp_apply, Bool.eq_iff_iff, layout.accepted column columnMem, decide_eq_true_eq]
  exact eq_comm

theorem cell_eq (row : φ → String) (field : φ) :
    cell (layout.order.map row) (findColumn texts (layout.order.map layout.heading) (names field)) =
      if field ∈ table.columns then trimmed (row field) else "" := by
  rw [layout.findColumn_eq, cell_findIdx?]
  exact if_congr layout.perm.mem_iff rfl rfl

theorem runImport_eq (layout : Layout texts importer.names table) :
    runImport texts importer layout.text = importer.outcome table := by
  have rows : parseCsv layout.text = layout.order.map layout.heading ::
      table.filled.map fun row => layout.order.map row := by
    rw [parseCsv, parseCsv_of_writes layout.writes (by decide), layout.filled]
  have found : ∀ field, (findColumn texts (layout.order.map layout.heading)
      (importer.names field)).isSome = decide (field ∈ table.columns) := by
    intro field
    rw [layout.findColumn_eq, List.findIdx?_isSome, Bool.eq_iff_iff]
    simp [← layout.perm.mem_iff]
  rw [runImport, rows]
  simp only [checkColumns, found, List.map_map, Function.comp_def, layout.cell_eq]
  rfl

end Layout

/-! ### Bad rows -/

def Importer.Reads (importer : Importer φ α β) (rows : List (φ → String)) (place : ℕ)
    (parsed : β) : Prop :=
  ∃ row, rows[place]? = some row ∧ importer.parse (place + 2) row = .ok parsed

/-- A row that is not read as a record, or as one like that of a row before it. -/
def Importer.Bad (importer : Importer φ α β) (alike : β → β → Bool) (rows : List (φ → String))
    (place : ℕ) : Prop :=
  (∃ row message, rows[place]? = some row ∧ importer.parse (place + 2) row = .error message) ∨
    ∃ parsed, importer.Reads rows place parsed ∧
      ∃ before < place, ∃ earlier, importer.Reads rows before earlier ∧ alike earlier parsed = true

/-- A record repeats what is there when one like it was added. -/
structure Importer.Tells (importer : Importer φ α β) (alike : β → β → Bool) : Prop where
  nothing : ∀ parsed, importer.repeats [] parsed = false
  added : ∀ out parsed later, importer.repeats (importer.add out parsed) later =
    (importer.repeats out later || alike parsed later)
  repeated : ∀ out parsed later, importer.repeats out parsed = true → alike parsed later = true →
    importer.repeats out later = true

section Loop

variable {importer : Importer φ α β} {alike : β → β → Bool} {rows : List (φ → String)}

theorem Importer.Bad.lt_length {rows : List (φ → String)} {place : ℕ}
    (isBad : importer.Bad alike rows place) : place < rows.length := by
  rcases isBad with ⟨row, -, found, -⟩ | ⟨-, ⟨row, found, -⟩, -⟩
  · exact (List.getElem?_eq_some_iff.mp found).1
  · exact (List.getElem?_eq_some_iff.mp found).1

/-- The state of the loop before a row: its errors are those of the bad rows, and what
repeats is like a record of a row. -/
structure Looped (importer : Importer φ α β) (alike : β → β → Bool) (rows : List (φ → String))
    (place : ℕ) (state : List α × List RowError) : Prop where
  errors : ∀ line, (∃ error ∈ state.2, error.line = line) ↔
    ∃ before < place, line = before + 2 ∧ importer.Bad alike rows before
  repeats : ∀ parsed, importer.repeats state.1 parsed = true ↔
    ∃ before < place, ∃ earlier, importer.Reads rows before earlier ∧ alike earlier parsed = true

theorem Looped.bad {place : ℕ} {state : List α × List RowError} {message : String}
    (looped : Looped importer alike rows place state) (isBad : importer.Bad alike rows place)
    (sameRepeats : ∀ parsed later, importer.Reads rows place parsed →
      alike parsed later = true → importer.repeats state.1 later = true) :
    Looped importer alike rows (place + 1) (state.1, state.2 ++ [⟨place + 2, message⟩]) where
  errors := by
    intro line
    simp only [List.mem_append, List.mem_singleton, or_and_right, exists_or, exists_eq_left,
      looped.errors, Nat.lt_succ_iff_lt_or_eq, exists_eq_left]
    constructor
    · rintro (earlier | rfl)
      · exact .inl earlier
      · exact .inr ⟨rfl, isBad⟩
    · rintro (earlier | ⟨rfl, -⟩)
      · exact .inl earlier
      · exact .inr rfl
  repeats := by
    intro parsed
    simp only [Nat.lt_succ_iff_lt_or_eq, or_and_right, exists_or, exists_eq_left]
    rw [looped.repeats]
    constructor
    · exact .inl
    · rintro (earlier | ⟨own, reads, isAlike⟩)
      · exact earlier
      · exact (looped.repeats parsed).mp (sameRepeats own parsed reads isAlike)

theorem Looped.good {place : ℕ} {state : List α × List RowError} {parsed : β}
    (looped : Looped importer alike rows place state) (tells : importer.Tells alike)
    (reads : importer.Reads rows place parsed) (isNew : importer.repeats state.1 parsed = false) :
    Looped importer alike rows (place + 1) (importer.add state.1 parsed, state.2) where
  errors := by
    intro line
    rw [looped.errors]
    simp only [Nat.lt_succ_iff_lt_or_eq, or_and_right, exists_or, exists_eq_left]
    constructor
    · exact .inl
    · rintro (earlier | ⟨-, isBad⟩)
      · exact earlier
      · obtain ⟨row, found, parses⟩ := reads
        rcases isBad with ⟨other, message, otherFound, fails⟩ | ⟨own, ownReads, repeats⟩
        · cases found.symm.trans otherFound
          cases parses.symm.trans fails
        · obtain ⟨other, otherFound, otherParses⟩ := ownReads
          cases found.symm.trans otherFound
          cases parses.symm.trans otherParses
          rw [← looped.repeats, isNew] at repeats
          cases repeats
  repeats := by
    intro later
    rw [tells.added, Bool.or_eq_true, looped.repeats]
    simp only [Nat.lt_succ_iff_lt_or_eq, or_and_right, exists_or, exists_eq_left]
    apply or_congr_right
    constructor
    · exact fun isAlike => ⟨parsed, reads, isAlike⟩
    · rintro ⟨own, ⟨other, otherFound, otherParses⟩, isAlike⟩
      obtain ⟨row, found, parses⟩ := reads
      cases found.symm.trans otherFound
      cases parses.symm.trans otherParses
      exact isAlike

theorem Looped.step {place : ℕ} {state : List α × List RowError} {row : φ → String}
    (looped : Looped importer alike rows place state) (tells : importer.Tells alike)
    (found : rows[place]? = some row) :
    Looped importer alike rows (place + 1) (importStep importer state (row, place)) := by
  unfold importStep
  dsimp only
  cases parses : importer.parse (place + 2) row with
  | error message =>
    apply looped.bad (.inl ⟨row, message, found, parses⟩)
    rintro parsed later ⟨other, otherFound, otherParses⟩ -
    cases found.symm.trans otherFound
    cases parses.symm.trans otherParses
  | ok parsed =>
    have reads : importer.Reads rows place parsed := ⟨row, found, parses⟩
    dsimp only
    split_ifs with repeats
    · apply looped.bad (.inr ⟨parsed, reads, (looped.repeats parsed).mp repeats⟩)
      rintro own later ⟨other, otherFound, otherParses⟩ isAlike
      cases found.symm.trans otherFound
      cases parses.symm.trans otherParses
      exact tells.repeated _ parsed later repeats isAlike
    · exact looped.good tells reads (Bool.eq_false_iff.mpr repeats)

theorem looped_foldl (tells : importer.Tells alike) :
    Looped importer alike rows rows.length (rows.zipIdx.foldl (importStep importer) ([], [])) := by
  have upTo : ∀ place ≤ rows.length, Looped importer alike rows place
      ((rows.zipIdx.take place).foldl (importStep importer) ([], [])) := by
    intro place
    induction place with
    | zero =>
      intro _
      constructor
      · simp
      · simp [tells.nothing]
    | succ place ih =>
      intro inRange
      have inZip : place < rows.zipIdx.length := by
        rw [List.length_zipIdx]
        omega
      rw [List.take_add_one, List.getElem?_eq_getElem inZip, Option.toList_some,
        List.foldl_append, List.foldl_cons, List.foldl_nil, List.getElem_zipIdx, Nat.zero_add]
      exact (ih (by omega)).step tells (List.getElem?_eq_getElem _)
  have whole := upTo rows.length le_rfl
  rwa [List.take_of_length_le (by rw [List.length_zipIdx])] at whole

end Loop

/-! ### What an import meets -/

/-- A line of a plain layout whose row is bad: the header's when a column is missing, else
that of a bad row. -/
def Importer.BadLine [DecidableEq φ] (importer : Importer φ α β) (alike : β → β → Bool)
    (table : Table φ) (line : ℕ) : Prop :=
  if ∀ column ∈ importer.required, column.1 ∈ table.columns then
    ∃ place, line = place + 2 ∧ importer.Bad alike table.cells place
  else line = 1

/-- The same records, or errors for the same rows, each with the number of its row. -/
def Agrees (numberOf : ℕ → ℕ) :
    Except (List RowError) (List α) → Except (List RowError) (List α) → Prop
  | .ok records, .ok others => others = records
  | .error errors, .error others =>
    others = errors.map fun error => { error with line := numberOf error.line }
  | _, _ => False

/-- An import of a layout agrees with that of a plain one, and gives no records when a row
is bad. -/
def Meets [DecidableEq φ] {texts : ImportTexts} {names : φ → List String} {table : Table φ}
    (layout : Layout texts names table) (plain : PlainLayout texts names table)
    (run : String → Except (List RowError) (List α)) (isBad : ℕ → Prop) : Prop :=
  Agrees layout.numberOf (run plain.text) (run layout.text) ∧
    ((∃ line, isBad line) → ∃ errors, run layout.text = .error errors)

section Meets

variable [DecidableEq φ] {texts : ImportTexts} {importer : Importer φ α β}
  {alike : β → β → Bool} {table : Table φ}

theorem agrees_self_iff {numberOf : ℕ → ℕ} (result : Except (List RowError) (List α)) :
    Agrees numberOf result result ↔
      ∀ errors, result = .error errors → ∀ error ∈ errors, numberOf error.line = error.line := by
  cases result with
  | ok records => simp [Agrees]
  | error errors =>
    simp only [Agrees, Except.error.injEq, forall_eq']
    constructor
    · intro same error errorMem
      obtain ⟨place, inRange, rfl⟩ := List.mem_iff_getElem.mp errorMem
      have renumbered := congrArg (fun errors => errors[place]?.map RowError.line) same
      simpa [inRange] using renumbered.symm
    · intro same
      have unchanged : (errors.map fun error => { error with line := numberOf error.line }) =
          errors.map id :=
        List.map_congr_left fun error errorMem => by rw [same error errorMem, id]
      rw [unchanged, List.map_id]

theorem exists_of_forM_error {γ ε : Type} {check : γ → Except ε PUnit} {elements : List γ}
    {failure : ε} (fails : elements.forM check = .error failure) :
    ∃ element ∈ elements, check element = .error failure := by
  induction elements with
  | nil => cases fails
  | cons element elements ih =>
    rw [List.forM_eq_forM, List.forM_cons, bind_eq_error_iff] at fails
    rcases fails with here | ⟨_, -, later⟩
    · exact ⟨element, .head _, here⟩
    · obtain ⟨other, otherMem, failsThere⟩ := ih later
      exact ⟨other, .tail _ otherMem, failsThere⟩

theorem outcome_cases (tells : importer.Tells alike) (table : Table φ) :
    (∃ errors, importer.outcome table = .error errors ∧
      ∀ line, (∃ error ∈ errors, error.line = line) ↔ importer.BadLine alike table line) ∨
    ((∃ records, importer.outcome table = .ok records) ∧
      ∀ line, ¬importer.BadLine alike table line) := by
  by_cases complete : ∀ column ∈ importer.required, column.1 ∈ table.columns
  · have badLine : ∀ line, importer.BadLine alike table line ↔
        ∃ place, line = place + 2 ∧ importer.Bad alike table.cells place := by
      intro line
      rw [Importer.BadLine, if_pos complete]
    have checks : (importer.required.forM fun column => ensure (column.1 ∈ table.columns)
        [(⟨1, "no " ++ column.2 ++ " column in the header"⟩ : RowError)]) = .ok () := by
      rw [forM_eq_ok_iff]
      intro column columnMem
      rw [ensure_eq_ok_iff, decide_eq_true (complete column columnMem)]
    have looped : Looped importer alike table.cells table.cells.length
        (table.cells.zipIdx.foldl (importStep importer) ([], [])) := looped_foldl tells
    have isError : ∀ line, (∃ error ∈ (table.cells.zipIdx.foldl (importStep importer) ([], [])).2,
        error.line = line) ↔ importer.BadLine alike table line := by
      intro line
      rw [looped.errors, badLine]
      constructor
      · rintro ⟨place, -, isLine, isBad⟩
        exact ⟨place, isLine, isBad⟩
      · rintro ⟨place, isLine, isBad⟩
        exact ⟨place, isBad.lt_length, isLine, isBad⟩
    have runs : importer.outcome table = importRows importer table.cells := by
      rw [Importer.outcome, checks]
      rfl
    rw [runs, importRows]
    split_ifs with noErrors
    · right
      refine ⟨⟨_, rfl⟩, ?_⟩
      intro line isBad
      obtain ⟨error, errorMem, -⟩ := (isError line).mpr isBad
      rw [noErrors] at errorMem
      cases errorMem
    · exact .inl ⟨_, rfl, isError⟩
  · left
    have badLine : ∀ line, importer.BadLine alike table line ↔ line = 1 := by
      intro line
      rw [Importer.BadLine, if_neg complete]
    cases checks : importer.required.forM fun column => ensure (column.1 ∈ table.columns)
        [(⟨1, "no " ++ column.2 ++ " column in the header"⟩ : RowError)] with
    | ok value =>
      exfalso
      apply complete
      intro column columnMem
      have found := forM_eq_ok_iff.mp checks column columnMem
      exact of_decide_eq_true (ensure_eq_ok_iff.mp found)
    | error errors =>
      obtain ⟨column, -, fails⟩ := exists_of_forM_error checks
      obtain ⟨-, rfl⟩ := ensure_eq_error_iff.mp fails
      have runs : importer.outcome table =
          .error [⟨1, "no " ++ column.2 ++ " column in the header"⟩] := by
        rw [Importer.outcome, checks]
        rfl
      refine ⟨_, runs, ?_⟩
      intro line
      simp [badLine, eq_comm]

theorem Importer.BadLine.inRange {line : ℕ} (isBad : importer.BadLine alike table line) :
    0 < line ∧ line ≤ table.filled.length + 1 := by
  unfold Importer.BadLine at isBad
  split_ifs at isBad
  · obtain ⟨place, rfl, isBadRow⟩ := isBad
    have inRange := isBadRow.lt_length
    rw [Table.cells, List.length_map] at inRange
    omega
  · omega

theorem meets_iff (tells : importer.Tells alike) (layout : Layout texts importer.names table)
    (plain : PlainLayout texts importer.names table) :
    Meets layout plain (runImport texts importer) (importer.BadLine alike table) ↔
      ∀ line, importer.BadLine alike table line → layout.NoBlankAbove line := by
  rw [Meets, layout.runImport_eq, plain.toLayout.runImport_eq, agrees_self_iff]
  have numbered : ∀ line, importer.BadLine alike table line →
      (layout.numberOf line = line ↔ layout.NoBlankAbove line) :=
    fun line isBad => layout.numberOf_eq_iff isBad.inRange.1 isBad.inRange.2
  rcases outcome_cases tells table with ⟨errors, fails, isError⟩ | ⟨⟨records, runs⟩, noneBad⟩
  · rw [fails]
    constructor
    · rintro ⟨same, -⟩ line isBad
      obtain ⟨error, errorMem, rfl⟩ := (isError line).mpr isBad
      exact (numbered _ isBad).mp (same errors rfl error errorMem)
    · intro noBlanks
      refine ⟨?_, fun _ => ⟨errors, rfl⟩⟩
      rintro _ ⟨⟩ error errorMem
      have isBad := (isError error.line).mp ⟨error, errorMem, rfl⟩
      exact (numbered _ isBad).mpr (noBlanks _ isBad)
  · rw [runs]
    constructor
    · intro _ line isBad
      exact absurd isBad (noneBad line)
    · intro _
      constructor
      · intro errors fails
        cases fails
      · rintro ⟨line, isBad⟩
        exact absurd isBad (noneBad line)

end Meets

/-! ### The three imports -/

section Imports

variable (texts : ImportTexts)

def sameMaterial (first second : MaterialImport) : Bool :=
  Project.eqIgnoreAsciiCase first.name second.name

theorem tells_materialImporter : (materialImporter texts).Tells sameMaterial where
  nothing _ := rfl
  added out parsed later := by
    simp [materialImporter, sameMaterial]
  repeated := by
    intro out parsed later repeats isSame
    obtain ⟨other, otherMem, likeOther⟩ := List.any_eq_true.mp repeats
    refine List.any_eq_true.mpr ⟨other, otherMem, ?_⟩
    simp only [sameMaterial, Project.eqIgnoreAsciiCase, decide_eq_true_eq] at likeOther isSame ⊢
    exact likeOther.trans isSame

def neverAlike {β : Type} (_ _ : β) : Bool :=
  false

theorem tells_sheetImporter : (sheetImporter texts).Tells neverAlike where
  nothing _ := rfl
  added _ _ _ := rfl
  repeated _ _ _ repeats := by cases repeats

theorem tells_countImporter : (countImporter texts).Tells neverAlike where
  nothing _ := rfl
  added _ _ _ := rfl
  repeated _ _ _ repeats := by cases repeats

/-- Each import agrees with that of a plain layout, names every bad row by its number and
gives no records when there is one, just where no blank row stands above a bad one. -/
theorem imports_meet_iff :
    (∀ (table : Table MaterialField) (layout : Layout texts MaterialField.names table)
        (plain : PlainLayout texts MaterialField.names table),
      let isBad := (materialImporter texts).BadLine sameMaterial table
      Meets layout plain (materials texts) isBad ↔ ∀ line, isBad line → layout.NoBlankAbove line) ∧
    (∀ (table : Table SheetField) (layout : Layout texts SheetField.names table)
        (plain : PlainLayout texts SheetField.names table),
      let isBad := (sheetImporter texts).BadLine neverAlike table
      Meets layout plain (buildSheets texts) isBad ↔
        ∀ line, isBad line → layout.NoBlankAbove line) ∧
    ∀ (table : Table CountField) (layout : Layout texts CountField.names table)
        (plain : PlainLayout texts CountField.names table),
      let isBad := (countImporter texts).BadLine neverAlike table
      Meets layout plain (counts texts) isBad ↔ ∀ line, isBad line → layout.NoBlankAbove line :=
  ⟨fun _ layout plain => meets_iff (tells_materialImporter texts) layout plain,
    fun _ layout plain => meets_iff (tells_sheetImporter texts) layout plain,
    fun _ layout plain => meets_iff (tells_countImporter texts) layout plain⟩

end Imports

/-! ### A blank row above a bad one -/

def asciiTexts : ImportTexts where
  isAlphanumeric := Char.isAlphanum
  toLowercase := String.toLower
  quoted text := text
  decimalFromStr := readPlainly
  dateFromYmd _ := none
  dateFromMdy _ := none

def flatSheet : MaterialField → String
  | .name => "EVA"
  | .thickness => "0"
  | .width => "48"
  | .length => "96"
  | _ => ""

def sheetTable : Table MaterialField where
  columns := [.name, .thickness, .width, .length]
  distinct := by decide
  rows := [flatSheet]

def sheetHeading : MaterialField → String
  | .name => "name"
  | .thickness => "thickness"
  | .width => "width"
  | .length => "length"
  | .color => "color"
  | .reorder => "reorder"

theorem sheetHeading_accepted : ∀ field ∈ sheetTable.columns, ∀ other,
    accepts asciiTexts other.names (sheetHeading field) = true ↔ other = field := by
  intro field fieldMem other
  cases field <;> cases other <;> decide +kernel

def sheetHeader : List String :=
  ["name", "thickness", "width", "length"]

def sheetRow : List String :=
  ["EVA", "0", "48", "96"]

theorem writesRow_sheet {row : List String} (rowMem : row ∈ [sheetHeader, [""], sheetRow]) :
    WritesRow (lineChars (row.map String.toList)) row := by
  have ordinary : ∀ row ∈ [sheetHeader, [""], sheetRow],
      row ≠ [] ∧ ∀ field ∈ row, '\r' ∉ field.toList := by
    decide +kernel
  exact writesRow_lineChars (ordinary row rowMem).1 (ordinary row rowMem).2

def plainSheet : PlainLayout asciiTexts MaterialField.names sheetTable where
  order := sheetTable.columns
  perm := .refl _
  heading := sheetHeading
  accepted := sheetHeading_accepted
  fileRows := [sheetHeader, sheetRow]
  filled := by decide +kernel
  text := "name,thickness,width,length\nEVA,0,48,96\n"
  writes := by
    have chars : "name,thickness,width,length\nEVA,0,48,96\n".toList =
        lineChars (sheetHeader.map String.toList) ++ '\n' ::
          (lineChars (sheetRow.map String.toList) ++ '\n' :: []) := by
      decide +kernel
    rw [chars]
    exact .ended (writesRow_sheet (by simp)) (.ended (writesRow_sheet (by simp)) .nothing)
  noBlanks := by decide +kernel

/-- A blank row between the header and the row. -/
def spacedSheet : Layout asciiTexts MaterialField.names sheetTable where
  order := sheetTable.columns
  perm := .refl _
  heading := sheetHeading
  accepted := sheetHeading_accepted
  fileRows := [sheetHeader, [""], sheetRow]
  filled := by decide +kernel
  text := "name,thickness,width,length\n\nEVA,0,48,96\n"
  writes := by
    have chars : "name,thickness,width,length\n\nEVA,0,48,96\n".toList =
        lineChars (sheetHeader.map String.toList) ++ '\n' ::
          (lineChars ([""].map String.toList) ++ '\n' ::
            (lineChars (sheetRow.map String.toList) ++ '\n' :: [])) := by
      decide +kernel
    rw [chars]
    exact .ended (writesRow_sheet (by simp)) (.ended (writesRow_sheet (by simp))
      (.ended (writesRow_sheet (by simp)) .nothing))

/-- The third row of a file is named as the second. -/
theorem materials_names_another_row :
    materials asciiTexts spacedSheet.text =
        .error [⟨2, "every dimension must be more than zero"⟩] ∧
      spacedSheet.numberOf 2 = 3 ∧
      ¬ ∀ (table : Table MaterialField)
        (layout : Layout asciiTexts MaterialField.names table)
        (plain : PlainLayout asciiTexts MaterialField.names table),
        Meets layout plain (materials asciiTexts)
          ((materialImporter asciiTexts).BadLine sameMaterial table) := by
  have named : materials asciiTexts spacedSheet.text =
      .error [⟨2, "every dimension must be more than zero"⟩] := by
    decide +kernel
  have plainNamed : materials asciiTexts plainSheet.text =
      .error [⟨2, "every dimension must be more than zero"⟩] := by
    decide +kernel
  have third : spacedSheet.numberOf 2 = 3 := by decide +kernel
  refine ⟨named, third, ?_⟩
  intro always
  have agrees := (always sheetTable spacedSheet plainSheet).1
  rw [named, plainNamed] at agrees
  have lines := congrArg (List.map RowError.line) agrees
  rw [List.map_map] at lines
  simp [third] at lines

end MfgImport

end QuickBooks
