import QuickBooks.CsvTexts

/-!
# Tables as texts

A field of a table is written as it is or in quotes, where it has to be with its quotes
doubled; a row ends with a line break, with or without a carriage return, and the last one
need not end.  A reader that leaves out blank rows reads every text of a table as the rows
of the table that are not blank.
-/

namespace WrittenTables

open CsvTexts

/-! ### Writing -/

def IsPlain (char : Char) : Prop :=
  char ≠ ',' ∧ char ≠ '"' ∧ char ≠ '\r' ∧ char ≠ '\n'

/-- The ways to write a field. -/
inductive WritesField : List Char → List Char → Prop where
  | bare {raw : List Char} (plain : ∀ char ∈ raw, IsPlain char) : WritesField raw raw
  | quoted (raw : List Char) : WritesField ('"' :: (doubled raw ++ ['"'])) raw

/-- The ways to write a row, without its end. -/
inductive WritesRow : List Char → List String → Prop where
  | last {written : List Char} {field : String} (writes : WritesField written field.toList) :
    WritesRow written [field]
  | more {written others : List Char} {field : String} {fields : List String}
    (writes : WritesField written field.toList) (rest : WritesRow others fields) :
    WritesRow (written ++ ',' :: others) (field :: fields)

/-- The ways to write a table. -/
inductive Writes : List Char → List (List String) → Prop where
  | nothing : Writes [] []
  | unended {written : List Char} {row : List String} (writes : WritesRow written row) :
    Writes written [row]
  | ended {written others : List Char} {row : List String} {rows : List (List String)}
    (writes : WritesRow written row) (rest : Writes others rows) :
    Writes (written ++ '\n' :: others) (row :: rows)
  | returned {written others : List Char} {row : List String} {rows : List (List String)}
    (writes : WritesRow written row) (rest : Writes others rows) :
    Writes (written ++ '\r' :: '\n' :: others) (row :: rows)

theorem writesField_fieldChars {raw : List Char} (noReturn : '\r' ∉ raw) :
    WritesField (fieldChars raw) raw := by
  unfold fieldChars
  split_ifs with quotes
  · exact .quoted raw
  · apply WritesField.bare
    intro char charMem
    have notAny : ¬(char = ',' ∨ char = '"' ∨ char = '\n') := by
      intro special
      apply quotes
      exact List.any_eq_true.mpr ⟨char, charMem, by simpa [or_assoc] using special⟩
    refine ⟨fun same => notAny (.inl same), fun same => notAny (.inr (.inl same)), ?_,
      fun same => notAny (.inr (.inr same))⟩
    rintro rfl
    exact noReturn charMem

theorem writesRow_lineChars {fields : List String} (someField : fields ≠ [])
    (noReturn : ∀ field ∈ fields, '\r' ∉ field.toList) :
    WritesRow (lineChars (fields.map String.toList)) fields := by
  induction fields with
  | nil => exact absurd rfl someField
  | cons field fields ih =>
    have writes := writesField_fieldChars (noReturn field (.head _))
    cases fields with
    | nil => exact .last writes
    | cons next fields =>
      exact .more writes (ih (List.cons_ne_nil _ _) fun other otherMem =>
        noReturn other (.tail _ otherMem))

/-! ### Reading -/

/-- A reader between two characters: the rows and fields it is done with, the field it is
in, whether it is in quotes and whether the next character has been taken already. -/
structure Scan where
  rows : List (List String) := []
  row : List String := []
  field : List Char := []
  quoted : Bool := false
  taken : Bool := false

def hasText (blank : String → Bool) (row : List String) : Bool :=
  row.any fun field => !blank field

variable (blank : String → Bool)

namespace Scan

def push (scan : Scan) (char : Char) : Scan :=
  { scan with field := scan.field ++ [char] }

def fields (scan : Scan) : List String :=
  scan.row ++ [String.ofList scan.field]

def keepRow (scan : Scan) : List (List String) :=
  if hasText blank scan.fields then scan.rows ++ [scan.fields] else scan.rows

/-- One character, with the one after it. -/
def step (scan : Scan) (char : Char) (peek : Option Char) : Scan :=
  if char = '"' ∧ scan.quoted ∧ peek = some '"' then { scan.push '"' with taken := true }
  else if char = '"' ∧ scan.quoted then { scan with quoted := false }
  else if char = '"' ∧ scan.field = [] then { scan with quoted := true }
  else if char = ',' ∧ !scan.quoted then { scan with row := scan.fields, field := [] }
  else if char = '\r' ∧ !scan.quoted then scan
  else if char = '\n' ∧ !scan.quoted then
    { scan with rows := scan.keepRow blank, row := [], field := [] }
  else scan.push char

end Scan

/-- Read on to the end. -/
def scanOn : List Char → Scan → Scan
  | [], scan => scan
  | char :: chars, scan =>
    if scan.taken then scanOn chars { scan with taken := false }
    else scanOn chars (scan.step blank char chars.head?)

def parseCsv (text : String) : List (List String) :=
  (scanOn blank text.toList {}).keepRow blank

/-! ### What is read of what is written -/

variable {blank} {rows : List (List String)} {row : List String} {field raw rest written : List Char}

def outside (rows : List (List String)) (row : List String) (field : List Char) : Scan :=
  ⟨rows, row, field, false, false⟩

def inside (rows : List (List String)) (row : List String) (field : List Char) : Scan :=
  ⟨rows, row, field, true, false⟩

theorem scanOn_outside (char : Char) :
    scanOn blank (char :: rest) (outside rows row field) =
      scanOn blank rest ((outside rows row field).step blank char rest.head?) :=
  rfl

theorem scanOn_inside (char : Char) :
    scanOn blank (char :: rest) (inside rows row field) =
      scanOn blank rest ((inside rows row field).step blank char rest.head?) :=
  rfl

theorem scanOn_plain (plain : ∀ char ∈ raw, IsPlain char) :
    scanOn blank (raw ++ rest) (outside rows row field) =
      scanOn blank rest (outside rows row (field ++ raw)) := by
  induction raw generalizing field with
  | nil => simp
  | cons char raw ih =>
    obtain ⟨notComma, notQuote, notReturn, notBreak⟩ := plain char (.head _)
    have pushes : (outside rows row field).step blank char (raw ++ rest).head? =
        outside rows row (field ++ [char]) := by
      simp [Scan.step, notComma, notQuote, notReturn, notBreak, Scan.push, outside]
    rw [List.cons_append, scanOn_outside, pushes, ih fun other otherMem =>
      plain other (.tail _ otherMem)]
    simp

theorem scanOn_doubled (ends : rest.head? ≠ some '"') :
    scanOn blank (doubled raw ++ '"' :: rest) (inside rows row field) =
      scanOn blank rest (outside rows row (field ++ raw)) := by
  induction raw generalizing field with
  | nil =>
    have closes : (inside rows row field).step blank '"' rest.head? = outside rows row field := by
      simp [Scan.step, inside, outside, ends]
    rw [doubled, List.nil_append, scanOn_inside, closes, List.append_nil]
  | cons char raw ih =>
    have appended : field ++ char :: raw = (field ++ [char]) ++ raw := by simp
    rw [appended, ← ih]
    by_cases isQuote : char = '"'
    · subst isQuote
      rw [doubled, if_pos rfl]
      rfl
    · have pushes : (inside rows row field).step blank char (doubled raw ++ '"' :: rest).head? =
          inside rows row (field ++ [char]) := by
        simp [Scan.step, isQuote, inside, Scan.push]
      rw [doubled, if_neg isQuote, List.cons_append, scanOn_inside, pushes]

theorem scanOn_field (writes : WritesField written raw) (ends : rest.head? ≠ some '"') :
    scanOn blank (written ++ rest) (outside rows row []) =
      scanOn blank rest (outside rows row raw) := by
  cases writes with
  | bare plain => exact scanOn_plain plain
  | quoted =>
    have opens : (outside rows row []).step blank '"' ((doubled raw ++ ['"']) ++ rest).head? =
        inside rows row [] := by
      simp [Scan.step, outside, inside]
    rw [List.cons_append, scanOn_outside, opens, List.append_assoc]
    exact scanOn_doubled ends

def EndsRow (rest : List Char) : Prop :=
  ∀ char ∈ rest.head?, char = '\r' ∨ char = '\n'

theorem EndsRow.ne_quote (ends : EndsRow rest) : rest.head? ≠ some '"' := by
  intro isQuote
  rcases ends _ isQuote with same | same <;> exact absurd same (by decide)

theorem scanOn_row {fields : List String} (writes : WritesRow written fields)
    (ends : EndsRow rest) :
    ∃ scan, scanOn blank (written ++ rest) (outside rows row []) = scanOn blank rest scan ∧
      scan.quoted = false ∧ scan.taken = false ∧ scan.rows = rows ∧ scan.fields = row ++ fields := by
  induction writes generalizing row with
  | @last written field writes =>
    refine ⟨_, scanOn_field writes ends.ne_quote, rfl, rfl, rfl, ?_⟩
    simp [Scan.fields, outside]
  | @more written others field fields writes more ih =>
    obtain ⟨scan, reads, notQuoted, notTaken, sameRows, sameFields⟩ := @ih (row ++ [field])
    refine ⟨scan, ?_, notQuoted, notTaken, sameRows, ?_⟩
    · have comma : (outside rows row field.toList).step blank ',' (others ++ rest).head? =
          outside rows (row ++ [field]) [] := by
        simp [Scan.step, Scan.fields, outside]
      rw [List.append_assoc, List.cons_append, scanOn_field writes (by simp), scanOn_outside,
        comma, reads]
    · rw [sameFields, List.append_assoc, List.singleton_append]

theorem keepRow_eq {scan : Scan} {fields : List String} (sameFields : scan.fields = fields) :
    scan.keepRow blank = scan.rows ++ [fields].filter (hasText blank) := by
  unfold Scan.keepRow
  rw [sameFields]
  split_ifs with isText
  · simp [isText]
  · simp [isText]

theorem scanOn_break {scan : Scan} {fields : List String} (notQuoted : scan.quoted = false)
    (notTaken : scan.taken = false) (sameFields : scan.fields = fields) :
    scanOn blank ('\n' :: rest) scan =
      scanOn blank rest (outside (scan.rows ++ [fields].filter (hasText blank)) [] []) := by
  rw [← keepRow_eq sameFields, scanOn, notTaken]
  simp [Scan.step, notQuoted, notTaken, outside]

theorem scanOn_return {scan : Scan} (notQuoted : scan.quoted = false)
    (notTaken : scan.taken = false) :
    scanOn blank ('\r' :: rest) scan = scanOn blank rest scan := by
  rw [scanOn, notTaken]
  simp [Scan.step, notQuoted]

theorem keepRow_scanOn {table : List (List String)} (writes : Writes written table)
    (nothingBlank : blank "" = true) :
    (scanOn blank written (outside rows [] [])).keepRow blank =
      rows ++ table.filter (hasText blank) := by
  induction writes generalizing rows with
  | nothing => simp [scanOn, Scan.keepRow, Scan.fields, outside, hasText, nothingBlank]
  | @unended written row writes =>
    obtain ⟨scan, reads, notQuoted, notTaken, rfl, sameFields⟩ :=
      @scanOn_row blank rows [] [] written row writes (by simp [EndsRow])
    rw [List.append_nil] at reads
    rw [reads, scanOn, keepRow_eq sameFields, List.nil_append]
  | @ended written others row table writes _ ih =>
    obtain ⟨scan, reads, notQuoted, notTaken, rfl, sameFields⟩ :=
      @scanOn_row blank rows [] ('\n' :: others) written row writes (by simp [EndsRow])
    rw [reads, scanOn_break notQuoted notTaken sameFields, ih, List.append_assoc,
      ← List.filter_append]
    rfl
  | @returned written others row table writes _ ih =>
    obtain ⟨scan, reads, notQuoted, notTaken, rfl, sameFields⟩ :=
      @scanOn_row blank rows [] ('\r' :: '\n' :: others) written row writes (by simp [EndsRow])
    rw [reads, scanOn_return notQuoted notTaken, scanOn_break notQuoted notTaken sameFields, ih,
      List.append_assoc, ← List.filter_append]
    rfl

theorem parseCsv_of_writes {text : String} {table : List (List String)}
    (writes : Writes text.toList table) (nothingBlank : blank "" = true) :
    parseCsv blank text = table.filter (hasText blank) :=
  @keepRow_scanOn blank [] text.toList table writes nothingBlank

end WrittenTables
