import Mathlib.Algebra.GroupWithZero.Nat
import Mathlib.Data.List.Basic

/-!
# Texts of separated fields

A field with a comma, a quote or a line break stands in quotes, its quotes doubled.
The reader takes the quotes off again, drops carriage returns outside of them and
counts lines.  What is read of a written field is the field itself, less its carriage
returns where it did not need quotes.
-/

namespace CsvTexts

/-! ### Writing -/

def doubled : List Char → List Char
  | [] => []
  | char :: chars => if char = '"' then '"' :: '"' :: doubled chars else char :: doubled chars

def needsQuotes (raw : List Char) : Bool :=
  raw.any fun char => char = ',' || char = '"' || char = '\n'

def fieldChars (raw : List Char) : List Char :=
  if needsQuotes raw then '"' :: (doubled raw ++ ['"']) else raw

def csvField (raw : String) : String :=
  String.ofList (fieldChars raw.toList)

/-! ### Reading -/

/-- A reader between two characters: the records and fields it is done with, the field
it is in, whether it is in quotes, whether the next character has been taken already,
its line and the one its record began on. -/
structure Reading where
  records : List (Nat × List String) := []
  fields : List String := []
  field : List Char := []
  inQuotes : Bool := false
  taken : Bool := false
  line : Nat := 1
  recordLine : Nat := 1

namespace Reading

def push (reading : Reading) (char : Char) : Reading :=
  { reading with field := reading.field ++ [char] }

def endField (reading : Reading) : Reading :=
  { reading with fields := reading.fields ++ [String.ofList reading.field], field := [] }

/-- The end of a record. -/
def endRecord (reading : Reading) : Reading :=
  { reading with
    records := reading.records ++
      [(reading.recordLine, reading.fields ++ [String.ofList reading.field])]
    fields := []
    field := []
    line := reading.line + 1
    recordLine := reading.line + 1 }

def other (reading : Reading) (char : Char) : Reading :=
  let counted := if char = '\n' then { reading with line := reading.line + 1 } else reading
  counted.push char

/-- One character, with the one after it. -/
def step (reading : Reading) (char : Char) (peek : Option Char) : Reading :=
  if char = '"' then
    if reading.inQuotes && peek == some '"' then { reading.push '"' with taken := true }
    else { reading with inQuotes := !reading.inQuotes }
  else if reading.inQuotes then reading.other char
  else if char = ',' then reading.endField
  else if char = '\r' then reading
  else if char = '\n' then reading.endRecord
  else reading.other char

end Reading

/-- Read on to the end. -/
def readOn : List Char → Reading → Reading
  | [], reading => reading
  | char :: chars, reading =>
    if reading.taken then readOn chars { reading with taken := false }
    else readOn chars (reading.step char chars.head?)

/-- The records of a text, each with the line it begins on.  A last record without a
line break counts. -/
def splitCsv (text : String) : List (Nat × List String) :=
  let reading := readOn text.toList {}
  if reading.field = [] ∧ reading.fields = [] then reading.records
  else reading.records ++
    [(reading.recordLine, reading.fields ++ [String.ofList reading.field])]

/-! ### One field -/

def readBack (raw : List Char) : List Char :=
  if needsQuotes raw then raw else raw.filter fun char => char ≠ '\r'

def breaks (raw : List Char) : Nat :=
  raw.count '\n'

theorem breaks_cons (char : Char) (raw : List Char) :
    breaks (char :: raw) = (if char = '\n' then 1 else 0) + breaks raw := by
  unfold breaks
  rw [List.count_cons, Nat.add_comm]
  simp

section Field

variable {records : List (Nat × List String)} {fields : List String} {field raw rest : List Char}
  {line recordLine : Nat}

def outside (records : List (Nat × List String)) (fields : List String) (field : List Char)
    (line recordLine : Nat) : Reading :=
  ⟨records, fields, field, false, false, line, recordLine⟩

def inside (records : List (Nat × List String)) (fields : List String) (field : List Char)
    (line recordLine : Nat) : Reading :=
  ⟨records, fields, field, true, false, line, recordLine⟩

theorem readOn_outside (char : Char) :
    readOn (char :: rest) (outside records fields field line recordLine) =
      readOn rest ((outside records fields field line recordLine).step char rest.head?) :=
  rfl

theorem readOn_inside (char : Char) :
    readOn (char :: rest) (inside records fields field line recordLine) =
      readOn rest ((inside records fields field line recordLine).step char rest.head?) :=
  rfl

theorem step_inside_other {char : Char} (notQuote : char ≠ '"') (peek : Option Char) :
    (inside records fields field line recordLine).step char peek =
      inside records fields (field ++ [char]) (line + if char = '\n' then 1 else 0) recordLine := by
  unfold Reading.step Reading.other Reading.push inside
  rw [if_neg notQuote, if_pos rfl]
  by_cases isBreak : char = '\n'
  · rw [if_pos isBreak, if_pos isBreak]
  · rw [if_neg isBreak, if_neg isBreak, Nat.add_zero]

theorem step_outside_other {char : Char} (notQuote : char ≠ '"') (notComma : char ≠ ',')
    (notBreak : char ≠ '\n') (peek : Option Char) :
    (outside records fields field line recordLine).step char peek =
      outside records fields (if char = '\r' then field else field ++ [char]) line recordLine := by
  unfold Reading.step Reading.other Reading.push outside
  rw [if_neg notQuote]
  simp only [Bool.false_eq_true, if_false, notComma, notBreak]
  split_ifs <;> rfl

theorem readOn_doubled (ends : rest.head? ≠ some '"') :
    readOn (doubled raw ++ '"' :: rest) (inside records fields field line recordLine) =
      readOn rest (outside records fields (field ++ raw) (line + breaks raw) recordLine) := by
  induction raw generalizing field line with
  | nil =>
    rw [doubled, List.nil_append, readOn_inside, List.append_nil]
    simp [Reading.step, inside, outside, ends, breaks]
  | cons char raw ih =>
    have appended : field ++ char :: raw = (field ++ [char]) ++ raw := by simp
    rw [breaks_cons, appended, ← Nat.add_assoc]
    by_cases isQuote : char = '"'
    · subst isQuote
      rw [doubled, if_pos rfl]
      exact ih
    · rw [doubled, if_neg isQuote, List.cons_append, readOn_inside, step_inside_other isQuote]
      exact ih

theorem readOn_plain (plain : needsQuotes raw = false) :
    readOn (raw ++ rest) (outside records fields field line recordLine) =
      readOn rest (outside records fields
        (field ++ raw.filter fun char => char ≠ '\r') line recordLine) := by
  induction raw generalizing field with
  | nil => rw [List.nil_append, List.filter_nil, List.append_nil]
  | cons char raw ih =>
    simp only [needsQuotes, List.any_cons, Bool.or_eq_false_iff, decide_eq_false_iff_not]
      at plain
    obtain ⟨⟨⟨notComma, notQuote⟩, notBreak⟩, rest⟩ := plain
    rw [List.cons_append, readOn_outside, step_outside_other notQuote notComma notBreak,
      ih (by simpa [needsQuotes] using rest), List.filter_cons]
    by_cases isReturn : char = '\r'
    · simp [isReturn]
    · simp [isReturn]

theorem readOn_fieldChars (ends : rest.head? ≠ some '"') :
    readOn (fieldChars raw ++ rest) (outside records fields [] line recordLine) =
      readOn rest (outside records fields (readBack raw)
        (line + if needsQuotes raw then breaks raw else 0) recordLine) := by
  unfold fieldChars readBack
  cases quoted : needsQuotes raw with
  | true =>
    rw [if_pos rfl, if_pos rfl, if_pos rfl, List.cons_append, readOn_outside,
      List.append_assoc]
    exact readOn_doubled ends
  | false =>
    rw [if_neg (by simp), if_neg (by simp), if_neg (by simp), readOn_plain quoted]
    rfl

end Field

/-! ### Lines of fields -/

/-- The fields of a line with commas between them. -/
def lineChars : List (List Char) → List Char
  | [] => []
  | [raw] => fieldChars raw
  | raw :: next :: raws => fieldChars raw ++ ',' :: lineChars (next :: raws)

def lineBreaks (raws : List (List Char)) : Nat :=
  (raws.map fun raw => if needsQuotes raw then breaks raw else 0).sum

section Lines

variable {records : List (Nat × List String)} {fields : List String} {rest : List Char}
  {line recordLine : Nat}

theorem readOn_comma {field : List Char} :
    readOn (',' :: rest) (outside records fields field line recordLine) =
      readOn rest (outside records (fields ++ [String.ofList field]) [] line recordLine) :=
  rfl

theorem readOn_break {field : List Char} :
    readOn ('\n' :: rest) (outside records fields field line recordLine) =
      readOn rest (outside (records ++ [(recordLine, fields ++ [String.ofList field])]) [] []
        (line + 1) (line + 1)) :=
  rfl

theorem readOn_lineChars {raws : List (List Char)} (someField : raws ≠ []) :
    readOn (lineChars raws ++ '\n' :: rest) (outside records fields [] line recordLine) =
      readOn rest (outside
        (records ++ [(recordLine, fields ++ raws.map fun raw => String.ofList (readBack raw))])
        [] [] (line + lineBreaks raws + 1) (line + lineBreaks raws + 1)) := by
  induction raws generalizing fields line with
  | nil => exact absurd rfl someField
  | cons raw raws ih =>
    cases raws with
    | nil =>
      rw [lineChars, readOn_fieldChars (by simp), readOn_break]
      simp [lineBreaks]
    | cons next raws =>
      rw [lineChars, List.append_assoc, List.cons_append, readOn_fieldChars (by simp),
        readOn_comma, ih (by simp)]
      simp [lineBreaks, Nat.add_assoc]

theorem readOn_lines {rows : List (List (List Char))} (someFields : ∀ raws ∈ rows, raws ≠ []) :
    ∃ numbered last,
      readOn (rows.flatMap fun raws => lineChars raws ++ ['\n'])
          (outside records [] [] line line) =
        outside (records ++ numbered) [] [] last last ∧
      numbered.map Prod.snd =
        rows.map fun raws => raws.map fun raw => String.ofList (readBack raw) := by
  induction rows generalizing records line with
  | nil => exact ⟨[], line, by rw [List.append_nil]; rfl, rfl⟩
  | cons raws rows ih =>
    obtain ⟨numbered, last, reads, fieldsEq⟩ :=
      @ih (records ++ [(line, [] ++ raws.map fun raw => String.ofList (readBack raw))])
        (line + lineBreaks raws + 1) fun later laterMem => someFields later (by simp [laterMem])
    refine ⟨(line, [] ++ raws.map fun raw => String.ofList (readBack raw)) :: numbered, last,
      ?_, ?_⟩
    · rw [List.flatMap_cons, List.append_assoc, List.singleton_append,
        readOn_lineChars (someFields raws (by simp)), reads, List.append_assoc,
        List.singleton_append]
    · rw [List.map_cons, List.map_cons, fieldsEq, List.nil_append]

end Lines

theorem lineChars_eq (raws : List (List Char)) :
    lineChars raws = [','].intercalate (raws.map fieldChars) := by
  induction raws with
  | nil => rfl
  | cons raw raws ih =>
    cases raws with
    | nil => simp [lineChars]
    | cons next raws =>
      rw [lineChars, ih, List.map_cons, List.map_cons, List.map_cons,
        List.intercalate_cons_cons]
      simp

def csvLine (fields : List String) : String :=
  ",".intercalate (fields.map csvField)

theorem toList_csvLine (fields : List String) :
    (csvLine fields).toList = lineChars (fields.map String.toList) := by
  unfold csvLine csvField
  rw [String.toList_intercalate, lineChars_eq, List.map_map, List.map_map]
  congr 1
  apply List.map_congr_left
  intro field _
  exact String.toList_ofList

def readField (raw : String) : String :=
  String.ofList (readBack raw.toList)

theorem splitCsv_csvLines {rows : List (List String)} (someFields : ∀ fields ∈ rows, fields ≠ []) :
    (splitCsv (String.join (rows.map fun fields => csvLine fields ++ "\n"))).map Prod.snd =
      rows.map fun fields => fields.map readField := by
  have written : (String.join (rows.map fun fields => csvLine fields ++ "\n")).toList =
      (rows.map fun fields => fields.map String.toList).flatMap fun raws =>
        lineChars raws ++ ['\n'] := by
    rw [String.toList_join, List.flatMap_map, List.flatMap_map]
    apply List.flatMap_congr
    intro fields _
    rw [String.toList_append, toList_csvLine]
    rfl
  obtain ⟨numbered, last, reads, fieldsEq⟩ :=
    @readOn_lines [] 1 (rows.map fun fields => fields.map String.toList) (by
      intro raws rawsMem
      obtain ⟨fields, fieldsMem, rfl⟩ := List.mem_map.mp rawsMem
      simpa using someFields fields fieldsMem)
  have atEnd : readOn (String.join (rows.map fun fields => csvLine fields ++ "\n")).toList {} =
      outside numbered [] [] last last := by
    rw [written]
    exact reads
  unfold splitCsv
  rw [atEnd]
  change numbered.map Prod.snd = _
  rw [fieldsEq, List.map_map]
  apply List.map_congr_left
  intro fields _
  rw [Function.comp_apply, List.map_map]
  rfl

end CsvTexts
