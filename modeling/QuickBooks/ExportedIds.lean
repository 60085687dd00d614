import QuickBooks.RepeatedItems
import QuickBooks.BankReconciliation
import QuickBooks.TextFields

/-!
# The ids of exported lines

The parts of a made-up id stand between colons, and none of them has one inside,
so two such ids are equal only for rows of the same day and amount whose
descriptions have the same hash and that come after equally many.  In a file
without ids of its own the made-up ones count the equal rows.
-/

/-!
## Bank exports

A bank's file is read as comma-separated text under a profile that says which
column is which, or as tagged text.  The identity of a line is the bank's own
id for it.  Where the profile has no column for one, an id is made from the
date, the amount, a hash of the description and the number of equal rows before
it in the file.
-/

namespace QuickBooks

open DecimalNumbers ExceptPrograms TransactionPrograms

namespace Bank

/-- What the standard library and the number and date libraries do with a text:
reading a date under a format, reading and subtracting decimals (none when the
difference overflows), hashing, and the quoted form. -/
structure ExportReaders where
  readDate : String → String → Option Date
  readDecimal : String → Option Decimal
  subtract? : Decimal → Decimal → Option Decimal
  hashStr : String → UInt64
  quoted : String → String

/-- The refusals of reading a bank's file.  The last stands for a panic: a
difference of decimals that overflows. -/
inductive ParseError where
  | malformed (row : ℕ) (reason : String)
  | precision (row : ℕ) (value : String)
  | badDate (row : ℕ) (value format : String)
  | money (failure : MoneyError)
  | subtractionOverflowed
deriving DecidableEq

instance : MonadLift (Except MoneyError) (Except ParseError) where
  monadLift := Except.mapError .money

/-- Where the amount lives in one row. -/
inductive AmountCols where
  | single (col : ℕ)
  | debitCredit (debitCol creditCol : ℕ)
deriving DecidableEq

/-- One export layout: which columns are which, and how to read them. -/
structure CsvProfile where
  dateCol : ℕ
  descriptionCol : ℕ
  amountCol : AmountCols
  dateFormat : String
  externalIdCol : Option ℕ
  skipHeader : Bool
  decimalNegativeInParens : Bool
deriving DecidableEq

namespace CsvProfile

def generic : CsvProfile where
  dateCol := 0
  descriptionCol := 1
  amountCol := .single 2
  dateFormat := "%Y-%m-%d"
  externalIdCol := some 3
  skipHeader := true
  decimalNegativeInParens := false

end CsvProfile

section Text

/-- The lines of a text after what was read of the current one, newest
character first.  An ending is a line feed, with or without a carriage return
before it. -/
def linesFrom (current : List Char) : List Char → List String
  | [] => if current.isEmpty then [] else [String.ofList current.reverse]
  | '\n' :: rest =>
    let ended := match current with
      | '\r' :: earlier => earlier
      | _ => current
    String.ofList ended.reverse :: linesFrom [] rest
  | char :: rest => linesFrom (char :: current) rest

/-- The fields of a row after what was read of the current one; a doubled quote
within quotes is one quote. -/
def splitFrom : List Char → Bool → List Char → List String
  | current, _, [] => [String.ofList current.reverse]
  | current, true, '"' :: '"' :: rest => splitFrom ('"' :: current) true rest
  | current, inQuotes, '"' :: rest => splitFrom current (!inQuotes) rest
  | current, false, ',' :: rest => String.ofList current.reverse :: splitFrom [] false rest
  | current, inQuotes, char :: rest => splitFrom (char :: current) inQuotes rest

def splitCsvLine (line : String) : List String :=
  splitFrom [] false line.toList

/-- The text before a pattern and the text after it, where the pattern comes
first. -/
def splitOnce (pattern : List Char) : List Char → Option (List Char × List Char)
  | [] => none
  | char :: rest =>
    if pattern.isPrefixOf (char :: rest) then
      some ([], (char :: rest).drop pattern.length)
    else (splitOnce pattern rest).map fun (before, after) => (char :: before, after)

theorem length_splitOnce {pattern text before after : List Char}
    (splits : splitOnce pattern text = some (before, after)) :
    after.length + pattern.length ≤ text.length := by
  induction text generalizing before with
  | nil => cases splits
  | cons char rest ih =>
    rw [splitOnce] at splits
    split_ifs at splits with found
    · cases splits
      have fits := (List.isPrefixOf_iff_prefix.mp found).length_le
      rw [List.length_drop]
      omega
    · obtain ⟨⟨earlier, later⟩, splits, isPair⟩ := Option.map_eq_some_iff.mp splits
      cases isPair
      have shorter := ih splits
      rw [List.length_cons]
      omega

end Text

section Csv

variable (readers : ExportReaders)

def field (fields : List String) (col row : ℕ) : Except ParseError String :=
  orRefuse
    (.malformed row ("expected at least " ++ toString (col + 1) ++ " columns, got " ++
      toString fields.length))
    fields[col]?

/-- An amount without its currency sign and thousands separators; in some
exports a negative one is in parentheses. -/
def parseDecimal (raw : String) (parensNegative : Bool) (row : ℕ) :
    Except ParseError Decimal := do
  let trimmedRaw := trimmed raw
  let cleaned := trimmedRaw.toList.filter fun char => !(char = '$' || char = ',')
  let negative := parensNegative && cleaned.head? = some '(' && cleaned.getLast? = some ')'
  let digits := if negative then cleaned.tail.dropLast else cleaned
  let value ← orRefuse (.malformed row ("invalid amount " ++ readers.quoted trimmedRaw))
    (readers.readDecimal (trimmed (String.ofList digits)))
  return if negative then value.negated else value

def parseOptionalDecimal (raw : String) (parensNegative : Bool) (row : ℕ) :
    Except ParseError Decimal :=
  if trimmed raw = "" then return .zero
  else parseDecimal readers raw parensNegative row

def parseAmount (fields : List String) (amountCol : AmountCols) (parensNegative : Bool)
    (row : ℕ) : Except ParseError Money := do
  let (decimal, raw) ← match amountCol with
    | .single col => do
      let raw ← field fields col row
      let decimal ← parseDecimal readers raw parensNegative row
      pure (decimal, raw)
    | .debitCredit debitCol creditCol => do
      let debitRaw ← field fields debitCol row
      let creditRaw ← field fields creditCol row
      let debit ← parseOptionalDecimal readers debitRaw parensNegative row
      let credit ← parseOptionalDecimal readers creditRaw parensNegative row
      let decimal ← orRefuse .subtractionOverflowed (readers.subtract? credit debit)
      pure (decimal, "credit " ++ readers.quoted creditRaw ++ " debit " ++
        readers.quoted debitRaw)
  ensure (decimal.scale ≤ 2) (ParseError.precision row raw)
  (roundMoney decimal .mirroredAmount : Except MoneyError Money)

abbrev OccurrenceKey :=
  Date × Int × String

def hexDigits : ℕ → ℕ → List Char
  | 0, _ => []
  | width + 1, number => hexDigits width (number / 16) ++ [Nat.digitChar (number % 16)]

/-- The id that is made for the row with some key that comes after so many equal
ones. -/
def syntheticId (key : OccurrenceKey) (seenBefore : ℕ) : String :=
  "csv:" ++ key.1.render ++ ":" ++ toString key.2.1 ++ ":" ++
    String.ofList (hexDigits 16 (readers.hashStr key.2.2).toNat) ++ ":" ++ toString seenBefore

/-- The rows read so far, and how often each key was seen. -/
structure CsvState where
  lines : List ParsedLine
  occurrence : OccurrenceKey → ℕ

def parseRow (profile : CsvProfile) (state : CsvState) (indexed : String × ℕ) :
    Except ParseError CsvState := do
  let (rawLine, index) := indexed
  let row := index + 1
  if (profile.skipHeader && index = 0) || trimmed rawLine = "" then return state
  else do
    let fields := splitCsvLine rawLine
    let dateRaw := trimmed (← field fields profile.dateCol row)
    let postedOn ← orRefuse (.badDate row dateRaw profile.dateFormat)
      (readers.readDate profile.dateFormat dateRaw)
    let description := trimmed (← field fields profile.descriptionCol row)
    let amount ← parseAmount readers fields profile.amountCol profile.decimalNegativeInParens row
    match profile.externalIdCol with
    | some col => do
      let raw := trimmed (← field fields col row)
      let externalId := if raw = "" then none else some raw
      return { state with lines := state.lines ++ [⟨postedOn, amount, description, externalId⟩] }
    | none => do
      let key := (postedOn, amount.minor, description)
      let seenBefore := state.occurrence key
      return {
        lines := state.lines ++
          [⟨postedOn, amount, description, some (syntheticId readers key seenBefore)⟩]
        occurrence := Function.update state.occurrence key (seenBefore + 1) }

def parseCsv (text : String) (profile : CsvProfile) : Except ParseError (List ParsedLine) := do
  let state ← (linesFrom [] text.toList).zipIdx.foldlM (parseRow readers profile) ⟨[], fun _ => 0⟩
  return state.lines

end Csv

section Ofx

variable (readers : ExportReaders)

def openTag (tag : String) : List Char :=
  '<' :: tag.toList ++ ['>']

def closeTag (tag : String) : List Char :=
  '<' :: '/' :: tag.toList ++ ['>']

/-- What stands between each opening tag and the next closing one. -/
def extractBlocks (tag : String) (text : List Char) : List (List Char) :=
  match _opens : splitOnce (openTag tag) text with
  | none => []
  | some (_, afterOpen) =>
    match _closes : splitOnce (closeTag tag) afterOpen with
    | none => []
    | some (block, rest) => block :: extractBlocks tag rest
termination_by text.length
decreasing_by
  have afterOpenLength := length_splitOnce _opens
  have restLength := length_splitOnce _closes
  simp only [openTag, closeTag, List.length_cons, List.length_append] at afterOpenLength restLength
  omega

/-- The value of a tag, which ends at the next tag or line break. -/
def tagValue (text : List Char) (tag : String) : Option String :=
  (splitOnce (openTag tag) text).bind fun (_, rest) =>
    let value := trimmed (String.ofList
      (rest.takeWhile fun char => !(char = '<' || char = '\n' || char = '\r')))
    if value = "" then none else some value

/-- Only the first eight digits of a date matter. -/
def parseOfxDate (raw : String) (row : ℕ) : Except ParseError Date := do
  let digits := raw.toList.takeWhile Char.isDigit
  ensure (8 ≤ digits.length) (ParseError.badDate row raw "YYYYMMDD")
  orRefuse (.badDate row raw "YYYYMMDD")
    (readers.readDate "%Y%m%d" (String.ofList (digits.take 8)))

def parseTrnamt (raw : String) (row : ℕ) : Except ParseError Money := do
  let decimal ← orRefuse (.malformed row ("invalid TRNAMT " ++ readers.quoted raw))
    (readers.readDecimal (trimmed raw))
  ensure (decimal.scale ≤ 2) (ParseError.precision row raw)
  (roundMoney decimal .mirroredAmount : Except MoneyError Money)

def parseTransaction (indexed : List Char × ℕ) : Except ParseError ParsedLine := do
  let (block, index) := indexed
  let row := index + 1
  let dtposted ← orRefuse (.malformed row "STMTTRN missing DTPOSTED") (tagValue block "DTPOSTED")
  let postedOn ← parseOfxDate readers dtposted row
  let trnamt ← orRefuse (.malformed row "STMTTRN missing TRNAMT") (tagValue block "TRNAMT")
  let amount ← parseTrnamt readers trnamt row
  let description := (tagValue block "NAME" <|> tagValue block "MEMO").getD ""
  return ⟨postedOn, amount, description, tagValue block "FITID"⟩

def parseOfx (text : String) : Except ParseError (List ParsedLine) :=
  (extractBlocks "STMTTRN" text.toList).zipIdx.mapM (parseTransaction readers)

end Ofx

/-- A bank's file and how it is read. -/
inductive BankExport where
  | csv (profile : CsvProfile) (text : String)
  | ofx (text : String)

def BankExport.read (readers : ExportReaders) : BankExport → Except ParseError (List ParsedLine)
  | csv profile text => parseCsv readers text profile
  | ofx text => parseOfx readers text

/-- The dates and balances that a statement is imported under. -/
structure StatementHeader where
  periodStart : Date
  periodEnd : Date
  openingBalance : Money
  closingBalance : Money

def StatementHeader.statement (header : StatementHeader) (lines : List ParsedLine) :
    NewStatement :=
  ⟨header.periodStart, header.periodEnd, header.openingBalance, header.closingBalance, lines⟩

/-- The refusals of importing a bank's file. -/
inductive BankImportError where
  | parse (failure : ParseError)
  | bank (failure : BankError)
deriving DecidableEq

/-- Read a bank's file and import its lines as a statement. -/
def runBankImport (readers : ExportReaders) (account : AccountId) (file : BankExport)
    (header : StatementHeader) : Program BankBook BankImportError StatementImportReport := do
  let lines ← MonadExcept.ofExcept ((file.read readers).mapError BankImportError.parse)
  refusingWith .bank (importStatement account (header.statement lines))

end Bank

end QuickBooks

namespace QuickBooks

open DecimalNumbers ExceptPrograms FirstFreeNumbers RepeatedItems

namespace Bank

section Separators

variable {α : Type} {separator : α} {first second firstRest secondRest : List α}

theorem separated_inj (firstClean : separator ∉ first) (secondClean : separator ∉ second)
    (same : first ++ separator :: firstRest = second ++ separator :: secondRest) :
    first = second ∧ firstRest = secondRest := by
  induction first generalizing second with
  | nil =>
    cases second with
    | nil => exact ⟨rfl, (List.cons.inj same).2⟩
    | cons char second =>
      exact absurd ((List.cons.inj same).1 ▸ List.mem_cons_self) secondClean
  | cons char first ih =>
    cases second with
    | nil => exact absurd ((List.cons.inj same).1 ▸ List.mem_cons_self) firstClean
    | cons other second =>
      obtain ⟨sameChar, sameRest⟩ := List.cons.inj same
      have later := ih (fun inFirst => firstClean (List.mem_cons_of_mem _ inFirst))
        (fun inSecond => secondClean (List.mem_cons_of_mem _ inSecond)) sameRest
      exact ⟨congrArg₂ List.cons sameChar later.1, later.2⟩

end Separators

section Digits

theorem mem_intNumeral {number : ℤ} {char : Char}
    (charMem : char ∈ (toString number).toList) : char.isDigit = true ∨ char = '-' := by
  rw [Int.toString_eq_repr, Int.repr_eq_if] at charMem
  split_ifs at charMem
  · rw [Nat.toList_repr] at charMem
    exact .inl (Nat.isDigit_of_mem_toDigits (by omega) (by omega) charMem)
  · rw [String.toList_append, List.mem_append, Nat.toList_repr] at charMem
    rcases charMem with sign | digit
    · exact .inr (by simpa using sign)
    · exact .inl (Nat.isDigit_of_mem_toDigits (by omega) (by omega) digit)

theorem toList_padded (width number : ℕ) : (Date.padded width number).toList =
    List.replicate (width - (toString number).length) '0' ++ Nat.toDigits 10 number := by
  simp [Date.padded]

theorem padded_injective {width first second : ℕ}
    (same : Date.padded width first = Date.padded width second) : first = second := by
  have digits := congrArg (fun text => Nat.ofDigitChars 10 text.toList 0) same
  simpa [toList_padded, Nat.ofDigitChars_append, Nat.ofDigitChars_replicate_zero] using digits

theorem isDigit_of_mem_padded {width number : ℕ} {char : Char}
    (charMem : char ∈ (Date.padded width number).toList) : char.isDigit = true := by
  rw [toList_padded, List.mem_append] at charMem
  rcases charMem with zero | digit
  · rw [List.eq_of_mem_replicate zero]
    decide
  · exact Nat.isDigit_of_mem_toDigits (by omega) (by omega) digit

theorem toList_render (date : Date) : date.render.toList =
    (Date.padded 4 date.year).toList ++ '-' :: ((Date.padded 2 date.month).toList ++
      '-' :: (Date.padded 2 date.day).toList) := by
  simp [Date.render]

theorem render_injective : Function.Injective Date.render := by
  intro first second same
  have chars := congrArg String.toList same
  have clean : ∀ {width number}, '-' ∉ (Date.padded width number).toList := by
    intro width number charMem
    exact absurd (isDigit_of_mem_padded charMem) (by decide)
  rw [toList_render, toList_render] at chars
  obtain ⟨years, chars⟩ := separated_inj clean clean chars
  obtain ⟨months, days⟩ := separated_inj clean clean chars
  have sameYear := padded_injective (String.toList_injective years)
  have sameMonth := padded_injective (String.toList_injective months)
  have sameDay := padded_injective (String.toList_injective days)
  cases first
  cases second
  simp_all

theorem colon_notMem_render (date : Date) : ':' ∉ date.render.toList := by
  intro charMem
  rw [toList_render] at charMem
  simp only [List.mem_append, List.mem_cons] at charMem
  have clean : ∀ {width number}, ':' ∉ (Date.padded width number).toList := by
    intro width number inPart
    exact absurd (isDigit_of_mem_padded inPart) (by decide)
  rcases charMem with inPart | isDash | inPart | isDash | inPart
  · exact clean inPart
  · cases isDash
  · exact clean inPart
  · cases isDash
  · exact clean inPart

theorem digitChar_injective : ∀ first < 16, ∀ second < 16,
    Nat.digitChar first = Nat.digitChar second → first = second := by
  decide

theorem digitChar_ne_colon : ∀ digit < 16, Nat.digitChar digit ≠ ':' := by
  decide

theorem hexDigits_injective {width first second : ℕ} (firstFits : first < 16 ^ width)
    (secondFits : second < 16 ^ width)
    (same : hexDigits width first = hexDigits width second) : first = second := by
  induction width generalizing first second with
  | zero =>
    rw [pow_zero] at firstFits secondFits
    omega
  | succ width ih =>
    rw [pow_succ] at firstFits secondFits
    obtain ⟨sameHigh, sameLow⟩ := List.append_inj' same rfl
    have high := ih (by omega) (by omega) sameHigh
    have low := digitChar_injective _ (Nat.mod_lt _ (by omega)) _ (Nat.mod_lt _ (by omega))
      (List.cons.inj sameLow).1
    omega

theorem colon_notMem_hexDigits {width number : ℕ} : ':' ∉ hexDigits width number := by
  induction width generalizing number with
  | zero => exact List.not_mem_nil
  | succ width ih =>
    rw [hexDigits, List.mem_append, List.mem_singleton, not_or]
    exact ⟨ih, (digitChar_ne_colon _ (Nat.mod_lt _ (by omega))).symm⟩

end Digits

variable {readers : ExportReaders}

theorem toList_syntheticId (key : OccurrenceKey) (rank : ℕ) :
    (syntheticId readers key rank).toList = "csv:".toList ++ (key.1.render.toList ++
      ':' :: ((toString key.2.1).toList ++ ':' ::
        (hexDigits 16 (readers.hashStr key.2.2).toNat ++ ':' :: (toString rank).toList))) := by
  simp [syntheticId]

theorem syntheticId_eq_iff {first second : OccurrenceKey} {firstRank secondRank : ℕ} :
    syntheticId readers first firstRank = syntheticId readers second secondRank ↔
      first.1 = second.1 ∧ first.2.1 = second.2.1 ∧
        readers.hashStr first.2.2 = readers.hashStr second.2.2 ∧ firstRank = secondRank := by
  constructor
  · intro same
    have chars := congrArg String.toList same
    rw [toList_syntheticId, toList_syntheticId] at chars
    have chars := List.append_cancel_left chars
    have cleanAmount : ∀ {amount : ℤ}, ':' ∉ (toString amount).toList := by
      intro amount charMem
      rcases mem_intNumeral charMem with isDigit | isSign
      · exact absurd isDigit (by decide)
      · cases isSign
    obtain ⟨dates, chars⟩ := separated_inj (colon_notMem_render _) (colon_notMem_render _) chars
    obtain ⟨amounts, chars⟩ := separated_inj cleanAmount cleanAmount chars
    obtain ⟨hashes, ranks⟩ := separated_inj colon_notMem_hexDigits colon_notMem_hexDigits chars
    have fits : ∀ text, (readers.hashStr text).toNat < 16 ^ 16 :=
      fun text => (readers.hashStr text).toNat_lt
    refine ⟨render_injective (String.toList_injective dates),
      intNumeral_injective (String.toList_injective amounts), ?_,
      numeral_injective (String.toList_injective ranks)⟩
    exact UInt64.toNat_inj.mp (hexDigits_injective (fits _) (fits _) hashes)
  · rintro ⟨sameDate, sameAmount, sameHash, rfl⟩
    unfold syntheticId
    rw [sameDate, sameAmount, sameHash]

def ParsedLine.key (line : ParsedLine) : OccurrenceKey :=
  (line.postedOn, line.amount.minor, line.description)

/-- The ids are those that are made for the rows of a file without ids. -/
def Synthesized (readers : ExportReaders) (lines : List ParsedLine) : Prop :=
  lines.map (fun line => (line.key, line.externalId)) =
    (ranked (lines.map ParsedLine.key)).map fun row =>
      (row.1, some (syntheticId readers row.1 row.2))

/-- The rows read so far have made-up ids and are counted. -/
structure CsvState.Counted (readers : ExportReaders) (state : CsvState) : Prop where
  synthesized : Synthesized readers state.lines
  occurrence : ∀ key, state.occurrence key = (state.lines.map ParsedLine.key).count key

theorem CsvState.Counted.add {state : CsvState} (counted : state.Counted readers)
    {line : ParsedLine}
    (isId : line.externalId = some (syntheticId readers line.key (state.occurrence line.key))) :
    CsvState.Counted readers
      { lines := state.lines ++ [line]
        occurrence :=
          Function.update state.occurrence line.key (state.occurrence line.key + 1) } := by
  constructor
  · have synthesized := counted.synthesized
    unfold Synthesized at synthesized ⊢
    rw [counted.occurrence] at isId
    simp only [List.map_append, List.map_singleton, ranked_append_singleton, synthesized, isId]
  · intro other
    simp only [List.map_append, List.map_singleton, List.count_append, List.count_singleton,
      Function.update_apply, counted.occurrence]
    by_cases same : other = line.key
    · simp [same]
    · have different : (line.key == other) = false := by simpa using Ne.symm same
      simp [same, different]

theorem counted_parseRow {profile : CsvProfile} (noIds : profile.externalIdCol = none)
    {before after : CsvState} {indexed : String × ℕ} (counted : before.Counted readers)
    (step : parseRow readers profile before indexed = .ok after) : after.Counted readers := by
  unfold parseRow at step
  rw [noIds] at step
  dsimp only at step
  split_ifs at step
  · rw [pure_eq_ok_iff] at step
    rw [← step]
    exact counted
  · rw [bind_eq_ok_iff] at step
    obtain ⟨dateRaw, -, step⟩ := step
    rw [bind_eq_ok_iff] at step
    obtain ⟨postedOn, -, step⟩ := step
    rw [bind_eq_ok_iff] at step
    obtain ⟨description, -, step⟩ := step
    rw [bind_eq_ok_iff] at step
    obtain ⟨amount, -, step⟩ := step
    rw [pure_eq_ok_iff] at step
    subst step
    exact @CsvState.Counted.add readers before counted
      ⟨postedOn, amount, trimmed description, _⟩ rfl

theorem synthesized_of_parseCsv {text : String} {profile : CsvProfile} {lines : List ParsedLine}
    (noIds : profile.externalIdCol = none)
    (parses : parseCsv readers text profile = .ok lines) : Synthesized readers lines := by
  unfold parseCsv at parses
  rw [bind_eq_ok_iff] at parses
  obtain ⟨state, folds, isLines⟩ := parses
  rw [pure_eq_ok_iff] at isLines
  subst isLines
  have start : CsvState.Counted readers ⟨[], fun _ => 0⟩ := ⟨rfl, fun _ => rfl⟩
  have counted := foldlM_invariant (fun _ (state : CsvState) => state.Counted readers)
    (fun _ _ _ _ holds step => counted_parseRow noIds holds step) start folds
  exact counted.synthesized

end Bank

end QuickBooks
