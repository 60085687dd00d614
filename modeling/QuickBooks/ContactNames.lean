import QuickBooks.FirstFreeNumbers
import QuickBooks.TextPatterns
import Mathlib.Data.Rat.Floor

/-!
# Names and their fakes

Every original name gets a fake of two words; when the words are used up, a number
is put behind them.  Names are found in a text leftmost first, and the longest of
those that begin at one place; a short one only as a whole word.
-/

/-!
## Recorded fixtures

A recording is a directory of JSON files.  Before it is scrubbed, every original
name, contact and amount in it is collected.
-/

namespace QuickBooks

namespace Scrub

open TextPatterns

/-- A JSON value as the script reads it; a number is exact and may be an integer. -/
inductive Value where
  | null
  | bool (value : Bool)
  | number (amount : Rat) (isInteger : Bool)
  | string (text : String)
  | array (items : List Value)
  | object (fields : List (String × Value))

namespace Value

def get? (value : Value) (name : String) : Option Value :=
  match value with
  | object fields => fields.lookup name
  | _ => none

def item? (value : Value) (index : Nat) : Option Value :=
  match value with
  | array items => items[index]?
  | _ => none

def text? : Value → Option String
  | string text => some text
  | _ => none

def isObject : Value → Bool
  | object _ => true
  | _ => false

/-- Whether a condition on the value holds. -/
def isTrue : Value → Bool
  | null => false
  | bool value => value
  | number amount _ => amount ≠ 0
  | string text => text ≠ ""
  | array items => !items.isEmpty
  | object fields => !fields.isEmpty

end Value

/-- What the script takes from the language: the kinds of characters, texts in lower
case, the reading of integers and of files, and the keyed digest of a text. -/
structure Runtime where
  isAlpha : Char → Bool
  isAlnum : Char → Bool
  isDigit : Char → Bool
  isSpace : Char → Bool
  lower : String → String
  readInt : String → Option Int
  digest : (value key : String) → List Nat
  loads : String → Option Value

/-! ### Keys -/

def nameFields : List String :=
  ["DisplayName", "CompanyName", "GivenName", "MiddleName", "FamilyName", "FullyQualifiedName",
    "PrintOnCheckName", "Name"]

def nameEntityTypes : List String :=
  ["Customer", "Vendor", "Employee"]

def refNameKey : String :=
  "name"

def addressKeys : List String :=
  ["BillAddr", "ShipAddr", "ShipFromAddr", "PrimaryAddr", "OtherAddr", "CompanyAddr", "LegalAddr",
    "CustomerCommunicationAddr"]

def addressLineKeys : List String :=
  ["Line1", "Line2", "Line3", "Line4", "Line5"]

def emailKeys : List String :=
  ["PrimaryEmailAddr", "BillEmail", "BillEmailCc", "BillEmailBcc", "Email"]

def alwaysRedactedKeys : List String :=
  ["AcctNum", "TaxIdentifier", "PrimaryTaxIdentifier", "ResaleNum", "BusinessNumber", "Notes"]

def textFieldKeys : List String :=
  ["PrivateNote", "Description", "PurchaseDesc"]

/-- Keys whose texts are identifiers or timestamps. -/
def structuralKeys : List String :=
  ["Id", "qbo_id", "sync_token", "SyncToken", "last_updated_utc", "entity_type", "DocNumber",
    "TxnDate", "DueDate", "TxnId", "TxnType", "TxnLineId", "CreateTime", "LastUpdatedTime",
    "DetailType", "PostingType", "domain", "call", "response_file"]

def moneyKeys : List String :=
  ["Amount", "TotalAmt", "Balance", "HomeBalance", "HomeTotalAmt", "HomeAmount", "UnappliedAmt",
    "TotalTax", "NetAmountTaxable", "UnitPrice", "PurchaseCost", "CurrentBalance",
    "CurrentBalanceWithSubAccounts", "BalanceWithJobs", "RemainingCredit", "Deposit",
    "CreditLimit", "TaxInclusiveAmt", "OpenBalance"]

def docNumberOffset : Int :=
  100000

def fixedRealmId : String :=
  "1234567890123456"

def fixedPostalCode : String :=
  "07000"

def scrubbedMark : String :=
  "[scrubbed]"

/-! ### Texts -/

def contains (text part : String) : Bool :=
  decide (part.toList <:+: text.toList)

def endsWith (text tail : String) : Bool :=
  tail.toList.isSuffixOf text.toList

def isLatinLetter (char : Char) : Bool :=
  (decide ('A' ≤ char) && decide (char ≤ 'Z')) || (decide ('a' ≤ char) && decide (char ≤ 'z'))

def isLatinDigit (char : Char) : Bool :=
  decide ('0' ≤ char) && decide (char ≤ '9')

def withoutLastBreak (chars : List Char) : List Char :=
  if chars.getLast? = some '\n' then chars.dropLast else chars

/-- One identifier. -/
def isEnumValue (text : String) : Bool :=
  match withoutLastBreak text.toList with
  | [] => false
  | first :: rest =>
    isLatinLetter first && rest.all fun char => isLatinLetter char || isLatinDigit char ||
      char = '_'

section Texts

variable (runtime : Runtime)

def strip (text : String) : List Char :=
  ((text.toList.dropWhile runtime.isSpace).reverse.dropWhile runtime.isSpace).reverse

/-- A text that is an identifier, a timestamp, a file's name or an enumeration's. -/
def isStructural (key value : String) : Bool :=
  key ∈ structuralKeys ||
    ((endsWith (runtime.lower key) "type" || endsWith (runtime.lower key) "status") &&
      isEnumValue value)

def isRealmPath (part : String) : Bool :=
  let digits := withoutLastBreak part.toList
  decide (10 ≤ digits.length) && digits.all runtime.isDigit

open Pattern in
def emailPattern : Pattern :=
  let isLocalPart (char : Char) := isLatinLetter char || isLatinDigit char ||
    char ∈ ['.', '_', '%', '+', '-', Char.ofNat 39]
  let isDomain (char : Char) := isLatinLetter char || isLatinDigit char || char ∈ ['.', '-']
  sequence (repeated (one isLocalPart) 1 none) <| sequence (one (· = '@')) <|
    sequence (repeated (one isDomain) 1 none) <| sequence (one (· = '.'))
      (repeated (one isLatinLetter) 2 none)

open Pattern in
def phonePattern : Pattern :=
  let digits (count : Nat) := repeated (one runtime.isDigit) count (some count)
  let optional (test : Char → Bool) := repeated (one test) 0 (some 1)
  let isMark (char : Char) : Bool := char ∈ ['-', '.', ' ']
  sequence (notBehind runtime.isDigit) <| sequence (optional (· = '(')) <| sequence (digits 3) <|
    sequence (optional (· = ')')) <| sequence (optional isMark) <| sequence (digits 3) <|
      sequence (one isMark) <| sequence (digits 4) (notAhead runtime.isDigit)

open Pattern in
/-- An amount with two decimals, with or without its thousands apart. -/
def amountPattern : Pattern :=
  let digit := one runtime.isDigit
  let thousands := repeated (sequence (one (· = ',')) (repeated digit 3 (some 3))) 1 none
  sequence (notBehind fun char => runtime.isDigit char || char = '.' || char = ',') <|
    sequence (either (sequence (repeated digit 1 (some 3)) thousands) (repeated digit 1 none)) <|
      sequence (one (· = '.')) <| sequence (repeated digit 2 (some 2)) (notAhead runtime.isDigit)

def amountsIn (text : String) : List String :=
  ((amountPattern runtime).findAll text).map fun hit =>
    String.ofList (hit.found.toList.filter (· ≠ ','))

end Texts

/-! ### Amounts -/

def dec : Value → Option Rat
  | .number amount _ => some amount
  | _ => none

def roundedCents (amount : Rat) : Int :=
  if 0 ≤ amount then ⌊amount * 100 + 1 / 2⌋ else -⌊-amount * 100 + 1 / 2⌋

/-- An amount as a text with two decimals, without its sign. -/
def amountText (amount : Rat) : String :=
  let cents := (roundedCents |amount|).toNat
  let pad := if cents % 100 < 10 then "0" else ""
  toString (cents / 100) ++ "." ++ pad ++ toString (cents % 100)

def leakAmountFieldFloor : Rat := 1

def leakAmountTextFloor : Rat := 10

/-! ### Originals -/

structure Originals where
  names : List String
  emails : List String
  phones : List String
  streets : List String
  realms : List String
  amountTexts : List String

namespace Originals

def empty : Originals := ⟨[], [], [], [], [], []⟩

def append (first second : Originals) : Originals where
  names := first.names ++ second.names
  emails := first.emails ++ second.emails
  phones := first.phones ++ second.phones
  streets := first.streets ++ second.streets
  realms := first.realms ++ second.realms
  amountTexts := first.amountTexts ++ second.amountTexts

end Originals

def isNamedEntity (nested : Bool) (fields : List (String × Value)) : Bool :=
  nested || ((fields.lookup "entity_type").bind Value.text?).any fun kind =>
    kind ∈ nameEntityTypes

/-- The name that a field of a contact is. -/
def nameOfField (isNamed : Bool) (key : String) (value : Value) : List String :=
  match value with
  | .string text => if isNamed && key ∈ nameFields && text ≠ "" then [text] else []
  | _ => []

def originalsOfField (runtime : Runtime) (isNamed : Bool) (key : String) (value : Value) :
    Originals where
  names := nameOfField isNamed key value
  emails :=
    if key ∈ emailKeys then
      (((value.get? "Address").bind Value.text?).filter (· ≠ "")).toList
    else []
  phones := if key = "FreeFormNumber" then (value.text?.filter (· ≠ "")).toList else []
  streets :=
    if key ∈ addressKeys then
      addressLineKeys.filterMap fun lineKey => ((value.get? lineKey).bind Value.text?).filter
        fun line => 6 ≤ (strip runtime line).length
    else []
  realms := (value.text?.filter fun text =>
    runtime.lower key = "realmid" || (key = "realm" && isRealmPath runtime text)).toList
  amountTexts :=
    if key ∈ moneyKeys then
      (((dec value).filter fun amount => leakAmountTextFloor ≤ |amount|).map amountText).toList
    else []

section Collecting

variable (runtime : Runtime)

mutual

def collectOriginals (nested : Bool) : Value → Originals
  | .object fields => collectOriginalsOfFields (isNamedEntity nested fields) fields
  | .array items => collectOriginalsOfItems nested items
  | _ => .empty

def collectOriginalsOfItems (nested : Bool) : List Value → Originals
  | [] => .empty
  | item :: items =>
    (collectOriginals nested item).append (collectOriginalsOfItems nested items)

def collectOriginalsOfFields (isNamed : Bool) : List (String × Value) → Originals
  | [] => .empty
  | (key, value) :: fields =>
    ((originalsOfField runtime isNamed key value).append (collectOriginals isNamed value)).append
      (collectOriginalsOfFields isNamed fields)

end

end Collecting

end Scrub

end QuickBooks

namespace QuickBooks

namespace Scrub

open TextPatterns

/-! ### Fakes -/

def firstWords : List String :=
  ["Harbor", "Meadow", "Cobalt", "Marigold", "Amber", "Cedar", "Willow", "Granite", "Lantern",
    "Bramble", "Fernwood", "Ironwood", "Slate", "Hollow", "Driftwood", "Alder", "Birch", "Copper",
    "Thistle", "Hazel", "Juniper", "Maple", "Pebble", "Quartz"]

def lastWords : List String :=
  ["Point", "Crossing", "Harbor", "Ridge", "Cove", "Bend", "Grove", "Landing", "Springs", "Falls",
    "Meadows", "Junction", "Yard", "Works", "Supply", "Traders", "Marine", "Outfitters", "Studio",
    "Fabrication", "Depot", "Foundry", "Freight", "Holdings"]

/-- How many pairs of words there are. -/
@[irreducible]
def span : Nat :=
  firstWords.length * lastWords.length

def baseName (probe : Nat) : String :=
  firstWords.getD (probe / lastWords.length) "" ++ " " ++
    lastWords.getD (probe % lastWords.length) ""

def suffixOf (roundNo : Nat) : String :=
  if roundNo = 0 then "" else " " ++ toString (roundNo + 1)

def stableInt (runtime : Runtime) (value key : String) : Nat :=
  ((runtime.digest value key).take 8).foldl (fun number byte => number * 256 + byte) 0

/-- The fakes that were handed out, the names that may not be, and how many fakes
each round gave. -/
structure NameMapper where
  map : List (String × String)
  key : String
  taken : List String
  roundFill : List Nat

namespace NameMapper

def new (key : String) (reserved : List String) : NameMapper where
  map := []
  key
  taken := reserved
  roundFill := []

def freeInRound (taken : List String) (index roundNo : Nat) : Option String :=
  ((List.range span).map fun step => baseName ((index + step) % span) ++ suffixOf roundNo).find?
    fun name => name ∉ taken

/-- Look for a free name round by round; a round that has none counts as full. -/
def searchRounds (taken : List String) (index : Nat) :
    (fuel roundNo : Nat) → List Nat → Option (String × Nat × List Nat)
  | 0, _, _ => none
  | fuel + 1, roundNo, roundFill =>
    let roundFill := if roundNo = roundFill.length then roundFill ++ [0] else roundFill
    if roundFill.getD roundNo 0 < span then
      match freeInRound taken index roundNo with
      | some candidate => some (candidate, roundNo, roundFill)
      | none => searchRounds taken index fuel (roundNo + 1) (roundFill.set roundNo span)
    else searchRounds taken index fuel (roundNo + 1) roundFill

/-- A round that no fake came from has a free name among as many rounds as names
are taken and one more. -/
def search (runtime : Runtime) (mapper : NameMapper) (original : String) :
    Option (String × Nat × List Nat) :=
  searchRounds mapper.taken (stableInt runtime original mapper.key % span)
    (mapper.roundFill.length + mapper.taken.length + 1) 0 mapper.roundFill

/-- The fake of an original, and what is known of fakes after it. -/
def fakeFor (runtime : Runtime) (mapper : NameMapper) (original : String) :
    NameMapper × String :=
  match mapper.map.lookup original with
  | some fake => (mapper, fake)
  | none =>
    match mapper.search runtime original with
    | none => (mapper, original)
    | some (candidate, roundNo, roundFill) =>
      ({ mapper with
          map := mapper.map ++ [(original, candidate)]
          taken := candidate :: mapper.taken
          roundFill := roundFill.set roundNo (roundFill.getD roundNo 0 + 1) }, candidate)

def fakes (mapper : NameMapper) : List String :=
  mapper.map.map Prod.snd

def assign (runtime : Runtime) (mapper : NameMapper) (originals : List String) : NameMapper :=
  originals.foldl (fun mapper original => (mapper.fakeFor runtime original).1) mapper

end NameMapper

/-! ### Names in a text -/

def isTextual (runtime : Runtime) (name : String) : Bool :=
  name.toList.any runtime.isAlpha

def wholeWordMax : Nat :=
  7

/-- The names that are looked for. -/
structure NameMatcher where
  names : List String

namespace NameMatcher

def new (runtime : Runtime) (names : List String) : NameMatcher where
  names := names.filter fun name => name ≠ "" && isTextual runtime name

/-- Whether a name that stands at a place stands there as a word. -/
def isBounded (runtime : Runtime) (text : List Char) (start : Nat) (name : String) : Bool :=
  let stop := start + name.toList.length
  let beforeOk := start = 0 || !(text[start - 1]?).any runtime.isAlnum ||
    !(name.toList.head?).any runtime.isAlnum
  let afterOk := stop = text.length || !(text[stop]?).any runtime.isAlnum ||
    !(name.toList.getLast?).any runtime.isAlnum
  wholeWordMax < (strip runtime name).length || (beforeOk && afterOk)

def standsAt (runtime : Runtime) (text : List Char) (start : Nat) (name : String) : Bool :=
  name.toList.isPrefixOf (text.drop start) && isBounded runtime text start name

/-- The names that begin with a character, longer ones first. -/
def bucket (matcher : NameMatcher) (first : Char) : List String :=
  (matcher.names.filter fun name => name.toList.head? = some first).insertionSort fun name other =>
    other.toList.length < name.toList.length ∨
      (name.toList.length = other.toList.length ∧ name ≤ other)

/-- The longest name that begins at a place of a text. -/
def nameAt (runtime : Runtime) (matcher : NameMatcher) (text : List Char) (start : Nat) :
    Option (Nat × String) :=
  (text[start]?).bind fun first =>
    ((matcher.bucket first).find? (standsAt runtime text start)).map fun name =>
      (start + name.toList.length, name)

def find (runtime : Runtime) (matcher : NameMatcher) (text : String) : List (Hit String) :=
  scan (matcher.nameAt runtime text.toList) text.toList.length

def contains (runtime : Runtime) (matcher : NameMatcher) (text : String) : Bool :=
  !(matcher.find runtime text).isEmpty

end NameMatcher

section Matches

variable {runtime : Runtime} {matcher : NameMatcher} {text : List Char} {start : Nat}
  {name : String}

theorem NameMatcher.mem_bucket {first : Char} :
    name ∈ matcher.bucket first ↔ name ∈ matcher.names ∧ name.toList.head? = some first := by
  unfold bucket
  rw [List.mem_insertionSort, List.mem_filter, decide_eq_true_eq]

theorem getElem?_of_standsAt (stands : NameMatcher.standsAt runtime text start name = true)
    (notEmpty : name ≠ "") : text[start]? = name.toList.head? := by
  unfold NameMatcher.standsAt at stands
  rw [Bool.and_eq_true, List.isPrefixOf_iff_prefix] at stands
  obtain ⟨⟨rest, isRest⟩, -⟩ := stands
  cases chars : name.toList with
  | nil => exact absurd (String.toList_eq_nil_iff.mp chars) notEmpty
  | cons first others =>
    rw [chars] at isRest
    have here : (text.drop start)[0]? = some first := by rw [← isRest]; rfl
    simpa using here

theorem NameMatcher.exists_hit_of_standsAt {text : String} (nameMem : name ∈ matcher.names)
    (notEmpty : name ≠ "") (stands : standsAt runtime text.toList start name = true) :
    ∃ hit ∈ matcher.find runtime text, hit.start ≤ start ∧ start < hit.stop := by
  have begins := getElem?_of_standsAt stands notEmpty
  cases first : name.toList.head? with
  | none => exact absurd (by simpa using first) notEmpty
  | some char =>
    rw [first] at begins
    have within : start < text.toList.length := (List.getElem?_eq_some_iff.mp begins).1
    refine exists_hit_scan within ?_ ?_
    · unfold nameAt
      rw [begins, Option.bind_some, Option.isSome_map, List.find?_isSome]
      exact ⟨name, mem_bucket.mpr ⟨nameMem, first⟩, stands⟩
    · intro stop found isFound
      unfold nameAt at isFound
      rw [begins, Option.bind_some, Option.map_eq_some_iff] at isFound
      obtain ⟨other, isOther, ends⟩ := isFound
      cases ends
      have notEmpty := (mem_bucket.mp (List.mem_of_find?_eq_some isOther)).2
      cases chars : found.toList with
      | nil => simp [chars] at notEmpty
      | cons head rest => simp

end Matches

section Fakes

variable {taken : List String} {index roundNo : Nat} {roundFill : List Nat}

theorem span_pos : 0 < span := by
  unfold span
  decide

theorem suffixOf_injective : Function.Injective suffixOf := by
  intro first second same
  have chars := congrArg String.toList same
  unfold suffixOf at chars
  split_ifs at chars with isFirst isSecond isSecond
  · omega
  · simp at chars
  · simp at chars
  · rw [String.toList_append, String.toList_append] at chars
    have sameNumeral : toString (first + 1) = toString (second + 1) :=
      String.toList_injective (List.append_cancel_left chars)
    have := FirstFreeNumbers.numeral_injective sameNumeral
    omega

theorem NameMapper.mem_taken_of_freeInRound (isNone : freeInRound taken index roundNo = none) :
    baseName (index % span) ++ suffixOf roundNo ∈ taken := by
  unfold freeInRound at isNone
  rw [List.find?_eq_none] at isNone
  have first := isNone (baseName ((index + 0) % span) ++ suffixOf roundNo)
    (List.mem_map.mpr ⟨0, List.mem_range.mpr span_pos, rfl⟩)
  simpa using first

theorem NameMapper.freeInRound_of_searchRounds {fuel later : Nat}
    (within : roundNo ≤ roundFill.length)
    (isNone : searchRounds taken index fuel roundNo roundFill = none)
    (fresh : roundFill.length ≤ later) (reached : later < roundNo + fuel) :
    freeInRound taken index later = none := by
  induction fuel generalizing roundNo roundFill with
  | zero => omega
  | succ fuel ih =>
    simp only [searchRounds] at isNone
    by_cases isNew : roundNo = roundFill.length
    · have empty : (roundFill ++ [0]).getD roundNo 0 < span := by
        rw [isNew]
        simp [span_pos]
      rw [if_pos isNew, if_pos empty] at isNone
      cases free : freeInRound taken index roundNo with
      | some candidate =>
        rw [free] at isNone
        cases isNone
      | none =>
        rw [free] at isNone
        by_cases here : later = roundNo
        · rw [here, free]
        · refine ih ?_ isNone ?_ ?_
          · simp [isNew]
          · simp
            omega
          · omega
    · rw [if_neg isNew] at isNone
      split_ifs at isNone with unfilled
      · cases free : freeInRound taken index roundNo with
        | some candidate =>
          rw [free] at isNone
          cases isNone
        | none =>
          rw [free] at isNone
          exact ih (by simp; omega) isNone (by simpa using fresh) (by omega)
      · exact ih (by omega) isNone fresh (by omega)

theorem NameMapper.isSome_search (runtime : Runtime) (mapper : NameMapper) (original : String) :
    (mapper.search runtime original).isSome := by
  by_contra isNone
  rw [Option.not_isSome_iff_eq_none] at isNone
  let base := baseName (stableInt runtime original mapper.key % span % span)
  let names := (List.range (mapper.taken.length + 1)).map fun round =>
    base ++ suffixOf (mapper.roundFill.length + round)
  have distinct : names.Nodup := by
    refine List.Nodup.map ?_ List.nodup_range
    intro first second same
    have := suffixOf_injective (String.append_right_inj base |>.mp same)
    omega
  have allTaken : names ⊆ mapper.taken := by
    intro name nameMem
    obtain ⟨round, roundMem, rfl⟩ := List.mem_map.mp nameMem
    rw [List.mem_range] at roundMem
    exact mem_taken_of_freeInRound
      (freeInRound_of_searchRounds (Nat.zero_le _) isNone (by omega) (by omega))
  have bound := (distinct.subperm allTaken).length_le
  simp [names] at bound

end Fakes

end Scrub

end QuickBooks
