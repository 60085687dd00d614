import QuickBooks.ExceptPrograms
import QuickBooks.KeyedTables
import QuickBooks.ContactNames

/-!
# Scrubbed recordings

A recording is scrubbed as a whole, and its scrubbed files are searched for what
they should not hold before any of them is written.  A name that is found is not
held against them where it touches a fake.
-/

/-!
## The scrubber

Names are replaced by their fakes wherever they stand, contacts and addresses by
the key they stand under, and a text that still carries a contact or an amount is
replaced as a whole.
-/

namespace QuickBooks

namespace Scrub

open TextPatterns

def cityWords : List String :=
  ["Fairhaven", "Brookmere", "Eastvale", "Northgate", "Westbury", "Lakemont", "Riverton",
    "Ashford", "Kingsbridge", "Millbrook", "Oakdale", "Stonefield"]

def streetWords : List String :=
  ["Ave", "Blvd", "Way", "Lane", "Drive", "Court", "Place", "Trail", "Road", "Circle", "Terrace",
    "Path", "Row", "Crossing", "Alley", "Loop"]

section Fakes

variable (runtime : Runtime) (original key : String)

def fakeStreet : String :=
  let digest := stableInt runtime original key
  toString (100 + digest % 900) ++ " " ++ streetWords.getD (digest % streetWords.length) ""

def fakeCity : String :=
  cityWords.getD (stableInt runtime ("city:" ++ original) key % cityWords.length) ""

def hexByte (byte : Nat) : String :=
  String.ofList [(byte / 16).digitChar, (byte % 16).digitChar]

def fakeEmail : String :=
  let digest := String.join (((runtime.digest original key).take 5).map hexByte)
  "contact-" ++ digest ++ "@example.com"

def fakePhone : String :=
  let digest := stableInt runtime original key % 100
  "555-01" ++ (if digest < 10 then "0" else "") ++ toString digest

/-- A document's number that is one is shifted; another text is kept. -/
def shiftDocNumber : String :=
  match runtime.readInt original with
  | some number => toString (number + docNumberOffset)
  | none => original

end Fakes

structure Scrubber where
  runtime : Runtime
  mapper : NameMapper
  matcher : NameMatcher
  originals : Originals
  key : String

def setField (name : String) (value : Value) (fields : List (String × Value)) :
    List (String × Value) :=
  fields.map fun field => if field.1 = name then (name, value) else field

namespace Scrubber

variable (scrubber : Scrubber)

def fakeFor (original : String) : String :=
  (scrubber.mapper.fakeFor scrubber.runtime original).2

def isMapped (text : String) : Bool :=
  (scrubber.mapper.map.lookup text).isSome

/-- The text from a place on with the names found in it replaced. -/
def replaceFrom (text : List Char) : (last : Nat) → List (Hit String) → List Char
  | last, [] => text.drop last
  | last, hit :: hits =>
    (text.drop last).take (hit.start - last) ++ (scrubber.fakeFor hit.found).toList ++
      replaceFrom text hit.stop hits

def replaceNames (text : String) : String :=
  String.ofList (scrubber.replaceFrom text.toList 0
    (scrubber.matcher.find scrubber.runtime text))

def carriesContactOrAmount (text : String) : Bool :=
  let originals := scrubber.originals
  emailPattern.search text || (phonePattern scrubber.runtime).search text ||
    originals.emails.any (contains text) || originals.phones.any (contains text) ||
    originals.streets.any (contains text) || originals.realms.any (contains text) ||
    (amountsIn scrubber.runtime text).any fun amount => amount ∈ originals.amountTexts

def redactIfSensitive (text : String) : String :=
  if scrubber.matcher.contains scrubber.runtime text || scrubber.carriesContactOrAmount text then
    scrubbedMark
  else text

def scrubString (key text : String) : String :=
  if text = "" || isStructural scrubber.runtime key text then text
  else
    let replaced := scrubber.replaceNames text
    if scrubber.carriesContactOrAmount replaced then scrubbedMark else replaced

/-- A text under the key of a field. -/
def stringField (key text : String) : String :=
  if (key ∈ nameFields || key = refNameKey) && scrubber.isMapped text then scrubber.fakeFor text
  else if key = "FreeFormNumber" && text ≠ "" then fakePhone scrubber.runtime text scrubber.key
  else if key ∈ alwaysRedactedKeys && text ≠ "" then scrubbedMark
  else if key = "DocNumber" then shiftDocNumber scrubber.runtime text
  else if scrubber.runtime.lower key = "realmid" then fixedRealmId
  else if key = "realm" && isRealmPath scrubber.runtime text then fixedRealmId
  else if key ∈ textFieldKeys then scrubber.redactIfSensitive text
  else scrubber.scrubString key text

/-- The address of an email field gets a fake. -/
def withFakeAddress (fields scrubbed : List (String × Value)) : List (String × Value) :=
  match fields.lookup "Address" with
  | some (.string address) =>
    if address = "" then scrubbed
    else setField "Address" (.string (fakeEmail scrubber.runtime address scrubber.key)) scrubbed
  | _ => scrubbed

def withExampleUri (fields : List (String × Value)) : List (String × Value) :=
  if (fields.lookup "URI").any Value.isTrue then
    setField "URI" (.string "https://example.com") fields
  else fields

def redactedMemo (fields : List (String × Value)) : List (String × Value) :=
  match fields.lookup "value" with
  | some (.string text) => setField "value" (.string (scrubber.redactIfSensitive text)) fields
  | _ => fields

def addressLine (text : String) : String :=
  if scrubber.isMapped text then scrubber.fakeFor text
  else fakeStreet scrubber.runtime text scrubber.key

mutual

/-- A value under the key that it is reached by. -/
def node (key : String) : Value → Value
  | .array items => .array (nodeItems key items)
  | .string text => .string (scrubber.scrubString key text)
  | .object fields => .object (nodeFields fields)
  | value => value

def nodeItems (key : String) : List Value → List Value
  | [] => []
  | item :: items => node key item :: nodeItems key items

def nodeFields : List (String × Value) → List (String × Value)
  | [] => []
  | (key, value) :: fields => (key, field key value) :: nodeFields fields

/-- The value of a field. -/
def field (key : String) : Value → Value
  | .object fields =>
    .object <|
      if key ∈ addressKeys then addressFields fields
      else if key ∈ emailKeys then scrubber.withFakeAddress fields (nodeFields fields)
      else if key = "WebAddr" then withExampleUri fields
      else if key = "CustomerMemo" then scrubber.redactedMemo fields
      else nodeFields fields
  | .string text => .string (scrubber.stringField key text)
  | .array items => .array (nodeItems key items)
  | .number amount isInteger =>
    if key = "DocNumber" && isInteger then .string (toString (amount.num + docNumberOffset))
    else .number amount isInteger
  | .bool value =>
    if key = "DocNumber" then .string (toString ((if value then 1 else 0) + docNumberOffset))
    else .bool value
  | .null => .null

def addressFields : List (String × Value) → List (String × Value)
  | [] => []
  | (key, .string text) :: fields =>
    let scrubbed :=
      if key ∈ addressLineKeys && text ≠ "" then scrubber.addressLine text
      else if key = "City" && text ≠ "" then fakeCity scrubber.runtime text scrubber.key
      else if key = "CountrySubDivisionCode" then text
      else if key = "PostalCode" then fixedPostalCode
      else scrubber.scrubString key text
    (key, .string scrubbed) :: addressFields fields
  | (key, value) :: fields =>
    let scrubbed :=
      if key = "CountrySubDivisionCode" then value
      else if key = "PostalCode" then .string fixedPostalCode
      else node key value
    (key, scrubbed) :: addressFields fields

end

end Scrubber

end Scrub

end QuickBooks

namespace QuickBooks

namespace Scrub

open ExceptPrograms TextPatterns

/-! ### The leak detector -/

inductive LeakKind where
  | name
  | email
  | phone
  | address
  | realmId
  | amountText
  | amountUnchanged
deriving DecidableEq

def LeakKind.asStr : LeakKind → String
  | name => "name"
  | email => "email"
  | phone => "phone"
  | address => "address"
  | realmId => "realm id"
  | amountText => "amount (text)"
  | amountUnchanged => "amount (unchanged)"

structure Leak where
  relpath : String
  path : String
  kind : LeakKind

structure LeakDetector where
  runtime : Runtime
  originals : Originals
  names : NameMatcher
  fakes : NameMatcher
  checkAmounts : Bool

namespace LeakDetector

def new (runtime : Runtime) (originals : Originals) (mapper : NameMapper) (checkAmounts : Bool) :
    LeakDetector where
  runtime
  originals
  names := .new runtime originals.names
  fakes := .new runtime mapper.fakes
  checkAmounts

variable (detector : LeakDetector)

/-- The original names found in a text that touch no fake. -/
def realNamesIn (text : String) : List (Hit String) :=
  let fakes := detector.fakes.find detector.runtime text
  (detector.names.find detector.runtime text).filter fun hit =>
    !fakes.any fun fake => decide (fake.Touches hit)

def stringLeak (text key : String) : Option LeakKind :=
  let originals := detector.originals
  if !isStructural detector.runtime key text && !(detector.realNamesIn text).isEmpty then
    some .name
  else if (emailPattern.findAll text).any fun email =>
      !endsWith (detector.runtime.lower email.found) "@example.com" then
    some .email
  else if originals.emails.any (contains text) then some .email
  else if (phonePattern detector.runtime).search text || originals.phones.any (contains text) then
    some .phone
  else if originals.streets.any (contains text) then some .address
  else if originals.realms.any (contains text) then some .realmId
  else if detector.checkAmounts &&
      (amountsIn detector.runtime text).any fun amount => amount ∈ originals.amountTexts then
    some .amountText
  else none

/-- What a value that is no list and no object leaks, beside the original one. -/
def leafLeak (key : String) (original : Option Value) : Value → Option LeakKind
  | .string text => detector.stringLeak text key
  | value =>
    if detector.checkAmounts && key ∈ moneyKeys then
      match dec value, original.bind dec with
      | some new, some old =>
        if leakAmountFieldFloor ≤ |old| && new = old then some .amountUnchanged else none
      | _, _ => none
    else none

section Walk

variable (relpath : String)

mutual

def walk (original : Option Value) (path key : String) : Value → List Leak
  | .object fields =>
    ((walkFields original path fields).insertionSort fun first second =>
      first.1 ≤ second.1).flatMap Prod.snd
  | .array items => walkItems original path key 0 items
  | value =>
    ((detector.leafLeak key original value).map fun kind => ⟨relpath, path, kind⟩).toList

def walkFields (original : Option Value) (path : String) :
    List (String × Value) → List (String × List Leak)
  | [] => []
  | (name, value) :: fields =>
    (name, walk (original.bind (·.get? name)) (path ++ "." ++ name) name value) ::
      walkFields original path fields

def walkItems (original : Option Value) (path key : String) (index : Nat) :
    List Value → List Leak
  | [] => []
  | item :: items =>
    walk (original.bind (·.item? index)) (path ++ "[" ++ toString index ++ "]") key item ++
      walkItems original path key (index + 1) items

end

end Walk

def scan (relpath : String) (scrubbed original : Value) : List Leak :=
  (if detector.originals.realms.any (contains relpath) then
    [⟨relpath, "(path)", .realmId⟩] else []) ++
    detector.walk relpath (some original) "$" "" scrubbed

end LeakDetector

/-! ### A run -/

structure RecordedFile where
  parts : List String
  text : String

/-- The directory that is scrubbed: its JSON files in the order of their paths, and
the names that are denied. -/
structure Recording where
  isDirectory : Bool
  isOutput : Bool
  files : List RecordedFile
  denyNames : Option String

inductive ScrubError where
  | notADirectory
  | inPlace
  | noSeed
  | noFiles
  | notJson (parts : List String)
  | reports (count : Nat)
  | brokenInvariants (rules : List (String × String × String))
  | leaked (leaks : List Leak)

abbrev Files := List (String × Value)

section Run

variable (runtime : Runtime)

def scrubRelpath (parts : List String) : String :=
  String.intercalate "/" (parts.map fun part =>
    if isRealmPath runtime part then fixedRealmId else part)

def loadFiles (files : List RecordedFile) : Except ScrubError Files :=
  files.foldlM (fun loaded file =>
    match runtime.loads file.text with
    | some value => .ok (KeyedTables.upsert Prod.fst (scrubRelpath runtime file.parts, value) loaded)
    | none => .error (.notJson file.parts)) []

def sortedFiles (files : Files) : Files :=
  files.insertionSort fun first second => first.1 ≤ second.1

def isLineBreak (char : Char) : Bool :=
  let code := char.toNat
  (decide (0xA ≤ code) && decide (code ≤ 0xD)) || (decide (0x1C ≤ code) && decide (code ≤ 0x1E)) ||
    code == 0x85 || code == 0x2028 || code == 0x2029

/-- The names of a deny list: its lines without the blank ones, in their order, each
once. -/
def denyNamesOf (text : String) : List String :=
  let lines := (text.toList.splitOnP isLineBreak).map fun line =>
    String.ofList (strip runtime (String.ofList line))
  ((lines.filter (· ≠ "")).dedup).insertionSort (· ≤ ·)

/-- The originals of a recording. -/
def originalsOf (recording : Recording) (loaded : Files) (keepAmounts : Bool) : Originals :=
  let found := ((sortedFiles loaded).map fun file =>
    collectOriginals runtime false file.2).foldr Originals.append .empty
  let denied := (recording.denyNames.map (denyNamesOf runtime)).getD []
  let pathRealms := recording.files.flatMap fun file =>
    file.parts.filter fun part => isRealmPath runtime part && part ≠ fixedRealmId
  { found with
    names := found.names ++ denied
    realms := found.realms.filter (· ≠ fixedRealmId) ++ pathRealms
    amountTexts := if keepAmounts then [] else found.amountTexts }

/-- The fakes of a recording: first those of the names in its files, then those of
the names that are denied. -/
def mapperOf (originals : Originals) (seed : String) : NameMapper :=
  (NameMapper.new seed originals.names).assign runtime originals.names

/-- The files with their names, contacts and texts scrubbed. -/
def scrubFiles (originals : Originals) (mapper : NameMapper) (seed : String) (files : Files) :
    Files :=
  let scrubber : Scrubber := ⟨runtime, mapper, .new runtime originals.names, originals, seed⟩
  files.map fun file => (file.1, scrubber.node "" file.2)

def leaksOf (detector : LeakDetector) (loaded scrubbed : Files) : List Leak :=
  (sortedFiles scrubbed).flatMap fun file =>
    detector.scan file.1 file.2 ((loaded.lookup file.1).getD .null)

variable (scrubAmounts : Files → String → Except ScrubError Files)

/-- Scrub a recording: what is written, or why nothing is. -/
def runScrub (recording : Recording) (seed : String) (keepAmounts : Bool) :
    Except ScrubError Files := do
  ensure recording.isDirectory .notADirectory
  ensure (!recording.isOutput) .inPlace
  ensure (keepAmounts || seed ≠ "") .noSeed
  ensure (!recording.files.isEmpty) .noFiles
  let loaded ← loadFiles runtime recording.files
  let reports := loaded.filter fun file => "reports/".toList.isPrefixOf file.1.toList
  ensure (keepAmounts || reports.isEmpty) (.reports reports.length)
  let originals := originalsOf runtime recording loaded keepAmounts
  let mapper := mapperOf runtime originals seed
  let scaled := if keepAmounts then pure loaded else scrubAmounts loaded seed
  let amounted ← scaled
  let scrubbed := scrubFiles runtime originals mapper seed amounted
  let leaks := leaksOf (.new runtime originals mapper !keepAmounts) loaded scrubbed
  ensure leaks.isEmpty (.leaked leaks)
  return sortedFiles scrubbed

/-- The output directory after a run, and why nothing was written. -/
def scrubInto (output : Files) (recording : Recording) (seed : String) (keepAmounts : Bool) :
    Files × Option ScrubError :=
  match runScrub runtime scrubAmounts recording seed keepAmounts with
  | .ok files => (files.foldl (fun output file => KeyedTables.upsert Prod.fst file output) output,
      none)
  | .error error => (output, some error)

end Run

end Scrub

end QuickBooks
