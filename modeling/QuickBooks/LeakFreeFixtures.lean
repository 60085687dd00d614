import QuickBooks.ScrubbedRecordings

/-!
# What a scrubbed recording does not hold

The files that a run writes are those in which the detector found nothing.  Of an
original name that stands in one of them, a name that is found there and touches a
fake covers the beginning; contacts and written amounts of the originals stand in
none, and no number under a money key is what it was.
-/

namespace QuickBooks

namespace Scrub

open ExceptPrograms TextPatterns

/-! ### Places in a value -/

inductive Step where
  | field (name : String)
  | item (index : Nat)

/-- The value at a place in another. -/
def Value.at? : Value → List Step → Option Value
  | value, [] => some value
  | value, .field name :: steps => (value.get? name).bind fun inner => at? inner steps
  | value, .item index :: steps => (value.item? index).bind fun inner => at? inner steps

/-- The key that a place is under. -/
def keyAt : (key : String) → List Step → String
  | key, [] => key
  | _, .field name :: steps => keyAt name steps
  | key, .item _ :: steps => keyAt key steps

def Value.isLeaf : Value → Bool
  | object _ => false
  | array _ => false
  | _ => true

section Walks

variable {detector : LeakDetector} {relpath path key name : String} {original : Option Value}
  {value : Value} {fields : List (String × Value)} {items : List Value}

theorem LeakDetector.mem_walkFields (fieldMem : (name, value) ∈ fields) :
    (name, detector.walk relpath (original.bind (·.get? name)) (path ++ "." ++ name) name value) ∈
      detector.walkFields relpath original path fields := by
  induction fields with
  | nil => cases fieldMem
  | cons first rest ih =>
    obtain ⟨firstName, firstValue⟩ := first
    unfold walkFields
    rcases List.mem_cons.mp fieldMem with same | later
    · cases same
      exact .head _
    · exact .tail _ (ih later)

theorem LeakDetector.walk_field (clean : detector.walk relpath original path key (.object fields) = [])
    (fieldMem : (name, value) ∈ fields) :
    detector.walk relpath (original.bind (·.get? name)) (path ++ "." ++ name) name value = [] := by
  unfold walk at clean
  rw [List.flatMap_eq_nil_iff] at clean
  exact clean _ ((List.mem_insertionSort _).mpr (mem_walkFields fieldMem))

theorem LeakDetector.walk_item {index offset : Nat}
    (clean : detector.walkItems relpath original path key offset items = [])
    (isItem : items[index]? = some value) :
    ∃ itemPath, detector.walk relpath (original.bind (·.item? (offset + index))) itemPath key value =
      [] := by
  induction items generalizing index offset with
  | nil => cases isItem
  | cons first rest ih =>
    unfold walkItems at clean
    rw [List.append_eq_nil_iff] at clean
    cases index with
    | zero =>
      cases isItem
      exact ⟨_, clean.1⟩
    | succ index =>
      obtain ⟨itemPath, isClean⟩ := ih clean.2 isItem
      rw [show offset + 1 + index = offset + (index + 1) by omega] at isClean
      exact ⟨itemPath, isClean⟩

theorem LeakDetector.leafLeak_of_walk {steps : List Step} {leaf : Value}
    (clean : detector.walk relpath original path key value = [])
    (isLeaf : value.at? steps = some leaf) (leafs : leaf.isLeaf = true) :
    detector.leafLeak (keyAt key steps) (original.bind (·.at? steps)) leaf = none := by
  induction steps generalizing value original path key with
  | nil =>
    cases isLeaf
    have same : original.bind (·.at? []) = original := by cases original <;> rfl
    rw [same]
    unfold walk at clean
    cases leaf with
    | object fields => cases leafs
    | array items => cases leafs
    | _ => simpa [keyAt] using clean
  | cons step steps ih =>
    cases step with
    | field name =>
      obtain ⟨inner, isField, isInner⟩ := Option.bind_eq_some_iff.mp isLeaf
      cases value with
      | object fields =>
        obtain ⟨before, after, split, -⟩ := List.lookup_eq_some_iff.mp isField
        have fieldMem : (name, inner) ∈ fields := by simp [split]
        have found := ih (walk_field clean fieldMem) isInner
        rw [Option.bind_assoc] at found
        exact found
      | _ => cases isField
    | item index =>
      obtain ⟨inner, isItem, isInner⟩ := Option.bind_eq_some_iff.mp isLeaf
      cases value with
      | array items =>
        unfold walk at clean
        obtain ⟨itemPath, isClean⟩ := walk_item clean isItem
        have found := ih isClean isInner
        rw [Option.bind_assoc, Nat.zero_add] at found
        exact found
      | _ => cases isItem

end Walks

/-! ### What the files hold -/

/-- What a scrubbed value does not hold of the originals. -/
structure HoldsNoOriginal (runtime : Runtime) (originals : Originals) (mapper : NameMapper)
    (original scrubbed : Value) : Prop where
  names : ∀ steps text, scrubbed.at? steps = some (.string text) →
    isStructural runtime (keyAt "" steps) text = false →
      ∀ name ∈ originals.names, name ≠ "" → isTextual runtime name = true →
        ∀ start, NameMatcher.standsAt runtime text.toList start name = true →
          ∃ hit ∈ (NameMatcher.new runtime originals.names).find runtime text,
            hit.start ≤ start ∧ start < hit.stop ∧
              ∃ fake ∈ (NameMatcher.new runtime mapper.fakes).find runtime text, fake.Touches hit
  contacts : ∀ steps text, scrubbed.at? steps = some (.string text) →
    ∀ part ∈ originals.emails ++ originals.phones ++ originals.streets ++ originals.realms,
      contains text part = false
  writtenAmounts : ∀ steps text, scrubbed.at? steps = some (.string text) →
    ∀ amount ∈ amountsIn runtime text, amount ∉ originals.amountTexts
  amounts : ∀ steps new newInteger old oldInteger, keyAt "" steps ∈ moneyKeys →
    scrubbed.at? steps = some (.number new newInteger) →
      original.at? steps = some (.number old oldInteger) → 1 ≤ |old| → new ≠ old

section Detected

variable {detector : LeakDetector} {text key : String} {original scrubbed : Value}

theorem not_contains_of_any {parts : List String} (none : ¬parts.any (contains text) = true) :
    ∀ part ∈ parts, contains text part = false := by
  intro part partMem
  by_contra holds
  exact none (List.any_eq_true.mpr ⟨part, partMem, by simpa using holds⟩)

theorem LeakDetector.stringLeak_eq_none (clean : detector.stringLeak text key = none) :
    (isStructural detector.runtime key text = false → detector.realNamesIn text = []) ∧
      (∀ part ∈ detector.originals.emails ++ detector.originals.phones ++
          detector.originals.streets ++ detector.originals.realms, contains text part = false) ∧
      (detector.checkAmounts = true →
        ∀ amount ∈ amountsIn detector.runtime text, amount ∉ detector.originals.amountTexts) := by
  unfold stringLeak at clean
  dsimp only at clean
  split_ifs at clean with names _ emails phones streets realms amounts
  refine ⟨fun free => ?_, ?_, fun checks amount amountMem isOriginal => amounts ?_⟩
  · simpa [free] using names
  · rw [Bool.or_eq_true, not_or] at phones
    simp only [List.mem_append, or_imp, forall_and]
    exact ⟨⟨⟨not_contains_of_any emails, not_contains_of_any phones.2⟩,
      not_contains_of_any streets⟩, not_contains_of_any realms⟩
  · rw [checks, Bool.true_and, List.any_eq_true]
    exact ⟨amount, amountMem, decide_eq_true isOriginal⟩

/-- Where an original name stands in a text with no real names, one that is found
there and touches a fake covers its beginning. -/
theorem LeakDetector.exists_touching_of_realNamesIn (clean : detector.realNamesIn text = [])
    {name : String} (nameMem : name ∈ detector.names.names) (notEmpty : name ≠ "") {start : Nat}
    (stands : NameMatcher.standsAt detector.runtime text.toList start name = true) :
    ∃ hit ∈ detector.names.find detector.runtime text, hit.start ≤ start ∧ start < hit.stop ∧
      ∃ fake ∈ detector.fakes.find detector.runtime text, fake.Touches hit := by
  obtain ⟨hit, hitMem, before, within⟩ :=
    NameMatcher.exists_hit_of_standsAt nameMem notEmpty stands
  refine ⟨hit, hitMem, before, within, ?_⟩
  unfold realNamesIn at clean
  have setAside := List.filter_eq_nil_iff.mp clean hit hitMem
  simpa using setAside

theorem holdsNoOriginal_of_scan {runtime : Runtime} {originals : Originals} {mapper : NameMapper}
    {relpath : String}
    (clean : (LeakDetector.new runtime originals mapper true).scan relpath scrubbed original = []) :
    HoldsNoOriginal runtime originals mapper original scrubbed := by
  unfold LeakDetector.scan at clean
  have walked := (List.append_eq_nil_iff.mp clean).2
  have leafs : ∀ steps leaf, scrubbed.at? steps = some leaf → leaf.isLeaf = true →
      (LeakDetector.new runtime originals mapper true).leafLeak (keyAt "" steps)
        (original.at? steps) leaf = none :=
    fun steps leaf isLeaf leafs => LeakDetector.leafLeak_of_walk walked isLeaf leafs
  refine ⟨?_, ?_, ?_, ?_⟩
  · intro steps text isText free name nameMem notEmpty textual start stands
    have found := LeakDetector.stringLeak_eq_none (leafs steps _ isText rfl)
    refine LeakDetector.exists_touching_of_realNamesIn (found.1 free) ?_ notEmpty stands
    exact List.mem_filter.mpr ⟨nameMem, by simp [notEmpty, textual]⟩
  · intro steps text isText
    exact (LeakDetector.stringLeak_eq_none (leafs steps _ isText rfl)).2.1
  · intro steps text isText
    exact (LeakDetector.stringLeak_eq_none (leafs steps _ isText rfl)).2.2 rfl
  · rintro steps new newInteger old oldInteger isMoney isNew isOld large rfl
    have unchanged := leafs steps _ isNew rfl
    rw [isOld] at unchanged
    have isFloor : leakAmountFieldFloor ≤ |new| := large
    simp [LeakDetector.leafLeak, LeakDetector.new, isMoney, dec, isFloor] at unchanged

end Detected

section Runs

variable {runtime : Runtime} {scrubAmounts : Files → String → Except ScrubError Files}
  {recording : Recording} {seed : String} {files output : Files}

theorem scan_of_runScrub
    (writes : runScrub runtime scrubAmounts recording seed false = .ok files) :
    ∃ loaded, loadFiles runtime recording.files = .ok loaded ∧ ∀ file ∈ files,
      let originals := originalsOf runtime recording loaded false
      (LeakDetector.new runtime originals (mapperOf runtime originals seed) true).scan file.1 file.2
        ((loaded.lookup file.1).getD .null) = [] := by
  simp only [runScrub, bind_eq_ok_iff, ensure_eq_ok_iff, pure_eq_ok_iff] at writes
  obtain ⟨-, -, -, -, -, -, -, -, loaded, loads, -, -, amounted, -, -, noLeaks, rfl⟩ := writes
  refine ⟨loaded, loads, fun file fileMem => ?_⟩
  rw [List.isEmpty_iff] at noLeaks
  exact List.flatMap_eq_nil_iff.mp noLeaks file fileMem

/-- The files that a run writes hold no original, and a run that refuses leaves the
output as it was. -/
theorem written_holdsNoOriginal :
    (∀ files, runScrub runtime scrubAmounts recording seed false = .ok files →
      ∃ loaded, loadFiles runtime recording.files = .ok loaded ∧ ∀ file ∈ files,
        let originals := originalsOf runtime recording loaded false
        HoldsNoOriginal runtime originals (mapperOf runtime originals seed)
          ((loaded.lookup file.1).getD .null) file.2) ∧
      ∀ error, runScrub runtime scrubAmounts recording seed false = .error error →
        scrubInto runtime scrubAmounts output recording seed false = (output, some error) := by
  constructor
  · intro files writes
    obtain ⟨loaded, loads, clean⟩ := scan_of_runScrub writes
    exact ⟨loaded, loads, fun file fileMem => holdsNoOriginal_of_scan (clean file fileMem)⟩
  · intro error refuses
    unfold scrubInto
    rw [refuses]

end Runs

/-! ### Two clubs and an amount in a text -/

namespace TwoClubs

/-- Two customers, a note that names the first, and an amount as a text. -/
def customers : String :=
  "[\x7b\"entity_type\": \"Customer\", \"DisplayName\": \"Acme Pools\"\x7d, " ++
    "\x7b\"entity_type\": \"Customer\", \"DisplayName\": \"Springs Water Club\"\x7d, " ++
      "\x7b\"Memo\": \"Acme Pools Water Club\", \"Amount\": \"123.45\"\x7d]"

def customersValue : Value :=
  .array
    [.object [("entity_type", .string "Customer"), ("DisplayName", .string "Acme Pools")],
      .object [("entity_type", .string "Customer"), ("DisplayName", .string "Springs Water Club")],
      .object [("Memo", .string "Acme Pools Water Club"), ("Amount", .string "123.45")]]

/-- The language on texts of Latin letters and digits, with the digests of the two
names under the seed. -/
def runtime : Runtime where
  isAlpha := isLatinLetter
  isAlnum char := isLatinLetter char || isLatinDigit char
  isDigit := isLatinDigit
  isSpace char := char ∈ [' ', '\n', '\t', '\r']
  lower text := String.ofList (text.toList.map Char.toLower)
  readInt := String.toInt?
  digest value _ :=
    if value = "Acme Pools" then [171, 240, 54, 68, 210, 126, 76, 8]
    else [196, 214, 81, 31, 64, 101, 226, 200]
  loads text := if text = customers then some customersValue else none

def recording : Recording where
  isDirectory := true
  isOutput := false
  files := [⟨["customers.json"], customers⟩]
  denyNames := none

def scrubAmounts (files : Files) (_ : String) : Except ScrubError Files :=
  .ok files

def originals : Originals :=
  originalsOf runtime recording [("customers.json", customersValue)] false

def writtenText (steps : List Step) : Option String :=
  (runScrub runtime scrubAmounts recording "seed" false).toOption.bind fun files =>
    files.head?.bind fun file => (file.2.at? steps).bind Value.text?

theorem written_texts :
    writtenText [.item 2, .field "Memo"] = some "Harbor Springs Water Club" ∧
      writtenText [.item 2, .field "Amount"] = some "123.45" := by
  decide +kernel

theorem exists_written : ∃ files,
    runScrub runtime scrubAmounts recording "seed" false = .ok files := by
  obtain ⟨files, writes, -⟩ := Option.bind_eq_some_iff.mp written_texts.1
  exact ⟨files, toOption_eq_some_iff.mp writes⟩

/-- The run is written and holds no original. -/
theorem written_clubs : ∃ files,
    runScrub runtime scrubAmounts recording "seed" false = .ok files ∧
      ∃ loaded, loadFiles runtime recording.files = .ok loaded ∧ ∀ file ∈ files,
        let originals := originalsOf runtime recording loaded false
        HoldsNoOriginal runtime originals (mapperOf runtime originals "seed")
          ((loaded.lookup file.1).getD .null) file.2 := by
  obtain ⟨files, writes⟩ := exists_written
  have holds : (∀ files, runScrub runtime scrubAmounts recording "seed" false = .ok files → _) ∧
      ∀ error, runScrub runtime scrubAmounts recording "seed" false = .error error →
        scrubInto runtime scrubAmounts [] recording "seed" false = ([], some error) :=
    written_holdsNoOriginal
  exact ⟨files, writes, holds.1 files writes⟩

/-- The second club stands in the note across the end of the fake of the first, and
the amount that is a text is what it was. -/
theorem written_holdsOriginals : ∃ files,
    runScrub runtime scrubAmounts recording "seed" false = .ok files ∧ ∃ file ∈ files,
      (file.2.at? [.item 2, .field "Memo"]).bind Value.text? = some "Harbor Springs Water Club" ∧
      "Springs Water Club" ∈ originals.names ∧
      NameMatcher.standsAt runtime "Harbor Springs Water Club".toList 7 "Springs Water Club" =
        true ∧
      (∀ fake ∈ (NameMatcher.new runtime (mapperOf runtime originals "seed").fakes).find runtime
          "Harbor Springs Water Club",
        ¬(fake.start ≤ 7 ∧ 7 + "Springs Water Club".length ≤ fake.stop)) ∧
      (file.2.at? [.item 2, .field "Amount"]).bind Value.text? = some "123.45" ∧
      (customersValue.at? [.item 2, .field "Amount"]).bind Value.text? = some "123.45" := by
  obtain ⟨files, writes, isMemo⟩ := Option.bind_eq_some_iff.mp written_texts.1
  obtain ⟨file, isFirst, memo⟩ := Option.bind_eq_some_iff.mp isMemo
  obtain ⟨same, writesSame, isAmount⟩ := Option.bind_eq_some_iff.mp written_texts.2
  obtain rfl : files = same := Option.some_injective _ (writes.symm.trans writesSame)
  obtain ⟨first, isFirst', amount⟩ := Option.bind_eq_some_iff.mp isAmount
  obtain rfl : file = first := Option.some_injective _ (isFirst.symm.trans isFirst')
  exact ⟨files, toOption_eq_some_iff.mp writes, file, List.mem_of_head? isFirst, memo,
    by decide +kernel, by decide +kernel, by decide +kernel, amount, by decide +kernel⟩

end TwoClubs

end Scrub

end QuickBooks
