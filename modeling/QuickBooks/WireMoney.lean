import QuickBooks.DisplayedMoney
import QuickBooks.TypedMoney

/-!
# Money on the wire

A tool's arguments are a tree of JSON.  Texts in the fields that hold money are
rewritten as minor units before the tree is read as typed values; a text that is no
amount of two places is left, and its reading refuses it.
-/

namespace QuickBooks

open CheckedIntegers DecimalNumbers ExceptPrograms

namespace Wire

def moneyFields : List String :=
  ["amount", "unit_cost", "sales_price", "purchase_cost", "total_tax", "taxable_base",
    "unapplied", "debit", "credit", "tax_amount", "opening_balance", "closing_balance"]

structure ToolError where
  message : String
deriving DecidableEq

/-- What becomes of a text that may be an amount. -/
inductive MinorReading where
  | minor (units : Int)
  | refused
  | panicked
deriving DecidableEq

variable (decimalFromStr : String → Option Decimal)

/-- A decimal text of two places at most in minor units.  The hundredfold is taken
by an operator that panics on overflow. -/
def decimalStrToMinor (raw : String) : MinorReading :=
  match decimalFromStr raw with
  | none => .refused
  | some decimal =>
    if 2 < decimal.scale then .refused
    else
      match decimal.mul? Decimal.hundred with
      | none => .panicked
      | some product =>
        match Money.ofMinor? product.trunc with
        | none => .refused
        | some money => .minor money.minor

/-- The text of a field that holds money, nothing where reading it panics. -/
def rewrittenText (raw : String) : Option Json :=
  match decimalStrToMinor decimalFromStr raw with
  | .minor units => some (.number (.integer units))
  | .refused => some (.string raw)
  | .panicked => none

def rewrittenEntry (key raw : String) : Option Json :=
  if key ∈ moneyFields then rewrittenText decimalFromStr raw else some (.string raw)

mutual

/-- The tree with the amounts in its fields as minor units, nothing where it panics. -/
def normalizeMoneyFields : Json → Option Json
  | .object fields => Json.object <$> normalizeFields fields
  | .array items => Json.array <$> normalizeItems items
  | value => some value

def normalizeItems : List Json → Option (List Json)
  | [] => some []
  | item :: items => do
    let item ← normalizeMoneyFields item
    let items ← normalizeItems items
    return item :: items

def normalizeFields : List (String × Json) → Option (List (String × Json))
  | [] => some []
  | (key, .string raw) :: fields => do
    let entry ← rewrittenEntry decimalFromStr key raw
    let fields ← normalizeFields fields
    return (key, entry) :: fields
  | (key, entry) :: fields => do
    let entry ← normalizeMoneyFields entry
    let fields ← normalizeFields fields
    return (key, entry) :: fields

end

/-- What stands below a value at a position, with the name of its field. -/
def child? (value : Json) (position : ℕ) : Option (Option String × Json) :=
  match value with
  | .object fields => fields[position]?.map fun field => (some field.1, field.2)
  | .array items => items[position]?.map fun item => (none, item)
  | _ => none

def at? : Option String × Json → List ℕ → Option (Option String × Json)
  | place, [] => some place
  | place, position :: path => (child? place.2 position).bind fun below => at? below path

def isLeaf : Json → Bool
  | .object _ | .array _ => false
  | _ => true

def normalizedEntry : Option String → Json → Option Json
  | some key, .string raw => rewrittenEntry decimalFromStr key raw
  | _, value => normalizeMoneyFields decimalFromStr value

variable {decimalFromStr}

theorem normalizeFields_cons {key : String} {entry : Json} {fields after : List (String × Json)} :
    normalizeFields decimalFromStr ((key, entry) :: fields) = some after ↔
      ∃ found, normalizedEntry decimalFromStr (some key) entry = some found ∧
        ∃ rest, normalizeFields decimalFromStr fields = some rest ∧
          (key, found) :: rest = after := by
  cases entry <;>
    simp only [normalizeFields, normalizedEntry, Option.bind_eq_bind, Option.bind_eq_some_iff,
      Option.pure_def, Option.some.injEq]

def Panics (decimalFromStr : String → Option Decimal) (place : Option String × Json) : Prop :=
  ∃ path key raw, at? place path = some (some key, .string raw) ∧
    rewrittenEntry decimalFromStr key raw = none

theorem not_panics_of_child (place below : Option String × Json) (position : ℕ)
    (isBelow : child? place.2 position = some below) (returns : ¬Panics decimalFromStr place) :
    ¬Panics decimalFromStr below := by
  rintro ⟨path, key, raw, here, panics⟩
  apply returns
  refine ⟨position :: path, key, raw, ?_, panics⟩
  rw [at?, isBelow]
  exact here

mutual

theorem exists_normalizedEntry : ∀ (name : Option String) (value : Json),
    ¬Panics decimalFromStr (name, value) →
      ∃ found, normalizedEntry decimalFromStr name value = some found
  | none, .string raw, _ => ⟨.string raw, rfl⟩
  | some key, .string raw, returns => by
      cases rewritten : rewrittenEntry decimalFromStr key raw with
      | none => exact absurd ⟨[], key, raw, rfl, rewritten⟩ returns
      | some found => exact ⟨found, rewritten⟩
  | name, .array items, returns => by
      obtain ⟨after, normalized⟩ := exists_normalizeItems items (by
        intro position item here
        exact not_panics_of_child (name, .array items) (none, item) position
          (by simp [child?, here]) returns)
      cases name <;>
        exact ⟨.array after, by simp [normalizedEntry, normalizeMoneyFields, normalized]⟩
  | name, .object fields, returns => by
      obtain ⟨after, normalized⟩ := exists_normalizeFields fields (by
        intro position field here
        exact not_panics_of_child (name, .object fields) (some field.1, field.2) position
          (by simp [child?, here]) returns)
      cases name <;>
        exact ⟨.object after, by simp [normalizedEntry, normalizeMoneyFields, normalized]⟩
  | none, .null, _ => ⟨.null, rfl⟩
  | some _, .null, _ => ⟨.null, rfl⟩
  | none, .bool value, _ => ⟨.bool value, rfl⟩
  | some _, .bool value, _ => ⟨.bool value, rfl⟩
  | none, .number value, _ => ⟨.number value, rfl⟩
  | some _, .number value, _ => ⟨.number value, rfl⟩

theorem exists_normalizeItems : ∀ items : List Json,
    (∀ (position : ℕ) item, items[position]? = some item → ¬Panics decimalFromStr (none, item)) →
      ∃ after, normalizeItems decimalFromStr items = some after
  | [], _ => ⟨[], rfl⟩
  | item :: items, returns => by
      obtain ⟨found, here⟩ := exists_normalizedEntry none item (returns 0 item rfl)
      obtain ⟨rest, later⟩ := exists_normalizeItems items fun position item isItem =>
        returns (position + 1) item isItem
      have here : normalizeMoneyFields decimalFromStr item = some found := here
      exact ⟨found :: rest, by simp [normalizeItems, here, later]⟩

theorem exists_normalizeFields : ∀ fields : List (String × Json),
    (∀ (position : ℕ) field, fields[position]? = some field →
      ¬Panics decimalFromStr (some field.1, field.2)) →
      ∃ after, normalizeFields decimalFromStr fields = some after
  | [], _ => ⟨[], rfl⟩
  | (key, entry) :: fields, returns => by
      obtain ⟨found, here⟩ := exists_normalizedEntry (some key) entry (returns 0 (key, entry) rfl)
      obtain ⟨rest, later⟩ := exists_normalizeFields fields fun position field isField =>
        returns (position + 1) field isField
      exact ⟨(key, found) :: rest, normalizeFields_cons.mpr ⟨found, here, rest, later, rfl⟩⟩

end

end Wire

end QuickBooks
