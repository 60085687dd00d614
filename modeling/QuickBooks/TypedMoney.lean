import QuickBooks.ComposedDocuments
import QuickBooks.DecimalTexts
import QuickBooks.DecimalUnits

/-!
# Money as typed and as sent

Money as a person typed it is refused when it has more than cents.  Its hundredfold
is taken by an operator that panics when the product does not fit a decimal.  An
amount of a payload is a number of the library, read back from the text it prints
as.
-/

namespace DecimalNumbers

namespace Decimal

variable {number : Decimal} {cents : Int}

theorem cents_iff_toRat : number.Cents cents ↔ number.toRat * 100 = cents := by
  have positive : (0 : ℚ) < 10 ^ number.scale := by positivity
  unfold Cents toRat
  rw [div_mul_eq_mul_div, div_eq_iff positive.ne']
  constructor
  · intro exactly
    exact_mod_cast exactly
  · intro exactly
    exact_mod_cast exactly

end Decimal

end DecimalNumbers

namespace QuickBooks

open CheckedIntegers DecimalNumbers ExceptPrograms

namespace Compose

/-- Why composing ends without a result: a refusal, or a panic of the arithmetic. -/
inductive Failure where
  | refused (error : ComposeError)
  | panicked
deriving DecidableEq

def refusing {α : Type} (program : Except ComposeError α) : Except Failure α :=
  program.mapError Failure.refused

def invalid (message : String) : Failure :=
  .refused (.invalid message)

variable (library : TextLibrary)

/-- Money as typed, refused rather than rounded if it has more than cents. -/
def cents (raw what : String) : Except Failure Money := do
  let value ← refusing (decimal library raw what)
  ensure (decide ((normalize value).scale ≤ 2))
    (invalid (what ++ " " ++ library.quoted raw ++ " has more than two decimal places"))
  let product ← orRefuse .panicked (value.mul? Decimal.hundred)
  orRefuse (invalid (what ++ " " ++ library.quoted raw ++ " is too large"))
    (Money.ofMinor? product.trunc)

variable {library}

def typed (raw : String) : String :=
  withoutCommas (trimmed raw)

/-- A library that reads numerals and one date; a number of a payload prints as the text
it came from. -/
def numeralLibrary : TextLibrary where
  decimalFromStr := readPlainly
  dateFromYmd text := if text = "2024-05-01" then some ⟨2024, 5, 1, Eq.refl true⟩ else none
  numberFromStr text := .float text true
  quoted text := text

end Compose

end QuickBooks
