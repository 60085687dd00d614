import Mathlib.Data.List.TakeWhile
import QuickBooks.MirroredPayloads
import QuickBooks.OpenItems

/-!
# Readers of plain decimals

A concrete library that reads plain decimals and one date.
-/

namespace QuickBooks

open DecimalNumbers ExceptPrograms

/-- The decimal arithmetic of the translation beside the readers: a sum, unless
the panicking operator overflows, and a hundredth. -/
structure DecimalLibrary extends TextReaders where
  add : Decimal → Decimal → Option Decimal
  overHundred : Decimal → Decimal

/-- Digits, and places after a point, under a sign. -/
def readDigits (negative : Bool) (chars : List Char) : Option Decimal :=
  let places := (chars.dropWhile fun char => char ≠ '.').tail
  let digits := (chars.takeWhile fun char => char ≠ '.') ++ places
  let magnitude := Nat.ofDigitChars 10 digits 0
  let mantissa : Int := if negative then -magnitude else magnitude
  if fits : (mantissa.natAbs < 2 ^ 96 ∧ places.length ≤ 28) ∧
      digits ≠ [] ∧ digits.all Char.isDigit then
    some ⟨mantissa, places.length, fits.1.1, fits.1.2⟩
  else none

def readPlain (text : String) : Option Decimal :=
  match text.toList with
  | '-' :: rest => readDigits true rest
  | chars => readDigits false chars

theorem isDigit_of_mem_numeral {number : Nat} {char : Char}
    (charMem : char ∈ Nat.toDigits 10 number) : char.isDigit = true :=
  Nat.isDigit_of_mem_toDigits (by omega) (by omega) charMem

theorem readDigits_toDigits (negative : Bool) (number : Nat) :
    readDigits negative (Nat.toDigits 10 number) =
      decimalOfInt? (if negative then -number else number) := by
  have noPoint : ∀ char ∈ Nat.toDigits 10 number, decide (char ≠ '.') = true := by
    intro char charMem
    have isDigit := isDigit_of_mem_numeral charMem
    rw [decide_eq_true_eq]
    rintro rfl
    exact absurd isDigit (by decide)
  have allDigits : (Nat.toDigits 10 number).all Char.isDigit = true :=
    List.all_eq_true.mpr fun char charMem => isDigit_of_mem_numeral charMem
  have takes := List.takeWhile_eq_self_iff.mpr noPoint
  have drops := List.dropWhile_eq_nil_iff.mpr noPoint
  simp only [readDigits, takes, drops, List.tail_nil, List.append_nil, List.length_nil,
    Nat.ofDigitChars_ten_toDigits, allDigits, Nat.toDigits_ne_nil, decimalOfInt?, Nat.zero_le,
    and_true, ne_eq, not_false_eq_true, and_self]

theorem readPlain_toString (value : Int) : readPlain (toString value) = decimalOfInt? value := by
  rw [Int.toString_eq_repr, Int.repr_eq_if]
  split_ifs with nonneg
  · have chars : value.toNat.repr.toList = Nat.toDigits 10 value.toNat := Nat.toList_repr
    have unsigned : readPlain value.toNat.repr =
        readDigits false (Nat.toDigits 10 value.toNat) := by
      unfold readPlain
      rw [chars]
      split
      · rename_i rest signed
        have signMem : '-' ∈ Nat.toDigits 10 value.toNat := by
          rw [signed]
          exact List.mem_cons_self
        exact absurd (isDigit_of_mem_numeral signMem) (by decide)
      · rfl
    rw [unsigned, readDigits_toDigits]
    simp [Int.toNat_of_nonneg nonneg]
  · have signed : readPlain ("-" ++ (-value).toNat.repr) =
        readDigits true (Nat.toDigits 10 (-value).toNat) := by
      unfold readPlain
      rw [String.toList_append, Nat.toList_repr]
      rfl
    rw [signed, readDigits_toDigits]
    simp [Int.toNat_of_nonneg (by omega : 0 ≤ -value)]

/-- Readers of plain decimals and of one date. -/
def plainLibrary : DecimalLibrary where
  decimalFromStr := readPlain
  decimalFromScientific _ := none
  dateFromStr text := if text = "2026-03-02" then some ⟨2026, 3, 2, Eq.refl true⟩ else none
  decimalFromStr_toString value _ := readPlain_toString value
  add first second :=
    if same : first.scale = second.scale ∧
        (first.mantissa + second.mantissa).natAbs < 2 ^ 96 then
      some ⟨first.mantissa + second.mantissa, first.scale, same.2, first.scale_le⟩
    else none
  overHundred number := number

end QuickBooks
