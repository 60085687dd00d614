import Mathlib.Data.List.TakeWhile
import Mathlib.Tactic.Positivity
import QuickBooks.DecimalNumbers

/-!
# What the text of a number says

A numeral is a sign, digits and at most one point among them; separators may stand
after a digit.  It says a number of units and how many places they have.  The text
that a decimal prints as says its mantissa and its scale.
-/

namespace DecimalNumbers

/-- The units and the number of places of a numeral without its sign. -/
def unsignedParts (chars : List Char) : Option (Nat × Nat) :=
  let whole := chars.takeWhile fun char => char ≠ '.'
  let places := (chars.dropWhile fun char => char ≠ '.').drop 1
  let written := whole ++ places
  let digits := written.filter fun char => char ≠ '_'
  if digits ≠ [] ∧ digits.all Char.isDigit ∧ written.head? ≠ some '_' then
    some (Nat.ofDigitChars 10 digits 0, (places.filter fun char => char ≠ '_').length)
  else none

/-- The units and the number of places of a numeral. -/
def numeralParts (text : String) : Option (Int × Nat) :=
  match text.toList with
  | '-' :: chars => (unsignedParts chars).map fun parts => (-(parts.1 : Int), parts.2)
  | '+' :: chars => (unsignedParts chars).map fun parts => ((parts.1 : Int), parts.2)
  | chars => (unsignedParts chars).map fun parts => ((parts.1 : Int), parts.2)

def numeralValue (text : String) : Option ℚ :=
  (numeralParts text).map fun parts => parts.1 / 10 ^ parts.2

theorem unsignedParts_of_isDigit {whole : List Char} (someDigit : whole ≠ [])
    (isDigit : ∀ char ∈ whole, char.isDigit = true) :
    unsignedParts whole = some (Nat.ofDigitChars 10 whole 0, 0) := by
  have notPoint : ∀ char ∈ whole, decide (char ≠ '.') = true := by
    intro char charMem
    apply decide_eq_true
    rintro rfl
    exact absurd (isDigit '.' charMem) (by decide)
  have notSeparator : whole.filter (fun char => char ≠ '_') = whole := by
    apply List.filter_eq_self.mpr
    intro char charMem
    apply decide_eq_true
    rintro rfl
    exact absurd (isDigit '_' charMem) (by decide)
  have first : whole.head? ≠ some '_' := by
    intro here
    exact absurd (isDigit '_' (List.mem_of_mem_head? here)) (by decide)
  unfold unsignedParts
  rw [List.takeWhile_eq_self_iff.mpr notPoint, List.dropWhile_eq_nil_iff.mpr notPoint]
  simp only [List.drop_nil, List.append_nil, notSeparator]
  rw [if_pos ⟨someDigit, List.all_eq_true.mpr isDigit, first⟩]
  rfl

theorem unsignedParts_of_point {whole places : List Char} (someDigit : whole ≠ [])
    (wholeDigit : ∀ char ∈ whole, char.isDigit = true)
    (placesDigit : ∀ char ∈ places, char.isDigit = true) :
    unsignedParts (whole ++ '.' :: places) =
      some (Nat.ofDigitChars 10 (whole ++ places) 0, places.length) := by
  have notPoint : ∀ char ∈ whole, decide (char ≠ '.') = true := by
    intro char charMem
    apply decide_eq_true
    rintro rfl
    exact absurd (wholeDigit '.' charMem) (by decide)
  have isDigit : ∀ char ∈ whole ++ places, char.isDigit = true := by
    intro char charMem
    rcases List.mem_append.mp charMem with wholeMem | placesMem
    · exact wholeDigit char wholeMem
    · exact placesDigit char placesMem
  have notSeparator : ∀ chars : List Char, (∀ char ∈ chars, char.isDigit = true) →
      chars.filter (fun char => char ≠ '_') = chars := by
    intro chars digits
    apply List.filter_eq_self.mpr
    intro char charMem
    apply decide_eq_true
    rintro rfl
    exact absurd (digits '_' charMem) (by decide)
  have first : (whole ++ places).head? ≠ some '_' := by
    intro here
    exact absurd (isDigit '_' (List.mem_of_mem_head? here)) (by decide)
  unfold unsignedParts
  rw [List.takeWhile_append_of_pos notPoint, List.dropWhile_append_of_pos notPoint]
  simp only [List.takeWhile_cons, List.dropWhile_cons, ne_eq, not_true_eq_false, decide_false,
    Bool.false_eq_true, if_false, List.append_nil, List.drop_succ_cons, List.drop_zero]
  rw [notSeparator _ isDigit, notSeparator _ placesDigit,
    if_pos ⟨List.append_ne_nil_of_left_ne_nil someDigit places,
      List.all_eq_true.mpr isDigit, first⟩]

theorem isDigit_toDigits {number : Nat} {char : Char} (charMem : char ∈ Nat.toDigits 10 number) :
    char.isDigit = true :=
  Nat.isDigit_of_mem_toDigits (by omega) (by omega) charMem

theorem numeralParts_minus (chars : List Char) :
    numeralParts (String.ofList ('-' :: chars)) =
      (unsignedParts chars).map fun parts => (-(parts.1 : Int), parts.2) := by
  simp [numeralParts]

theorem numeralParts_of_isDigit {first : Char} {chars : List Char}
    (isDigit : first.isDigit = true) :
    numeralParts (String.ofList (first :: chars)) =
      (unsignedParts (first :: chars)).map fun parts => ((parts.1 : Int), parts.2) := by
  have notMinus : first ≠ '-' := by
    rintro rfl
    exact absurd isDigit (by decide)
  have notPlus : first ≠ '+' := by
    rintro rfl
    exact absurd isDigit (by decide)
  unfold numeralParts
  rw [String.toList_ofList]
  split
  · rename_i same
    exact absurd (List.cons.inj same).1 notMinus
  · rename_i same
    exact absurd (List.cons.inj same).1 notPlus
  · rfl

namespace Decimal

/-- The digits of a decimal after its sign. -/
def unsignedChars (number : Decimal) : List Char :=
  let magnitude := number.mantissa.natAbs
  let places := Nat.toDigits 10 (magnitude % 10 ^ number.scale)
  Nat.toDigits 10 (magnitude / 10 ^ number.scale) ++
    if number.scale = 0 then []
    else '.' :: (List.replicate (number.scale - places.length) '0' ++ places)

theorem render_eq (number : Decimal) :
    number.render =
      String.ofList ((if number.mantissa < 0 then ['-'] else []) ++ number.unsignedChars) := by
  have lengthEq (digits : Nat) : digits.repr.length = (Nat.toDigits 10 digits).length := by
    rw [← String.length_toList, Nat.toList_repr]
  apply String.toList_injective
  unfold render unsignedChars
  simp only [Nat.toString_eq_repr, String.toList_append, String.toList_ofList]
  congr 1
  · split_ifs <;> rfl
  · split_ifs
    · simp [Nat.toList_repr]
    · simp [Nat.toList_repr, lengthEq]

theorem mem_render {number : Decimal} {char : Char} (charMem : char ∈ number.render.toList) :
    char.isDigit = true ∨ char = '-' ∨ char = '.' := by
  rw [render_eq, String.toList_ofList, List.mem_append] at charMem
  rcases charMem with sign | unsigned
  · split_ifs at sign with negative
    · exact .inr (.inl (List.mem_singleton.mp sign))
    · cases sign
  · unfold unsignedChars at unsigned
    dsimp only at unsigned
    rcases List.mem_append.mp unsigned with whole | places
    · exact .inl (isDigit_toDigits whole)
    · split_ifs at places
      · cases places
      · rcases List.mem_cons.mp places with point | digits
        · exact .inr (.inr point)
        · rcases List.mem_append.mp digits with padding | digit
          · rw [List.eq_of_mem_replicate padding]
            exact .inl rfl
          · exact .inl (isDigit_toDigits digit)

theorem unsignedParts_unsignedChars (number : Decimal) :
    unsignedParts number.unsignedChars = some (number.mantissa.natAbs, number.scale) := by
  unfold unsignedChars
  dsimp only
  by_cases whole : number.scale = 0
  · rw [if_pos whole, List.append_nil,
      unsignedParts_of_isDigit Nat.toDigits_ne_nil fun char charMem => isDigit_toDigits charMem,
      Nat.ofDigitChars_ten_toDigits, whole, pow_zero, Nat.div_one]
  · have positive : 0 < number.scale := Nat.pos_of_ne_zero whole
    have short : (Nat.toDigits 10 (number.mantissa.natAbs % 10 ^ number.scale)).length ≤
        number.scale :=
      (Nat.length_toDigits_le_iff (by omega) positive).mpr (Nat.mod_lt _ (by positivity))
    have lengthEq : (List.replicate (number.scale -
        (Nat.toDigits 10 (number.mantissa.natAbs % 10 ^ number.scale)).length) '0' ++
          Nat.toDigits 10 (number.mantissa.natAbs % 10 ^ number.scale)).length =
        number.scale := by
      rw [List.length_append, List.length_replicate]
      omega
    rw [if_neg whole, unsignedParts_of_point Nat.toDigits_ne_nil
      fun char charMem => isDigit_toDigits charMem]
    · rw [lengthEq, Nat.ofDigitChars_append, Nat.ofDigitChars_ten_toDigits,
        Nat.ofDigitChars_eq_ofDigitChars_zero, lengthEq, Nat.ofDigitChars_append,
        Nat.ofDigitChars_replicate_zero, Nat.mul_zero, Nat.ofDigitChars_ten_toDigits,
        Nat.div_add_mod]
    · intro char charMem
      rcases List.mem_append.mp charMem with padding | digit
      · rw [List.eq_of_mem_replicate padding]
        rfl
      · exact isDigit_toDigits digit

theorem numeralParts_render (number : Decimal) :
    numeralParts number.render = some (number.mantissa, number.scale) := by
  rw [render_eq]
  by_cases negative : number.mantissa < 0
  · rw [if_pos negative, List.singleton_append, numeralParts_minus,
      unsignedParts_unsignedChars, Option.map_some]
    congr 2
    omega
  · have starts : ∃ first chars, number.unsignedChars = first :: chars ∧
        first.isDigit = true := by
      unfold unsignedChars
      dsimp only
      obtain ⟨first, chars, digits⟩ := List.exists_cons_of_ne_nil
        (@Nat.toDigits_ne_nil (number.mantissa.natAbs / 10 ^ number.scale) 10)
      rw [digits]
      exact ⟨first, _, rfl, isDigit_toDigits (digits ▸ List.mem_cons_self)⟩
    obtain ⟨first, chars, charsEq, isDigit⟩ := starts
    rw [if_neg negative, List.nil_append, charsEq, numeralParts_of_isDigit isDigit, ← charsEq,
      unsignedParts_unsignedChars, Option.map_some]
    congr 2
    omega

end Decimal

/-! ### Readers -/

/-- What a reader of decimals is relied on for: the text of a decimal is read as it,
and a number with room for another place is exactly what its text says. -/
structure ReadsDecimals (decimalFromStr : String → Option Decimal) : Prop where
  plain : ∀ number : Decimal, decimalFromStr number.render = some number
  isExact : ∀ text number, decimalFromStr text = some number → number.scale < 28 →
    10 * (number.mantissa.natAbs + 1) < 2 ^ 96 → numeralValue text = some number.toRat

/-- A reader of the texts whose number fits a decimal as it stands. -/
def readPlainly (text : String) : Option Decimal :=
  (numeralParts text).bind fun parts =>
    if fits : parts.1.natAbs < 2 ^ 96 ∧ parts.2 ≤ 28 then
      some ⟨parts.1, parts.2, fits.1, fits.2⟩
    else none

theorem readPlainly_reads : ReadsDecimals readPlainly where
  plain := by
    intro number
    unfold readPlainly
    rw [Decimal.numeralParts_render]
    exact dif_pos ⟨number.mantissa_lt, number.scale_le⟩
  isExact := by
    intro text number read _ _
    unfold readPlainly at read
    obtain ⟨parts, isNumeral, read⟩ := Option.bind_eq_some_iff.mp read
    split at read
    · cases read
      rw [numeralValue, isNumeral]
      rfl
    · cases read

end DecimalNumbers
