import QuickBooks.TextFields

/-!
# Texts that trimming leaves alone
-/

namespace QuickBooks

theorem trimmed_eq_self {text : String}
    (noSpace : ∀ char ∈ text.toList, isWhiteSpace char = false) : trimmed text = text := by
  have kept : ∀ chars : List Char, (∀ char ∈ chars, isWhiteSpace char = false) →
      chars.dropWhile isWhiteSpace = chars := by
    intro chars none
    cases chars with
    | nil => rfl
    | cons first rest => rw [List.dropWhile_cons_of_neg (by simp [none first (by simp)])]
  apply String.toList_injective
  unfold trimmed
  rw [String.toList_ofList, kept _ noSpace, kept, List.reverse_reverse]
  intro char charMem
  exact noSpace char (List.mem_reverse.mp charMem)

theorem isWhiteSpace_of_isDigit {char : Char} (isDigit : char.isDigit = true) :
    isWhiteSpace char = false := by
  have bounds : 48 ≤ char.toNat ∧ char.toNat ≤ 57 := by
    simpa [Char.isDigit, UInt32.le_iff_toNat_le] using isDigit
  unfold isWhiteSpace
  simp
  omega

end QuickBooks
