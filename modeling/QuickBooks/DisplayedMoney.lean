import QuickBooks.BooksCorrections
import QuickBooks.DecimalTexts

/-!
# Amounts as they are shown
-/

namespace QuickBooks

open DecimalNumbers

namespace Money

theorem render_toDecimal (money : Money) : money.toDecimal.render = money.display := by
  have mantissaEq : money.toDecimal.mantissa = money.minor := rfl
  have scaleEq : money.toDecimal.scale = 2 := rfl
  simp [Decimal.render, Money.display, Date.padded, mantissaEq, scaleEq, String.append_assoc]

theorem mem_display {money : Money} {char : Char} (charMem : char ∈ money.display.toList) :
    char.isDigit = true ∨ char = '-' ∨ char = '.' := by
  rw [← render_toDecimal] at charMem
  exact Decimal.mem_render charMem

end Money

end QuickBooks
