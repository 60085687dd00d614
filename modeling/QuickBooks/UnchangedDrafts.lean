import QuickBooks.TrimmedTexts
import QuickBooks.TypedMoney

/-!
# Documents through the editor

A mirrored document is loaded as a draft and the draft is written as a payload.  A
line without a quantity is loaded with one, a line without a rate with its amount as
the rate, and what is written is the rounded product.  The payload of a draft nobody
changed has the lines of the document where these defaults are inverse to the product.
-/

namespace QuickBooks

open CheckedIntegers DecimalNumbers ExceptPrograms

namespace Compose

variable {library : TextLibrary}

/-- One row of the stored lines; quantities and rates are texts. -/
structure LineRow where
  lineNo : Int
  itemId : Option String
  description : Option String
  qty : Option String
  unitPrice : Option String
  amount : Money
  classId : Option String
  isTaxable : Bool

def sentDetail (line : Json) : Json :=
  (Project.detailObject line (Project.text line "DetailType")).getD .null

/-- A line of a payload carries the item, the class, the amount and the taxability of a
stored one. -/
structure Carries (library : TextLibrary) (row : LineRow) (line : Json) : Prop where
  item : (sentDetail line).get? "ItemRef" = row.itemId.map reference
  classed : (sentDetail line).get? "ClassRef" = row.classId.map reference
  amount : line.get? "Amount" = some (money library row.amount)
  taxable : Project.isTaxable (sentDetail line) = row.isTaxable

variable {draft : DocumentDraft} {purchase : Bool} {line : DraftLine} {index : Nat} {json : Json}

variable {doc : ParsedDocument} {payload : Json}

def numberText : Json → Option String
  | .number number => some number.text
  | _ => none

def shown (read : Option Json × Option Json × Bool) : Option String × Bool × Bool :=
  (read.1.bind numberText, read.2.1.isSome, read.2.2)

end Compose

end QuickBooks
