import QuickBooks.MockQuickBooks

/-!
# Composing a document

What a person typed becomes the payload that the book of record accepts.  A
line's amount is computed here, once, and rounded half away from zero; a payload
for an update is sparse.
-/

namespace QuickBooks

open DecimalNumbers ExceptPrograms

namespace DocumentType

def asEntity : DocumentType → EntityType
  | estimate => .estimate
  | invoice => .invoice
  | salesReceipt => .salesReceipt
  | creditMemo => .creditMemo
  | refundReceipt => .refundReceipt
  | payment => .payment
  | purchaseOrder => .purchaseOrder
  | bill => .bill
  | billPayment => .billPayment
  | vendorCredit => .vendorCredit
  | purchase => .purchase
  | deposit => .deposit
  | journalEntry => .journalEntry
  | transfer => .transfer
  | creditCardPayment => .creditCardPayment
  | inventoryAdjustment => .inventoryAdjustment

def asStr (docType : DocumentType) : String :=
  docType.asEntity.asStr

end DocumentType

namespace Compose

/-- What the libraries make of texts: decimals, dates written `YYYY-MM-DD`, the
number that a text of digits is in a payload, and the quoted form. -/
structure TextLibrary where
  decimalFromStr : String → Option Decimal
  dateFromYmd : String → Option Date
  numberFromStr : String → JsonNumber
  quoted : String → String

structure DraftLine where
  itemId : Option String
  description : Option String
  qty : String
  rate : String
  classId : Option String
  taxable : Bool := false

structure DocumentDraft where
  docType : DocumentType
  contactId : String
  txnDate : String
  dueDate : Option String
  docNumber : Option String
  poNumber : Option String
  privateNote : Option String
  customerMemo : Option String
  classId : Option String
  lines : List DraftLine

inductive ComposeError where
  | invalid (message : String)
deriving DecidableEq

def editable : List DocumentType :=
  [.estimate, .invoice, .salesReceipt, .creditMemo, .purchaseOrder, .bill]

def isPurchase : DocumentType → Bool
  | .purchaseOrder | .bill => true
  | _ => false

def withoutCommas (text : String) : String :=
  String.ofList (text.toList.filter fun char => char ≠ ',')

variable (library : TextLibrary)

def decimal (raw what : String) : Except ComposeError Decimal :=
  orRefuse (.invalid (what ++ " " ++ library.quoted raw ++ " is not a number"))
    (library.decimalFromStr (withoutCommas (trimmed raw)))

def date (raw what : String) : Except ComposeError String :=
  (orRefuse (.invalid (what ++ " " ++ library.quoted raw ++ " is not a YYYY-MM-DD date"))
    (library.dateFromYmd raw)).map Date.render

/-- The same number without the zeros at its end. -/
def stripZeros : (scale : Nat) → scale ≤ 28 → (mantissa : Int) → mantissa.natAbs < 2 ^ 96 → Decimal
  | 0, fits, mantissa, bound => ⟨mantissa, 0, bound, fits⟩
  | scale + 1, fits, mantissa, bound =>
    if mantissa % 10 = 0 then
      stripZeros scale (Nat.le_of_succ_le fits) (mantissa / 10) (by omega)
    else ⟨mantissa, scale + 1, bound, fits⟩

def normalize (number : Decimal) : Decimal :=
  stripZeros number.scale number.scale_le number.mantissa number.mantissa_lt

def number (value : Decimal) : Json :=
  .number (library.numberFromStr (normalize value).render)

def money (value : Money) : Json :=
  number library value.toDecimal

/-- Quantity times rate, rounded half away from zero to the cent. -/
def lineAmount (qty rate : String) : Except ComposeError Money := do
  let quantity ← decimal library qty "quantity"
  let price ← decimal library rate "rate"
  let product ← orRefuse (.invalid "quantity × rate overflows") (quantity.mul? price)
  (roundMoney product .lineExtension).mapError fun failure => .invalid failure.message

def fieldIfAny (key : String) (value : Option Json) : List (String × Json) :=
  value.toList.map fun found => (key, found)

def reference (id : String) : Json :=
  .object [("value", .string id)]

def isBlank (text : String) : Bool :=
  trimmed text = ""

/-- One line of a payload, by its position counted from zero. -/
def lineJson (draft : DocumentDraft) (purchase : Bool) (line : DraftLine) (index : Nat) :
    Except ComposeError Json := do
  ensure (line.itemId.isSome || !isBlank (line.description.getD ""))
    (.invalid ("line " ++ toString (index + 1) ++ " needs a product or a description"))
  let amount ← lineAmount library line.qty line.rate
  let quantity ← decimal library line.qty "quantity"
  let price ← decimal library line.rate "rate"
  let detailType := if purchase then "ItemBasedExpenseLineDetail" else "SalesItemLineDetail"
  ensure (!(purchase && line.itemId.isNone))
    (.invalid ("line " ++ toString (index + 1) ++
      ": a purchase line needs a product, which carries its expense account"))
  let detail :=
    fieldIfAny "ItemRef" (line.itemId.map reference) ++
      [("Qty", number library quantity), ("UnitPrice", number library price)] ++
      fieldIfAny "ClassRef" ((line.classId.or draft.classId).map reference) ++
      (if purchase then [] else
        [("TaxCodeRef", reference (if line.taxable then "TAX" else "NON"))])
  return .object ([("LineNum", .number (.integer (index + 1))), ("DetailType", .string detailType),
      ("Amount", money library amount)] ++
    fieldIfAny "Description"
      ((line.description.filter fun found => !isBlank found).map Json.string) ++
    [(detailType, .object detail)])

/-- Build the payload of a draft.  The definition is that of the book's custom
field for purchase order numbers.  For an update the payload is sparse. -/
def toPayload (draft : DocumentDraft) (poDefinitionId : Option String) (update : Bool) :
    Except ComposeError Json := do
  ensure (editable.contains draft.docType)
    (.invalid (draft.docType.asStr ++ " is not editable here yet"))
  let purchase := isPurchase draft.docType
  ensure (!isBlank draft.contactId)
    (.invalid (if purchase then "choose a vendor" else "choose a customer"))
  ensure (!draft.lines.isEmpty) (.invalid "add at least one line")
  let lines ← draft.lines.zipIdx.mapM fun (line, index) =>
    lineJson library draft purchase line index
  let txnDate ← date library draft.txnDate "date"
  let dueDate ← (draft.dueDate.filter (· ≠ "")).mapM fun due => date library due "due date"
  let poNumber := draft.poNumber.filter fun found => !isBlank found
  ensure (!(purchase && poNumber.isSome))
    (.invalid "a customer PO belongs on the sales document, not the purchase")
  let customField ← poNumber.mapM fun po => do
    let definition ← orRefuse (.invalid ("this book has no P.O. Number custom field; " ++
      "leave the PO blank or add the field in QuickBooks")) poDefinitionId
    return Json.array [.object [("DefinitionId", .string definition),
      ("Name", .string "P.O. Number"), ("Type", .string "StringType"),
      ("StringValue", .string (trimmed po))]]
  return .object (
    fieldIfAny "sparse" (if update then some (.bool true) else none) ++
    [(if purchase then "VendorRef" else "CustomerRef", reference draft.contactId),
      ("TxnDate", .string txnDate)] ++
    fieldIfAny "DueDate" (dueDate.map Json.string) ++
    fieldIfAny "DocNumber"
      ((draft.docNumber.filter fun found => !isBlank found).map (Json.string ∘ trimmed)) ++
    fieldIfAny "ClassRef" (draft.classId.map reference) ++
    fieldIfAny "PrivateNote" (draft.privateNote.map Json.string) ++
    fieldIfAny (if purchase then "Memo" else "CustomerMemo")
      (draft.customerMemo.map (if purchase then Json.string else reference)) ++
    fieldIfAny "CustomField" customField ++
    [("Line", .array lines)])

variable {library} {draft : DocumentDraft} {poDefinitionId : Option String} {payload : Json}

theorem keys_fieldIfAny (key : String) (value : Option Json) :
    ((fieldIfAny key value).map Prod.fst).Sublist [key] := by
  cases value with
  | none => exact List.nil_sublist _
  | some found => exact List.Sublist.refl _

/-- The fields that a payload may have, in the order it has them. -/
def payloadFields (purchase : Bool) : List String :=
  ["sparse"] ++ [if purchase then "VendorRef" else "CustomerRef", "TxnDate"] ++ ["DueDate"] ++
    ["DocNumber"] ++ ["ClassRef"] ++ ["PrivateNote"] ++
    [if purchase then "Memo" else "CustomerMemo"] ++ ["CustomField"] ++ ["Line"]

theorem nodup_payloadFields (purchase : Bool) : (payloadFields purchase).Nodup := by
  cases purchase <;> decide

theorem toPayload_isSparse (built : toPayload library draft poDefinitionId true = .ok payload) :
    ∃ fields, payload = .object fields ∧ (fields.map Prod.fst).Nodup ∧
      fields.lookup "sparse" = some (.bool true) := by
  simp only [toPayload, bind_eq_ok_iff, pure_eq_ok_iff] at built
  obtain ⟨-, -, -, -, -, -, lines, -, txnDate, -, dueDate, -, -, -, customField, -, rfl⟩ := built
  refine ⟨_, rfl, List.Sublist.nodup ?_ (nodup_payloadFields (isPurchase draft.docType)), rfl⟩
  simp only [List.map_append, List.map_cons, List.map_nil, payloadFields]
  repeat' apply List.Sublist.append
  all_goals
    first
    | exact keys_fieldIfAny _ _
    | exact List.Sublist.refl _

end Compose

end QuickBooks
