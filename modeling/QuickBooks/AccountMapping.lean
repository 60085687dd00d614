import QuickBooks.FirstFreeNumbers
import QuickBooks.ImportPipeline

/-!
# Mapping the QuickBooks chart

Every account of the replica gets a number of the ledger's chart: the number it
already carries when the seed chart has it, a fixed number by its type or name,
the next bank or card number, or else a number from the unmapped slot of its
band.  One set of used numbers threads through every assignment.
-/

namespace QuickBooks

/-- What the mapping reads of an account of the replica. -/
structure ParsedAccount where
  qboId : String
  name : String
  acctNum : Option String
  accountType : Option String
  accountSubtype : Option String
  classification : Option String
deriving DecidableEq

namespace Classification

/-- The x990 slot for an unmapped account of this band. -/
def unmappedSlot : Classification → String
  | asset => "1990"
  | liability => "2990"
  | equity => "3990"
  | income => "4990"
  | cogs => "5990"
  | expense => "6990"

end Classification

namespace AccountMapping

/-- The number a base names, 0 for text that is no number. -/
def parseNumber (base : String) : ℕ :=
  if base.toList ≠ [] ∧ base.toList.all Char.isDigit then
    Nat.ofDigitChars 10 base.toList 0
  else 0

/-- The lowercase form of a character, as far as it has ASCII letters: two
characters outside ASCII, the Kelvin sign and the dotted capital I, have some. -/
def lowerChar (c : Char) : List Char :=
  if c = '\u212a' then ['k']
  else if c = '\u0130' then ['i', '\u0307']
  else [c.toLower]

def toLowercase (s : String) : String :=
  String.ofList (s.toList.flatMap lowerChar)

def contains (haystack needle : String) : Bool :=
  needle.toList <:+: haystack.toList

def normalize (s : String) : String :=
  String.ofList ((s.toList.filter Char.isAlphanum).map Char.toLower)

def matchesKind (account : ParsedAccount) (needle : String) : Bool :=
  let hit := fun field : Option String => field.map normalize = some (normalize needle)
  hit account.accountType || hit account.accountSubtype

def nameContains (account : ParsedAccount) (needle : String) : Bool :=
  contains (toLowercase account.name) (toLowercase needle)

/-- The account's own number, when it is four digits that the seed chart has. -/
def acctNumSeedMatch (account : ParsedAccount) (seed : List AccountSeed) :
    Option AccountSeed :=
  account.acctNum.bind fun raw =>
    if raw.utf8ByteSize = 4 ∧ raw.toList.all Char.isDigit then
      seed.find? fun row => row.number = raw
    else none

def expenseKeywords : List (String × String) :=
  [("advertis", Chart.advertisingChannelFees), ("rent", Chart.rentUtilities),
    ("utilit", Chart.rentUtilities), ("insur", Chart.insurance),
    ("legal", Chart.professionalFees), ("profession", Chart.professionalFees),
    ("merchant", Chart.merchantFees), ("bankcharg", Chart.merchantFees),
    ("creditcardcharg", Chart.merchantFees), ("baddebt", Chart.badDebt),
    ("vehicle", Chart.vehicleFuel), ("auto", Chart.vehicleFuel),
    ("fuel", Chart.vehicleFuel), ("suppl", Chart.shopSupplies),
    ("offic", Chart.shopSupplies), ("packag", Chart.shopSupplies)]

/-- Expense accounts only: a keyword in an account of another type would be a
coincidence. -/
def expenseKeywordMatch (account : ParsedAccount) : Option String :=
  if !(matchesKind account "Expense" || matchesKind account "OtherExpense") then none
  else
    let haystack :=
      toLowercase (account.accountSubtype.getD "" ++ " " ++ account.name)
    (expenseKeywords.find? fun row => contains haystack row.1).map Prod.snd

/-- The single-slot rules, in the order that settles the ambiguous cases. -/
def resolveFixed (account : ParsedAccount) : Option (String × Classification) :=
  if matchesKind account "AccountsReceivable" then
    some (Chart.accountsReceivable, .asset)
  else if matchesKind account "UndepositedFunds" then
    some (Chart.undepositedFunds, .asset)
  else if matchesKind account "AccountsPayable" then
    some (Chart.accountsPayable, .liability)
  else if matchesKind account "SalesTaxPayable" || nameContains account "sales tax" then
    some (Chart.salesTaxPayable, .liability)
  else if matchesKind account "Inventory" then
    if nameContains account "raw" then some (Chart.inventoryRaw, .asset)
    else some (Chart.inventoryFinished, .asset)
  else if (matchesKind account "CostOfGoodsSold" || matchesKind account "Expense" ||
        matchesKind account "OtherExpense") &&
      (nameContains account "shrinkage" || nameContains account "inventory adjustment") then
    some (Chart.inventoryAdjustment, .cogs)
  else if matchesKind account "CostOfGoodsSold" then
    some (Chart.cogs, .cogs)
  else if matchesKind account "ShippingIncome" || nameContains account "shipping" then
    some (Chart.shippingIncome, .income)
  else if matchesKind account "Income" || matchesKind account "SalesOfProductIncome" then
    some (Chart.salesIncome, .income)
  else if matchesKind account "DiscountsRefundsGiven" then
    some (Chart.discountsGiven, .income)
  else if matchesKind account "OtherIncome" then
    some (Chart.otherIncome, .income)
  else if matchesKind account "OpeningBalanceEquity" then
    some (Chart.openingBalanceEquity, .equity)
  else if matchesKind account "RetainedEarnings" then
    some (Chart.retainedEarnings, .equity)
  else if matchesKind account "OwnersEquity" || matchesKind account "Equity" then
    some (Chart.ownerCapital, .equity)
  else (expenseKeywordMatch account).map fun number => (number, .expense)

/-- The band of an account that no specific rule matched, by its type and else
by the classification it names; without either it is an expense. -/
def inferClassification (account : ParsedAccount) : Classification :=
  if matchesKind account "CostOfGoodsSold" then .cogs
  else if matchesKind account "Expense" || matchesKind account "OtherExpense" then .expense
  else if matchesKind account "Income" || matchesKind account "OtherIncome" then .income
  else if matchesKind account "Equity" then .equity
  else if matchesKind account "AccountsPayable" || matchesKind account "CreditCard" ||
      matchesKind account "OtherCurrentLiability" ||
      matchesKind account "LongTermLiability" then .liability
  else if matchesKind account "Bank" || matchesKind account "AccountsReceivable" ||
      matchesKind account "OtherCurrentAsset" || matchesKind account "FixedAsset" ||
      matchesKind account "OtherAsset" then .asset
  else
    match account.classification.map normalize with
    | some "asset" => .asset
    | some "liability" => .liability
    | some "equity" => .equity
    | some "revenue" | some "income" => .income
    | _ => .expense

def nextAvailable (base : String) (used : List String) : AccountId × List String :=
  let candidate := toString (FirstFreeNumbers.firstFree toString used (parseNumber base))
  (⟨candidate⟩, used ++ [candidate])

/-- The numbers used so far and the accounts mapped so far. -/
structure Numbering where
  used : List String
  mapped : List MappedAccount

/-- A request for a number: the account and what it is to be mapped to. -/
structure Placement where
  account : ParsedAccount
  base : String
  classification : Classification
  needsMapping : Bool

def Numbering.assign (numbering : Numbering) (placement : Placement) : Numbering :=
  let assigned := nextAvailable placement.base numbering.used
  { used := assigned.2
    mapped := numbering.mapped ++
      [{ sourceRef := placement.account.qboId
         ledgerNumber := assigned.1
         name := placement.account.name
         classification := placement.classification
         needsMapping := placement.needsMapping }] }

/-- What the first pass does with an account: number it, or leave it to the
bank or the card sequence. -/
inductive NumberingRule where
  | place (base : String) (classification : Classification) (needsMapping : Bool)
  | bank
  | card

def numberingRule (account : ParsedAccount) : NumberingRule :=
  match acctNumSeedMatch account Chart.seedChart with
  | some seeded => .place seeded.number seeded.classification false
  | none =>
    if matchesKind account "Bank" then .bank
    else if matchesKind account "CreditCard" then .card
    else
      match resolveFixed account with
      | some (number, classification) => .place number classification false
      | none =>
        let classification := inferClassification account
        .place classification.unmappedSlot classification true

structure FirstPass where
  numbering : Numbering
  bankPending : List ParsedAccount
  cardPending : List ParsedAccount

def FirstPass.step (pass : FirstPass) (account : ParsedAccount) : FirstPass :=
  match numberingRule account with
  | .place base classification needsMapping =>
    { pass with
      numbering := pass.numbering.assign ⟨account, base, classification, needsMapping⟩ }
  | .bank => { pass with bankPending := pass.bankPending ++ [account] }
  | .card => { pass with cardPending := pass.cardPending ++ [account] }

def sortKey (account : ParsedAccount) : String × String :=
  (account.acctNum.getD "", account.qboId)

def sortsBefore (first second : ParsedAccount) : Prop :=
  (sortKey first).1 < (sortKey second).1 ∨
    (sortKey first).1 = (sortKey second).1 ∧ (sortKey first).2 ≤ (sortKey second).2

instance : DecidableRel sortsBefore := fun first second =>
  inferInstanceAs (Decidable ((sortKey first).1 < (sortKey second).1 ∨
    (sortKey first).1 = (sortKey second).1 ∧ (sortKey first).2 ≤ (sortKey second).2))

def bankPlacement (account : ParsedAccount) : Placement :=
  ⟨account, Chart.checking, .asset, false⟩

def cardPlacement (account : ParsedAccount) : Placement :=
  ⟨account, Chart.creditCard, .liability, false⟩

/-- Map every account of the replica onto the chart: in the order of their ids,
then the banks and the cards in the order of their own numbers. -/
def mapAccounts (replicaAccounts : List ParsedAccount) : List MappedAccount :=
  let ordered := replicaAccounts.insertionSort fun first second =>
    first.qboId ≤ second.qboId
  let pass := ordered.foldl FirstPass.step ⟨⟨[], []⟩, [], []⟩
  let banked := (pass.bankPending.insertionSort sortsBefore).foldl
    (fun numbering account => numbering.assign (bankPlacement account)) pass.numbering
  let carded := (pass.cardPending.insertionSort sortsBefore).foldl
    (fun numbering account => numbering.assign (cardPlacement account)) banked
  carded.mapped

end AccountMapping

end QuickBooks
