/-!
# Text fields and JSON values

The payloads of the replica are JSON values.  A number is kept as the reader
left it: an integer, or a floating number under the shortest text that reads
back as it.
-/

namespace QuickBooks

/-- White space as the trimming of text knows it. -/
def isWhiteSpace (char : Char) : Bool :=
  let code := char.toNat
  (decide (0x9 ≤ code) && decide (code ≤ 0xD)) || code == 0x20 || code == 0x85 ||
    code == 0xA0 || code == 0x1680 || (decide (0x2000 ≤ code) && decide (code ≤ 0x200A)) ||
    code == 0x2028 || code == 0x2029 || code == 0x202F || code == 0x205F || code == 0x3000

def trimmed (text : String) : String :=
  let front := text.toList.dropWhile isWhiteSpace
  String.ofList ((front.reverse.dropWhile isWhiteSpace).reverse)

/-- A number of a payload. -/
inductive JsonNumber where
  | integer (value : Int)
  | float (shortest : String) (belowExactBound : Bool)
deriving DecidableEq

namespace JsonNumber

def text : JsonNumber → String
  | integer value => toString value
  | float shortest _ => shortest

end JsonNumber

inductive Json where
  | null
  | bool (value : Bool)
  | number (value : JsonNumber)
  | string (value : String)
  | array (items : List Json)
  | object (fields : List (String × Json))

namespace Json

def get? (value : Json) (key : String) : Option Json :=
  match value with
  | object fields => fields.lookup key
  | _ => none

def asArray : Json → Option (List Json)
  | array items => some items
  | _ => none

def asObject : Json → Option (List (String × Json))
  | object fields => some fields
  | _ => none

def asBool : Json → Option Bool
  | bool value => some value
  | _ => none

def isNull : Json → Bool
  | null => true
  | _ => false

end Json

end QuickBooks
