import QuickBooks.TextFields
import Mathlib.Algebra.GroupWithZero.Nat
import Mathlib.Data.Rat.Defs

/-!
# The pages of a document

A page is a list of drawing operations in the order in which they are drawn, with the
rectangles that open a link and the images that are drawn.
-/

/-!
## Texts on a printed page

A text is printed in one of three faces, in an encoding of one byte for each character:
control characters are spaces and what the encoding lacks are question marks.  The widths
of the bytes decide where a line is broken.
-/

namespace QuickBooks

namespace Pdf

inductive Font where
  | regular
  | bold
  | oblique
deriving DecidableEq

/-- Advance widths of the characters 32 to 126, in thousandths of the size. -/
def helvetica : List ℕ :=
  [278, 278, 355, 556, 556, 889, 667, 191, 333, 333, 389, 584, 278, 333, 278, 278, 556, 556, 556,
   556, 556, 556, 556, 556, 556, 556, 278, 278, 584, 584, 584, 556, 1015, 667, 667, 722, 722,
   667, 611, 778, 722, 278, 500, 667, 556, 833, 722, 778, 667, 778, 722, 667, 611, 722, 667,
   944, 667, 667, 611, 278, 278, 278, 469, 556, 333, 556, 556, 500, 556, 556, 278, 556, 556,
   222, 222, 500, 222, 833, 556, 556, 556, 556, 333, 500, 278, 556, 500, 722, 500, 500, 500,
   334, 260, 334, 584]

def helveticaBold : List ℕ :=
  [278, 333, 474, 556, 556, 889, 722, 238, 333, 333, 389, 584, 278, 333, 278, 278, 556, 556, 556,
   556, 556, 556, 556, 556, 556, 556, 333, 333, 584, 584, 584, 611, 975, 722, 722, 722, 722,
   667, 611, 778, 722, 278, 556, 722, 611, 833, 722, 778, 667, 778, 722, 667, 611, 722, 667,
   944, 667, 667, 611, 333, 278, 333, 584, 556, 333, 556, 611, 556, 611, 556, 333, 611, 611,
   278, 278, 556, 278, 889, 611, 611, 611, 611, 389, 556, 333, 611, 556, 778, 556, 556, 500,
   389, 280, 389, 584]

/-- The byte of a character, where the encoding has such a glyph. -/
def winAnsi (c : Char) : Option UInt8 :=
  if (32 ≤ c.toNat ∧ c.toNat ≤ 126) ∨ (0xA0 ≤ c.toNat ∧ c.toNat ≤ 0xFF) then
    some (UInt8.ofNat c.toNat)
  else
    match c with
    | '€' => some 0x80
    | '‚' => some 0x82
    | '„' => some 0x84
    | '…' => some 0x85
    | '‘' => some 0x91
    | '’' => some 0x92
    | '“' => some 0x93
    | '”' => some 0x94
    | '•' => some 0x95
    | '–' => some 0x96
    | '—' => some 0x97
    | '™' => some 0x99
    | _ => none

def isControl (c : Char) : Bool :=
  c.toNat < 32 || (127 ≤ c.toNat && c.toNat ≤ 159)

def encodeChar (c : Char) : UInt8 :=
  if isControl c then 32 else (winAnsi c).getD 63

def encode (text : List Char) : List UInt8 :=
  text.map encodeChar

def byteWidth (font : Font) (byte : UInt8) : ℕ :=
  let table := match font with
    | .bold => helveticaBold
    | .regular | .oblique => helvetica
  if 32 ≤ byte ∧ byte ≤ 126 then table.getD (byte.toNat - 32) 0
  else if byte = 0x95 then 350
  else if byte = 0x97 ∨ byte = 0x85 ∨ byte = 0x99 then 1000
  else if byte = 0x80 ∨ byte = 0x96 then 556
  else if byte = 0x91 ∨ byte = 0x92 ∨ byte = 0x82 then 222
  else if byte = 0x93 ∨ byte = 0x94 ∨ byte = 0x84 then 333
  else 556

def textWidth (font : Font) (size : ℚ) (text : List Char) : ℚ :=
  ((encode text).map (byteWidth font)).sum * size / 1000

/-! ### Wrapping -/

def splitWhitespace (text : List Char) : List (List Char) :=
  (text.splitOnP isWhiteSpace).filter fun word => word ≠ []

/-- The lines that are done and the one that grows. -/
structure Wrapping where
  out : List (List Char)
  line : List Char

namespace Wrapping

variable (font : Font) (size maxWidth : ℚ)

/-- A character of a word that no line holds goes to a new line when the line with it is too
wide. -/
def addChar (wrapping : Wrapping) (c : Char) : Wrapping :=
  let line := wrapping.line ++ [c]
  if maxWidth < textWidth font size line ∧ 1 < line.length then
    ⟨wrapping.out ++ [wrapping.line], [c]⟩
  else ⟨wrapping.out, line⟩

def addWord (wrapping : Wrapping) (word : List Char) : Wrapping :=
  let candidate := if wrapping.line = [] then word else wrapping.line ++ ' ' :: word
  if textWidth font size candidate ≤ maxWidth then ⟨wrapping.out, candidate⟩
  else
    let out := if wrapping.line = [] then wrapping.out else wrapping.out ++ [wrapping.line]
    word.foldl (addChar font size maxWidth) ⟨out, []⟩

def addParagraph (out : List (List Char)) (paragraph : List Char) : List (List Char) :=
  let wrapping := (splitWhitespace paragraph).foldl (addWord font size maxWidth) ⟨out, []⟩
  wrapping.out ++ [wrapping.line]

end Wrapping

def wrap (font : Font) (size : ℚ) (text : List Char) (maxWidth : ℚ) : List (List Char) :=
  (text.splitOn '\n').foldl (Wrapping.addParagraph font size maxWidth) []

example : (wrap .regular 10 "one two three four".toList 40).map String.ofList =
    ["one two", "three", "four"] := by
  decide +kernel

end Pdf

end QuickBooks

namespace QuickBooks

namespace Pdf

variable {ν : Type}

structure Color (ν : Type) where
  red : ν
  green : ν
  blue : ν

/-- The matrix that a text is placed with, its last two numbers the point it starts at. -/
structure TextMatrix (ν : Type) where
  a : ν
  b : ν
  c : ν
  d : ν
  x : ν
  y : ν

inductive Op (ν : Type) where
  | text (place : TextMatrix ν) (font : Font) (size : ν) (color : Color ν) (text : List Char)
  | line (x1 y1 x2 y2 width : ν) (color : Color ν)
  | rectFill (x y w h : ν) (color : Color ν)
  | rectStroke (x y w h width : ν) (color : Color ν)
  | image (index : ℕ) (x y w h : ν)

structure Link (ν : Type) where
  x0 : ν
  y0 : ν
  x1 : ν
  y1 : ν
  uri : String

/-! ### Operations in points -/

def Color.black : Color ℚ :=
  ⟨0, 0, 0⟩

def Color.hex (rgb : ℕ) : Color ℚ :=
  ⟨((rgb / 65536 % 256 : ℕ) : ℚ) / 255, ((rgb / 256 % 256 : ℕ) : ℚ) / 255,
    ((rgb % 256 : ℕ) : ℚ) / 255⟩

namespace Op

def textAt (x y : ℚ) (font : Font) (size : ℚ) (color : Color ℚ) (text : List Char) : Op ℚ :=
  .text ⟨1, 0, 0, 1, x, y⟩ font size color text

def textRight (right y : ℚ) (font : Font) (size : ℚ) (color : Color ℚ) (text : List Char) : Op ℚ :=
  textAt (right - textWidth font size text) y font size color text

def textCenter (center y : ℚ) (font : Font) (size : ℚ) (color : Color ℚ) (text : List Char) :
    Op ℚ :=
  textAt (center - textWidth font size text / 2) y font size color text

/-- A text at an angle whose sine and cosine are given, its middle on a point. -/
def textRotated (sinCos : ℚ × ℚ) (center : ℚ × ℚ) (font : Font) (size : ℚ) (color : Color ℚ)
    (text : List Char) : Op ℚ :=
  let (sin, cos) := sinCos
  let dx := textWidth font size text / 2
  let dy := size * (35 / 100)
  .text ⟨cos, sin, -sin, cos, center.1 - dx * cos + dy * sin, center.2 - dx * sin - dy * cos⟩
    font size color text

end Op

end Pdf

end QuickBooks
