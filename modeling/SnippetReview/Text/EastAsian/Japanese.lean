import SnippetReview.Text.Decoding
import SnippetReview.Text.EastAsian.JisX0208
import SnippetReview.Text.EastAsian.JisX0212
import SnippetReview.Text.EastAsian.JisX0213
import SnippetReview.Text.EastAsian.MicrosoftKanji

/-!
# Japanese character sets

Shift JIS folds two rows of a set into one first byte; EUC has a byte of eight bits for the row and
one for the cell, and marks bytes for other sets with a byte before them. Both have half-width
katakana. There are forms of both for JIS X 0208 and for JIS X 0213.
-/

namespace SnippetReview

namespace Jis

open Decoder

/-! ## The sets -/

/-- The two editions of JIS X 0213. -/
inductive Edition
  | of2000
  | of2004
  deriving DecidableEq

/-- The two characters that stand together in a place of plane 1, if there are two. -/
def pairAt? (row cell : Nat) : Option Text :=
  x0213Pairs.findSome? fun (a, b, texts) =>
    if a = row + 0x21 ∧ b ≤ cell + 0x21 then (texts[cell + 0x21 - b]?).map String.toList else none

/-- The characters in a place of plane 1 of JIS X 0213. -/
def firstPlane? (edition : Edition) (row cell : Nat) : Option Text :=
  if edition = .of2000 ∧ (x0213New.char? (row + 0x21) (cell + 0x21)).isSome then none
  else
    match pairAt? row cell with
    | some text => some text
    | none => ((x0208.char? row cell).or (x0213First.char? row cell)).map fun c => [c]

/-- The character in a place of plane 2 of JIS X 0213. One is another one in the edition of
2000. -/
def secondPlane? (edition : Edition) (row cell : Nat) : Option Char :=
  if edition = .of2000 ∧ row = 92 ∧ cell = 26 then some '鬝' else x0213Second.char? row cell

/-- The half-width katakana of a byte of eight bits. -/
def halfKatakana? (b : Nat) : Option Char :=
  if 0xA1 ≤ b ∧ b ≤ 0xDF then some (Char.ofNat (0xFEC0 + b)) else none

/-- The Roman characters of JIS X 0201: ASCII with a yen sign and an overline. -/
def romanChar (b : Nat) : Char :=
  if b = 0x5C then '¥' else if b = 0x7E then '‾' else Char.ofNat b

/-! ## Shift JIS -/

/-- The first bytes of a character of two bytes. -/
def shiftLeads : List (Nat × Nat) := [(0x81, 0x9F), (0xE0, 0xFC)]

/-- The second bytes of a character of two bytes. -/
def shiftTrails : List (Nat × Nat) := [(0x40, 0x7E), (0x80, 0xFC)]

/-- The row and the cell of two bytes. -/
def shiftPlace? (a b : Nat) : Option (Nat × Nat) := do
  let lead ← placeIn? shiftLeads a
  let trail ← placeIn? shiftTrails b
  some (2 * lead + trail / 94, trail % 94)

/-- Reads half-width katakana of one byte, and other bytes as told. -/
def orHalfKatakana (read : Read) : Read := fun b rest =>
  match halfKatakana? b.toNat with
  | some c => some ([c], 0)
  | none => read b rest

/-- Shift JIS. -/
def shift : Decoder :=
  ofRead (Read.orAscii (orHalfKatakana (Read.pair fun a b => do
    let (row, cell) ← shiftPlace? a b
    x0208.char? row cell)))

/-- The first code point for private use. -/
def privateUse : Nat := 0xE000

/-- The private characters of code page 932, which stand in the rows of the first bytes 0xF0 to
0xF9. -/
def microsoftPrivate? (a b : Nat) : Option Char := do
  let lead ← placeIn? [(0xF0, 0xF9)] a
  let trail ← placeIn? shiftTrails b
  some (Char.ofNat (privateUse + 188 * lead + trail))

/-- The characters of one byte that code page 932 has besides. -/
def microsoftSingle? (b : Nat) : Option Char :=
  if b = 0x80 then some '\u0080'
  else (placeIn? [(0xA0, 0xA0), (0xFD, 0xFF)] b).map fun i => Char.ofNat (0xF8F0 + i)

/-- The character of two bytes in code page 932. -/
def microsoftPair? (a b : Nat) : Option Char :=
  match microsoftSigns.char? a b, shiftPlace? a b with
  | some c, _ => some c
  | none, some (row, cell) =>
    ((microsoftRows.char? row cell).or (x0208.char? row cell)).or (microsoftPrivate? a b)
  | none, none => none

/-- Code page 932. -/
def shiftMicrosoft : Decoder :=
  ofRead (Read.orAscii (orHalfKatakana fun b rest =>
    match microsoftSingle? b.toNat with
    | some c => some ([c], 0)
    | none => Read.pair microsoftPair? b rest))

/-- The rows of plane 2 that Shift JIS has, in its order. -/
def shiftSecondRows : List Nat :=
  [0, 7, 2, 3, 4, 11, 12, 13, 14] ++ (List.range 17).map (· + 77)

/-- The characters of two bytes in Shift JIS for JIS X 0213. The backslash and the tilde, whose
bytes stand for other characters, have two bytes. -/
def shiftX0213Pair? (edition : Edition) (a b : Nat) : Option Text := do
  let (row, cell) ← shiftPlace? a b
  if row = 0 ∧ cell = 31 then some ['\\']
  else if row = 1 ∧ cell = 17 then some ['~']
  else if row < 94 then firstPlane? edition row cell
  else
    let second ← shiftSecondRows[row - 94]?
    (secondPlane? edition second cell).map fun c => [c]

/-- Shift JIS for JIS X 0213. -/
def shiftX0213 (edition : Edition) : Decoder :=
  ofRead fun b rest =>
    if b < 0x80 then some ([romanChar b.toNat], 0)
    else orHalfKatakana (Read.textPair (shiftX0213Pair? edition)) b rest

/-! ## EUC -/

/-- The byte before half-width katakana. -/
def katakanaMark : UInt8 := 0x8E

/-- The byte before the bytes of the second set. -/
def secondMark : UInt8 := 0x8F

/-- Reads EUC with two sets of rows and cells. -/
def extended (first : Nat → Nat → Option Text) (second : Nat → Nat → Option Char) : Decoder :=
  let place? (a b : Nat) : Option (Nat × Nat) := do
    some (← placeIn? rightBytes a, ← placeIn? rightBytes b)
  ofRead (Read.orAscii fun b rest =>
    if b = katakanaMark then
      match rest with
      | k :: _ => (halfKatakana? k.toNat).map fun c => ([c], 1)
      | [] => none
    else if b = secondMark then
      match rest with
      | a :: c :: _ => do
        let (row, cell) ← place? a.toNat c.toNat
        (second row cell).map fun c => ([c], 2)
      | _ => none
    else
      Read.textPair (fun a c => do
        let (row, cell) ← place? a c
        first row cell) b rest)

/-- EUC for JIS X 0208 and JIS X 0212. -/
def extendedX0208 : Decoder :=
  extended (fun row cell => (x0208.char? row cell).map fun c => [c]) x0212.char?

/-- The character in a place of the second set of EUC for JIS X 0213, which holds JIS X 0212
too. -/
def extendedSecond? (edition : Edition) (row cell : Nat) : Option Char :=
  (secondPlane? edition row cell).or (x0212.char? row cell)

/-- EUC for JIS X 0213. -/
def extendedX0213 (edition : Edition) : Decoder :=
  extended (firstPlane? edition) (extendedSecond? edition)

end Jis

end SnippetReview
