import SnippetReview.Text.Utf8

/-!
# Characters in rows and cells

Large character sets number their characters by row and cell. Tables list the characters of a row
from the first cell on, with the replacement character in cells that are empty; rows that are
empty are left out. Rows are numbered from one in the tables; where rows and cells are looked up,
both are counted from zero.
-/

namespace SnippetReview

/-- Characters in rows of cells. -/
abbrev CharGrid := Array (Array Char)

namespace CharGrid

/-- The number of rows that there is room for. -/
def maxRows : Nat := 128

/-- The grid with the given rows, each told as its number and its characters in pieces. -/
def ofRows (rows : List (Nat × List String)) : CharGrid :=
  rows.foldl
    (fun grid row => grid.setIfInBounds (row.1 - 1) (row.2.flatMap String.toList).toArray)
    (Array.replicate maxRows #[])

/-- The character in a cell of a row. -/
def char? (grid : CharGrid) (row cell : Nat) : Option Char :=
  (grid[row]?.bind fun cells => cells[cell]?).filter (· != Utf8.replacement)

/-- All characters of a grid, row by row. -/
def chars (grid : CharGrid) : List Char :=
  grid.toList.flatMap fun row => row.toList.filter (· != Utf8.replacement)

end CharGrid

/-! ## Places -/

/-- The place of a number among the numbers of several ranges, counted from zero. -/
def placeIn? : List (Nat × Nat) → Nat → Option Nat
  | [], _ => none
  | (first, last) :: ranges, n =>
    if first ≤ n ∧ n ≤ last then some (n - first)
    else (placeIn? ranges n).map (· + (last + 1 - first))

/-- The bytes of seven bits that stand for the 94 rows and the 94 cells of a set. -/
def leftBytes : List (Nat × Nat) := [(0x21, 0x7E)]

/-- The bytes of eight bits that stand for the 94 rows and the 94 cells of a set. -/
def rightBytes : List (Nat × Nat) := [(0xA1, 0xFE)]

/-- The character of two bytes, where the first has its place among the rows and the second among
the cells. -/
def CharGrid.charOf? (grid : CharGrid) (leads trails : List (Nat × Nat)) (a b : Nat) :
    Option Char := do
  grid.char? (← placeIn? leads a) (← placeIn? trails b)

/-! ## Runs -/

/-- Characters at a few places: the first byte, the second byte of the first character, and the
characters in the order of the second bytes. -/
abbrev CharRuns := List (Nat × Nat × String)

/-- The character of two bytes. -/
def CharRuns.char? (runs : CharRuns) (a b : Nat) : Option Char :=
  runs.findSome? fun (lead, first, chars) =>
    if lead = a ∧ first ≤ b then (chars.toList[b - first]?).filter (· != Utf8.replacement)
    else none

/-- The characters of a range of code points that are not among the given ones, in order. -/
def charsBesides (first last : Nat) (present : List Char) : Array Char :=
  let mark (marks : Array Bool) (c : Char) : Array Bool :=
    if first ≤ c.toNat then marks.setIfInBounds (c.toNat - first) true else marks
  let marks := present.foldl mark (Array.replicate (last + 1 - first) false)
  let char? (i : Nat) : Option Char :=
    if marks[i]? = some false ∧ (first + i).isValidChar then some (Char.ofNat (first + i)) else none
  ((List.range marks.size).filterMap char?).toArray

end SnippetReview
