import SnippetReview.Story
import SnippetReview.Story.Helvetica

/-!
# Whether a story can be set on pages

Everything in a story but a table row can go on over the end of a page. A row of a table has to
stand on one page below the heading row, so a story can be set exactly if every row is low enough
for that. The height of a row is that of its highest cell, and a cell is as high as the lines that
its words fill.

Lengths are told in parts of which a point has 127 and a millimetre 360, so that both are whole
numbers of parts.
-/

namespace SnippetReview

namespace Story

/-! ## Lengths -/

/-- The length of a point. -/
def point : Nat := 127

/-- The length of a millimetre. -/
def millimetre : Nat := 360

/-- The height of the part of a page that is written on: a sheet of 297 millimetres without margins
of 14 millimetres and of six points above and below. -/
def pageHeight : Nat := (297 - 2 * 14) * millimetre - 2 * 6 * point

/-- The size of the type in a cell, in points. -/
def cellSize : Nat := 9

/-- The height of a line in a cell. -/
def lineHeight : Nat := 11 * point

/-- The space at two opposite sides of a cell together. -/
def padding : Nat := 2 * 6 * point

/-! ## Lines

Words and lines are measured in thousandths of a part.
-/

/-- The length of text in a cell that is as wide as told in thousandths of the size of the type. -/
def textLength (width : Nat) : Nat := width * (cellSize * point)

/-- The length of a line in a column of the given width in millimetres. -/
def lineLength (column : Nat) : Nat := (column * millimetre - padding) * 1000

/-- The length of a space. -/
def spaceLength : Nat := textLength Helvetica.spaceWidth

/-- The number of spaces on a line that give way by the length of one together, when they are
pressed together. -/
def spacesPerGain : Nat := 20

/-- Whether words and spaces of the given length together stand on a line, where `spaces` tells
how many spaces there are among them. -/
def staysOnLine (limit spaces length : Nat) : Bool :=
  spacesPerGain * length ≤ spacesPerGain * limit + spaces * spaceLength

/-- The number of lines that words of the given lengths fill, where `lines` lines have been begun,
of which the last has `words` words on it and is filled up to `used`. -/
def linesFrom (limit lines words used : Nat) : List Nat → Nat
  | [] => lines
  | w :: ws =>
    let filled := used + spaceLength + w
    if staysOnLine limit words filled then linesFrom limit lines (words + 1) filled ws
    else linesFrom limit (lines + 1) 1 w ws

/-- The number of lines that words of the given lengths fill. Words are put on a line as long as
they stand on it together with the spaces between them. -/
def lineCount (limit : Nat) : List Nat → Nat
  | [] => 0
  | w :: ws => linesFrom limit 1 1 w ws

/-! ## Rows -/

/-- The text of a piece of a cell. -/
def pieceText : Piece → Text
  | .markup s => s
  | .text s => s

/-- The height of a cell in a column of the given width in millimetres. -/
def cellHeight (cell : Paragraph) (column : Nat) : Nat :=
  let words := (Helvetica.wordWidths (cell.content.flatMap pieceText)).map textLength
  lineCount (lineLength column) words * lineHeight + padding

/-- The height of a row. -/
def rowHeight (columns : List Nat) (row : List Paragraph) : Nat :=
  (row.zipWith cellHeight columns).foldl max 0

/-- Whether a part of the story can be set on pages. -/
def Element.fits : Element → Bool
  | .table columns header rows =>
    rows.all fun row => rowHeight columns header + rowHeight columns row ≤ pageHeight
  | _ => true

/-- Whether the story can be set on pages. -/
def fits (s : Story) : Bool := s.elements.all Element.fits

end Story

end SnippetReview
