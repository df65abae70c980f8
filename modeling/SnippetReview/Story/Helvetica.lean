import SnippetReview.Text.Blank

/-!
# Widths of words in Helvetica

The texts of tables are set in Helvetica. The width of a character is told in thousandths of the
size of the type, so that the width of a word is the sum of those of its characters.
-/

namespace SnippetReview

namespace Helvetica

/-- The widths of the characters from the space to the tilde. -/
def widths : List Nat :=
  [278, 278, 355, 556, 556, 889, 667, 191, 333, 333, 389, 584, 278, 333, 278, 278, 556, 556, 556,
   556, 556, 556, 556, 556, 556, 556, 278, 278, 584, 584, 584, 556, 1015, 667, 667, 722, 722,
   667, 611, 778, 722, 278, 500, 667, 556, 833, 722, 778, 667, 778, 722, 667, 611, 722, 667, 944,
   667, 667, 611, 278, 278, 278, 469, 556, 333, 556, 556, 500, 556, 556, 278, 556, 556, 222, 222,
   500, 222, 833, 556, 556, 556, 556, 333, 500, 278, 556, 500, 722, 500, 500, 500, 334, 260, 334,
   584]

/-- The width of a digit, which stands for that of every character without an entry of its own. -/
def digitWidth : Nat := 556

/-- The width of a character. -/
def charWidth (c : Char) : Nat := (widths[c.toNat - 32]?).getD digitWidth

/-- The width of a space. -/
def spaceWidth : Nat := charWidth ' '

/-- The width of a word. -/
def wordWidth (word : Text) : Nat := word.foldl (fun width c => width + charWidth c) 0

/-- The widths of the words of a text. -/
def wordWidths (s : Text) : List Nat :=
  let runs := s.splitBy fun a b => isBlank a == isBlank b
  (runs.filter fun run => !run.all isBlank).map wordWidth

end Helvetica

end SnippetReview
