import SnippetReview.Text.CharClass

/-!
# Blank characters and trimming

The blank characters are those that Unicode gives the property White_Space or one of the
bidirectional classes B, S and WS: besides the ASCII blanks also the four information
separators, the next-line control and the various spaces.
-/

namespace SnippetReview

/-- The code points of the blank characters. -/
def blankRanges : CodeRanges :=
  [(0x09, 0x0D), (0x1C, 0x20), (0x85, 0x85), (0xA0, 0xA0), (0x1680, 0x1680),
   (0x2000, 0x200A), (0x2028, 0x2029), (0x202F, 0x202F), (0x205F, 0x205F), (0x3000, 0x3000)]

/-- Whether a character is blank. -/
def isBlank (c : Char) : Bool := blankRanges.covers c.toNat

namespace Text

/-- The text without the blank characters at its start. -/
def trimStart (s : Text) : Text := s.dropWhile isBlank

/-- The text without the blank characters at its end. -/
def trimEnd (s : Text) : Text := (s.reverse.dropWhile isBlank).reverse

/-- The text without the blank characters at both ends. -/
def trim (s : Text) : Text := trimEnd (trimStart s)

/-- Whether the text has no character that is not blank. -/
def isBlankText (s : Text) : Bool := (trim s).isEmpty

end Text

end SnippetReview
