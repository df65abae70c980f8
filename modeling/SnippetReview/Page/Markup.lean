import SnippetReview.Text.Basic

/-!
# Markup and text

A document is put together from pieces of markup, which are written by this library, and pieces
of text, which come from elsewhere. Text is escaped when the document is rendered, and only
there, so that no piece of text can be taken for markup.
-/

namespace SnippetReview

/-- The entities that stand for characters with a meaning in the markup. -/
abbrev Entities := List (Char × Text)

namespace Entities

/-- A character as it stands in the markup. -/
def escapeChar (e : Entities) (c : Char) : Text := (e.lookup c).getD [c]

/-- A text as it stands in the markup. -/
def escape (e : Entities) (s : Text) : Text := s.flatMap e.escapeChar

/-- The entities of paragraphs: those for the ampersand and the angle brackets. -/
def paragraph : Entities := [('&', "&amp;".toList), ('<', "&lt;".toList), ('>', "&gt;".toList)]

/-- The entities of pages, where text may also stand between quotes. -/
def page : Entities := paragraph ++ [('"', "&#34;".toList), ('\'', "&#39;".toList)]

end Entities

/-- A piece of a document. -/
inductive Piece
  | markup (s : Text)
  | text (s : Text)
  deriving DecidableEq

/-- A document: its pieces in order. -/
abbrev Markup := List Piece

/-- A piece as it stands in the document. -/
def Piece.render (e : Entities) : Piece → Text
  | markup s => s
  | text s => e.escape s

/-- The document as a text. -/
def Markup.render (e : Entities) (m : Markup) : Text := m.flatMap (Piece.render e)

end SnippetReview
