import SnippetReview.Text.CodePage.Ebcdic
import SnippetReview.Text.CodePage.Iso8859
import SnippetReview.Text.CodePage.Macintosh
import SnippetReview.Text.CodePage.National
import SnippetReview.Text.CodePage.Pc
import SnippetReview.Text.CodePage.Windows

/-!
# The code pages

All code pages that are known, from all families.
-/

namespace SnippetReview

namespace CodePage

/-- All code pages. -/
def all : List CodePage := pc ++ windows ++ iso8859 ++ macintosh ++ ebcdic ++ national

end CodePage

end SnippetReview
