import SnippetReview.Review
import SnippetReview.Settings
import SnippetReview.Page.Markup

/-!
# The report to print

The printed report is a story: paragraphs, tables, spaces and one block of code, in the order in
which they are set. Tables have one heading row, which is repeated on every page. Only
paragraphs hold markup; the block of code is set as it is. The story is told of a review in words
(`Story.ofTold`), and so of a review.
-/

namespace SnippetReview

/-! ## Reviews in words -/

/-- A review in words. -/
structure Told where
  language : Text
  score : Nat
  grade : Grade
  label : Text
  issues : List Text
  improvements : List Text
  time : Text
  space : Text
  notes : Text
  suggestedFix : Text
  deriving DecidableEq

namespace Told

/-- A review of a snippet, in words. -/
def ofReview (r : Review) : Told where
  language := r.language
  score := r.quality.score
  grade := r.quality.grade
  label := r.quality.grade.label
  issues := r.issues
  improvements := r.improvements
  time := Complexity.timeText r.complexity.time
  space := Complexity.spaceText r.complexity.allocates
  notes := Complexity.notes
  suggestedFix := r.suggestedFix

/-- The review with a name for its language. -/
def named (t : Told) : Told :=
  { t with language := if t.language.isEmpty then "Unknown".toList else t.language }

end Told

namespace Story

/-! ## Parts -/

/-- The styles of text. -/
inductive Style
  | title
  | body
  | heading
  | cell
  | headerCell
  | code
  deriving DecidableEq

/-- The name of a style. -/
def Style.name : Style → Text
  | title => "title".toList
  | body => "body".toList
  | heading => "h2".toList
  | cell => "cell".toList
  | headerCell => "header_cell".toList
  | code => "code".toList

/-- A paragraph in one style. -/
structure Paragraph where
  style : Style
  content : Markup
  deriving DecidableEq

/-- The markup of a paragraph, with its text escaped. -/
def Paragraph.render (p : Paragraph) : Text := p.content.render Entities.paragraph

/-- A part of the story. -/
inductive Element
  | paragraph (p : Paragraph)
  | spacer (height : Nat)
  /-- A table with columns of the given widths in millimetres. -/
  | table (columns : List Nat) (header : List Paragraph) (rows : List (List Paragraph))
  | pageBreak
  | preformatted (code : Text) (maxLineLength : Nat)
  deriving DecidableEq

/-! ## Paragraphs -/

/-- A paragraph of fixed words. -/
def fixed (style : Style) (words : String) : Paragraph := ⟨style, [.markup words.toList]⟩

/-- A line that names something in bold and then tells it. -/
def metaLine (label : String) (content : Markup) : Element :=
  .paragraph ⟨.body, [.markup ("<b>".toList ++ label.toList ++ ":</b> ".toList)] ++ content⟩

/-- A heading. -/
def heading (words : String) : Element := .paragraph (fixed .heading words)

/-- A cell that holds a text. -/
def cell (t : Text) : Paragraph := ⟨.cell, [.text t]⟩

/-! ## Tables -/

/-- The row of an item in a numbered table. -/
def numberedRow (item : Text × Nat) : List Paragraph :=
  [⟨.cell, [.markup (Numeral.digits item.2)]⟩, cell item.1]

/-- A table of items, numbered from one. -/
def numberedTable (title : String) (items : List Text) : Element :=
  .table [12, 166] [fixed .headerCell "#", fixed .headerCell title]
    ((items.zipIdx 1).map numberedRow)

/-- The table of the estimate of complexity. -/
def estimateTable (t : Told) : Element :=
  .table [30, 148] [fixed .headerCell "Measure", fixed .headerCell "Estimate"]
    [[fixed .cell "Time", cell t.time], [fixed .cell "Space", cell t.space],
     [fixed .cell "Notes", cell t.notes]]

end Story

/-- A report to print. -/
structure Story where
  title : Text
  author : Text
  elements : List Story.Element
  deriving DecidableEq

namespace Story

/-! ## The report -/

/-- The quality as it is told. -/
def ratingMarkup (t : Told) : Markup :=
  [.markup (Numeral.digits t.score ++ "/100 (".toList), .text t.grade.letter,
   .markup ", ".toList, .text t.label, .markup ")".toList]

/-- The title of every report. -/
def reportTitle : String := "Code Review Report"

/-- The report of a review in words, prepared by an author. -/
def ofTold (author : Text) (t : Told) : Story where
  title := reportTitle.toList
  author := author
  elements :=
    [.paragraph (fixed .title reportTitle),
     .spacer 10,
     metaLine "Language" [.text t.named.language],
     metaLine "Quality" (ratingMarkup t),
     metaLine "Potential issues" [.markup (Numeral.digits t.issues.length)],
     metaLine "Prepared by" [.text author],
     .spacer 14,
     heading "Potential Issues",
     numberedTable "Finding" t.issues,
     heading "Improvements",
     numberedTable "Suggestion" t.improvements,
     heading "Complexity",
     estimateTable t,
     .pageBreak,
     heading "Suggested Fix",
     .preformatted t.suggestedFix 110]

/-- The report of a review, prepared by an author. -/
def ofReview (author : Text) (r : Review) : Story := ofTold author (Told.ofReview r)

/-- The author of a report: the one given, or that of the settings if none is. -/
def authorOr (settings : Settings) (preparedBy : Option Text) : Text :=
  match preparedBy with
  | some author => if author.isEmpty then settings.reportPreparedBy else author
  | none => settings.reportPreparedBy

end Story

end SnippetReview
