import SnippetReview.Json.Basic
import SnippetReview.Review

/-!
# The review for programs

The JSON object that a review is sent as. Lone surrogates of what was sent for review stand in it
again.
-/

namespace SnippetReview

namespace Json

/-- A title and a list of texts. -/
def titledList (title : String) (items : List Text) : Json :=
  object [("title".toList, ofString title), ("items".toList, array (items.map string))]

/-- A quality as an object. -/
def ofQuality (q : Quality) : Json :=
  object [("score".toList, integer q.score), ("grade".toList, string q.grade.letter),
    ("label".toList, string q.grade.label)]

/-- An estimate of complexity as an object. -/
def ofComplexity (c : Complexity) : Json :=
  object [("time".toList, string (Complexity.timeText c.time)),
    ("space".toList, string (Complexity.spaceText c.allocates)),
    ("notes".toList, string Complexity.notes)]

/-- A review as an object, with the given strings for the language and the suggested fix. -/
def ofReviewWith (language suggestedFix : Json) (r : Review) : Json :=
  object [("language".toList, language),
    ("quality".toList, ofQuality r.quality),
    ("potentialIssues".toList, titledList "Potential Issues" r.issues),
    ("improvements".toList, titledList "Improvements" r.improvements),
    ("complexity".toList, ofComplexity r.complexity),
    ("suggestedFix".toList, suggestedFix)]

/-- A review as an object. -/
def ofReview (r : Review) : Json := ofReviewWith (string r.language) (string r.suggestedFix) r

/-- A text that was made of one with the given code points, with its lone surrogates back in their
places. -/
def restored (p : RawText) (s : Text) : Json := ofPoints (RawText.restore p.marks s)

/-- A review of a language and code with the given code points as an object. -/
def ofReviewOf (language code : RawText) (r : Review) : Json :=
  ofReviewWith (restored language r.language) (restored code r.suggestedFix) r

end Json

end SnippetReview
