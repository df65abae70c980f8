import SnippetReview.Review
import SnippetReview.Page.Frame
import SnippetReview.Site

/-!
# The report page

The page shows the review of a snippet. It holds the snippet itself in a hidden form, with which
the same report can be asked for in its printed form.
-/

namespace SnippetReview

/-- What the report page shows: a review, and the snippet that was reviewed; and the address of the
site that its hidden form is sent to. -/
structure ReportPage where
  address : Text
  review : Review
  language : Text
  code : Text
  deriving DecidableEq

namespace ReportPage

/-! ## The hidden form -/

/-- The beginning of the summary, up to the language. -/
def beforeLanguage : Text :=
  Page.block
  ["",
   "<div class=\"panel\">",
   "  <h3>"]
  ++ "    <span>Review Summary (".toList

/-- What stands between the language and the address of the hidden form. -/
def beforeAction : Text :=
  Page.block
  [")</span>",
   "    <span>"]
  ++ "      <form method=\"post\" action=\"".toList

/-- What stands between the address and the hidden language. -/
def beforeHiddenLanguage : Text :=
  Page.block
  ["\" style=\"display: inline;\">"]
  ++ "        <input type=\"hidden\" name=\"language\" value=\"".toList

/-- What stands between the hidden language and the hidden code. -/
def beforeHiddenCode : Text :=
  Page.block
  ["\">",
   "        <textarea name=\"code\" style=\"display: none;\">"]

/-- What stands between the hidden code and the address of the form. -/
def afterHiddenCode : Text :=
  Page.block
  ["</textarea>",
   "        <button type=\"submit\">Download PDF</button>",
   "      </form>"]
  ++ "      <a class=\"btn\" href=\"".toList

/-- The summary's heading, with the hidden form. -/
def heading (p : ReportPage) : Markup :=
  let language := p.review.language
  [.markup beforeLanguage, .text (if language.isEmpty then "Unknown".toList else language),
   .markup beforeAction, .text (p.address ++ Site.printPath),
   .markup beforeHiddenLanguage, .text p.language,
   .markup beforeHiddenCode, .text p.code,
   .markup afterHiddenCode, .text (p.address ++ Site.homePath)]

/-! ## The review -/

/-- What stands between the heading and the score. -/
def beforeScore : Text :=
  Page.block
  ["\">New review</a>",
   "    </span>",
   "  </h3>",
   "  <div class=\"row\">"]
  ++ "    <span class=\"score\">".toList

/-- What stands between the grade and the list of potential issues. -/
def beforeIssues : Text :=
  Page.block
  ["</span>",
   "  </div>",
   "</div>",
   "",
   "<div class=\"panel issues\">",
   "  <h3><span>Potential Issues</span><button class=\"copy\" "
     ++ "onclick=\"copyText('issues')\">Copy</button></h3>",
   "  <ul id=\"issues\">"]
  ++ "    ".toList

/-- What stands between the two lists. -/
def beforeImprovements : Text :=
  Page.block
  ["",
   "  </ul>",
   "</div>",
   "",
   "<div class=\"panel improvements\">",
   "  <h3><span>Improvements</span><button class=\"copy\" "
     ++ "onclick=\"copyText('improvements')\">Copy</button></h3>",
   "  <ul id=\"improvements\">"]
  ++ "    ".toList

/-- What stands between the second list and the time estimate. -/
def beforeTime : Text :=
  Page.block
  ["",
   "  </ul>",
   "</div>",
   "",
   "<div class=\"panel complexity\">",
   "  <h3><span>Complexity</span><button class=\"copy\" "
     ++ "onclick=\"copyText('complexity')\">Copy</button></h3>",
   "  <div id=\"complexity\">"]
  ++ "    <p>Time: ".toList

/-- What stands between the time estimate and the space estimate. -/
def beforeSpace : Text :=
  Page.block
  ["</p>"]
  ++ "    <p>Space: ".toList

/-- What stands between the space estimate and the notes. -/
def beforeNotes : Text :=
  Page.block
  ["</p>",
   "  </div>"]
  ++ "  <p style=\"font-size: 11px; color: #64748b;\">".toList

/-- What stands between the notes and the suggested fix. -/
def beforeFix : Text :=
  Page.block
  ["</p>",
   "</div>",
   "",
   "<div class=\"panel fix\">",
   "  <h3><span>Suggested Fix</span><button class=\"copy\" "
     ++ "onclick=\"copyText('suggested-fix')\">Copy</button></h3>"]
  ++ "  <pre id=\"suggested-fix\">".toList

/-- The end of the content. -/
def afterFix : Text :=
  Page.block
  ["</pre>",
   "</div>"]

/-- The score and the grade. -/
def summary (q : Quality) : Markup :=
  [.text (Numeral.digits q.score), .markup "/100</span>\n    <span>Grade ".toList,
   .text q.grade.letter, .markup " · ".toList, .text q.grade.label]

/-- The items of a list. -/
def items (ts : List Text) : Markup :=
  ts.flatMap fun t => [.markup "<li>".toList, .text t, .markup "</li>".toList]

/-- The estimate of complexity. -/
def complexity (c : Complexity) : Markup :=
  [.text (Complexity.timeText c.time), .markup beforeSpace,
   .text (Complexity.spaceText c.allocates), .markup beforeNotes, .text Complexity.notes]

/-- The content of the page. -/
def content (p : ReportPage) : Markup :=
  p.heading
    ++ [.markup beforeScore] ++ summary p.review.quality
    ++ [.markup beforeIssues] ++ items p.review.issues
    ++ [.markup beforeImprovements] ++ items p.review.improvements
    ++ [.markup beforeTime] ++ complexity p.review.complexity
    ++ [.markup beforeFix, .text p.review.suggestedFix, .markup afterFix]

/-- The page with the report. -/
def markup (p : ReportPage) : Markup :=
  Page.frame "Review · CodeChat Reviewer".toList none p.content

end ReportPage

end SnippetReview
