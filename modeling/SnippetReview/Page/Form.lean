import SnippetReview.Language
import SnippetReview.Page.Frame
import SnippetReview.Site

/-!
# The form

The form asks for a language and code or a file. After an error it shows what was sent again.
-/

namespace SnippetReview

/-- What the form shows, and the address of the site that it is sent to. -/
structure FormPage where
  address : Text
  error : Option Text
  language : Text
  code : Text
  deriving DecidableEq

namespace FormPage

/-- The form as it is first shown. -/
def blank (address : Text) : FormPage := ⟨address, none, Language.first.name, []⟩

/-- The mark of the option that is selected. -/
def selection (selected : Bool) : Markup := if selected then [.markup "selected".toList] else []

/-- The option for a language. -/
def option (selected : Text) (language : Text) : Markup :=
  [.markup "\n        <option value=\"".toList, .text language, .markup "\" ".toList]
    ++ selection (language == selected)
    ++ [.markup ">".toList, .text language, .markup "</option>\n        ".toList]

/-- The form, up to the address that it is sent to. -/
def beforeAction : Text :=
  Page.block
  ["",
   "<div class=\"panel\">",
   "  <h3>Your Code</h3>",
   "  <p style=\"font-size: 13px; color: #475569;\">",
   "    Paste your code (or upload a source file), choose a language, and get structured "
     ++ "feedback on",
   "    likely bugs, code quality and complexity.",
   "  </p>"]
  ++ "  <form method=\"post\" action=\"".toList

/-- What stands between the address and the options. -/
def beforeOptions : Text :=
  Page.block
  ["\" enctype=\"multipart/form-data\">",
   "    <div class=\"row\">",
   "      <label for=\"language\">Language</label>",
   "      <select id=\"language\" name=\"language\">"]
  ++ "        <option value=\"\" ".toList

/-- What stands between the options and the code. -/
def beforeCode : Text :=
  Page.block
  ["",
   "      </select>",
   "      <label for=\"snippet_file\">or upload</label>",
   "      <input id=\"snippet_file\" type=\"file\" name=\"snippet_file\">",
   "    </div>",
   "    <textarea name=\"code\" placeholder=\"// Paste your function, class, or snippet "
     ++ "here...\">"]

/-- What stands after the code. -/
def afterCode : Text :=
  Page.block
  ["</textarea>",
   "    <div class=\"row\" style=\"justify-content: flex-end; margin-top: 10px;\">",
   "      <button type=\"submit\">Review Code</button>",
   "    </div>",
   "  </form>",
   "</div>"]

/-- The content of the page. -/
def content (f : FormPage) : Markup :=
  [.markup beforeAction, .text (f.address ++ Site.reportPath), .markup beforeOptions]
    ++ selection f.language.isEmpty
    ++ [.markup ">Auto-detect (from file)</option>\n        ".toList]
    ++ (Language.all.flatMap fun l => option f.language l.name)
    ++ [.markup beforeCode, .text f.code, .markup afterCode]

/-- The page with the form. -/
def markup (f : FormPage) : Markup :=
  Page.frame "CodeChat Reviewer".toList f.error f.content

end FormPage

end SnippetReview
