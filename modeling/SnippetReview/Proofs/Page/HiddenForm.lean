import SnippetReview.Proofs.Page.Report
import SnippetReview.Submission

/-!
# The hidden form

The report page holds a form with which the snippet can be sent again. What it sends is read from
the text of the page: the value of a field that stands between quotes, and the text of an area up
to the end of the area, both with their entities read. It is the language and the code that the
page was made with, whatever characters they hold (`ReportPage.hiddenForm?_text`).
-/

set_option maxRecDepth 100000

namespace SnippetReview

namespace Page

/-- The value of an attribute, where what follows the quote that opens it is given. -/
def attributeValue (s : Text) : Text := Entities.page.unescape (s.takeWhile (· != '"'))

/-- A text without the newline at its start. -/
def dropNewline : Text → Text
  | '\n' :: s => s
  | s => s

@[simp] theorem dropNewline_newline (s : Text) : dropNewline ('\n' :: s) = s := rfl

/-- The text of an area, where what follows the tag that opens it is given: it goes up to the tag
that closes it, and a newline right at its start does not count. -/
def areaText? (s : Text) : Option Text :=
  (breakAt? "</textarea>".toList s).map fun (inside, _) =>
    Entities.page.unescape (dropNewline inside)

/-- The beginning of the tag of the hidden language, up to its value, without the angle bracket. -/
def languageMark : String := "input type=\"hidden\" name=\"language\" value=\""

/-- What the hidden form of a page sends. -/
def hiddenForm? (s : Text) : Option Submission := do
  let s ← Text.after? ('<' :: languageMark.toList) s
  let language := attributeValue s
  let s ← skipTo? "textarea name=\"code\" style=\"display: none;\"" s
  let code ← areaText? s
  return ⟨some language, some code⟩

theorem quote_not_mem_escape (s : Text) : '"' ∉ Entities.page.escape s :=
  Entities.not_mem_escape (by decide) (by decide) s

/-- Between quotes, text is read as it was put in. -/
theorem attributeValue_escape_append (t s : Text) :
    attributeValue (Entities.page.escape t ++ '"' :: s) = t := by
  have hrun : ∀ c ∈ Entities.page.escape t, (c != '"') = true := by
    intro c hc
    rw [bne_iff_ne]
    rintro rfl
    exact quote_not_mem_escape t hc
  rw [attributeValue, List.takeWhile_append_of_pos hrun, List.takeWhile_cons_of_neg (by decide),
    List.append_nil, Entities.unescape_escape Entities.readable_page]

/-- In an area that begins with a newline, text is read as it was put in. -/
theorem areaText?_escape_append (t s : Text) :
    areaText? ('\n' :: (Entities.page.escape t ++ ("</textarea>".toList ++ s))) = some t := by
  have hbracket : '<' ∉ '\n' :: Entities.page.escape t := by
    rw [List.mem_cons, not_or]
    exact ⟨by decide, bracket_not_mem_escape t⟩
  have hcut := Text.breakAt?_append hbracket "/textarea>".toList s
  refine (congrArg _ hcut).trans (congrArg some ?_)
  exact Entities.unescape_escape Entities.readable_page t

end Page

namespace ReportPage

/-- The markup before the hidden language, but for its last piece. -/
def beforeHiddenForm : List Text :=
  Markup.parts opening ++ [beforeLanguage, beforeAction]

theorem isFreeOf_languageMark :
    beforeHiddenForm.all (Text.isFreeOf ('<' :: Page.languageMark.toList)) = true := by
  simp only [beforeHiddenForm, Page.languageMark, opening, Markup.parts, Page.beforeTitle,
    Page.afterTitle, beforeLanguage, beforeAction, Page.block, List.flatMap_cons, List.flatMap_nil,
    String.toList_append]
  repeat rw [String.toList_ofList]
  decide

theorem after?_languageMark_beforeHiddenLanguage :
    Text.after? ('<' :: Page.languageMark.toList) beforeHiddenLanguage = some [] := by
  simp only [Page.languageMark, beforeHiddenLanguage, Page.block, List.flatMap_cons,
    List.flatMap_nil]
  repeat rw [String.toList_ofList]
  decide

theorem quote_prefix_beforeHiddenCode : ['"'] <+: beforeHiddenCode := by
  rw [beforeHiddenCode]
  decide

theorem landmark_hiddenCode :
    Page.Landmark "textarea name=\"code\" style=\"display: none;\"" [[]] beforeHiddenCode
      "\n".toList := by
  constructor
  all_goals
    simp only [Page.openTag, beforeHiddenCode, Page.block, List.flatMap_cons, List.flatMap_nil]
    repeat rw [String.toList_ofList]
    decide

theorem endTag_prefix_afterHiddenCode : "</textarea>".toList <+: afterHiddenCode := by
  simp only [afterHiddenCode, Page.block, List.flatMap_cons, List.flatMap_nil]
  repeat rw [String.toList_ofList]
  decide

section Fields

variable (p : ReportPage)

/-- The page from the code in the hidden form on. -/
def fromHiddenCode : Markup :=
  .text p.code :: .markup afterHiddenCode :: .text (p.address ++ Site.homePath)
    :: .markup beforeScore :: p.fromScore

/-- The page from the language in the hidden form on. -/
def fromHiddenLanguage : Markup := .text p.language :: .markup beforeHiddenCode :: p.fromHiddenCode

theorem after?_languageMark : Text.after? ('<' :: Page.languageMark.toList) (Page.text p.markup)
    = some (Page.text (.markup [] :: p.fromHiddenLanguage)) := by
  set before : Markup := [.markup beforeLanguage, .text p.shownLanguage, .markup beforeAction,
    .text (p.address ++ Site.printPath)]
  have hmarkup : p.markup
      = (opening ++ before) ++ .markup beforeHiddenLanguage :: p.fromHiddenLanguage := by
    rw [markup_eq, List.append_assoc]
    rfl
  have hparts : Markup.parts (opening ++ before) = beforeHiddenForm := Markup.parts_append _ _
  have hfree := List.all_eq_true.1 isFreeOf_languageMark
  rw [← hparts] at hfree
  rw [hmarkup]
  exact Page.after?_text hfree after?_languageMark_beforeHiddenLanguage _

theorem attributeValue_language :
    Page.attributeValue (Page.text (.markup [] :: p.fromHiddenLanguage)) = p.language := by
  obtain ⟨rest, hrest⟩ := quote_prefix_beforeHiddenCode
  rw [Page.text_cons_markup, List.nil_append, fromHiddenLanguage, Page.text_cons_text,
    Page.text_cons_markup, ← hrest, List.append_assoc, List.singleton_append]
  exact Page.attributeValue_escape_append _ _

theorem skipTo?_hiddenCode : Page.skipTo? "textarea name=\"code\" style=\"display: none;\""
    (Page.text (.markup [] :: p.fromHiddenLanguage))
      = some (Page.text (.markup "\n".toList :: p.fromHiddenCode)) :=
  Page.skipTo?_text landmark_hiddenCode (m := [.markup [], .text p.language]) (fun _ hs => hs) _

theorem areaText?_code :
    Page.areaText? (Page.text (.markup "\n".toList :: p.fromHiddenCode)) = some p.code := by
  obtain ⟨rest, hrest⟩ := endTag_prefix_afterHiddenCode
  rw [Page.text_cons_markup, fromHiddenCode, Page.text_cons_text, Page.text_cons_markup, ← hrest,
    List.append_assoc]
  exact Page.areaText?_escape_append _ _

end Fields

/-- The hidden form sends the language and the code that the page was made with. -/
theorem hiddenForm?_text (p : ReportPage) :
    Page.hiddenForm? (Page.text p.markup) = some ⟨some p.language, some p.code⟩ := by
  rw [Page.hiddenForm?, after?_languageMark, Option.bind_eq_bind, Option.bind_some]
  dsimp only
  rw [attributeValue_language, skipTo?_hiddenCode, Option.bind_some, areaText?_code,
    Option.bind_some, Option.pure_def]

end ReportPage

end SnippetReview
