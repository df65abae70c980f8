import SnippetReview.Page.Form
import SnippetReview.Proofs.Page.Reading

/-!
# Reading the form

After an error, the form has a box with the message on top. The message can be read from the page
(`Page.errorText?_markup`).
-/

set_option maxRecDepth 100000

namespace SnippetReview

/-- The error that a page shows, read from its text. -/
def Page.errorText? (s : Text) : Option Text :=
  (skipTo? "div class=\"error\"" s).map leadingText

namespace FormPage

/-- The markup before the box with the error. -/
def beforeError : Markup :=
  [.markup Page.beforeTitle, .markup "CodeChat Reviewer".toList, .markup Page.afterTitle]

theorem landmark_error : Page.Landmark "div class=\"error\"" beforeError.parts
    "<div class=\"error\">".toList [] := by
  constructor
  all_goals
    simp only [Page.openTag, beforeError, Markup.parts, Page.beforeTitle, Page.afterTitle,
      Page.block, List.flatMap_cons, List.flatMap_nil, String.toList_append]
    repeat rw [String.toList_ofList]
    decide

theorem field_error : Page.Field [] [] "</div>".toList :=
  ⟨by decide, by decide, by decide⟩

/-- The form shows the error it is given. -/
theorem errorText?_markup {f : FormPage} {message : Text} (h : f.error = some message) :
    Page.errorText? (Page.text f.markup) = some message := by
  have hmarkup : f.markup = beforeError ++ .markup "<div class=\"error\">".toList ::
      .text message :: .markup "</div>".toList :: .markup "\n    ".toList ::
        (f.content ++ [.markup Page.afterContent]) := by
    rw [markup, h]
    rfl
  rw [Page.errorText?, hmarkup, Page.skipTo?_text landmark_error (fun _ hs => hs), Option.map_some,
    field_error.leadingText, List.nil_append, List.append_nil]

end FormPage

end SnippetReview
