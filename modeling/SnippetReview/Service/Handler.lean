import SnippetReview.Form.Fields
import SnippetReview.Json.Read
import SnippetReview.Page.Form
import SnippetReview.Page.Report
import SnippetReview.Reviewer
import SnippetReview.Story.Fit
import SnippetReview.Upload
import SnippetReview.Service.Answer
import SnippetReview.Service.Payload

/-!
# Answering

A submission arrives in one of three ways: from the form for a report, from the form for a report
to print, or as JSON from a program. In all three it is validated, reviewed and answered; it can be
rejected, the reviewer can fail, and a report can be such that it cannot be set on pages. A
rejection, a failure and a review leave one record each; a body that is no JSON object leaves none.
`submitForm` answers the two forms, `submitBody` the programs. What a form is answered with depends
on the address of the site, which stands in the pages.
-/

namespace SnippetReview

namespace Service

/-! ## The forms -/

/-- What a form asks for. -/
inductive Target
  | report
  | print
  deriving DecidableEq

namespace Target

/-- The path that the form is sent to. -/
def path : Target → Text
  | report => Site.reportPath
  | print => Site.printPath

/-- What is recorded when a submission is rejected, before the reason. -/
def rejected : Target → Text
  | report => "Rejected review form: ".toList
  | print => "Rejected PDF request: ".toList

/-- What is recorded when the reviewer fails, before the language. -/
def failed : Target → Text
  | report => "Review failed for ".toList
  | print => "PDF export failed for ".toList

/-- What a form asks for, as it is answered, unless it is a report that cannot be set on pages. -/
def content? (address : Text) (settings : Settings) (s : Snippet) (r : Review) :
    Target → Option Content
  | report => some (.page (ReportPage.markup ⟨address, r, s.language, s.code⟩))
  | print =>
    let story := Story.ofReview settings.reportPreparedBy r
    if story.fits then some (.print story) else none

end Target

/-- What the user of the form is told when the reviewer fails. -/
def failureText : Text :=
  "Something went wrong while reviewing your code. Please try again.".toList

/-- The form again, with an error. -/
def formAgain (address : Text) (status : Nat) (message : Text) (language code : Text) : Answer :=
  let shown := if language.isEmpty then Language.first.name else language
  .of status (.page (FormPage.markup ⟨address, some message, shown, code⟩))

/-- The reply to a form that is rejected with what was sent or made of it. -/
def rejectForm (address : Text) (target : Target) (reason : Rejection) (s : Submission) :
    Reply where
  answer := formAgain address 400 reason.message (s.language.getD []) (s.code.getD [])
  records := [⟨.service, .info, target.rejected ++ reason.message⟩]

/-- The reply to a form whose snippet is not reviewed, or not reported on. -/
def failForm (address : Text) (target : Target) (s : Snippet) : Reply where
  answer := formAgain address 500 failureText s.language s.code
  records := [⟨.service, .error, target.failed ++ s.language ++ " snippet".toList⟩]

/-- The reply to a form whose snippet has been reviewed. -/
def reportOn (address : Text) (target : Target) (settings : Settings) (s : Snippet) (r : Review) :
    Reply :=
  let record := Reviewer.record s.code.length r
  match target.content? address settings s r with
  | some content => ⟨.of 200 content, [record]⟩
  | none =>
    let failure := failForm address target s
    ⟨failure.answer, record :: failure.records⟩

/-- The reply to a form whose submission has been put together with the file. -/
def submitMerged (address : Text) (target : Target) (settings : Settings) (reviewer : Reviewer)
    (s : Submission) : Reply :=
  match s.validate settings with
  | .error reason => rejectForm address target reason s
  | .ok snippet =>
    match reviewer snippet with
    | .error _ => failForm address target snippet
    | .ok r => reportOn address target settings snippet r

/-- The reply to a form with a submission and perhaps a file, unless the file cannot be read. -/
def submitForm (platform : Platform) (address : Text) (target : Target) (settings : Settings)
    (reviewer : Reviewer) (s : Submission) (file : Option Upload) : Except Abort Reply :=
  match s.merge platform.room settings file with
  | .error (.rejected reason) => .ok (rejectForm address target reason s)
  | .error (.unread e) => .error ⟨.unread e, []⟩
  | .ok merged => .ok (submitMerged address target settings reviewer merged)

/-- The JSON object that tells why a request is not answered. -/
def detailObject (detail : Json) : Json := .object [("detail".toList, detail)]

/-- The reply to a form in which fields are of the wrong kind. -/
def rejectMisfits (platform : Platform) (misfits : List Form.Misfit) : Reply where
  answer := .of 422
    (.json (detailObject (.array (misfits.map (Form.Misfit.object platform.fileObject)))))
  records := []

/-- The code points that stand in a page where it shows the replacement character. A report shows
the language twice and then the code twice, the form the code alone. -/
def pageMarks (fields : Form.Fields) (a : Answer) : RawText :=
  let language := RawText.marks (fields.points "language")
  let code := RawText.marks (fields.points "code")
  if a.status = 200 then language ++ language ++ code ++ code else code

/-- The reply to a form with the given fields, unless an exception ends its handling. -/
def submitFields (platform : Platform) (address : Text) (target : Target) (settings : Settings)
    (reviewer : Reviewer) (fields : Form.Fields) : Except Abort Reply :=
  match fields.misfits with
  | [] =>
    match submitForm platform address target settings reviewer fields.submission fields.upload? with
    | .ok sent => sent.encoded (pageMarks fields sent.answer)
    | .error abort => .error abort
  | misfits => (rejectMisfits platform misfits).encoded []

/-! ## The interface for programs -/

/-- An error as a JSON object. -/
def errorObject (message : Text) : Json := .object [("error".toList, .string message)]

/-- What a program is told when it sends no JSON object. -/
def badPayloadText : Text := "Invalid request payload.".toList

/-- What a program is told when the reviewer fails. -/
def apiFailureText : Text := "Unexpected server error while reviewing code.".toList

/-- The submission that the members of a JSON object make. -/
def submissionOf (members : List (Text × Json)) : Submission where
  language := (Json.lookup? "language".toList members).bind Json.text?
  code := (Json.lookup? "code".toList members).bind Json.text?

/-- The code points of the text that the members of a JSON object give a key. -/
def pointsOf (members : List (Text × Json)) (key : String) : RawText :=
  ((Json.lookup? key.toList members).bind Json.points?).getD []

/-- The reply to a body that has been read as a submission, where `payload` is how a review of it is
told. -/
def submitRead (settings : Settings) (reviewer : Reviewer) (s : Submission)
    (payload : Review → Json) : Reply :=
  match s.validate settings with
  | .error reason =>
    { answer := .of 400 (.json (errorObject reason.message))
      records := [⟨.service, .info, "Rejected review request: ".toList ++ reason.message⟩] }
  | .ok snippet =>
    match reviewer snippet with
    | .error _ =>
      { answer := .of 500 (.json (errorObject apiFailureText))
        records := [⟨.service, .error, "Review API error".toList⟩] }
    | .ok r =>
      { answer := .of 200 (.json (payload r))
        records := [Reviewer.record snippet.code.length r] }

/-- The reply to a body that a program sends. -/
def submitBody (platform : Platform) (settings : Settings) (reviewer : Reviewer) (body : Bytes) :
    Reply :=
  match (Json.ofBytes? platform.maxDepth body).bind Json.members? with
  | none => ⟨.of 400 (.json (errorObject badPayloadText)), []⟩
  | some members =>
    submitRead settings reviewer (submissionOf members)
      (Json.ofReviewOf (pointsOf members "language") (pointsOf members "code"))

end Service

end SnippetReview
