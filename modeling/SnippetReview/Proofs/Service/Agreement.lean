import SnippetReview.Proofs.Page.Form
import SnippetReview.Proofs.Page.Report
import SnippetReview.Proofs.Service.Requests

/-!
# The three ways to submit agree

A snippet may be sent from the form for a report, from the form for a report to print, or by a
program. All three accept the same snippets and reject the others with the same message, and what
is accepted is reviewed alike: the page, the object and the report to print hold the same review
(`submissions_agree`). That is what requests are answered with that bring the snippet as a
URL-encoded form and as JSON, unless a field of the form is too long. Only that a report may be
such that it cannot be set on pages sets the printed one apart: it is answered with a failure then,
though the snippet is accepted (`print_fails_of_manyOpeners`).
-/

set_option maxRecDepth 100000

namespace SnippetReview

namespace Service

/-! ## What an answer tells -/

/-- The message of an answer that reports an error, read from its page or its object. -/
def Answer.errorText? (a : Answer) : Option Text :=
  match a.content with
  | .page m => Page.errorText? (Page.text m)
  | .json j => (j.member? "error").bind Json.text?
  | _ => none

/-- What an answer that reports a review shows, read from its page or its object. -/
def Answer.shown? (a : Answer) : Option Shown :=
  match a.content with
  | .page m => Shown.ofPage? (Page.text m)
  | .json j => Shown.ofJson? j
  | _ => none

theorem errorText?_rejectForm (address : Text) (target : Target) (reason : Rejection)
    (s : Submission) :
    (rejectForm address target reason s).answer.errorText? = some reason.message :=
  FormPage.errorText?_markup rfl

theorem errorText?_errorObject (status : Nat) (message : Text) :
    (Answer.of status (.json (errorObject message))).errorText? = some message := rfl

theorem shown?_ofReview (r : Review) :
    (Answer.of 200 (.json (Json.ofReview r))).shown? = some (Shown.ofReview r) :=
  Shown.ofJson?_ofReview r

/-- A report page with a language shows what the review holds. -/
theorem shown?_report {r : Review} (h : r.language ≠ []) (address language code : Text) :
    (Answer.of 200 (.page (ReportPage.markup ⟨address, r, language, code⟩))).shown?
      = some (Shown.ofReview r) := by
  have hshown : ReportPage.shownLanguage ⟨address, r, language, code⟩ = r.language := by
    rw [ReportPage.shownLanguage, if_neg]
    rwa [List.isEmpty_iff]
  rw [Answer.shown?, Answer.of]
  show Shown.ofPage? (Page.text (ReportPage.markup ⟨address, r, language, code⟩)) = _
  rw [Shown.ofPage?_text, hshown]
  rfl

/-! ## The three replies -/

/-- Without a file, the submission of a form is what is sent with its code trimmed. -/
theorem submitForm_none (platform : Platform) (address : Text) (target : Target)
    (settings : Settings) (reviewer : Reviewer) (s : Submission) :
    submitForm platform address target settings reviewer s none
      = .ok (submitMerged address target settings reviewer s.trimCode) := rfl

/-- Three answers that reject a submission with one message. -/
structure AllReject (report print api : Answer) (message : Text) : Prop where
  report_status : report.status = 400
  print_status : print.status = 400
  api_status : api.status = 400
  report_error : report.errorText? = some message
  print_error : print.errorText? = some message
  api_error : api.errorText? = some message

/-- Three answers that hold one review, but that the report to print fails if it cannot be set on
pages. -/
structure AllReview (author : Text) (report print api : Answer) (r : Review) : Prop where
  report_status : report.status = 200
  report_shown : report.shown? = some (Shown.ofReview r)
  api_status : api.status = 200
  api_content : api.content = .json (Json.ofReview r)
  api_shown : api.shown? = some (Shown.ofReview r)
  print_set : (Story.ofReview author r).fits = true →
    print.status = 200 ∧ print.content = .print (Story.ofReview author r)
  print_failed : (Story.ofReview author r).fits = false →
    print.status = 500 ∧ print.errorText? = some failureText

/-- What is accepted is reviewed in a language. -/
theorem language_review_ne_nil {settings : Settings} {s : Submission} {snippet : Snippet}
    (h : s.validate settings = .ok snippet) (longLimit : Int) :
    (review longLimit snippet.language snippet.code).language ≠ [] := by
  obtain ⟨hlanguage, -, -, -, rfl⟩ := Submission.validate_eq_ok_iff.1 h
  rw [language_review, Language.normalize_normalize]
  exact Language.normalize_ne_nil hlanguage

theorem reportOn_report (address : Text) (settings : Settings) (s : Snippet) (r : Review) :
    (reportOn address .report settings s r).answer
      = .of 200 (.page (ReportPage.markup ⟨address, r, s.language, s.code⟩)) := rfl

theorem reportOn_eq_of_fits {settings : Settings} {r : Review}
    (h : (Story.ofReview settings.reportPreparedBy r).fits = true) (address : Text) (s : Snippet) :
    reportOn address .print settings s r
      = ⟨.of 200 (.print (Story.ofReview settings.reportPreparedBy r)),
        [Reviewer.record s.code.length r]⟩ := by
  rw [reportOn, Target.content?]
  simp only [h, if_true]

theorem reportOn_eq_of_not_fits {settings : Settings} {r : Review}
    (h : (Story.ofReview settings.reportPreparedBy r).fits = false) (address : Text)
    (s : Snippet) :
    reportOn address .print settings s r
      = ⟨(failForm address .print s).answer,
        Reviewer.record s.code.length r :: (failForm address .print s).records⟩ := by
  rw [reportOn, Target.content?]
  simp only [h, Bool.false_eq_true, if_false]

theorem allReview_reportOn {settings : Settings} {r : Review} (h : r.language ≠ [])
    (address : Text) (s : Snippet) :
    AllReview settings.reportPreparedBy (reportOn address .report settings s r).answer
      (reportOn address .print settings s r).answer (.of 200 (.json (Json.ofReview r))) r where
  report_status := rfl
  report_shown := shown?_report h _ _ _
  api_status := rfl
  api_content := rfl
  api_shown := shown?_ofReview r
  print_set hfits := by
    rw [reportOn_eq_of_fits hfits]
    exact ⟨rfl, rfl⟩
  print_failed hfits := by
    rw [reportOn_eq_of_not_fits hfits]
    exact ⟨rfl, FormPage.errorText?_markup rfl⟩

/-- A language and code, sent from either form without a file and by a program with the code
trimmed, are rejected in all three ways with one message, or accepted in all three: then the page
and the object show the same, and the report to print is that of the same review, unless it cannot
be set on pages. So are requests answered that bring the forms URL-encoded, if no field is too
long. -/
theorem submissions_agree (platform : Platform) (settings : Settings) (r : Request)
    (language code : Text) {body : Bytes}
    (hbody : Json.ofBytes? platform.maxDepth body = some (.object
      [("language".toList, .string language), ("code".toList, .string (Text.trim code))])) :
    let reviewer := Reviewer.standard settings
    ∃ report print : Reply,
      submitForm platform r.address .report settings reviewer ⟨some language, some code⟩ none
        = .ok report
      ∧ submitForm platform r.address .print settings reviewer ⟨some language, some code⟩ none
        = .ok print
      ∧ (FormFits language code →
          reply platform settings reviewer
              (urlencodedRequest .report r (formBody language code)) = report
          ∧ reply platform settings reviewer
              (urlencodedRequest .print r (formBody language code)) = print)
      ∧ let api := reply platform settings reviewer (programRequest r body)
        (∃ message, AllReject report.answer print.answer api.answer message)
          ∨ ∃ result,
            AllReview settings.reportPreparedBy report.answer print.answer api.answer result := by
  intro reviewer
  set sent : Submission := ⟨some language, some (Text.trim code)⟩ with hsent
  have hform : ∀ target, FormFits language code →
      reply platform settings reviewer (urlencodedRequest target r (formBody language code))
        = submitMerged r.address target settings reviewer sent := by
    intro target hfits
    apply reply_of_handle
    rw [handle_formBody, if_pos hfits, submitForm_none]
    rfl
  refine ⟨_, _, submitForm_none platform r.address .report settings _ _,
    submitForm_none platform r.address .print settings _ _,
    fun hfits => ⟨hform .report hfits, hform .print hfits⟩, ?_⟩
  have htrim : Submission.trimCode ⟨some language, some code⟩ = sent := rfl
  rw [reply_of_members hbody, ← hsent, htrim, submitRead, submitMerged, submitMerged]
  cases h : sent.validate settings with
  | error reason =>
    exact Or.inl ⟨reason.message, rfl, rfl, rfl, errorText?_rejectForm _ _ _ _,
      errorText?_rejectForm _ _ _ _, errorText?_errorObject _ _⟩
  | ok snippet =>
    have hreview : reviewer snippet
        = .ok (review settings.longSnippetLines snippet.language snippet.code) := rfl
    dsimp only
    rw [hreview]
    exact Or.inr ⟨_, allReview_reportOn (language_review_ne_nil h _) _ _⟩

/-- The settings where no variable is set. -/
def defaultSettings : Settings where
  debug := false
  logLevel := "INFO".toList
  host := "0.0.0.0".toList
  port := 8000
  minCodeChars := 10
  maxCodeChars := 200000
  longSnippetLines := 80
  reportPreparedBy := "CodeChat Reviewer".toList

/-- A platform with room for 32 GiB, on which JSON may be nested nine hundred times. -/
def smallPlatform : Platform where
  maxDepth := 900
  room := 0x800000000
  fileObject _ := .null
  documentation _ := []
  documentationMethods := []

/-- A request without headers to a server of this name. -/
def bareRequest : Request where
  scheme := "http".toList
  server := "localhost".toList
  method := []
  path := []
  query := []
  headers := []
  body := []

/-- A loop in Go, sent with blanks around it. -/
theorem submissions_agree_loop :
    let reviewer := Reviewer.standard defaultSettings
    let code := " for i := range xs \x7b\n".toList
    let body := objectBody true "Go".toList (Text.trim code)
    Json.ofBytes? smallPlatform.maxDepth body = some (.object
        [("language".toList, .string "Go".toList), ("code".toList, .string (Text.trim code))])
      ∧ FormFits "Go".toList code
      ∧ let report := reply smallPlatform defaultSettings reviewer
          (urlencodedRequest .report bareRequest (formBody "Go".toList code))
        let print := reply smallPlatform defaultSettings reviewer
          (urlencodedRequest .print bareRequest (formBody "Go".toList code))
        let api := reply smallPlatform defaultSettings reviewer (programRequest bareRequest body)
        (∃ message, AllReject report.answer print.answer api.answer message)
          ∨ ∃ result, AllReview defaultSettings.reportPreparedBy report.answer print.answer
            api.answer result := by
  intro reviewer code body
  have hbody := objectBody_read smallPlatform.maxDepth true "Go".toList (Text.trim code)
  have hfits : FormFits "Go".toList code := by decide
  obtain ⟨report, print, -, -, hforms, hagree⟩ :=
    submissions_agree smallPlatform defaultSettings bareRequest "Go".toList code hbody
  obtain ⟨hreport, hprint⟩ := hforms hfits
  refine ⟨hbody, hfits, ?_⟩
  rwa [← hreport, ← hprint] at hagree

/-! ## A report that cannot be set on pages -/

theorem validate_manyOpeners :
    (Submission.trimCode ⟨some "Go".toList, some (List.replicate 2721 '[')⟩).validate
      defaultSettings = .ok ⟨"Go".toList, List.replicate 2721 '['⟩ := by
  rw [Submission.validate_eq_ok_iff]
  decide +kernel

/-- The row that lists very many openers is higher than a page. -/
theorem not_fits_manyOpeners : (Story.ofReview defaultSettings.reportPreparedBy
    (review defaultSettings.longSnippetLines "Go".toList (List.replicate 2721 '['))).fits
      = false := by decide +kernel

theorem formFits_manyOpeners : FormFits "Go".toList (List.replicate 2721 '[') := by
  have hopener : (Form.Urlencoded.write ['[']).length = 3 := by decide
  rw [FormFits, Form.Urlencoded.length_write_replicate, hopener]
  decide

/-- A snippet of very many openers is accepted. -/
theorem reply_manyOpeners (target : Target) :
    reply smallPlatform defaultSettings (Reviewer.standard defaultSettings)
        (urlencodedRequest target bareRequest
          (formBody "Go".toList (List.replicate 2721 '[')))
      = reportOn bareRequest.address target defaultSettings
        ⟨"Go".toList, List.replicate 2721 '['⟩
        (review defaultSettings.longSnippetLines "Go".toList (List.replicate 2721 '[')) := by
  apply reply_of_handle
  rw [handle_formBody, if_pos formFits_manyOpeners, submitForm_none, submitMerged,
    validate_manyOpeners]
  rfl

/-- A snippet of very many openers is accepted, but the row that lists them is higher than a page,
and the report to print fails. -/
theorem print_fails_of_manyOpeners :
    let body := formBody "Go".toList (List.replicate 2721 '[')
    let report := reply smallPlatform defaultSettings (Reviewer.standard defaultSettings)
      (urlencodedRequest .report bareRequest body)
    let print := reply smallPlatform defaultSettings (Reviewer.standard defaultSettings)
      (urlencodedRequest .print bareRequest body)
    report.answer.status = 200 ∧ print.answer.status = 500 := by
  intro body report print
  have hreport : report = _ := reply_manyOpeners .report
  have hprint : print = _ := reply_manyOpeners .print
  rw [hreport, hprint, reportOn_report, reportOn_eq_of_not_fits not_fits_manyOpeners]
  exact ⟨rfl, rfl⟩

end Service

end SnippetReview
