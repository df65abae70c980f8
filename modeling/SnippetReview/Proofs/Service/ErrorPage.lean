import SnippetReview.Proofs.Page.FilledForm
import SnippetReview.Proofs.Service.Delivery
import SnippetReview.Proofs.Service.Pages
import SnippetReview.Proofs.Upload.Limit

/-!
# The form after an error

A form that is not answered with what it asks for is answered with the form again, filled in with
what was sent, so that nothing has to be typed twice. How much of it had been put together decides
what is shown (`FormError`): after a file that is too large it is what was sent, after a rejection
the language and the code that were put together with the file, and after a failure the language in
normal form. All of it can be read from the page (`filledForm_of_reply`).

So a file that is too large tells no language, though it has a name; and a form that is refused as
such is answered with no page at all (`not_shown_of_tooLarge`).
-/

set_option maxRecDepth 100000

namespace SnippetReview

namespace Service

/-! ## What the form is filled in with -/

/-- What the form of an answer's page is filled in with. -/
def Answer.filledForm? (a : Answer) : Option FilledForm :=
  match a.content with
  | .page m => Page.filledForm? (Page.text m)
  | _ => none

/-- The language that the form shows: the one that is known, or C++ where none is. -/
def shownLanguage (language : Text) : Text := if language = [] then "C++".toList else language

theorem shownLanguage_ne_nil (language : Text) : shownLanguage language ≠ [] := by
  rw [shownLanguage]
  split_ifs with h
  · decide
  · exact h

/-- The form after an error tells the error. -/
theorem errorText?_formAgain (address : Text) (status : Nat) (message language code : Text) :
    (formAgain address status message language code).errorText? = some message :=
  FormPage.errorText?_markup rfl

/-- The form after an error shows the language and the code that it was made with. -/
theorem exists_filledForm_formAgain (address : Text) (status : Nat)
    (message language code : Text) :
    ∃ form, (formAgain address status message language code).filledForm? = some form
      ∧ form.Shows (shownLanguage language) code := by
  have hpage : formAgain address status message language code
      = .of status
        (.page (FormPage.markup ⟨address, some message, shownLanguage language, code⟩)) := by
    cases language <;> rfl
  rw [hpage]
  exact FormPage.exists_filledForm_markup _ (shownLanguage_ne_nil language)

/-! ## Why a form is shown again -/

/-- Why a form is shown again: the status, the message, and the language and the code that are known
by then. -/
inductive FormError (address : Text) (target : Target) (settings : Settings) (reviewer : Reviewer)
    (s : Submission) (file : Option Upload) : Nat → Text → Text → Text → Prop
  /-- The file is too large. Nothing has been put together with it. -/
  | uploadTooLarge (large : Upload.TooLarge settings file) :
      FormError address target settings reviewer s file 400
        (Rejection.uploadTooLarge settings.maxCodeChars).message (s.language.getD [])
        (s.code.getD [])
  /-- What has been put together is rejected. -/
  | rejected {reason : Rejection} (small : ¬ Upload.TooLarge settings file)
      (refused : Submission.validate settings
        ⟨some (s.mergedLanguage file), some (s.mergedCode file)⟩ = .error reason) :
      FormError address target settings reviewer s file 400 reason.message (s.mergedLanguage file)
        (s.mergedCode file)
  /-- It is accepted, but there is no review of it that can be reported on. -/
  | failed {snippet : Snippet} (small : ¬ Upload.TooLarge settings file)
      (accepted : Submission.validate settings
        ⟨some (s.mergedLanguage file), some (s.mergedCode file)⟩ = .ok snippet)
      (unreported : ∀ r, reviewer snippet = .ok r →
        target.content? address settings snippet r = none) :
      FormError address target settings reviewer s file 500 failureText
        (Language.normalize (s.mergedLanguage file)) (s.mergedCode file)

section Errors

variable {platform : Platform} {address : Text} {target : Target} {settings : Settings}
  {reviewer : Reviewer} {s : Submission} {file : Option Upload}

/-- A snippet that is not reported on is answered with the form, filled in with it. -/
theorem answer_of_unreported {merged : Submission} {snippet : Snippet}
    (hvalid : merged.validate settings = .ok snippet)
    (hunreported : ∀ r, reviewer snippet = .ok r →
      target.content? address settings snippet r = none) :
    (submitMerged address target settings reviewer merged).answer
      = formAgain address 500 failureText snippet.language snippet.code := by
  rw [submitMerged, hvalid]
  dsimp only
  cases hreview : reviewer snippet with
  | error failure => rfl
  | ok r =>
    dsimp only
    rw [reportOn, hunreported r hreview]
    rfl

theorem status_of_reported {merged : Submission} {snippet : Snippet} {r : Review}
    {content : Content} (hvalid : merged.validate settings = .ok snippet)
    (hreview : reviewer snippet = .ok r)
    (hcontent : target.content? address settings snippet r = some content) :
    (submitMerged address target settings reviewer merged).answer.status = 200 := by
  rw [submitMerged, hvalid]
  dsimp only
  rw [hreview]
  dsimp only
  rw [reportOn, hcontent]
  rfl

/-- What has been put together is reported on, or it is answered with the form. -/
theorem formError_of_submitMerged {merged : Submission}
    (hmerge : s.merge platform.room settings file = .ok merged)
    (hstatus : (submitMerged address target settings reviewer merged).answer.status ≠ 200) :
    ∃ status message language code,
      FormError address target settings reviewer s file status message language code
        ∧ (submitMerged address target settings reviewer merged).answer
          = formAgain address status message language code := by
  obtain ⟨hsmall, hlanguage, hcode⟩ := Submission.of_merge_eq_ok hmerge
  have hsame : Submission.validate settings
      ⟨some (s.mergedLanguage file), some (s.mergedCode file)⟩ = merged.validate settings := by
    rw [← hlanguage, ← hcode]
    rfl
  cases hvalid : merged.validate settings with
  | error reason =>
    refine ⟨_, _, _, _, .rejected hsmall (hsame.trans hvalid), ?_⟩
    rw [submitMerged, hvalid, ← hlanguage, ← hcode]
    rfl
  | ok snippet =>
    obtain ⟨-, -, -, -, hsnippet⟩ := Submission.validate_eq_ok_iff.1 hvalid
    have hunreported : ∀ r, reviewer snippet = .ok r →
        target.content? address settings snippet r = none := by
      intro r hreview
      cases hcontent : target.content? address settings snippet r with
      | none => rfl
      | some content => exact absurd (status_of_reported hvalid hreview hcontent) hstatus
    refine ⟨_, _, _, _, .failed hsmall (hsame.trans hvalid) hunreported, ?_⟩
    rw [answer_of_unreported hvalid hunreported, hsnippet, hlanguage, hcode]

/-- A form that is answered, but not with success, is answered with the form. -/
theorem formError_of_submitForm {sent : Reply}
    (h : submitForm platform address target settings reviewer s file = .ok sent)
    (hstatus : sent.answer.status ≠ 200) :
    ∃ status message language code,
      FormError address target settings reviewer s file status message language code
        ∧ sent.answer = formAgain address status message language code := by
  rw [submitForm] at h
  cases hmerge : s.merge platform.room settings file with
  | error e =>
    rw [hmerge] at h
    cases e with
    | unread e => cases h
    | rejected reason =>
      cases h
      obtain ⟨hlarge, rfl⟩ := Submission.of_merge_eq_rejected hmerge
      exact ⟨_, _, _, _, .uploadTooLarge hlarge, rfl⟩
  | ok merged =>
    rw [hmerge] at h
    cases h
    exact formError_of_submitMerged hmerge hstatus

end Errors

/-! ## What the page shows -/

/-- A form that is answered with a rejection or a failure loses nothing of what was sent. Unless the
form itself is refused, which is told by an object, or its handling ends with an exception, it is
answered with the form, which tells why, and holds the code and shows the language that are known by
then: what was put together from the submission and the file, or, if the file is too large, what was
sent. -/
theorem filledForm_of_reply {platform : Platform} {settings : Settings} {reviewer : Reviewer}
    {r : Request} {target : Target} (hroute : Route.find? r.method r.path = some (.form target))
    (hstatus : (reply platform settings reviewer r).answer.status = 400
      ∨ (reply platform settings reviewer r).answer.status = 500) :
    let answer := (reply platform settings reviewer r).answer
    (∀ fault, Form.fieldsOf (r.header? "content-type") r.body = .error fault →
        answer = badForm fault)
      ∧ ∀ fields, Form.fieldsOf (r.header? "content-type") r.body = .ok fields →
        (∃ message language code form,
          FormError r.address target settings reviewer fields.submission fields.upload?
            answer.status message language code
          ∧ answer.errorText? = some message
          ∧ answer.filledForm? = some form
          ∧ form.Shows (shownLanguage language) code)
        ∨ ∃ abort, handle platform settings reviewer r = .error abort
          ∧ Unserved platform settings r abort.cause := by
  intro answer
  constructor
  · intro fault hfault
    exact congrArg Reply.answer (reply_of_handle (handle_of_fault hroute hfault))
  · intro fields hfields
    cases hsent : handle platform settings reviewer r with
    | error abort => exact Or.inr ⟨abort, rfl, unserved_of_handle hsent⟩
    | ok sent =>
      have hanswer : answer = sent.answer := congrArg Reply.answer (reply_of_handle hsent)
      change answer.status = 400 ∨ answer.status = 500 at hstatus
      rw [hanswer] at hstatus ⊢
      rw [handle_of_fields hroute hfields] at hsent
      rcases submitFields_eq_ok hsent with ⟨-, hform⟩ | ⟨-, rfl⟩
      · have hfailed : sent.answer.status ≠ 200 := by
          rcases hstatus with h | h <;> simp [h]
        obtain ⟨status, message, language, code, herror, hagain⟩ :=
          formError_of_submitForm hform hfailed
        obtain ⟨form, hfilled, hshows⟩ :=
          exists_filledForm_formAgain r.address status message language code
        have hsame : sent.answer.status = status := by rw [hagain]; rfl
        refine Or.inl ⟨message, language, code, form, ?_, ?_, ?_, hshows⟩
        · rwa [hsame]
        · rw [hagain, errorText?_formAgain]
        · rw [hagain, hfilled]
      · -- fields of the wrong kind are answered with another status
        exact absurd hstatus (by decide : ¬ ((422 : Nat) = 400 ∨ (422 : Nat) = 500))

/-- A submission without a language, whose code holds markup. -/
theorem filledForm_of_reply_markup :
    let r := formRequest "code=%0A%3C%2Ftextarea%3E%26lt%3B"
    let answer := (reply smallPlatform defaultSettings (Reviewer.standard defaultSettings) r).answer
    Route.find? r.method r.path = some (.form .report)
      ∧ answer.status = 400
      ∧ ∃ form,
        answer.errorText? = some "Please select a language.".toList
        ∧ answer.filledForm? = some form
        ∧ form.code = "</textarea>&lt;".toList
        ∧ form.choices.filter Choice.selected = [⟨"C++".toList, true⟩] := by
  intro r answer
  have hroute : Route.find? r.method r.path = some (.form .report) := route_formRequest _
  have hfields : Form.fieldsOf (r.header? "content-type") r.body
      = .ok [("code".toList, .text "\n</textarea>&lt;".toList)] := by decide
  have hregular : Form.Fields.Regular [("code".toList, .text "\n</textarea>&lt;".toList)] :=
    ⟨rfl, rfl, by decide⟩
  have hsent : handle smallPlatform defaultSettings (Reviewer.standard defaultSettings) r
      = .ok (rejectForm r.address .report .noLanguage
        ⟨some [], some "</textarea>&lt;".toList⟩) := by
    rw [handle_of_regular hroute hfields hregular]
    rfl
  have hanswer : answer = (rejectForm r.address .report .noLanguage
      ⟨some [], some "</textarea>&lt;".toList⟩).answer :=
    congrArg Reply.answer (reply_of_handle hsent)
  have hstatus : answer.status = 400 := by rw [hanswer]; rfl
  obtain ⟨-, hpage⟩ := filledForm_of_reply hroute (Or.inl hstatus)
  rcases hpage _ hfields with ⟨message, language, code, form, herror, -, hform, hshows⟩ | ⟨_, h, -⟩
  · refine ⟨hroute, hstatus, form, by rw [hanswer]; exact errorText?_rejectForm _ _ _ _, hform, ?_⟩
    change FormError _ .report defaultSettings _ ⟨some [], some "\n</textarea>&lt;".toList⟩ none
      answer.status message language code at herror
    rw [hstatus] at herror
    cases herror with
    | uploadTooLarge large =>
      obtain ⟨f, hfile, -⟩ := large
      cases hfile
    | rejected => exact ⟨hshows.code_eq, hshows.selected_of_offered (by decide)⟩
  · rw [hsent] at h
    cases h

/-- A form in which a file is sent whose name tells its language, and one byte more than there may
be where ten characters are admitted. -/
def largeFileRequest : Request :=
  { bareRequest with
    method := "POST".toList
    path := Site.reportPath
    headers := [("Content-Type".toList, "multipart/form-data; boundary=b".toList)]
    body := Utf8.encode ("--b\r\nContent-Disposition: form-data; name=\"snippet_file\"; ".toList
      ++ "filename=\"main.py\"\r\n\r\n".toList ++ List.replicate 41 'a' ++ "\r\n--b--\r\n".toList) }

/-- A language that is too long for a field. -/
def longLanguage : Text := List.replicate 1048577 'x'

theorem reply_longLanguage (target : Target) (code : Text) :
    reply smallPlatform defaultSettings (Reviewer.standard defaultSettings)
        (urlencodedRequest target bareRequest (formBody longLanguage code))
      = ⟨badForm .longField, []⟩ := by
  have hlength : (Form.Urlencoded.write longLanguage).length = 1048577 := by
    have hletter : (Form.Urlencoded.write ['x']).length = 1 := by decide
    rw [longLanguage, Form.Urlencoded.length_write_replicate, hletter, Nat.mul_one]
  apply reply_of_handle
  rw [handle_formBody, if_neg]
  rw [FormFits, hlength, Form.maxTextBytes, Form.kibibyte]
  omega

/-- The name of a file that is too large tells its language, but the language that is offered first
is selected; and a form with a field that is too long is answered with a rejection that is no
page. -/
theorem not_shown_of_tooLarge :
    (∃ fields form,
        Route.find? largeFileRequest.method largeFileRequest.path = some (.form .report)
        ∧ Form.fieldsOf (largeFileRequest.header? "content-type") largeFileRequest.body = .ok fields
        ∧ fields.submission.mergedLanguage fields.upload? = "Python".toList
        ∧ let answer := (reply smallPlatform Upload.tenCharSettings
            (Reviewer.standard Upload.tenCharSettings) largeFileRequest).answer
          answer.status = 400
          ∧ answer.filledForm? = some form
          ∧ form.choices.filter Choice.selected = [⟨"C++".toList, true⟩])
      ∧ let answer := (reply smallPlatform defaultSettings (Reviewer.standard defaultSettings)
          (urlencodedRequest .report bareRequest (formBody longLanguage "x".toList))).answer
        answer.status = 400 ∧ answer.filledForm? = none := by
  constructor
  · have hroute : Route.find? largeFileRequest.method largeFileRequest.path
        = some (.form .report) := by decide
    have hfields : Form.fieldsOf (largeFileRequest.header? "content-type") largeFileRequest.body
        = .ok [("snippet_file".toList,
          .file ⟨some "main.py".toList, List.replicate 41 97, .memory⟩)] := by decide +kernel
    have hregular : Form.Fields.Regular [("snippet_file".toList,
        .file ⟨some "main.py".toList, List.replicate 41 97, .memory⟩)] := ⟨rfl, rfl, rfl⟩
    have hsent : reply smallPlatform Upload.tenCharSettings
        (Reviewer.standard Upload.tenCharSettings) largeFileRequest
          = rejectForm largeFileRequest.address .report (.uploadTooLarge 10)
            ⟨some [], some []⟩ := by
      apply reply_of_handle
      rw [handle_of_regular hroute hfields hregular]
      rfl
    obtain ⟨form, hform, hshows⟩ := exists_filledForm_formAgain largeFileRequest.address 400
      (Rejection.uploadTooLarge 10).message [] []
    refine ⟨_, form, hroute, hfields, by decide, ?_⟩
    rw [hsent]
    exact ⟨rfl, hform, hshows.selected_of_offered (by decide)⟩
  · rw [reply_longLanguage]
    exact ⟨rfl, rfl⟩

end Service

end SnippetReview
