import SnippetReview.Proofs.Form.Urlencoded
import SnippetReview.Proofs.Json.Encoding
import SnippetReview.Proofs.Json.Writing
import SnippetReview.Proofs.Service.Outcome
import SnippetReview.Service.Route

/-!
# Requests that are served

The handling of a request ends with an exception only if a file cannot be read or if what is to be
sent holds a lone surrogate. So a form whose fields are regular is answered like its submission and
its file (`handle_of_regular`), and a body in which a program names a language and code without
lone surrogates like their submission (`reply_of_object`). Both hold of what is written for a
language and code, as a URL-encoded form (`handle_formBody`) and as JSON (`reply_objectBody`).
-/

namespace SnippetReview

/-- The fields of a form are of the kinds that are asked for, and no lone surrogates stand in the
texts that are looked at. -/
structure Form.Fields.Regular (fields : Form.Fields) : Prop where
  fit : fields.misfits = []
  language : (fields.points "language").hasSurrogate = false
  code : (fields.points "code").hasSurrogate = false

namespace Service

/-! ## What has a form in UTF-8 -/

section Encoded

variable {sent : Reply} {marks : RawText}

theorem Reply.encoded_of_encodeError?_eq_none
    (h : sent.answer.content.encodeError? marks = none) : sent.encoded marks = .ok sent := by
  rw [Reply.encoded, h]

/-- Sending changes nothing in a reply. -/
theorem Reply.eq_of_encoded {sent' : Reply} (h : sent.encoded marks = .ok sent') :
    sent' = sent := by
  rw [Reply.encoded] at h
  split at h
  · cases h
  · exact (Except.ok.inj h).symm

theorem Reply.encoded_of_json {v : Json} (h : sent.answer.content = .json v)
    (hv : v.write.hasSurrogate = false) (marks : RawText) : sent.encoded marks = .ok sent := by
  refine Reply.encoded_of_encodeError?_eq_none ?_
  rw [h]
  exact RawText.encodeError?_eq_none_iff.2 hv

/-- A value that holds a lone surrogate cannot be sent. -/
theorem Reply.encoded_of_hasSurrogate {v : Json} (h : sent.answer.content = .json v)
    (hv : v.write.hasSurrogate = true) (marks : RawText) :
    ∃ e, sent.encoded marks = .error ⟨.unencodable e, sent.records⟩ := by
  cases he : v.write.encodeError? with
  | none => rw [RawText.encodeError?_eq_none_iff.1 he] at hv; cases hv
  | some e => exact ⟨e, by rw [Reply.encoded, h, Content.encodeError?, he]⟩

/-- A page in which no lone surrogates are put back can be sent. -/
theorem Reply.encoded_of_marks (hmarks : ∀ m ∈ marks, m.legible = Utf8.replacement)
    (hnone : marks.hasSurrogate = false) (h : ∀ v, sent.answer.content ≠ .json v) :
    sent.encoded marks = .ok sent := by
  refine Reply.encoded_of_encodeError?_eq_none ?_
  cases hcontent : sent.answer.content with
  | json v => exact absurd hcontent (h v)
  | page m =>
    rw [Content.encodeError?, RawText.encodeError?_eq_none_iff, RawText.restore_eq_of hmarks hnone,
      RawText.hasSurrogate_of]
  | _ => rfl

end Encoded

variable {platform : Platform} {address : Text} {target : Target} {settings : Settings}
  {reviewer : Reviewer}

/-! ## Forms -/

theorem Outcome.content_ne_json {s : Submission} {file : Option Upload} {sent : Reply}
    (h : Outcome platform address target settings reviewer s file sent) (v : Json) :
    sent.answer.content ≠ .json v := by
  cases h with
  | rejected => exact Content.noConfusion
  | failed => exact Content.noConfusion
  | @reported snippet r =>
    rw [reportOn]
    cases target with
    | report => exact Content.noConfusion
    | print =>
      rw [Target.content?]
      cases (Story.ofReview settings.reportPreparedBy r).fits <;> exact Content.noConfusion

theorem legible_of_mem_pageMarks {fields : Form.Fields} {a : Answer} :
    ∀ m ∈ pageMarks fields a, m.legible = Utf8.replacement := by
  intro m hm
  rw [pageMarks] at hm
  split_ifs at hm
  · simp only [List.mem_append, or_assoc, or_self_left] at hm
    rcases hm with hm | hm | hm
    all_goals exact RawText.legible_of_mem_marks (by assumption)
  · exact RawText.legible_of_mem_marks hm

theorem hasSurrogate_pageMarks {fields : Form.Fields} (h : fields.Regular) (a : Answer) :
    (pageMarks fields a).hasSurrogate = false := by
  obtain ⟨-, hlanguage, hcode⟩ := h
  rw [← RawText.hasSurrogate_marks] at hlanguage hcode
  rw [pageMarks]
  split_ifs
  · simp [hlanguage, hcode]
  · exact hcode

/-- Regular fields are answered like the submission and the file that they bring. -/
theorem submitFields_of_regular {fields : Form.Fields} (h : fields.Regular) :
    submitFields platform address target settings reviewer fields
      = submitForm platform address target settings reviewer fields.submission fields.upload? := by
  rw [submitFields, h.fit]
  cases hsent : submitForm platform address target settings reviewer fields.submission
      fields.upload? with
  | error abort => rfl
  | ok sent =>
    exact Reply.encoded_of_marks legible_of_mem_pageMarks (hasSurrogate_pageMarks h _)
      (outcome_of_submitForm hsent).content_ne_json

/-- Fields that are answered come to what their submission and their file come to, or are of the
wrong kind. -/
theorem submitFields_eq_ok {fields : Form.Fields} {sent : Reply}
    (h : submitFields platform address target settings reviewer fields = .ok sent) :
    (fields.misfits = []
        ∧ submitForm platform address target settings reviewer fields.submission fields.upload?
          = .ok sent)
      ∨ (fields.misfits ≠ [] ∧ sent = rejectMisfits platform fields.misfits) := by
  rw [submitFields] at h
  split at h
  · next hfit =>
    split at h
    · next hsent =>
      rw [Reply.eq_of_encoded h]
      exact Or.inl ⟨hfit, hsent⟩
    · cases h
  · next hmisfit => exact Or.inr ⟨hmisfit, Reply.eq_of_encoded h⟩

section Form

variable {r : Request} (hroute : Route.find? r.method r.path = some (.form target))

include hroute

theorem handle_of_fault {fault : Form.Fault}
    (h : Form.fieldsOf (r.header? "content-type") r.body = .error fault) :
    handle platform settings reviewer r = .ok ⟨badForm fault, []⟩ := by
  rw [handle, hroute]
  simp only [Route.handle, h]

theorem handle_of_fields {fields : Form.Fields}
    (h : Form.fieldsOf (r.header? "content-type") r.body = .ok fields) :
    handle platform settings reviewer r
      = submitFields platform r.address target settings reviewer fields := by
  rw [handle, hroute]
  simp only [Route.handle, h]

/-- A form with regular fields is answered like the submission and the file that they bring. -/
theorem handle_of_regular {fields : Form.Fields}
    (h : Form.fieldsOf (r.header? "content-type") r.body = .ok fields) (hregular : fields.Regular) :
    handle platform settings reviewer r
      = submitForm platform r.address target settings reviewer fields.submission
        fields.upload? := by
  rw [handle_of_fields hroute h, submitFields_of_regular hregular]

end Form

theorem reply_of_handle {r : Request} {sent : Reply}
    (h : handle platform settings reviewer r = .ok sent) :
    reply platform settings reviewer r = sent := by
  rw [reply, h, settle]

/-- A form that is answered with success is answered like the submission and the file that it
brings. -/
theorem exists_fields_of_status {r : Request}
    (hroute : Route.find? r.method r.path = some (.form target))
    (hstatus : (reply platform settings reviewer r).answer.status = 200) :
    ∃ fields, Form.fieldsOf (r.header? "content-type") r.body = .ok fields
      ∧ fields.misfits = []
      ∧ submitForm platform r.address target settings reviewer fields.submission fields.upload?
        = .ok (reply platform settings reviewer r) := by
  -- whatever keeps the submission from being looked at is answered with another status
  cases hfields : Form.fieldsOf (r.header? "content-type") r.body with
  | error fault =>
    rw [reply_of_handle (handle_of_fault hroute hfields)] at hstatus
    exact absurd hstatus (by decide : ¬ (400 : Nat) = 200)
  | ok fields =>
    cases hsent : handle platform settings reviewer r with
    | error abort =>
      rw [reply, hsent] at hstatus
      exact absurd hstatus (by decide : ¬ (500 : Nat) = 200)
    | ok sent =>
      rw [reply_of_handle hsent] at hstatus ⊢
      rw [handle_of_fields hroute hfields] at hsent
      rcases submitFields_eq_ok hsent with ⟨hfit, hform⟩ | ⟨-, rfl⟩
      · exact ⟨fields, rfl, hfit, hform⟩
      · exact absurd hstatus (by decide : ¬ (422 : Nat) = 200)

/-! ## Bodies of programs -/

/-- A request that brings a body to the path for programs. -/
def programRequest (r : Request) (body : Bytes) : Request :=
  { r with method := "POST".toList, path := Site.apiPath, body := body }

theorem reply_programRequest (r : Request) (body : Bytes) :
    reply platform settings reviewer (programRequest r body)
      = settle ((submitBody platform settings reviewer body).encoded []) := by
  have hroute : Route.find? "POST".toList Site.apiPath = some .api := by decide
  rw [reply, handle, programRequest, hroute]
  rfl

/-- An answer to a submission can be sent, if the review of it can. -/
theorem encoded_submitRead {s : Submission} {payload : Review → Json}
    (h : ∀ snippet r, s.validate settings = .ok snippet → reviewer snippet = .ok r →
      (payload r).write.hasSurrogate = false) (marks : RawText) :
    (submitRead settings reviewer s payload).encoded marks
      = .ok (submitRead settings reviewer s payload) := by
  have herror : ∀ message, (errorObject message).write.hasSurrogate = false := by
    intro message
    simp [errorObject]
  rw [submitRead]
  cases hvalid : s.validate settings with
  | error reason => exact Reply.encoded_of_json rfl (herror _) marks
  | ok snippet =>
    dsimp only
    cases hreview : reviewer snippet with
    | error failure => exact Reply.encoded_of_json rfl (herror _) marks
    | ok r => exact Reply.encoded_of_json rfl (h snippet r hvalid hreview) marks

theorem submitBody_of_object {body : Bytes} {members : List (Text × Json)}
    (h : Json.ofBytes? platform.maxDepth body = some (.object members)) :
    submitBody platform settings reviewer body
      = submitRead settings reviewer (submissionOf members)
        (Json.ofReviewOf (pointsOf members "language") (pointsOf members "code")) := by
  rw [submitBody, h]
  rfl

theorem submitBody_of_no_object {body : Bytes}
    (h : ∀ members, Json.ofBytes? platform.maxDepth body ≠ some (.object members)) :
    submitBody platform settings reviewer body
      = ⟨.of 400 (.json (errorObject badPayloadText)), []⟩ := by
  have hnone : (Json.ofBytes? platform.maxDepth body).bind Json.members? = none := by
    cases hread : Json.ofBytes? platform.maxDepth body with
    | none => rfl
    | some value =>
      cases value with
      | object members => exact absurd hread (h members)
      | _ => rfl
  rw [submitBody, hnone]

/-- A language and code without lone surrogates that a program sends are validated and reviewed. -/
theorem reply_of_object {body : Bytes} {members : List (Text × Json)}
    (h : Json.ofBytes? platform.maxDepth body = some (.object members))
    (hlanguage : (pointsOf members "language").hasSurrogate = false)
    (hcode : (pointsOf members "code").hasSurrogate = false) (r : Request) :
    reply platform settings reviewer (programRequest r body)
      = submitRead settings reviewer (submissionOf members) Json.ofReview := by
  rw [reply_programRequest, submitBody_of_object h, Json.ofReviewOf_eq hlanguage hcode,
    encoded_submitRead fun _ r _ _ => Json.hasSurrogate_write_ofReview r, settle]

/-- The members of an object that holds a language and code. -/
theorem submissionOf_members (language code : Text) :
    submissionOf [("language".toList, .string language), ("code".toList, .string code)]
      = ⟨some language, some code⟩ := rfl

/-- A language and code that a program sends as an object are validated and reviewed. -/
theorem reply_of_members {body : Bytes} {language code : Text}
    (h : Json.ofBytes? platform.maxDepth body = some (.object
      [("language".toList, .string language), ("code".toList, .string code)])) (r : Request) :
    reply platform settings reviewer (programRequest r body)
      = submitRead settings reviewer ⟨some language, some code⟩ Json.ofReview := by
  rw [reply_of_object h (RawText.hasSurrogate_of language) (RawText.hasSurrogate_of code),
    submissionOf_members]

/-! ## Requests that are not served -/

/-- Why the handling of a request ends with an exception. -/
inductive Unserved (platform : Platform) (settings : Settings) (r : Request) : Crash → Prop
  /-- The file of a form cannot be read. -/
  | unread {target : Target} {fields : Form.Fields} {file : Upload} {e : Upload.ReadError}
      (route : Route.find? r.method r.path = some (.form target))
      (read : Form.fieldsOf (r.header? "content-type") r.body = .ok fields)
      (upload : fields.upload? = some file) (named : file.isNamed = true)
      (error : file.storage.readError? platform.room (Upload.readSize settings) = some e) :
      Unserved platform settings r (.unread e)
  /-- The fields of a form are not regular. -/
  | irregular {target : Target} {fields : Form.Fields} {e : RawText.EncodeError}
      (route : Route.find? r.method r.path = some (.form target))
      (read : Form.fieldsOf (r.header? "content-type") r.body = .ok fields)
      (irregular : ¬ fields.Regular) : Unserved platform settings r (.unencodable e)
  /-- A lone surrogate stands in the language or code that a program sends. -/
  | surrogate {members : List (Text × Json)} {e : RawText.EncodeError}
      (route : Route.find? r.method r.path = some .api)
      (read : Json.ofBytes? platform.maxDepth r.body = some (.object members))
      (surrogate : ((pointsOf members "language").hasSurrogate
        || (pointsOf members "code").hasSurrogate) = true) :
      Unserved platform settings r (.unencodable e)

theorem exists_readError?_of_merge {room : Int} {s : Submission} {file : Option Upload}
    {e : Upload.ReadError} (h : s.merge room settings file = .error (.unread e)) :
    ∃ f, file = some f ∧ f.isNamed = true
      ∧ f.storage.readError? room (Upload.readSize settings) = some e := by
  rw [Submission.merge] at h
  split at h
  · cases h
  · next f hf =>
    obtain ⟨hfile, hnamed⟩ := Option.filter_eq_some_iff.1 hf
    split at h
    · next hread =>
      cases h
      exact ⟨f, hfile, hnamed, hread⟩
    · split_ifs at h
      cases h

/-- What ends the sending of a reply is that it has no form in UTF-8. -/
theorem Reply.cause_of_encoded {sent : Reply} {marks : RawText} {abort : Abort}
    (h : sent.encoded marks = .error abort) : ∃ e, abort.cause = .unencodable e := by
  rw [Reply.encoded] at h
  split at h
  · next e _ =>
    cases h
    exact ⟨e, rfl⟩
  · cases h

/-- What ends the handling of fields is that their file cannot be read or that they are not
regular. -/
theorem submitFields_eq_error {fields : Form.Fields} {abort : Abort}
    (h : submitFields platform address target settings reviewer fields = .error abort) :
    submitForm platform address target settings reviewer fields.submission fields.upload?
        = .error abort
      ∨ ¬ fields.Regular ∧ ∃ e, abort.cause = .unencodable e := by
  by_cases hregular : fields.Regular
  · rw [submitFields_of_regular hregular] at h
    exact Or.inl h
  -- a file may fail to be read before it matters that the fields are not regular
  rw [submitFields] at h
  split at h
  · split at h
    · exact Or.inr ⟨hregular, Reply.cause_of_encoded h⟩
    · next hform => exact Or.inl (hform.trans h)
  · exact Or.inr ⟨hregular, Reply.cause_of_encoded h⟩

section Unserved

variable {r : Request} {abort : Abort}

theorem unserved_of_submitForm (hroute : Route.find? r.method r.path = some (.form target))
    {fields : Form.Fields}
    (hread : Form.fieldsOf (r.header? "content-type") r.body = .ok fields)
    (h : submitForm platform address target settings reviewer fields.submission fields.upload?
      = .error abort) : Unserved platform settings r abort.cause := by
  rw [submitForm] at h
  split at h
  · cases h
  · next e hmerge =>
    cases h
    obtain ⟨file, hupload, hnamed, herror⟩ := exists_readError?_of_merge hmerge
    exact .unread hroute hread hupload hnamed herror
  · cases h

theorem unserved_of_submitFields (hroute : Route.find? r.method r.path = some (.form target))
    {fields : Form.Fields}
    (hread : Form.fieldsOf (r.header? "content-type") r.body = .ok fields)
    (h : submitFields platform address target settings reviewer fields = .error abort) :
    Unserved platform settings r abort.cause := by
  rcases submitFields_eq_error h with hform | ⟨hirregular, e, he⟩
  · exact unserved_of_submitForm hroute hread hform
  · rw [he]
    exact .irregular hroute hread hirregular

theorem unserved_of_program (hroute : Route.find? r.method r.path = some .api)
    (h : (submitBody platform settings reviewer r.body).encoded [] = .error abort) :
    Unserved platform settings r abort.cause := by
  obtain ⟨e, he⟩ := Reply.cause_of_encoded h
  by_cases hobject : ∃ members, Json.ofBytes? platform.maxDepth r.body = some (.object members)
  · obtain ⟨members, hread⟩ := hobject
    rw [he]
    refine .surrogate hroute hread ?_
    by_contra hnone
    rw [Bool.not_eq_true, Bool.or_eq_false_iff] at hnone
    rw [submitBody_of_object hread, Json.ofReviewOf_eq hnone.1 hnone.2,
      encoded_submitRead fun _ r _ _ => Json.hasSurrogate_write_ofReview r] at h
    cases h
  · rw [submitBody_of_no_object (not_exists.1 hobject),
      Reply.encoded_of_json rfl (by simp [errorObject])] at h
    cases h

/-- The handling of a request ends with an exception for these reasons alone. -/
theorem unserved_of_handle (h : handle platform settings reviewer r = .error abort) :
    Unserved platform settings r abort.cause := by
  rw [handle] at h
  cases hroute : Route.find? r.method r.path with
  | none => rw [hroute] at h; cases h
  | some route =>
    rw [hroute] at h
    cases route with
    | form target =>
      cases hread : Form.fieldsOf (r.header? "content-type") r.body with
      | error fault => simp only [Route.handle, hread] at h; cases h
      | ok fields =>
        simp only [Route.handle, hread] at h
        exact unserved_of_submitFields hroute hread h
    | api => exact unserved_of_program hroute h
    | _ => cases h

end Unserved

/-! ## What is written for a language and code -/

/-- What is written for a language and code, by name. -/
def namedFields (language code : Text) : List (Text × Text) :=
  [("language".toList, language), ("code".toList, code)]

/-- A language and code as a JSON object in UTF-8. -/
def objectBody (ascii : Bool) (language code : Text) : Bytes :=
  Utf8.encode (Json.writeObject ascii (namedFields language code))

/-- A language and code as a URL-encoded form. -/
def formBody (language code : Text) : Bytes :=
  Bytes.ofLatin1 "language=".toList ++ Form.Urlencoded.write language
    ++ Bytes.ofLatin1 "&code=".toList ++ Form.Urlencoded.write code

/-- A request that brings a URL-encoded form. -/
def urlencodedRequest (target : Target) (r : Request) (body : Bytes) : Request :=
  { r with
    method := "POST".toList
    path := target.path
    headers := ("content-type".toList, "application/x-www-form-urlencoded".toList) :: r.headers
    body := body }

/-- Neither the language nor the code is longer in a URL-encoded form than a field may be. -/
def FormFits (language code : Text) : Prop :=
  "language".length + (Form.Urlencoded.write language).length ≤ Form.maxTextBytes
    ∧ "code".length + (Form.Urlencoded.write code).length ≤ Form.maxTextBytes

instance (language code : Text) : Decidable (FormFits language code) :=
  inferInstanceAs (Decidable (_ ∧ _))

theorem formBody_eq_writeForm (language code : Text) :
    formBody language code = Form.Urlencoded.writeForm (namedFields language code) := by
  have hlanguage : Bytes.ofLatin1 "language=".toList
      = Form.Urlencoded.write "language".toList ++ [Form.Urlencoded.equals] := by decide
  have hcode : Bytes.ofLatin1 "&code=".toList = Form.Urlencoded.ampersand
      :: Form.Urlencoded.write "code".toList ++ [Form.Urlencoded.equals] := by decide
  rw [formBody, hlanguage, hcode, Form.Urlencoded.writeForm, namedFields]
  simp [joinPieces, Form.Urlencoded.writeField, List.intercalate]

theorem all_fits_namedFields (language code : Text) :
    (namedFields language code).all Form.Urlencoded.fits = true ↔ FormFits language code := by
  have hlanguage : (Form.Urlencoded.write "language".toList).length = "language".length := by decide
  have hcode : (Form.Urlencoded.write "code".toList).length = "code".length := by decide
  rw [namedFields, List.all_cons, List.all_cons, List.all_nil, Bool.and_true, Bool.and_eq_true,
    Form.Urlencoded.fits_eq_true_iff, Form.Urlencoded.fits_eq_true_iff, hlanguage, hcode, FormFits]

theorem route_post (target : Target) :
    Route.find? "POST".toList target.path = some (.form target) := by
  cases target <;> decide

/-- The fields of a form that has been written are regular. -/
theorem regular_namedFields (language code : Text) :
    Form.Fields.Regular ((namedFields language code).map fun f => (f.1, .text f.2)) :=
  ⟨rfl, RawText.hasSurrogate_of language, RawText.hasSurrogate_of code⟩

/-- A form that has been written is answered like the submission that it was written for, unless a
field of it is too long. -/
theorem handle_formBody (target : Target) (r : Request) (language code : Text) :
    handle platform settings reviewer (urlencodedRequest target r (formBody language code))
      = if FormFits language code then
          submitForm platform r.address target settings reviewer ⟨some language, some code⟩ none
        else .ok ⟨badForm .longField, []⟩ := by
  have hroute : Route.find? (urlencodedRequest target r (formBody language code)).method
      (urlencodedRequest target r (formBody language code)).path = some (.form target) :=
    route_post target
  have hfew : (namedFields language code).length ≤ Form.maxFields := by
    simp [namedFields, Form.maxFields]
  have hread := Form.fieldsOf_writeForm hfew
  rw [← formBody_eq_writeForm] at hread
  split_ifs with hfits
  · rw [if_pos ((all_fits_namedFields language code).2 hfits)] at hread
    exact handle_of_regular hroute hread (regular_namedFields language code)
  · rw [if_neg (mt (all_fits_namedFields language code).1 hfits)] at hread
    exact handle_of_fault hroute hread

theorem objectBody_read (maxDepth : Nat) (ascii : Bool) (language code : Text) :
    Json.ofBytes? maxDepth (objectBody ascii language code) = some (.object
      [("language".toList, .string language), ("code".toList, .string code)]) :=
  Json.ofBytes?_writeObject maxDepth ascii _ _

/-- An object that has been written is answered like the submission that it was written for. -/
theorem reply_objectBody (ascii : Bool) (r : Request) (language code : Text) :
    reply platform settings reviewer (programRequest r (objectBody ascii language code))
      = submitRead settings reviewer ⟨some language, some code⟩ Json.ofReview :=
  reply_of_members (objectBody_read platform.maxDepth ascii language code) r

end Service

end SnippetReview
