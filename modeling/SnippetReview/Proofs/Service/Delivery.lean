import SnippetReview.Proofs.Service.Agreement

/-!
# What is sent is what is submitted

A language and code arrive as they were sent, whatever characters they hold: written as JSON, with
characters outside ASCII escaped or not, and written in a URL-encoded form (`reply_written`). Only a
field of a form that is longer than a field may be keeps the form from being answered like the
submission that it was written for (`reply_paddedLanguage`).
-/

namespace SnippetReview

namespace Service

/-- A language and code are delivered as they were sent. A JSON object is answered by validating
and reviewing exactly them, however its characters were written. A URL-encoded form is answered as
the submission of exactly them without a file is, if no field is longer than a field may be, and is
refused if one is. -/
theorem reply_written (platform : Platform) (settings : Settings) (reviewer : Reviewer)
    (r : Request) (language code : Text) :
    (∀ ascii, reply platform settings reviewer (programRequest r (objectBody ascii language code))
        = submitRead settings reviewer ⟨some language, some code⟩ Json.ofReview)
      ∧ ∀ target,
        let sent := reply platform settings reviewer
          (urlencodedRequest target r (formBody language code))
        if FormFits language code then
          submitForm platform r.address target settings reviewer ⟨some language, some code⟩ none
            = .ok sent
        else sent = ⟨badForm .longField, []⟩ := by
  constructor
  · intro ascii
    exact reply_objectBody ascii r language code
  · intro target sent
    have hhandle : handle platform settings reviewer
        (urlencodedRequest target r (formBody language code)) = _ :=
      handle_formBody target r language code
    split_ifs with hfits
    · rw [if_pos hfits, submitForm_none] at hhandle
      rw [submitForm_none, ← reply_of_handle hhandle]
    · rw [if_neg hfits] at hhandle
      exact reply_of_handle hhandle

/-! ## A field that is too long -/

theorem blank_replicate (n : Nat) : Text.Blank (List.replicate n ' ') := by
  intro c hc
  rw [List.eq_of_mem_replicate hc]
  decide

/-- Blanks after the name of a language do not matter to what is accepted. -/
theorem acceptedAs_padded (room : Int) (n : Nat) :
    Submission.AcceptedAs room defaultSettings none
      ⟨some ("Go".toList ++ List.replicate n ' '), some "for i := range xs \x7b".toList⟩
      ⟨"Go".toList, "for i := range xs \x7b".toList⟩ := by
  have htrim : Text.trim ("Go".toList ++ List.replicate n ' ') = "Go".toList := by
    rw [Text.trim_append_blank (blank_replicate n)]
    decide
  have hsolid : Text.isBlankText ("Go".toList ++ List.replicate n ' ') = false := by
    rw [Text.isBlankText, htrim]
    rfl
  have hnormal : Language.normalize ("Go".toList ++ List.replicate n ' ') = "Go".toList := by
    rw [Language.normalize, htrim]
    decide
  refine ⟨_, Submission.merge_none _ _ _, Submission.validate_eq_ok_iff.2 ⟨hsolid, ?_⟩⟩
  simp only [Submission.trimCode, Option.getD_some, hnormal]
  decide

/-- The name of a language may have so many blanks after it that the form is refused, though a
submission of the two texts is answered with a report. -/
theorem reply_paddedLanguage :
    let language : Text := "Go".toList ++ List.replicate 1048577 ' '
    let code : Text := "for i := range xs \x7b".toList
    let reviewer := Reviewer.standard defaultSettings
    ∃ direct,
      submitForm smallPlatform bareRequest.address .report defaultSettings reviewer
        ⟨some language, some code⟩ none = .ok direct
      ∧ direct.answer.status = 200
      ∧ reply smallPlatform defaultSettings reviewer
          (urlencodedRequest .report bareRequest (formBody language code))
        = ⟨badForm .longField, []⟩
      ∧ (badForm .longField).status = 400 := by
  intro language code reviewer
  have hlong : ¬ FormFits language code := by
    have hblank : (Form.Urlencoded.write [' ']).length = 1 := by decide
    rw [FormFits, Form.Urlencoded.write_append, List.length_append,
      Form.Urlencoded.length_write_replicate, hblank, Form.maxTextBytes, Form.kibibyte]
    omega
  have hrefused : handle smallPlatform defaultSettings reviewer
      (urlencodedRequest .report bareRequest (formBody language code)) = _ :=
    handle_formBody .report bareRequest language code
  rw [if_neg hlong] at hrefused
  exact ⟨_, submitForm_of_accepted (acceptedAs_padded _ 1048577) rfl _ .report, rfl,
    reply_of_handle hrefused, rfl⟩

end Service

end SnippetReview
