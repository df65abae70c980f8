import SnippetReview.Proofs.Service.Agreement
import SnippetReview.Proofs.Upload

/-!
# Files and pasted text

A form that is sent with a file is answered as if the text of the file had been pasted, where no
code was, and the language that its name tells had been chosen, where none was
(`submitForm_upload`): the answers and the records are the same. So a file counts for nothing but
its name where code was pasted.

That holds of files that can be read. The number of bytes that are asked for follows from the limit
alone, so where the limit is huge, a short file cannot be read either if it has been put aside on a
disk (`upload_fails_of_hugeLimit`).
-/

namespace SnippetReview

namespace Service

/-- A form is answered with a file as another without one, if both come to the same. -/
theorem submitForm_of_merge_eq {platform : Platform} {settings : Settings} {s t : Submission}
    {file : Option Upload}
    (h : s.merge platform.room settings file = t.merge platform.room settings none)
    (address : Text) (target : Target) (reviewer : Reviewer) :
    submitForm platform address target settings reviewer s file
      = submitForm platform address target settings reviewer t none := by
  rw [submitForm, submitForm, h, Submission.merge_none]

/-- A file that can be read counts like its text, pasted, and the language that its name tells. -/
theorem submitForm_file {platform : Platform} {settings : Settings} {file : Upload} {name : Text}
    (hname : file.fileName = some name) (hnonempty : name ≠ [])
    (hreadable : file.Readable platform.room settings) (address : Text) (target : Target)
    (reviewer : Reviewer) (language code : Text) :
    submitForm platform address target settings reviewer ⟨some language, some code⟩ (some file)
      = submitForm platform address target settings reviewer
        ⟨some (Upload.languageOr name language), some (Upload.codeOr file.data code)⟩ none := by
  have hnamed : file.isNamed = true := by
    rw [Upload.isNamed, hname, Option.any_some, Bool.not_eq_true', List.isEmpty_eq_false_iff]
    exact hnonempty
  have hmerge := Submission.merge_file hnamed hreadable ⟨some language, some code⟩
  rw [Submission.fillFrom_named hname] at hmerge
  exact submitForm_of_merge_eq hmerge address target reviewer

/-- A form with a file that can be read is answered like the form without a file where the code is
that of the file, if none was pasted, and the language is the one that the name of the file tells,
if it tells one and none was chosen. Where code was pasted, any other file of that name does as
well. A file that was written in UTF-8 counts like what was written to it, without byte order marks
at the start. So a request that brings language, code and file in a form is answered like one that
brings the other language and code URL-encoded, if neither is too long for a field. -/
theorem submitForm_upload (platform : Platform) (target : Target) {settings : Settings}
    (reviewer : Reviewer) {file : Upload} {name : Text} (hname : file.fileName = some name)
    (hnonempty : name ≠ []) (hreadable : file.Readable platform.room settings) (r : Request)
    (language code : Text) :
    ∃ sent,
      submitForm platform r.address target settings reviewer ⟨some language, some code⟩ (some file)
        = .ok sent
      ∧ submitForm platform r.address target settings reviewer
          ⟨some (Upload.languageOr name language), some (Upload.codeOr file.data code)⟩ none
        = .ok sent
      ∧ (Text.isBlankText code = false →
          ∀ other : Upload, other.fileName = some name → other.Readable platform.room settings →
            submitForm platform r.address target settings reviewer ⟨some language, some code⟩
              (some other) = .ok sent)
      ∧ (Text.isBlankText code = true → ∀ written, file.data = Utf8.encode written →
          submitForm platform r.address target settings reviewer
            ⟨some (Upload.languageOr name language),
              some (written.dropWhile (· == Upload.byteOrderMark))⟩ none
            = .ok sent)
      ∧ (∀ fields : Form.Fields, Route.find? r.method r.path = some (.form target) →
          Form.fieldsOf (r.header? "content-type") r.body = .ok fields → fields.Regular →
          fields.text "language" = language → fields.text "code" = code →
          fields.upload? = some file → reply platform settings reviewer r = sent)
      ∧ (FormFits (Upload.languageOr name language) (Upload.codeOr file.data code) →
          reply platform settings reviewer (urlencodedRequest target r
            (formBody (Upload.languageOr name language) (Upload.codeOr file.data code)))
            = sent) := by
  have hpasted := submitForm_none platform r.address target settings reviewer
    ⟨some (Upload.languageOr name language), some (Upload.codeOr file.data code)⟩
  have hfile := submitForm_file hname hnonempty hreadable r.address target reviewer language code
  rw [hpasted] at hfile
  refine ⟨_, hfile, hpasted, ?_, ?_, ?_, ?_⟩
  · intro hcode other hother hreadable'
    have hsame : Upload.codeOr other.data code = Upload.codeOr file.data code := by
      rw [Upload.codeOr, Upload.codeOr, hcode]
      rfl
    rw [submitForm_file hother hnonempty hreadable', hsame, hpasted]
  · intro hcode written hdata
    have htext : Upload.codeOr file.data code
        = written.dropWhile (· == Upload.byteOrderMark) := by
      rw [Upload.codeOr, if_pos hcode, hdata, Upload.decode_encode]
    rw [← htext, hpasted]
  · rintro fields hroute hfields hregular rfl rfl hupload
    apply reply_of_handle
    rw [handle_of_regular hroute hfields hregular, hupload, Form.Fields.submission, hfile]
  · intro hfits
    apply reply_of_handle
    rw [handle_formBody, if_pos hfits, hpasted]

/-- A loop in Go, sent in a file that has been put aside on a disk, with a byte order mark before
it. -/
theorem submitForm_upload_loop :
    let written := "\uFEFFfor i := range xs \x7b\n".toList
    let file : Upload := ⟨some "main.go".toList, Utf8.encode written, .disk⟩
    let reviewer := Reviewer.standard defaultSettings
    file.fileName = some "main.go".toList ∧ "main.go".toList ≠ []
      ∧ file.Readable smallPlatform.room defaultSettings
      ∧ ∃ sent,
        submitForm smallPlatform bareRequest.address .print defaultSettings reviewer
          ⟨some [], some []⟩ (some file) = .ok sent
        ∧ submitForm smallPlatform bareRequest.address .print defaultSettings reviewer
            ⟨some "Go".toList, some "for i := range xs \x7b\n".toList⟩ none = .ok sent
        ∧ reply smallPlatform defaultSettings reviewer (urlencodedRequest .print bareRequest
            (formBody "Go".toList "for i := range xs \x7b\n".toList)) = sent := by
  intro written file reviewer
  have hname : file.fileName = some "main.go".toList := rfl
  have hnonempty : "main.go".toList ≠ [] := by decide
  have hreadable : file.Readable smallPlatform.room defaultSettings :=
    ⟨by decide, by decide, fun _ => by decide⟩
  obtain ⟨sent, hfile, hpasted, -, -, -, hrequest⟩ := submitForm_upload smallPlatform .print
    reviewer hname hnonempty hreadable bareRequest [] []
  have hlanguage : Upload.languageOr "main.go".toList [] = "Go".toList := by decide
  have hcode : Upload.codeOr file.data [] = "for i := range xs \x7b\n".toList := by
    rw [Upload.codeOr, if_pos (by decide), Upload.decode_encode]
    decide
  rw [hlanguage, hcode] at hpasted hrequest
  exact ⟨hname, hnonempty, hreadable, sent, hfile, hpasted, hrequest (by decide)⟩

/-- The settings where very much code is admitted. -/
def hugeLimitSettings : Settings := { defaultSettings with maxCodeChars := 100000000000000000 }

/-- A file of spaces, one byte longer than what is kept in memory. -/
def diskFile : Upload where
  fileName := some "a.py".toList
  data := List.replicate 1048577 0x20
  storage := .disk

/-- The file is put aside on a disk, and has far fewer bytes than it may have. But the room for as
many as it may have is more than there is, so it cannot be read, though its text counts for
nothing: code has been pasted, and is reviewed if there is no file. -/
theorem upload_fails_of_hugeLimit :
    hugeLimitSettings.maxCodeChars < 0x1000000000000000
      ∧ (diskFile.data.length : Int) ≤ 4 * hugeLimitSettings.maxCodeChars
      ∧ diskFile.storage = Form.Multipart.storageOf diskFile.data
      ∧ submitForm smallPlatform bareRequest.address .report hugeLimitSettings
          (Reviewer.standard hugeLimitSettings)
          ⟨some "Go".toList, some "for i := range xs \x7b".toList⟩ (some diskFile)
        = .error ⟨.unread .outOfMemory, []⟩
      ∧ ∃ reply,
        submitForm smallPlatform bareRequest.address .report hugeLimitSettings
          (Reviewer.standard hugeLimitSettings)
          ⟨some "Go".toList, some "for i := range xs \x7b".toList⟩ none = .ok reply
        ∧ reply.answer.status = 200 := by
  have hlength : diskFile.data.length = 1048577 := by
    rw [diskFile, List.length_replicate]
  have hread : diskFile.storage.readError? smallPlatform.room (Upload.readSize hugeLimitSettings)
      = some .outOfMemory := by
    rw [diskFile]
    decide
  have hmerge : Submission.merge smallPlatform.room hugeLimitSettings (some diskFile)
      ⟨some "Go".toList, some "for i := range xs \x7b".toList⟩
        = .error (.unread .outOfMemory) := by
    rw [Submission.merge, Option.filter_some, if_pos (by rw [diskFile]; rfl)]
    simp only [hread]
  refine ⟨by decide, by rw [hlength]; decide, ?_, ?_, _, submitForm_none _ _ _ _ _ _, rfl⟩
  · rw [Form.Multipart.storageOf, hlength]
    rfl
  · rw [submitForm, hmerge]

end Service

end SnippetReview
