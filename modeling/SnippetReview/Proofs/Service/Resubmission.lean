import SnippetReview.Proofs.Page.HiddenForm
import SnippetReview.Proofs.Service.Agreement

/-!
# Sending a snippet again

The report page holds a form that sends the snippet again, for a report to print. The snippet is
accepted once more as what it was: trimming, the normal form of a language and the limits do not
change what they have let pass (`Submission.AcceptedAs.again`), and the page keeps it whatever
characters it holds (`ReportPage.hiddenForm?_text`). So the same form sent for a report gives the
same page, and sent for a report to print it gives that of the same review (`report_again`), unless
that review cannot be set on pages (`print_again_fails_of_manyOpeners`).
-/

namespace SnippetReview

namespace Service

/-- The submission that the hidden form of an answer's page sends. -/
def Answer.hiddenForm? (a : Answer) : Option Submission :=
  match a.content with
  | .page m => Page.hiddenForm? (Page.text m)
  | _ => none

theorem hiddenForm?_reportOn (address : Text) (settings : Settings) (snippet : Snippet)
    (r : Review) : (reportOn address .report settings snippet r).answer.hiddenForm?
      = some ⟨some snippet.language, some snippet.code⟩ := by
  rw [reportOn_report]
  exact ReportPage.hiddenForm?_text ⟨address, r, snippet.language, snippet.code⟩

/-- What becomes of the hidden form of a report page that answers a submission and perhaps a file.
The form sends what was accepted for the page and reviewed; it is accepted again without a file,
and comes to the same. For a report it is answered with the same page, with the same records. For a
report to print it is answered as the submission with the file would have been: with the report on
the same review if that can be set on pages, and with a failure if not. So are requests answered
that bring the form to the site of the page, if no field is too long. -/
structure SentAgain (platform : Platform) (settings : Settings) (reviewer : Reviewer) (r : Request)
    (s : Submission) (file : Option Upload) (sent : Reply) (again : Submission) (snippet : Snippet)
    (result : Review) (print : Reply) : Prop where
  hidden : sent.answer.hiddenForm? = some again
  accepted : s.AcceptedAs platform.room settings file snippet
  accepted_again : again.AcceptedAs platform.room settings none snippet
  reviewed : reviewer snippet = .ok result
  again_report : submitForm platform r.address .report settings reviewer again none = .ok sent
  again_print : submitForm platform r.address .print settings reviewer again none = .ok print
  first_print : submitForm platform r.address .print settings reviewer s file = .ok print
  print_set : (Story.ofReview settings.reportPreparedBy result).fits = true →
    print.answer = .of 200 (.print (Story.ofReview settings.reportPreparedBy result))
  print_failed : (Story.ofReview settings.reportPreparedBy result).fits = false →
    print.answer.status = 500
  requests : ∀ language code, again = ⟨some language, some code⟩ → FormFits language code →
    reply platform settings reviewer (urlencodedRequest .report r (formBody language code)) = sent
      ∧ reply platform settings reviewer (urlencodedRequest .print r (formBody language code))
        = print

theorem exists_sentAgain {platform : Platform} {settings : Settings} {reviewer : Reviewer}
    {r : Request} {s : Submission} {file : Option Upload} {sent : Reply}
    (h : submitForm platform r.address .report settings reviewer s file = .ok sent)
    (hstatus : sent.answer.status = 200) : ∃ again snippet result print,
      SentAgain platform settings reviewer r s file sent again snippet result print := by
  obtain ⟨snippet, result, haccepted, hreview, rfl⟩ := exists_reportOn_of_status h hstatus
  have hagain := haccepted.again
  have hsubmit := submitForm_of_accepted hagain hreview r.address
  refine ⟨⟨some snippet.language, some snippet.code⟩, snippet, result,
    reportOn r.address .print settings snippet result,
    { hidden := hiddenForm?_reportOn r.address settings snippet result
      accepted := haccepted
      accepted_again := hagain
      reviewed := hreview
      again_report := hsubmit .report
      again_print := hsubmit .print
      first_print := submitForm_of_accepted haccepted hreview r.address .print
      print_set := ?_
      print_failed := ?_
      requests := ?_ }⟩
  · intro hfits
    rw [reportOn_eq_of_fits hfits]
  · intro hfits
    rw [reportOn_eq_of_not_fits hfits]
    rfl
  · rintro language code hsame hfits
    rw [hsame] at hsubmit
    have hrequest : ∀ target, reply platform settings reviewer
        (urlencodedRequest target r (formBody language code))
          = reportOn r.address target settings snippet result := by
      intro target
      apply reply_of_handle
      rw [handle_formBody, if_pos hfits, hsubmit target]
    exact ⟨hrequest .report, hrequest .print⟩

/-- Every report page holds a form with which the snippet can be sent again: the one that answers a
submission and perhaps a file, and the one that answers a request. -/
theorem report_again (platform : Platform) (settings : Settings) (reviewer : Reviewer)
    (r : Request) :
    (∀ (s : Submission) (file : Option Upload) (sent : Reply),
        submitForm platform r.address .report settings reviewer s file = .ok sent →
        sent.answer.status = 200 → ∃ again snippet result print,
          SentAgain platform settings reviewer r s file sent again snippet result print)
      ∧ (Route.find? r.method r.path = some (.form .report) →
        (reply platform settings reviewer r).answer.status = 200 →
        ∃ fields, Form.fieldsOf (r.header? "content-type") r.body = .ok fields
          ∧ ∃ again snippet result print,
            SentAgain platform settings reviewer r fields.submission fields.upload?
              (reply platform settings reviewer r) again snippet result print) := by
  constructor
  · intro s file sent h hstatus
    exact exists_sentAgain h hstatus
  · intro hroute hstatus
    obtain ⟨fields, hfields, -, hform⟩ := exists_fields_of_status hroute hstatus
    exact ⟨fields, hfields, exists_sentAgain hform hstatus⟩

/-- A loop after a comment with markup, in a file whose name tells its language. -/
theorem report_again_markup :
    let s : Submission := ⟨some [], some "\n".toList⟩
    let file : Upload := ⟨some "a.go".toList, Utf8.encode "// </textarea> \"&lt;\"\nfor ".toList,
      .memory⟩
    let code := "// </textarea> \"&lt;\"\nfor".toList
    ∃ sent,
      submitForm smallPlatform bareRequest.address .report defaultSettings
        (Reviewer.standard defaultSettings) s (some file) = .ok sent
      ∧ sent.answer.status = 200
      ∧ sent.answer.hiddenForm? = some ⟨some "Go".toList, some code⟩
      ∧ FormFits "Go".toList code
      ∧ reply smallPlatform defaultSettings (Reviewer.standard defaultSettings)
          (urlencodedRequest .report bareRequest (formBody "Go".toList code)) = sent := by
  intro s file code
  have hreadable : file.Readable smallPlatform.room defaultSettings :=
    ⟨by decide, by decide, fun _ => by decide⟩
  have hmerge : s.merge smallPlatform.room defaultSettings (some file)
      = .ok ⟨some "Go".toList, some code⟩ := by
    rw [Submission.merge_file rfl hreadable, Submission.fillFrom_named rfl, Upload.codeOr,
      if_pos (by decide), Upload.decode_encode]
    rfl
  have haccepted : s.AcceptedAs smallPlatform.room defaultSettings (some file)
      ⟨"Go".toList, code⟩ := by
    refine ⟨_, hmerge, Submission.validate_eq_ok_iff.2 ?_⟩
    decide
  have hreview : Reviewer.standard defaultSettings ⟨"Go".toList, code⟩
      = .ok (review 80 "Go".toList code) := rfl
  have hreport := submitForm_of_accepted haccepted hreview bareRequest.address .report
  have hhidden := hiddenForm?_reportOn bareRequest.address defaultSettings ⟨"Go".toList, code⟩
    (review 80 "Go".toList code)
  have hfits : FormFits "Go".toList code := by decide
  obtain ⟨again, _, _, _, hagain⟩ := (report_again smallPlatform defaultSettings
    (Reviewer.standard defaultSettings) bareRequest).1 _ _ _ hreport rfl
  have hsame : again = ⟨some "Go".toList, some code⟩ :=
    Option.some.inj (hagain.hidden.symm.trans hhidden)
  exact ⟨_, hreport, rfl, hhidden, hfits, (hagain.requests _ _ hsame hfits).1⟩

/-- A report page on very many openers holds a form that fails for a report to print: the row that
lists them is higher than a page. -/
theorem print_again_fails_of_manyOpeners :
    let code := List.replicate 2721 '['
    let report := reply smallPlatform defaultSettings (Reviewer.standard defaultSettings)
      (urlencodedRequest .report bareRequest (formBody "Go".toList code))
    report.answer.status = 200
      ∧ report.answer.hiddenForm? = some ⟨some "Go".toList, some code⟩
      ∧ (reply smallPlatform defaultSettings (Reviewer.standard defaultSettings)
          (urlencodedRequest .print bareRequest (formBody "Go".toList code))).answer.status
        = 500 := by
  intro code report
  have hreply := reply_manyOpeners
  have hreport : report = _ := hreply .report
  rw [hreport, hreply .print, reportOn_eq_of_not_fits not_fits_manyOpeners]
  exact ⟨rfl, hiddenForm?_reportOn _ _ _ _, rfl⟩

end Service

end SnippetReview
