import SnippetReview.Proofs.Page.Skeleton
import SnippetReview.Proofs.Service.Agreement

/-!
# Pages that are sent

A request that is answered with a page is answered with the form or with a report
(`PageRun.exists_shows`). What is sent cannot change the markup of the page: two pages have the
same angle brackets and quotes, in the same order, if both are reports with as many items in each
list, or both are the form, with or without an error (`skeleton_eq_of_shows`).
-/

namespace SnippetReview

namespace Service

/-- A request that is answered with a page. -/
structure PageRun where
  platform : Platform
  settings : Settings
  reviewer : Reviewer
  request : Request
  page : Markup
  content : (reply platform settings reviewer request).answer.content = .page page

/-- What a page shows, but for its text: the form, perhaps with an error, or a report with so many
potential issues and improvements. -/
inductive Outline
  | form (error : Bool)
  | report (issues improvements : Nat)
  deriving DecidableEq

namespace PageRun

/-- The route that answers the request. -/
def route? (run : PageRun) : Option Route := Route.find? run.request.method run.request.path

/-- The reply to the request. -/
def sent (run : PageRun) : Reply := reply run.platform run.settings run.reviewer run.request

/-- What the page shows, and why. -/
inductive Shows (run : PageRun) : Outline → Prop
  /-- The form as it is first shown. -/
  | blankForm (route : run.route? = some .home) (status : run.sent.answer.status = 200)
      (page : run.page = (FormPage.blank run.request.address).markup) : run.Shows (.form false)
  /-- The form again, with an error. -/
  | formAgain {target : Target} {f : FormPage} {message : Text}
      (route : run.route? = some (.form target))
      (status : run.sent.answer.status = 400 ∨ run.sent.answer.status = 500)
      (page : run.page = f.markup) (error : f.error = some message) : run.Shows (.form true)
  /-- The report on the snippet that the form is accepted as. -/
  | report {fields : Form.Fields} {snippet : Snippet} {r : Review}
      (route : run.route? = some (.form .report)) (status : run.sent.answer.status = 200)
      (fields_eq : Form.fieldsOf (run.request.header? "content-type") run.request.body = .ok fields)
      (accepted : fields.submission.AcceptedAs run.platform.room run.settings fields.upload?
        snippet)
      (reviewed : run.reviewer snippet = .ok r)
      (page : run.page
        = ReportPage.markup ⟨run.request.address, r, snippet.language, snippet.code⟩) :
      run.Shows (.report r.issues.length r.improvements.length)

end PageRun

/-! ## Which answers carry a page -/

theorem content_submitBody (platform : Platform) (settings : Settings) (reviewer : Reviewer)
    (body : Bytes) :
    ∃ j, (submitBody platform settings reviewer body).answer.content = .json j := by
  rw [submitBody]
  split
  · exact ⟨_, rfl⟩
  · rw [submitRead]
    split
    · exact ⟨_, rfl⟩
    · split <;> exact ⟨_, rfl⟩

theorem content_answerWithoutRoute (platform : Platform) (r : Request) (m : Markup) :
    (answerWithoutRoute platform r).content ≠ .page m := by
  rw [answerWithoutRoute]
  split
  · exact Content.noConfusion
  · dsimp only
    split <;> exact Content.noConfusion

/-- A page that answers a form is the form again, or the report. -/
theorem page_of_outcome {platform : Platform} {address : Text} {target : Target}
    {settings : Settings} {reviewer : Reviewer} {s : Submission} {file : Option Upload}
    {sent : Reply} {m : Markup} (h : Outcome platform address target settings reviewer s file sent)
    (hm : sent.answer.content = .page m) :
    ((sent.answer.status = 400 ∨ sent.answer.status = 500)
        ∧ ∃ f : FormPage, ∃ message, m = f.markup ∧ f.error = some message)
      ∨ (target = .report ∧ sent.answer.status = 200 ∧ ∃ snippet r,
          s.AcceptedAs platform.room settings file snippet ∧ reviewer snippet = .ok r
            ∧ m = ReportPage.markup ⟨address, r, snippet.language, snippet.code⟩) := by
  cases h with
  | rejected reason given =>
    exact Or.inl ⟨Or.inl rfl, _, reason.message, (Content.page.inj hm).symm, rfl⟩
  | failed accepted unreviewed =>
    exact Or.inl ⟨Or.inr rfl, _, failureText, (Content.page.inj hm).symm, rfl⟩
  | @reported snippet r accepted reviewed =>
    cases target with
    | report =>
      exact Or.inr ⟨rfl, rfl, snippet, r, accepted, reviewed, (Content.page.inj hm).symm⟩
    | print =>
      cases hfits : (Story.ofReview settings.reportPreparedBy r).fits with
      | true =>
        rw [reportOn_eq_of_fits hfits] at hm
        exact Content.noConfusion hm
      | false =>
        rw [reportOn_eq_of_not_fits hfits] at hm ⊢
        exact Or.inl ⟨Or.inr rfl, _, failureText, (Content.page.inj hm).symm, rfl⟩

/-- A request that is answered with a page has been handled without an exception. -/
theorem PageRun.handle_eq (run : PageRun) :
    handle run.platform run.settings run.reviewer run.request = .ok run.sent := by
  have hcontent := run.content
  rw [sent]
  rw [reply] at hcontent ⊢
  cases h : handle run.platform run.settings run.reviewer run.request with
  | ok reply => rfl
  | error abort =>
    rw [h] at hcontent
    exact Content.noConfusion hcontent

/-- A page that is sent is the form or a report. -/
theorem PageRun.exists_shows (run : PageRun) : ∃ o, run.Shows o := by
  have hsent := run.handle_eq
  rw [handle] at hsent
  cases hroute : Route.find? run.request.method run.request.path with
  | none =>
    have hcontent : run.sent.answer.content = .page run.page := run.content
    rw [hroute] at hsent
    rw [← Except.ok.inj hsent] at hcontent
    exact absurd hcontent (content_answerWithoutRoute _ _ _)
  | some route =>
    rw [hroute] at hsent
    have hcontent : run.sent.answer.content = .page run.page := run.content
    cases route with
    | documentation | health | healthProbe | homeProbe =>
      rw [← Except.ok.inj hsent] at hcontent
      exact Content.noConfusion hcontent
    | api =>
      obtain ⟨j, hj⟩ := content_submitBody run.platform run.settings run.reviewer run.request.body
      rw [Reply.eq_of_encoded hsent, hj] at hcontent
      exact Content.noConfusion hcontent
    | home =>
      have hstatus : run.sent.answer.status = 200 := by
        rw [← Except.ok.inj hsent]
        rfl
      rw [← Except.ok.inj hsent] at hcontent
      exact ⟨_, .blankForm hroute hstatus (Content.page.inj hcontent).symm⟩
    | form target =>
      cases hfields : Form.fieldsOf (run.request.header? "content-type") run.request.body with
      | error fault =>
        simp only [Route.handle, hfields] at hsent
        rw [← Except.ok.inj hsent] at hcontent
        exact Content.noConfusion hcontent
      | ok fields =>
        simp only [Route.handle, hfields] at hsent
        rcases submitFields_eq_ok hsent with ⟨-, hform⟩ | ⟨-, hmisfit⟩
        · rcases page_of_outcome (outcome_of_submitForm hform) hcontent with
            ⟨hstatus, f, message, hpage, herror⟩
            | ⟨rfl, hstatus, snippet, r, haccepted, hreview, hpage⟩
          · exact ⟨_, .formAgain hroute hstatus hpage herror⟩
          · exact ⟨_, .report hroute hstatus hfields haccepted hreview hpage⟩
        · rw [hmisfit] at hcontent
          exact Content.noConfusion hcontent

/-! ## Forms that are answered with a report -/

/-- The request that sends a form for a report, with its fields as in an address. -/
def formRequest (body : String) : Request :=
  urlencodedRequest .report bareRequest (Utf8.encode body.toList)

theorem route_formRequest (body : String) :
    Route.find? (formRequest body).method (formRequest body).path = some (.form .report) :=
  route_post .report

section Reported

variable {platform : Platform} {settings : Settings} {reviewer : Reviewer} {body : String}
  {fields : Form.Fields} {snippet : Snippet} {r : Review}
  (hfields : Form.fieldsOf ((formRequest body).header? "content-type") (formRequest body).body
    = .ok fields)
  (hregular : fields.Regular)
  (haccepted : fields.submission.AcceptedAs platform.room settings fields.upload? snippet)
  (hreview : reviewer snippet = .ok r)
include hfields hregular haccepted hreview

theorem reply_formRequest :
    reply platform settings reviewer (formRequest body)
      = reportOn (formRequest body).address .report settings snippet r := by
  apply reply_of_handle
  rw [handle_of_regular (route_formRequest body) hfields hregular]
  exact submitForm_of_accepted haccepted hreview _ .report

/-- A form that is accepted and reviewed is answered with a page. -/
def PageRun.ofForm : PageRun where
  platform := platform
  settings := settings
  reviewer := reviewer
  request := formRequest body
  page := ReportPage.markup ⟨(formRequest body).address, r, snippet.language, snippet.code⟩
  content := by
    rw [reply_formRequest hfields hregular haccepted hreview]
    rfl

theorem PageRun.shows_ofForm : (ofForm hfields hregular haccepted hreview).Shows
    (.report r.issues.length r.improvements.length) := by
  refine .report (route_formRequest body) ?_ hfields haccepted hreview rfl
  have hsent : (ofForm hfields hregular haccepted hreview).sent = _ :=
    reply_formRequest hfields hregular haccepted hreview
  rw [hsent]
  rfl

end Reported

/-- A snippet in Go is answered with a report that has as many items as the review. -/
theorem exists_run_of_go (body : String) (code : Text) (issues improvements : Nat)
    (hfields : Form.fieldsOf ((formRequest body).header? "content-type") (formRequest body).body
      = .ok [("language".toList, .text "Go".toList), ("code".toList, .text code)])
    (hvalid :
      Submission.validate defaultSettings (Submission.trimCode ⟨some "Go".toList, some code⟩)
        = .ok ⟨"Go".toList, code⟩)
    (hissues : (review 80 "Go".toList code).issues.length = issues)
    (himprovements : (review 80 "Go".toList code).improvements.length = improvements) :
    ∃ run : PageRun, run.request = formRequest body
      ∧ run.Shows (.report issues improvements) := by
  have haccepted : Submission.AcceptedAs smallPlatform.room defaultSettings none
      ⟨some "Go".toList, some code⟩ ⟨"Go".toList, code⟩ := ⟨_, Submission.merge_none _ _ _, hvalid⟩
  have hreview : Reviewer.standard defaultSettings ⟨"Go".toList, code⟩
      = .ok (review 80 "Go".toList code) := rfl
  have hshows := PageRun.shows_ofForm hfields (regular_namedFields "Go".toList code) haccepted
    hreview
  rw [hissues, himprovements] at hshows
  exact ⟨_, rfl, hshows⟩

/-! ## The markup of pages -/

/-- What is sent cannot change the markup of a page. Every page that is sent is the form or a
report, and two pages that show the same, but for their text, have the same angle brackets and
quotes. An ampersand in the text of a page that stems from text put into it begins one of the five
entities. -/
theorem skeleton_eq_of_shows (run run' : PageRun) :
    (∃ o, run.Shows o)
      ∧ (∀ o, run.Shows o → run'.Shows o →
          Page.skeleton (Page.text run.page) = Page.skeleton (Page.text run'.page))
      ∧ (Page.trace run.page).map Prod.fst = Page.text run.page
      ∧ ∀ before after, Page.trace run.page = before ++ ('&', .text) :: after →
          ∃ entity ∈ ["&amp;", "&lt;", "&gt;", "&#34;", "&#39;"],
            entity.toList <+: '&' :: after.map Prod.fst := by
  refine ⟨run.exists_shows, ?_, Page.map_fst_trace run.page, ?_⟩
  · intro o hshows hshows'
    cases hshows with
    | blankForm _ _ hpage =>
      cases hshows' with
      | blankForm _ _ hpage' =>
        rw [hpage, hpage']
        exact FormPage.skeleton_markup rfl
    | formAgain _ _ hpage herror =>
      cases hshows' with
      | formAgain _ _ hpage' herror' =>
        rw [hpage, hpage']
        exact FormPage.skeleton_markup (by rw [herror, herror']; rfl)
    | @report _ _ r _ _ _ _ _ hpage =>
      generalize hissues : r.issues.length = issues at hshows'
      generalize himprovements : r.improvements.length = improvements at hshows'
      cases hshows' with
      | report _ _ _ _ _ hpage' =>
        rw [hpage, hpage']
        exact ReportPage.skeleton_markup hissues himprovements
  · intro before after htrace
    obtain ⟨entity, hmem, hbegin⟩ := Page.entity_of_ampersand htrace
    have hlisted : ∀ e ∈ Entities.page, ∃ entity ∈ ["&amp;", "&lt;", "&gt;", "&#34;", "&#39;"],
        entity.toList = e.2 := by decide
    obtain ⟨listed, hin, hlist⟩ := hlisted entity hmem
    exact ⟨listed, hin, hlist ▸ hbegin⟩

/-- A loop and a script that tries to leave its place in the page, both with one potential issue: an
opener that is not closed, and a quote that is not. -/
theorem skeleton_eq_of_shows_script :
    ∃ run run' : PageRun,
      run.request = formRequest "language=Go&code=for+i+%3A%3D+range+xs+%7B"
      ∧ run'.request = formRequest "language=Go&code=%3Cscript%3E%22%26lt%3B%27%3C%2Fscript%3E"
      ∧ run.Shows (.report 1 4) ∧ run'.Shows (.report 1 4)
      ∧ Page.skeleton (Page.text run.page) = Page.skeleton (Page.text run'.page) := by
  obtain ⟨run, hrequest, hshows⟩ :=
    exists_run_of_go "language=Go&code=for+i+%3A%3D+range+xs+%7B"
      "for i := range xs \x7b".toList 1 4 (by decide) (by decide) (by decide +kernel)
      (by decide +kernel)
  obtain ⟨run', hrequest', hshows'⟩ :=
    exists_run_of_go "language=Go&code=%3Cscript%3E%22%26lt%3B%27%3C%2Fscript%3E"
      "<script>\"&lt;\x27</script>".toList 1 4 (by decide) (by decide) (by decide +kernel)
      (by decide +kernel)
  have hsame := (skeleton_eq_of_shows run run').2.1 _ hshows hshows'
  exact ⟨run, run', hrequest, hrequest', hshows, hshows', hsame⟩

end Service

end SnippetReview
