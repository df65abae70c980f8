import SnippetReview.Proofs.Launch
import SnippetReview.Proofs.Service.Verdict

/-!
# What is recorded

A request makes one submission at most, and that is judged in one way (`Judged.unique`). It is
recorded by what becomes of it (`Recorded`): a rejection with the very message that the user is
told, a failure of the reviewer, or the review that is answered. Nothing else is recorded. That is
said of requests whose handling does not end with an exception.

Logging does not bear on answers. Two programs whose environments differ only in the two variables
that set it give the same answers, and each shows of the full log exactly what its configuration
lets through (`reply_recorded`).
-/

namespace SnippetReview

/-! ## Reviewers that may fail -/

/-- The standard reviewer, failing on the snippets on which it is told to. -/
def Reviewer.failingOn (failure? : Snippet → Option Reviewer.Failure) (settings : Settings) :
    Reviewer :=
  fun s =>
    match failure? s with
    | some failure => .error failure
    | none => Reviewer.standard settings s

theorem Reviewer.eq_review_of_failingOn {failure? : Snippet → Option Reviewer.Failure}
    {settings : Settings} {s : Snippet} {r : Review} (h : failingOn failure? settings s = .ok r) :
    r = review settings.longSnippetLines s.language s.code := by
  rw [failingOn] at h
  split at h
  · cases h
  · exact (Except.ok.inj h).symm

namespace Service

/-! ## Submissions -/

/-- A request makes a submission that is judged: rejected for a reason, or accepted as a snippet. -/
inductive Judged (platform : Platform) (settings : Settings) (r : Request) :
    Except Rejection Snippet → Prop
  | form {target : Target} {fields : Form.Fields} {merged : Submission}
      (route : Route.find? r.method r.path = some (.form target))
      (read : Form.fieldsOf (r.header? "content-type") r.body = .ok fields)
      (fit : fields.misfits = [])
      (merge : fields.submission.merge platform.room settings fields.upload? = .ok merged) :
      Judged platform settings r (merged.validate settings)
  | upload {target : Target} {fields : Form.Fields} {reason : Rejection}
      (route : Route.find? r.method r.path = some (.form target))
      (read : Form.fieldsOf (r.header? "content-type") r.body = .ok fields)
      (fit : fields.misfits = [])
      (merge : fields.submission.merge platform.room settings fields.upload?
        = .error (.rejected reason)) :
      Judged platform settings r (.error reason)
  | program {members : List (Text × Json)} (route : Route.find? r.method r.path = some .api)
      (read : Json.ofBytes? platform.maxDepth r.body = some (.object members)) :
      Judged platform settings r ((submissionOf members).validate settings)

/-- A request is judged in one way at most. -/
theorem Judged.unique {platform : Platform} {settings : Settings} {r : Request}
    {verdict verdict' : Except Rejection Snippet} (h : Judged platform settings r verdict)
    (h' : Judged platform settings r verdict') : verdict = verdict' := by
  cases h with
  | form route read _ merge =>
    cases h' with
    | form _ read' _ merge' =>
      cases read.symm.trans read'
      cases merge.symm.trans merge'
      rfl
    | upload _ read' _ merge' =>
      cases read.symm.trans read'
      cases merge.symm.trans merge'
    | program route' => cases route.symm.trans route'
  | upload route read _ merge =>
    cases h' with
    | form _ read' _ merge' =>
      cases read.symm.trans read'
      cases merge.symm.trans merge'
    | upload _ read' _ merge' =>
      cases read.symm.trans read'
      cases merge.symm.trans merge'
      rfl
    | program route' => cases route.symm.trans route'
  | program route read =>
    cases h' with
    | form route' => cases route.symm.trans route'
    | upload route' => cases route.symm.trans route'
    | program _ read' =>
      cases read.symm.trans read'
      rfl

/-! ## Records -/

/-- An answer carries a review: as an object, on a page or as a report to print. -/
inductive Content.Carries (settings : Settings) (r : Review) : Content → Prop
  | object : Carries settings r (.json (Json.ofReview r))
  | page (address language code : Text) :
      Carries settings r (.page (ReportPage.markup ⟨address, r, language, code⟩))
  | print : Carries settings r (.print (Story.ofReview settings.reportPreparedBy r))

/-- The record of a review of code of the given length. -/
def reviewRecord (length : Nat) (r : Review) : Log.Record where
  source := .reviewer
  severity := .debug
  message := "Reviewed ".toList ++ Numeral.digits length ++ " chars of ".toList ++ r.language
    ++ ": ".toList ++ Numeral.digits r.issues.length ++ " issue(s), score ".toList
    ++ Numeral.digits r.quality.score

/-- What is recorded of a request, by what becomes of it. -/
inductive Recorded (platform : Platform) (settings : Settings) (reviewer : Reviewer) (r : Request)
    (sent : Reply) : Prop
  /-- It makes no submission. -/
  | unsubmitted (unjudged : ∀ verdict, ¬ Judged platform settings r verdict)
      (records : sent.records = [])
  /-- Its submission is rejected, and the user is told why. -/
  | rejected {reason : Rejection} (before : Text)
      (judged : Judged platform settings r (.error reason))
      (status : sent.answer.status = 400)
      (told : sent.answer.errorText? = some reason.message)
      (records : sent.records = [⟨.service, .info, before ++ reason.message⟩])
  /-- The reviewer fails. -/
  | failed {snippet : Snippet} {failure : Reviewer.Failure} (text : Text)
      (judged : Judged platform settings r (.ok snippet))
      (unreviewed : reviewer snippet = .error failure)
      (status : sent.answer.status = 500)
      (records : sent.records = [⟨.service, .error, text⟩])
  /-- It is answered with a review. -/
  | reviewed {snippet : Snippet} {result : Review}
      (judged : Judged platform settings r (.ok snippet))
      (reviewed : reviewer snippet = .ok result) (status : sent.answer.status = 200)
      (carries : sent.answer.content.Carries settings result)
      (records : sent.records = [reviewRecord snippet.code.length result])
  /-- The report on the review is to be printed, but cannot be set on pages. -/
  | unprinted {snippet : Snippet} {result : Review} (text : Text)
      (route : Route.find? r.method r.path = some (.form .print))
      (judged : Judged platform settings r (.ok snippet)) (reviewed : reviewer snippet = .ok result)
      (unfit : (Story.ofReview settings.reportPreparedBy result).fits = false)
      (status : sent.answer.status = 500)
      (records : sent.records
        = [reviewRecord snippet.code.length result, ⟨.service, .error, text⟩])

section Recorded

variable {platform : Platform} {settings : Settings}
  {failure? : Snippet → Option Reviewer.Failure} {r : Request}

/-- The record of a review of a snippet that was accepted names the language of the review. -/
theorem record_of_validate {s : Submission} {snippet : Snippet} {result : Review}
    (hvalid : s.validate settings = .ok snippet)
    (hreview : Reviewer.failingOn failure? settings snippet = .ok result) (length : Nat) :
    Reviewer.record length result = reviewRecord length result := by
  have hlanguage : result.language ≠ [] := by
    rw [Reviewer.eq_review_of_failingOn hreview]
    exact language_review_ne_nil hvalid _
  rw [Reviewer.record, reviewRecord, if_neg]
  rwa [List.isEmpty_iff]

/-- A form that is accepted and reviewed is recorded with its review, and also with a failure if its
report cannot be set on pages. -/
theorem recorded_reportOn {target : Target} {s : Submission} {snippet : Snippet} {result : Review}
    (hroute : Route.find? r.method r.path = some (.form target))
    (hjudged : Judged platform settings r (.ok snippet))
    (hvalid : s.validate settings = .ok snippet)
    (hreview : Reviewer.failingOn failure? settings snippet = .ok result) (address : Text) :
    Recorded platform settings (Reviewer.failingOn failure? settings) r
      (reportOn address target settings snippet result) := by
  have hrecord := record_of_validate hvalid hreview snippet.code.length
  -- only a report to print can be such that it cannot be set on pages
  cases target with
  | report =>
    refine .reviewed hjudged hreview rfl (.page address snippet.language snippet.code) ?_
    rw [← hrecord]
    rfl
  | print =>
    cases hfits : (Story.ofReview settings.reportPreparedBy result).fits with
    | true =>
      rw [reportOn_eq_of_fits hfits, hrecord]
      exact .reviewed hjudged hreview rfl .print rfl
    | false =>
      rw [reportOn_eq_of_not_fits hfits, hrecord]
      exact .unprinted _ hroute hjudged hreview hfits rfl rfl

theorem recorded_rejectForm {target : Target} {reason : Rejection} {reviewer : Reviewer}
    (hjudged : Judged platform settings r (.error reason)) (address : Text) (s : Submission) :
    Recorded platform settings reviewer r (rejectForm address target reason s) :=
  .rejected target.rejected hjudged rfl (errorText?_rejectForm address target reason s) rfl

/-- A form that brings fields is recorded by what becomes of their submission. -/
theorem recorded_submitForm {target : Target} {fields : Form.Fields} {address : Text} {sent : Reply}
    (hroute : Route.find? r.method r.path = some (.form target))
    (hread : Form.fieldsOf (r.header? "content-type") r.body = .ok fields)
    (hfit : fields.misfits = [])
    (hsent : submitForm platform address target settings (Reviewer.failingOn failure? settings)
      fields.submission fields.upload? = .ok sent) :
    Recorded platform settings (Reviewer.failingOn failure? settings) r sent := by
  rw [submitForm] at hsent
  cases hmerge : fields.submission.merge platform.room settings fields.upload? with
  | error e =>
    rw [hmerge] at hsent
    cases e with
    | unread e => cases hsent
    | rejected reason =>
      cases hsent
      exact recorded_rejectForm (.upload hroute hread hfit hmerge) _ _
  | ok merged =>
    rw [hmerge] at hsent
    cases hsent
    have hjudged := Judged.form hroute hread hfit hmerge
    rw [submitMerged]
    cases hvalid : merged.validate settings with
    | error reason =>
      rw [hvalid] at hjudged
      exact recorded_rejectForm hjudged address merged
    | ok snippet =>
      rw [hvalid] at hjudged
      cases hreview : Reviewer.failingOn failure? settings snippet with
      | error failure =>
        simp only [hreview]
        exact .failed _ hjudged hreview rfl rfl
      | ok result =>
        simp only [hreview]
        exact recorded_reportOn hroute hjudged hvalid hreview address

/-- A body that a program sends makes no submission if it is no object. -/
theorem not_judged_of_no_object (hroute : Route.find? r.method r.path = some .api)
    (hobject : ∀ members, Json.ofBytes? platform.maxDepth r.body ≠ some (.object members))
    (verdict : Except Rejection Snippet) : ¬ Judged platform settings r verdict := by
  intro hjudged
  cases hjudged with
  | form hform => rw [hroute] at hform; cases hform
  | upload hform => rw [hroute] at hform; cases hform
  | program _ hread => exact hobject _ hread

/-- The review that a program is sent is told without lone surrogates. -/
theorem ofReviewOf_of_encoded {language code : RawText} {s : Submission} {snippet : Snippet}
    {result : Review} {reviewed sent : Reply}
    (hcontent : reviewed.answer.content = .json (Json.ofReviewOf language code result))
    (hlanguage : s.language.getD [] = language.legible) (hcode : s.code.getD [] = code.legible)
    (hvalid : s.validate settings = .ok snippet)
    (hreview : Reviewer.failingOn failure? settings snippet = .ok result)
    (hsent : reviewed.encoded [] = .ok sent) : Json.ofReviewOf language code = Json.ofReview := by
  have hresult : result = review settings.longSnippetLines language.legible code.legible := by
    rw [Reviewer.eq_review_of_failingOn hreview, review_of_validate hvalid, hlanguage, hcode]
  cases hsurrogate : language.hasSurrogate || code.hasSurrogate with
  | false =>
    rw [Bool.or_eq_false_iff] at hsurrogate
    exact Json.ofReviewOf_eq hsurrogate.1 hsurrogate.2
  | true =>
    rw [← Json.hasSurrogate_write_ofReviewOf settings.longSnippetLines, ← hresult] at hsurrogate
    obtain ⟨e, he⟩ := Reply.encoded_of_hasSurrogate hcontent hsurrogate []
    rw [he] at hsent
    cases hsent

/-- A body that a program sends is recorded by what becomes of its submission. -/
theorem recorded_submitBody (hroute : Route.find? r.method r.path = some .api) {sent : Reply}
    (hsent : (submitBody platform settings (Reviewer.failingOn failure? settings) r.body).encoded []
      = .ok sent) :
    Recorded platform settings (Reviewer.failingOn failure? settings) r sent := by
  by_cases hobject : ∃ members, Json.ofBytes? platform.maxDepth r.body = some (.object members)
  · obtain ⟨members, hread⟩ := hobject
    obtain ⟨hlanguage, hcode⟩ := getD_submissionOf members
    have hjudged : Judged platform settings r ((submissionOf members).validate settings) :=
      .program hroute hread
    have hsame := Reply.eq_of_encoded hsent
    rw [submitBody_of_object hread, submitRead] at hsent hsame
    cases hvalid : (submissionOf members).validate settings with
    | error reason =>
      rw [hvalid] at hjudged hsame
      rw [hsame]
      exact .rejected _ hjudged rfl (errorText?_errorObject 400 reason.message) rfl
    | ok snippet =>
      rw [hvalid] at hjudged hsame hsent
      cases hreview : Reviewer.failingOn failure? settings snippet with
      | error failure =>
        simp only [hreview] at hsame
        rw [hsame]
        exact .failed _ hjudged hreview rfl rfl
      | ok result =>
        simp only [hreview] at hsame hsent
        rw [ofReviewOf_of_encoded rfl hlanguage hcode hvalid hreview hsent,
          record_of_validate hvalid hreview] at hsame
        rw [hsame]
        exact .reviewed hjudged hreview rfl .object rfl
  · have hnone := not_exists.1 hobject
    rw [submitBody_of_no_object hnone] at hsent
    refine .unsubmitted (not_judged_of_no_object hroute hnone) ?_
    rw [Reply.eq_of_encoded hsent]

/-- A request of another route makes no submission, nor does a form that is refused. -/
theorem not_judged {verdict : Except Rejection Snippet}
    (hform : ∀ target fields, Route.find? r.method r.path = some (.form target) →
      Form.fieldsOf (r.header? "content-type") r.body = .ok fields → fields.misfits ≠ [])
    (hprogram : Route.find? r.method r.path ≠ some .api) :
    ¬ Judged platform settings r verdict := by
  intro hjudged
  cases hjudged with
  | form hroute hread hfit => exact hform _ _ hroute hread hfit
  | upload hroute hread hfit => exact hform _ _ hroute hread hfit
  | program hroute => exact hprogram hroute

/-- Every request whose handling does not end with an exception is recorded by what becomes of
it. -/
theorem recorded_of_handle {sent : Reply}
    (hsent : handle platform settings (Reviewer.failingOn failure? settings) r = .ok sent) :
    Recorded platform settings (Reviewer.failingOn failure? settings) r sent := by
  rw [handle] at hsent
  cases hroute : Route.find? r.method r.path with
  | none =>
    rw [hroute] at hsent
    cases hsent
    exact .unsubmitted (fun _ => not_judged (by simp [hroute]) (by simp [hroute])) rfl
  | some route =>
    rw [hroute] at hsent
    cases route with
    | form target =>
      cases hread : Form.fieldsOf (r.header? "content-type") r.body with
      | error fault =>
        simp only [Route.handle, hread] at hsent
        cases hsent
        exact .unsubmitted (fun _ => not_judged (by simp [hread]) (by simp [hroute])) rfl
      | ok fields =>
        simp only [Route.handle, hread] at hsent
        rcases submitFields_eq_ok hsent with ⟨hfit, hform⟩ | ⟨hmisfit, rfl⟩
        · exact recorded_submitForm hroute hread hfit hform
        · refine .unsubmitted (fun _ => not_judged ?_ (by simp [hroute])) rfl
          intro _ fields' _ hread'
          cases hread.symm.trans hread'
          exact hmisfit
    | api => exact recorded_submitBody hroute hsent
    | _ =>
      cases hsent
      exact .unsubmitted (fun _ => not_judged (by simp [hroute]) (by simp [hroute])) rfl

end Recorded

/-! ## What is shown -/

/-- Settings of logging do not bear on how requests are handled. -/
theorem handle_withLogging (platform : Platform) (s : Settings) (debug : Bool) (logLevel : Text)
    (failure? : Snippet → Option Reviewer.Failure) (r : Request) :
    handle platform (s.withLogging debug logLevel)
        (Reviewer.failingOn failure? (s.withLogging debug logLevel)) r
      = handle platform s (Reviewer.failingOn failure? s) r := rfl

end Service

/-- The reply of a program that has started, with the records that it shows. -/
def Program.reply (platform : Service.Platform) (failure? : Snippet → Option Reviewer.Failure)
    (p : Program) (r : Service.Request) : Service.Reply :=
  (Service.reply platform p.settings (Reviewer.failingOn failure? p.settings) r).shownAt p.level

namespace Service

/-- All records are shown at the level of debugging. -/
theorem shownAt_debug (sent : Reply) : sent.shownAt .debug = sent := by
  have hall : ∀ record ∈ sent.records, record.isShownAt .debug = true := by
    intro record _
    cases hseverity : record.severity <;> simp [Log.Record.isShownAt, hseverity] <;> decide
  rw [Reply.shownAt, Log.shown, List.filter_eq_self.2 hall]

section Shown

variable {platform : Platform} {failure? : Snippet → Option Reviewer.Failure}

/-- A program that shows all records shows what has been replied. -/
theorem programReply_debug {p : Program} (h : p.level = .debug) (r : Request) :
    p.reply platform failure? r
      = reply platform p.settings (Reviewer.failingOn failure? p.settings) r := by
  rw [Program.reply, h, shownAt_debug]

/-- What a program shows of what another that differs in logging alone has recorded in full. -/
structure ShowsOf (platform : Platform) (failure? : Snippet → Option Reviewer.Failure) (r : Request)
    (full p : Program) : Prop where
  answer : (p.reply platform failure? r).answer = (full.reply platform failure? r).answer
  records : (p.reply platform failure? r).records
    = (full.reply platform failure? r).records.filter (Log.Record.isShownAt p.level)
  configuration : ∀ record,
    Log.passes? (Log.configuration p.settings) record = some (record.isShownAt p.level)

theorem showsOf_of_withLogging {full p : Program} (hlevel : full.level = .debug)
    (hsetup : Log.setup p.settings = .ok p.level) {debug : Bool} {logLevel : Text}
    (hsettings : full.settings = p.settings.withLogging debug logLevel) (r : Request) :
    ShowsOf platform failure? r full p := by
  have hfull : full.reply platform failure? r
      = reply platform p.settings (Reviewer.failingOn failure? p.settings) r := by
    rw [programReply_debug hlevel, hsettings, reply, handle_withLogging, reply]
  refine ⟨?_, ?_, Log.passes?_configuration hsetup⟩
  · rw [hfull, Program.reply, Reply.shownAt]
  · rw [hfull, Program.reply, Reply.shownAt, Log.shown]

end Shown

/-- Two environments that differ in logging alone, of which one starts the program and the other
names a level, both start it, and the answers to every request are the same. Each shows, in order,
the records that its configuration lets through of what the program records in full, which is what
becomes of the request, unless its handling ends with an exception. -/
theorem reply_recorded {env env' : Environment} (hagree : env.AgreeButLogging env') {p : Program}
    (hstart : Program.start env = .ok p) {level : Log.Level}
    (hlevel : Log.Level.ofName? env'.levelName = some level) (platform : Platform)
    (failure? : Snippet → Option Reviewer.Failure) (r : Request) :
    ∃ p' full : Program,
      Program.start env' = .ok p' ∧ p'.level = level
      ∧ Program.start (env.withLevelName "DEBUG".toList) = .ok full ∧ full.level = .debug
      ∧ (p.reply platform failure? r).answer = (p'.reply platform failure? r).answer
      ∧ ShowsOf platform failure? r full p ∧ ShowsOf platform failure? r full p'
      ∧ (Recorded platform full.settings (Reviewer.failingOn failure? full.settings) r
            (full.reply platform failure? r)
          ∨ ∃ abort,
            handle platform full.settings (Reviewer.failingOn failure? full.settings) r
              = .error abort
            ∧ Unserved platform full.settings r abort.cause) := by
  have hstart' := Program.start_of_agree hagree hstart hlevel
  have hdebug : Log.Level.ofName? (env.withLevelName "DEBUG".toList).levelName = some .debug := by
    rw [Environment.levelName_withLevelName]
    decide
  obtain ⟨full, hfull, hfullLevel, hfullSettings⟩ : ∃ full : Program,
      Program.start (env.withLevelName "DEBUG".toList) = .ok full ∧ full.level = .debug
        ∧ full.settings = p.settings.withLogging (env.withLevelName "DEBUG".toList).debugging
          (env.withLevelName "DEBUG".toList).levelName :=
    ⟨_, Program.start_of_agree (env.agreeButLogging_withLevelName _) hstart hdebug, rfl, rfl⟩
  have hshows : ShowsOf platform failure? r full p :=
    showsOf_of_withLogging hfullLevel (Program.start_eq_ok_iff.1 hstart).2 hfullSettings r
  have hshows' : ShowsOf platform failure? r full
      ⟨p.settings.withLogging env'.debugging env'.levelName, level⟩ :=
    showsOf_of_withLogging hfullLevel (Program.start_eq_ok_iff.1 hstart').2 hfullSettings r
  refine ⟨_, full, hstart', rfl, hfull, hfullLevel, ?_, hshows, hshows', ?_⟩
  · rw [hshows.answer, hshows'.answer]
  · cases hsent : handle platform full.settings (Reviewer.failingOn failure? full.settings) r with
    | ok sent =>
      rw [programReply_debug hfullLevel, reply_of_handle hsent]
      exact Or.inl (recorded_of_handle hsent)
    | error abort => exact Or.inr ⟨abort, rfl, unserved_of_handle hsent⟩

/-- A snippet that is too short, sent by a program: a program that shows warnings alone gives the
same answer as another, but does not show the rejection. -/
theorem reply_recorded_tooShort :
    let env : Environment := fun _ => none
    let env' : Environment := fun v =>
      match v with
      | .debug => some "yes".toList
      | .logLevel => some "notset".toList
      | _ => none
    let request := programRequest bareRequest (objectBody true "Go".toList "x".toList)
    ∃ p p' : Program,
      Program.start env = .ok p ∧ Program.start env' = .ok p' ∧ p'.level = .notSet
      ∧ (p.reply smallPlatform (fun _ => none) request).answer
        = (p'.reply smallPlatform (fun _ => none) request).answer
      ∧ (p.reply smallPlatform (fun _ => none) request).records = [⟨.service, .info,
          "Rejected review request: Please paste at least a few lines of code.".toList⟩]
      ∧ (p'.reply smallPlatform (fun _ => none) request).records = [] := by
  intro env env' request
  have hagree : env.AgreeButLogging env' := by
    intro v hdebug hlevel
    cases v <;> first | rfl | exact absurd rfl hdebug | exact absurd rfl hlevel
  have hstart : Program.start env = .ok ⟨defaultSettings, .info⟩ := rfl
  have hlevel : Log.Level.ofName? env'.levelName = some .notSet := by decide
  obtain ⟨p', full, hstart', hlevel', hfull, -, hanswer, hshows, hshows', -⟩ :=
    reply_recorded hagree hstart hlevel smallPlatform (fun _ => none) request
  have hfullReply : full.reply smallPlatform (fun _ => none) request
      = ⟨errorAnswer "Please paste at least a few lines of code.".toList, [⟨.service, .info,
          "Rejected review request: Please paste at least a few lines of code.".toList⟩]⟩ := by
    -- the environment that shows everything sets nothing else
    obtain rfl : ⟨defaultSettings.withLogging false "DEBUG".toList, .debug⟩ = full :=
      Except.ok.inj hfull
    rw [programReply_debug rfl, reply_objectBody]
    rfl
  refine ⟨_, p', hstart, hstart', hlevel', hanswer, ?_, ?_⟩
  · rw [hshows.records, hfullReply]
    rfl
  · rw [hshows'.records, hfullReply, hlevel']
    rfl

/-- Very many openers are reviewed for a report to print, which is recorded, and then fail, which is
recorded too. -/
theorem records_print_manyOpeners :
    let code : Text := List.replicate 2721 '['
    let sent := reply smallPlatform defaultSettings (Reviewer.standard defaultSettings)
      (urlencodedRequest .print bareRequest (formBody "Go".toList code))
    ∃ result,
      Reviewer.standard defaultSettings ⟨"Go".toList, code⟩ = .ok result
      ∧ sent.answer.status = 500
      ∧ sent.records = [Reviewer.record code.length result,
        ⟨.service, .error, "PDF export failed for Go snippet".toList⟩] := by
  intro code sent
  have hsent : sent = _ := reply_manyOpeners .print
  rw [hsent, reportOn_eq_of_not_fits not_fits_manyOpeners]
  exact ⟨_, rfl, rfl, rfl⟩

end Service

end SnippetReview
