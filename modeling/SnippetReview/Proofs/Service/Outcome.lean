import SnippetReview.Service.Handler
import SnippetReview.Proofs.Upload

/-!
# What a form comes to

A form that is answered has been rejected, has not been reviewed, or is reported on
(`outcome_of_submitForm`). What was accepted and reviewed is reported on in both ways
(`submitForm_of_accepted`).
-/

namespace SnippetReview

namespace Service

variable {platform : Platform} {address : Text} {target : Target} {settings : Settings}
  {reviewer : Reviewer} {s : Submission} {file : Option Upload}

/-- What a form with a submission and a file comes to, and the reply to it. -/
inductive Outcome (platform : Platform) (address : Text) (target : Target) (settings : Settings)
    (reviewer : Reviewer) (s : Submission) (file : Option Upload) : Reply → Prop
  /-- It is rejected with what was sent or made of it. -/
  | rejected (reason : Rejection) (sent : Submission)
      (refused : ∀ snippet, ¬ s.AcceptedAs platform.room settings file snippet) :
      Outcome platform address target settings reviewer s file
        (rejectForm address target reason sent)
  /-- It is accepted, but not reviewed. -/
  | failed {snippet : Snippet} {failure : Reviewer.Failure}
      (accepted : s.AcceptedAs platform.room settings file snippet)
      (unreviewed : reviewer snippet = .error failure) :
      Outcome platform address target settings reviewer s file (failForm address target snippet)
  /-- It is accepted and reviewed. -/
  | reported {snippet : Snippet} {r : Review}
      (accepted : s.AcceptedAs platform.room settings file snippet)
      (reviewed : reviewer snippet = .ok r) :
      Outcome platform address target settings reviewer s file
        (reportOn address target settings snippet r)

theorem outcome_submitMerged {merged : Submission}
    (hmerge : s.merge platform.room settings file = .ok merged) :
    Outcome platform address target settings reviewer s file
      (submitMerged address target settings reviewer merged) := by
  rw [submitMerged]
  cases hvalid : merged.validate settings with
  | error reason =>
    refine .rejected reason merged fun snippet => ?_
    rintro ⟨m, hm, hsnippet⟩
    rw [hmerge, Except.ok.injEq] at hm
    rw [← hm, hvalid] at hsnippet
    cases hsnippet
  | ok snippet =>
    have haccepted : s.AcceptedAs platform.room settings file snippet := ⟨merged, hmerge, hvalid⟩
    dsimp only
    cases hreview : reviewer snippet with
    | error failure => exact .failed haccepted hreview
    | ok r => exact .reported haccepted hreview

theorem outcome_of_submitForm {reply : Reply}
    (h : submitForm platform address target settings reviewer s file = .ok reply) :
    Outcome platform address target settings reviewer s file reply := by
  rw [submitForm] at h
  cases hmerge : s.merge platform.room settings file with
  | error e =>
    rw [hmerge] at h
    cases e with
    | unread e => cases h
    | rejected reason =>
      cases h
      refine .rejected reason s fun snippet => ?_
      rintro ⟨m, hm, -⟩
      rw [hmerge] at hm
      cases hm
  | ok merged =>
    rw [hmerge] at h
    cases h
    exact outcome_submitMerged hmerge

/-- What is accepted and reviewed is reported on. -/
theorem submitForm_of_accepted {snippet : Snippet} {r : Review}
    (haccepted : s.AcceptedAs platform.room settings file snippet)
    (hreview : reviewer snippet = .ok r) (address : Text) (target : Target) :
    submitForm platform address target settings reviewer s file
      = .ok (reportOn address target settings snippet r) := by
  obtain ⟨merged, hmerge, hvalid⟩ := haccepted
  rw [submitForm, hmerge]
  dsimp only
  rw [submitMerged, hvalid]
  dsimp only
  rw [hreview]

/-- A form that is answered with success is reported on. -/
theorem exists_reportOn_of_status {reply : Reply}
    (h : submitForm platform address target settings reviewer s file = .ok reply)
    (hstatus : reply.answer.status = 200) :
    ∃ snippet r, s.AcceptedAs platform.room settings file snippet ∧ reviewer snippet = .ok r
      ∧ reply = reportOn address target settings snippet r := by
  cases outcome_of_submitForm h with
  | rejected reason sent => exact absurd hstatus (by simp [rejectForm, formAgain, Answer.of])
  | failed => exact absurd hstatus (by simp [failForm, formAgain, Answer.of])
  | reported haccepted hreview => exact ⟨_, _, haccepted, hreview, rfl⟩

end Service

end SnippetReview
