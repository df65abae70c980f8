import SnippetReview.Review
import SnippetReview.Submission
import SnippetReview.Log

/-!
# Reviewers

A reviewer makes a review of a snippet, or fails. The standard reviewer never fails, and records
every review that it makes.
-/

namespace SnippetReview

namespace Reviewer

/-- Why a reviewer has made no review. -/
inductive Failure
  /-- It does not say how to review anything. -/
  | unimplemented
  /-- It broke off. -/
  | broken
  deriving DecidableEq

end Reviewer

/-- A reviewer. -/
abbrev Reviewer := Snippet → Except Reviewer.Failure Review

namespace Reviewer

/-- The reviewer with the given limit of lines. -/
def withLimit (longLimit : Int) : Reviewer := fun s => .ok (review longLimit s.language s.code)

/-- The reviewer with the limit of the settings. -/
def standard (settings : Settings) : Reviewer := withLimit settings.longSnippetLines

/-- The reviewer that does not say how to review anything. -/
def blank : Reviewer := fun _ => .error .unimplemented

/-- The reviewer that breaks off on every snippet. -/
def failing : Reviewer := fun _ => .error .broken

/-- What is recorded of a review of code of the given length. The number of issues is that of the
issues listed, which is one where there is no finding. -/
def record (length : Nat) (r : Review) : Log.Record where
  source := .reviewer
  severity := .debug
  message :=
    "Reviewed ".toList ++ Numeral.digits length ++ " chars of ".toList
      ++ (if r.language.isEmpty then "unknown".toList else r.language)
      ++ ": ".toList ++ Numeral.digits r.issues.length
      ++ " issue(s), score ".toList ++ Numeral.digits r.quality.score

end Reviewer

end SnippetReview
