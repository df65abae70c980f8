import SnippetReview.Language
import SnippetReview.Settings

/-!
# Submissions

A submission is what a user sends for review. Only a submission that names a language and holds
code of an admitted length is accepted; otherwise the first reason in a fixed order is given.
The limits are compared with the length of the code as it was sent.
-/

namespace SnippetReview

/-- What is sent for review. A field that is missing, or is no text, is `none`. -/
structure Submission where
  language : Option Text
  code : Option Text
  deriving DecidableEq

/-- What is accepted for review. -/
structure Snippet where
  language : Text
  code : Text
  deriving DecidableEq

/-- Why something is not accepted for review. -/
inductive Rejection
  | noLanguage
  | noCode
  | tooShort
  | tooLarge (limit : Int)
  | uploadTooLarge (limit : Int)
  deriving DecidableEq

/-- The reason in words, as the user is told it. -/
def Rejection.message : Rejection → Text
  | noLanguage => "Please select a language.".toList
  | noCode => "Please paste some code before requesting a review.".toList
  | tooShort => "Please paste at least a few lines of code.".toList
  | tooLarge limit =>
    "Snippet too large. Max allowed is ".toList ++ Numeral.grouped limit ++ " characters.".toList
  | uploadTooLarge limit =>
    "Uploaded file too large. Max allowed is ".toList ++ Numeral.grouped limit
      ++ " characters.".toList

namespace Submission

/-- Accepts a submission with its language in normal form, or rejects it. -/
def validate (settings : Settings) (s : Submission) : Except Rejection Snippet :=
  let language := s.language.getD []
  let code := s.code.getD []
  if Text.isBlankText language then .error .noLanguage
  else if Text.isBlankText code then .error .noCode
  else if code.length < settings.minCodeChars then .error .tooShort
  else if settings.maxCodeChars < code.length then .error (.tooLarge settings.maxCodeChars)
  else .ok ⟨Language.normalize language, code⟩

end Submission

end SnippetReview
