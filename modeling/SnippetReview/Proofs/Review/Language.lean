import SnippetReview.Proofs.Submission
import SnippetReview.Review

/-!
# The review and the language

A review asks of the language for its normal form alone (`review_normalize`), and so do the check
for missing terminators and the suggested fix when they are asked by themselves. Hence spellings
with one normal form have one review, and what has been accepted for review is reviewed as what has
been sent (`review_of_normalForm`).
-/

namespace SnippetReview

section NormalForm

variable (longLimit : Int) (language code : Text)

theorem Line.checkTerminators_normalize :
    checkTerminators (Language.normalize language) code = checkTerminators language code := by
  rw [checkTerminators, checkTerminators, Language.usesTerminator_normalize]

theorem suggestFix_normalize :
    suggestFix (Language.normalize language) code = suggestFix language code := by
  rw [suggestFix, suggestFix, Language.usesTerminator_normalize]

/-- The review of a language in normal form is that of the language. -/
theorem review_normalize :
    review longLimit (Language.normalize language) code = review longLimit language code := by
  rw [review, review, Language.normalize_normalize]

end NormalForm

/-- What has been accepted is reviewed as what has been sent. -/
theorem review_of_validate {settings : Settings} {s : Submission} {snippet : Snippet}
    (h : s.validate settings = .ok snippet) (longLimit : Int) :
    review longLimit snippet.language snippet.code
      = review longLimit (s.language.getD []) (s.code.getD []) := by
  obtain ⟨-, -, -, -, rfl⟩ := Submission.validate_eq_ok_iff.1 h
  exact review_normalize longLimit _ _

/-- A normal form is its own normal form, and the review of a language is that of its normal form.
So are the terminators that are missed and the fix that is suggested: they are the same for all
spellings of one normal form, such as an alias in any case with blanks around it. What is accepted
for review has a language in normal form that is not blank, and its review is that of what has been
sent. -/
theorem review_of_normalForm :
    (∀ s : Text, Language.normalize (Language.normalize s) = Language.normalize s)
      ∧ (∀ (longLimit : Int) (s code : Text),
        review longLimit s code = review longLimit (Language.normalize s) code)
      ∧ (∀ s t : Text, Language.normalize s = Language.normalize t →
        ∀ (longLimit : Int) (code : Text), review longLimit s code = review longLimit t code
          ∧ Line.checkTerminators s code = Line.checkTerminators t code
          ∧ suggestFix s code = suggestFix t code)
      ∧ (∀ (l : Language) (s : Text),
        Text.toLower (Text.trim s) ∈ l.aliases → Language.normalize s = l.name)
      ∧ (∀ before s after : Text, Text.Blank before → Text.Blank after →
        Language.normalize (before ++ s ++ after) = Language.normalize s)
      ∧ ∀ (settings : Settings) (s : Submission) (snippet : Snippet),
        s.validate settings = .ok snippet →
          Text.isBlankText snippet.language = false
            ∧ Language.normalize snippet.language = snippet.language
            ∧ ∀ longLimit : Int, review longLimit snippet.language snippet.code
              = review longLimit (s.language.getD []) (s.code.getD []) := by
  refine ⟨Language.normalize_normalize, ?_, ?_, ?_, ?_, ?_⟩
  · intro longLimit s code
    exact (review_normalize longLimit s code).symm
  · intro s t h longLimit code
    rw [← review_normalize longLimit s, ← review_normalize longLimit t,
      ← Line.checkTerminators_normalize s, ← Line.checkTerminators_normalize t,
      ← suggestFix_normalize s, ← suggestFix_normalize t, h]
    exact ⟨rfl, rfl, rfl⟩
  · intro l s h
    exact Language.normalize_of_mem_aliases h
  · intro before s after hbefore hafter
    exact Language.normalize_padded hbefore hafter s
  · intro settings s snippet h
    refine ⟨?_, ?_, review_of_validate h⟩
    · obtain ⟨hlanguage, -, -, -, rfl⟩ := Submission.validate_eq_ok_iff.1 h
      exact Language.isBlankText_normalize hlanguage
    · obtain ⟨-, -, -, -, rfl⟩ := Submission.validate_eq_ok_iff.1 h
      exact Language.normalize_normalize _

theorem review_of_normalForm_python :
    let settings : Settings := ⟨false, "INFO".toList, [], 8000, 1, 20, 80, []⟩
    let code := "say \"hi".toList
    let sent : Submission := ⟨some " pYthon3\t".toList, some code⟩
    let accepted : Snippet := ⟨"Python".toList, code⟩
    sent.validate settings = .ok accepted
      ∧ Language.normalize " pYthon3\t".toList = Language.normalize "Py".toList
      ∧ Text.toLower (Text.trim " pYthon3\t".toList) ∈ Language.python.aliases
      ∧ Text.Blank " ".toList ∧ Text.Blank "\t".toList
      ∧ (∀ longLimit : Int,
        review longLimit " pYthon3\t".toList code = review longLimit "Py".toList code)
      ∧ Language.normalize " pYthon3\t".toList = "Python".toList
      ∧ Language.normalize " pYthon3\t".toList = Language.normalize "pYthon3".toList
      ∧ ∀ longLimit : Int,
        review longLimit "Python".toList code = review longLimit " pYthon3\t".toList code := by
  intro settings code sent accepted
  have haccepted : sent.validate settings = .ok accepted := by decide
  have hnormal : Language.normalize " pYthon3\t".toList = Language.normalize "Py".toList := by
    decide
  have halias : Text.toLower (Text.trim " pYthon3\t".toList) ∈ Language.python.aliases := by decide
  have hbefore : Text.Blank " ".toList := Text.trim_eq_nil_iff.1 (by decide)
  have hafter : Text.Blank "\t".toList := Text.trim_eq_nil_iff.1 (by decide)
  obtain ⟨-, -, hsame, hname, hpadded, hsubmission⟩ := review_of_normalForm
  refine ⟨haccepted, hnormal, halias, hbefore, hafter, ?_, hname .python _ halias,
    hpadded " ".toList "pYthon3".toList "\t".toList hbefore hafter, ?_⟩
  · intro longLimit
    exact (hsame _ _ hnormal longLimit code).1
  · exact (hsubmission settings sent accepted haccepted).2.2

end SnippetReview
