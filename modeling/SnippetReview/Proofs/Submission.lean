import SnippetReview.Submission
import SnippetReview.Proofs.Language.NormalForm

/-!
# What is accepted

A submission is accepted exactly if it names a language and holds code of an admitted length, and
what is accepted is that code with the language in normal form (`validate_eq_ok_iff`). So what has
been accepted is accepted again as it is (`validate_snippet`).
-/

namespace SnippetReview

namespace Submission

theorem validate_eq_ok_iff {settings : Settings} {s : Submission} {snippet : Snippet} :
    s.validate settings = .ok snippet ↔
      Text.isBlankText (s.language.getD []) = false
        ∧ Text.isBlankText (s.code.getD []) = false
        ∧ settings.minCodeChars ≤ (s.code.getD []).length
        ∧ (s.code.getD []).length ≤ settings.maxCodeChars
        ∧ snippet = ⟨Language.normalize (s.language.getD []), s.code.getD []⟩ := by
  rw [validate]
  split_ifs with hlanguage hcode hshort hlong
  · simp [hlanguage]
  · simp [hcode]
  · refine iff_of_false (by simp) fun h => ?_
    omega
  · refine iff_of_false (by simp) fun h => ?_
    omega
  · rw [Bool.not_eq_true] at hlanguage hcode
    rw [Except.ok.injEq, eq_comm]
    constructor
    · exact fun h => ⟨hlanguage, hcode, by omega, by omega, h⟩
    · exact fun h => h.2.2.2.2

/-- Only the most code that is admitted is left to decide on code that is not too short. -/
theorem validate_of_not_tooShort {settings : Settings} {language code : Text}
    (hlanguage : Text.isBlankText language = false) (hcode : Text.isBlankText code = false)
    (hleast : settings.minCodeChars ≤ code.length) :
    validate settings ⟨some language, some code⟩
      = if settings.maxCodeChars < code.length then .error (.tooLarge settings.maxCodeChars)
        else .ok ⟨Language.normalize language, code⟩ := by
  simp [validate, hlanguage, hcode, Int.not_lt.2 hleast]

/-- What has been accepted is accepted again, and comes to the same. -/
theorem validate_snippet {settings : Settings} {s : Submission} {snippet : Snippet}
    (h : s.validate settings = .ok snippet) :
    validate settings ⟨some snippet.language, some snippet.code⟩ = .ok snippet := by
  obtain ⟨hlanguage, hcode, hmin, hmax, rfl⟩ := validate_eq_ok_iff.1 h
  refine validate_eq_ok_iff.2 ⟨Language.isBlankText_normalize hlanguage, hcode, hmin, hmax, ?_⟩
  rw [Option.getD_some, Option.getD_some, Language.normalize_normalize]

end Submission

end SnippetReview
