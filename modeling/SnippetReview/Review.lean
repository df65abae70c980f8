import SnippetReview.Finding
import SnippetReview.Complexity
import SnippetReview.Quality

/-!
# Reviews

A review holds the language in its normal form, the findings, what could be improved, an
estimate of complexity and the suggested fix. Its quality follows from the number of findings.
What it lists as potential issues are the findings in words, or, if there is none, one sentence
that says so. Reviews are made by `review`.
-/

namespace SnippetReview

/-! ## Improvements -/

namespace Language

/-- What could be improved in code of the language. -/
def tip : Language → Text
  | python =>
    ("Add type hints and docstrings to public functions so intent is clear "
      ++ "and tools can check usage.").toList
  | typeScript =>
    ("Enable strict compiler options and avoid `any` so the type checker "
      ++ "can catch mistakes.").toList
  | javaScript =>
    ("Prefer `const`/`let` over `var` and use strict equality (`===`) "
      ++ "in comparisons.").toList
  | java =>
    ("Prefer interfaces for declared types (e.g. `List` over `ArrayList`) "
      ++ "and close resources with try-with-resources.").toList
  | cpp => "Prefer RAII and smart pointers over manual `new`/`delete` to avoid leaks.".toList
  | go => "Check every returned error value and wrap it with context before returning it.".toList

end Language

/-- What could be improved in any code. -/
def generalImprovements : List Text :=
  [("Ensure variable and function names are descriptive and follow a consistent "
      ++ "naming convention.").toList,
   "Add comments or docstrings for complex logic and non-trivial algorithms.".toList,
   "Consider adding unit tests for edge cases and failure scenarios.".toList]

/-- What could be improved in code of a language given by its display name. -/
def improvements (language : Text) : List Text :=
  generalImprovements ++ ((Language.ofName? language).map Language.tip).toList

/-! ## The review -/

/-- The review of a snippet. -/
structure Review where
  language : Text
  findings : List Finding
  improvements : List Text
  complexity : Complexity
  suggestedFix : Text
  deriving DecidableEq

namespace Review

/-- What is listed when there is no finding. -/
def noFindings : Text :=
  ("No obvious red flags detected from a static scan. "
    ++ "Edge cases may still exist.").toList

/-- The quality that follows from the findings. -/
def quality (r : Review) : Quality := Quality.ofCount r.findings.length

/-- The potential issues as they are listed. -/
def issues (r : Review) : List Text :=
  if r.findings.isEmpty then [noFindings] else r.findings.map Finding.message

end Review

/-- Reviews a snippet, where `longLimit` is the number of lines that is not yet long. -/
def review (longLimit : Int) (language code : Text) : Review :=
  let normal := Language.normalize language
  { language := normal
    findings := Finding.all longLimit normal code
    improvements := improvements normal
    complexity := Complexity.estimate code
    suggestedFix := suggestFix normal code }

section Fields

variable (longLimit : Int) (language code : Text)

@[simp] theorem language_review :
    (review longLimit language code).language = Language.normalize language := rfl

@[simp] theorem findings_review : (review longLimit language code).findings
    = Finding.all longLimit (Language.normalize language) code := rfl

@[simp] theorem improvements_review : (review longLimit language code).improvements
    = improvements (Language.normalize language) := rfl

@[simp] theorem complexity_review :
    (review longLimit language code).complexity = Complexity.estimate code := rfl

@[simp] theorem suggestedFix_review : (review longLimit language code).suggestedFix
    = suggestFix (Language.normalize language) code := rfl

end Fields

end SnippetReview
