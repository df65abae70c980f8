import SnippetReview.Line.Repair

/-!
# Findings on single lines

Every line of a text is looked at by itself, for a string literal left open and, in languages
that close statements, for a missing terminator. Lines are counted from one.
-/

namespace SnippetReview

namespace Line

/-- What may be wrong with a line. -/
inductive Fault
  | missingTerminator
  | openQuote
  deriving DecidableEq

/-- A fault and the number of the line that has it. -/
structure Finding where
  number : Nat
  fault : Fault
  deriving DecidableEq

/-- The findings of a test on the lines of a text. -/
def findings (fault : Fault) (test : Text → Bool) (code : Text) : List Finding :=
  ((Text.numberedLines code).filter fun ln => test ln.1).map fun ln => ⟨ln.2, fault⟩

/-- The lines that leave a string literal open. -/
def checkQuotes (code : Text) : List Finding := findings .openQuote hasOpenQuote code

/-- The lines that need a terminator, if statements are closed in the language. -/
def checkTerminators (language code : Text) : List Finding :=
  if Language.usesTerminator language then
    findings .missingTerminator (needsTerminator terminator) code
  else []

end Line

end SnippetReview
