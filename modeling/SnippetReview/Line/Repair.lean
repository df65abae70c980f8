import SnippetReview.Text.Split
import SnippetReview.Language
import SnippetReview.Line.Terminator

/-!
# The suggested fix

A line with an odd number of double quotes gets one more at its end, and then a line that needs
a terminator gets one. Blanks at the end of a line are dropped only where something is put in
their place. A carriage return at the very end of a line belongs to its line ending and stays.

`Line.repair` mends one line with any terminator, and `suggestFix` all lines of a snippet.
-/

namespace SnippetReview

namespace Line

/-- The mark around a string literal. -/
def quote : Char := '"'

/-- Whether a string literal is left open: the line has an odd number of double quotes. -/
def hasOpenQuote (line : Text) : Bool := line.count quote % 2 == 1

/-- Closes a string literal that is left open. -/
def closeQuote (body : Text) : Text :=
  if hasOpenQuote body then Text.trimEnd body ++ [quote] else body

/-- Closes a statement that needs a terminator. -/
def closeStatement (close : Text) (body : Text) : Text :=
  if needsTerminator close body then Text.trimEnd body ++ close else body

/-- The line without the carriage return at its end, and the carriage return if there is
one. -/
def splitReturn (line : Text) : Text × Text :=
  if line.getLast? = some '\r' then (line.dropLast, ['\r']) else (line, [])

/-- The line with its string literal and its statement closed. -/
def repair (close : Text) (line : Text) : Text :=
  let (body, ending) := splitReturn line
  closeStatement close (closeQuote body) ++ ending

end Line

/-- The code with every line repaired, in a language that closes statements; in any other
language the code as it is. -/
def suggestFix (language code : Text) : Text :=
  if Language.usesTerminator language then
    Text.unlines ((Text.lines code).map (Line.repair Line.terminator))
  else code

/-- The suggested fix of code that may be missing. In a language that closes statements it is
taken as empty; in any other it stays missing. -/
def suggestFix? (language : Text) (code : Option Text) : Option Text :=
  if Language.usesTerminator language then some (suggestFix language (code.getD [])) else code

end SnippetReview
