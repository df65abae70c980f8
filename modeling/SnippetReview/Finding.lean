import SnippetReview.LineCheck
import SnippetReview.Bracket
import SnippetReview.Marker
import SnippetReview.Numeral.Basic

/-!
# Findings

A review reports findings of five kinds: on a line, on a bracket, and the three that concern the
snippet as a whole. They are reported in this order, the faults of lines with the missing
terminators first.
-/

namespace SnippetReview

namespace Line

/-- A fault in words. -/
def Fault.message : Fault → Text
  | .missingTerminator =>
    "Possible missing '".toList ++ terminator ++ "' at end of statement.".toList
  | .openQuote => "Unclosed string literal (odd number of '\"').".toList

/-- A finding on a line in words. -/
def Finding.message (f : Finding) : Text :=
  "Line ".toList ++ Numeral.digits f.number ++ ": ".toList ++ f.fault.message

end Line

namespace Bracket

/-- A finding on brackets in words. -/
def Finding.message : Finding → Text
  | .unexpected shape position =>
    "Unexpected '".toList ++ shape.closeChar :: "' at position ".toList
      ++ Numeral.digits position ++ ".".toList
  | .unclosed shapes =>
    "Unclosed bracket(s) remain: ".toList
      ++ List.intercalate ", ".toList (shapes.map fun s => ['\'', s.openChar, '\''])
      ++ ".".toList

end Bracket

/-- What a review finds. -/
inductive Finding
  | line (finding : Line.Finding)
  | bracket (finding : Bracket.Finding)
  | debugOutput
  | todo
  | longSnippet
  deriving DecidableEq

namespace Finding

/-- A finding in words. -/
def message : Finding → Text
  | line f => f.message
  | bracket f => f.message
  | debugOutput =>
    ("Debug logging (console.log / println / cout / print) detected. "
      ++ "Remove or guard logs for production builds.").toList
  | todo => "Found TODO/FIXME comments. Make sure to address them before production.".toList
  | longSnippet =>
    ("Function or snippet is quite long. "
      ++ "Consider breaking it into smaller functions for readability.").toList

/-- All findings in a snippet, where `longLimit` is the number of lines that is not yet long. -/
def all (longLimit : Int) (language code : Text) : List Finding :=
  (Line.checkTerminators language code).map line
    ++ (Line.checkQuotes code).map line
    ++ (Bracket.check code).map bracket
    ++ (if Marker.hasDebugOutput code then [debugOutput] else [])
    ++ (if Marker.hasTodo code then [todo] else [])
    ++ (if Marker.isLong longLimit code then [longSnippet] else [])

end Finding

end SnippetReview
