import SnippetReview.Text.UpperCase
import SnippetReview.Text.LowerCase
import SnippetReview.Text.Blank
import SnippetReview.Numeral.Basic

/-!
# Settings

The settings are read from environment variables, each of which has a default. Only the four
numbers can be wrong; the first that is wrong, in a fixed order, is the one reported.
-/

namespace SnippetReview

/-- The environment variables that are read. -/
inductive Variable
  | debug
  | logLevel
  | host
  | port
  | minCodeChars
  | maxCodeChars
  | longSnippetLines
  | reportPreparedBy
  deriving DecidableEq

/-- The name of an environment variable. -/
def Variable.name : Variable → String
  | debug => "DEBUG"
  | logLevel => "LOG_LEVEL"
  | host => "HOST"
  | port => "PORT"
  | minCodeChars => "MIN_CODE_CHARS"
  | maxCodeChars => "MAX_CODE_CHARS"
  | longSnippetLines => "LONG_SNIPPET_LINES"
  | reportPreparedBy => "REPORT_PREPARED_BY"

/-- All environment variables that are read. -/
def Variable.all : List Variable :=
  [debug, logLevel, host, port, minCodeChars, maxCodeChars, longSnippetLines, reportPreparedBy]

/-- An environment: the values of the variables that are set. -/
abbrev Environment := Variable → Option Text

/-- The settings of the program. -/
structure Settings where
  debug : Bool
  logLevel : Text
  host : Text
  port : Int
  minCodeChars : Int
  maxCodeChars : Int
  longSnippetLines : Int
  reportPreparedBy : Text
  deriving DecidableEq

namespace Settings

/-- The words that switch something on, in lower case. -/
def trueWords : List Text := ["1".toList, "true".toList, "yes".toList, "on".toList]

/-- Whether a text switches something on. -/
def isTrueWord (s : Text) : Bool := trueWords.contains (Text.toLower (Text.trim s))

/-- A variable as a number, with a default. -/
def number (env : Environment) (v : Variable) (default : Int) : Except Numeral.Error Int :=
  match env v with
  | some s => Numeral.read s
  | none => .ok default

/-- The settings in an environment. -/
def ofEnvironment (env : Environment) : Except Numeral.Error Settings := do
  let debug := (env .debug).any isTrueWord
  let logLevel := (env .logLevel).getD (if debug then "DEBUG".toList else "INFO".toList)
  let port ← number env .port 8000
  let minCodeChars ← number env .minCodeChars 10
  let maxCodeChars ← number env .maxCodeChars 200000
  let longSnippetLines ← number env .longSnippetLines 80
  return {
    debug
    logLevel := Text.toUpper logLevel
    host := (env .host).getD "0.0.0.0".toList
    port
    minCodeChars
    maxCodeChars
    longSnippetLines
    reportPreparedBy := (env .reportPreparedBy).getD "CodeChat Reviewer".toList }

end Settings

end SnippetReview
