import SnippetReview.Log

/-!
# Starting the program

The settings are read first and logging is set up next; the first of the two that goes wrong is
why the program does not start. The server is then started with what the settings say.
-/

namespace SnippetReview

/-- A program that has started: its settings, and the level of its log. -/
structure Program where
  settings : Settings
  level : Log.Level
  deriving DecidableEq

/-- Reads the settings and sets up logging. -/
def Program.start (env : Environment) : Except StartError Program :=
  match Settings.ofEnvironment env with
  | .error e => .error (.badNumber e)
  | .ok settings =>
    match Log.setup settings with
    | .error e => .error (.badLogging e)
    | .ok level => .ok ⟨settings, level⟩

/-- What the server is started with. -/
structure Launch where
  application : Text
  host : Text
  port : Int
  reload : Bool
  logLevel : Text
  deriving DecidableEq

/-- What the settings say that the server is started with. -/
def Launch.ofSettings (settings : Settings) : Launch where
  application := "codechat.main:app".toList
  host := settings.host
  port := settings.port
  reload := settings.debug
  logLevel := if settings.debug then "debug".toList else "info".toList

/-- The launch in one line. -/
def Launch.line (l : Launch) : Text :=
  l.application ++ " host=".toList ++ l.host ++ " port=".toList ++ Numeral.decimal l.port
    ++ " reload=".toList ++ (if l.reload then "true".toList else "false".toList)
    ++ " log_level=".toList ++ l.logLevel

end SnippetReview
