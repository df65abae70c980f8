import SnippetReview.Settings

/-!
# Logging

What the program does is recorded in full; which records are shown depends on the level that
the settings name. A record has a severity and names the part of the program that wrote it.
-/

namespace SnippetReview

namespace Log

/-- The names under which a level can be set. -/
inductive Level
  | notSet
  | debug
  | info
  | warning
  | error
  | critical
  deriving DecidableEq

namespace Level

/-- The rank of a level; a higher one is more severe. -/
def rank : Level → Nat
  | notSet => 0
  | debug => 10
  | info => 20
  | warning => 30
  | error => 40
  | critical => 50

/-- The level that a name in upper case stands for. -/
def ofName? (s : Text) : Option Level :=
  [("CRITICAL".toList, critical), ("FATAL".toList, critical), ("ERROR".toList, error),
   ("WARN".toList, warning), ("WARNING".toList, warning), ("INFO".toList, info),
   ("DEBUG".toList, debug), ("NOTSET".toList, notSet)].lookup s

/-- The level from which on records are shown: where none is set, that of warnings. -/
def effective : Level → Level
  | notSet => warning
  | level => level

end Level

/-- How severe a record is. -/
inductive Severity
  | debug
  | info
  | error
  deriving DecidableEq

namespace Severity

/-- The name of a severity. -/
def name : Severity → Text
  | debug => "DEBUG".toList
  | info => "INFO".toList
  | error => "ERROR".toList

/-- The level of a severity. -/
def level : Severity → Level
  | debug => .debug
  | info => .info
  | error => .error

end Severity

/-- The parts of the program that write records. -/
inductive Source
  | reviewer
  | service
  deriving DecidableEq

/-- The name of a part of the program in the log. -/
def Source.name : Source → Text
  | reviewer => "codechat.code_review.reviewers.heuristic".toList
  | service => "codechat.code_review.router".toList

/-- A record of the log. -/
structure Record where
  source : Source
  severity : Severity
  message : Text
  deriving DecidableEq

/-- Whether a record is shown at a level. -/
def Record.isShownAt (level : Level) (r : Record) : Bool :=
  level.effective.rank ≤ r.severity.level.rank

/-- The records that are shown at a level, in order. -/
def shown (level : Level) (records : List Record) : List Record :=
  records.filter (Record.isShownAt level)

/-- What may go wrong when logging is set up: the level named is none. -/
inductive SetupError
  | unknownLevel
  deriving DecidableEq

/-- The error in words. -/
def SetupError.message : SetupError → Text
  | unknownLevel => "Unable to configure handler 'console'".toList

/-- Sets up logging as the settings say. -/
def setup (settings : Settings) : Except SetupError Level :=
  match Level.ofName? settings.logLevel with
  | some level => .ok level
  | none => .error .unknownLevel

end Log

/-- Why the program does not start. -/
inductive StartError
  | badNumber (error : Numeral.Error)
  | badLogging (error : Log.SetupError)
  deriving DecidableEq

/-- The error in words. -/
def StartError.message : StartError → Text
  | badNumber e => e.message
  | badLogging e => e.message

end SnippetReview
