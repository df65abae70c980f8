import SnippetReview.Log.Configuration
import SnippetReview.Proofs.Page.Report

/-!
# What a configuration of logging lets through

A record is written under the name of a part of the program. It is made if its severity reaches the
level of the nearest logger that has one: that with the name, those with the name cut at its dots,
and in the end the root. A record that is made is handed to the handlers of these loggers, up to
the first that keeps its records to itself, and each handler has a level of its own. `passes?`
reads this off a configuration. Under that of the program exactly the records are written out that
reach the level of the settings, or that of warnings if they set none (`passes?_configuration`).
-/

namespace SnippetReview

namespace Log

/-! ## Loggers -/

/-- A logger: its level, the levels of its handlers, and whether it passes its records on. -/
structure Logger where
  level : Level
  handlers : List Level
  propagates : Bool

namespace Logger

/-- The level that counts for the first of some loggers: the nearest that is set. -/
def effective : List Logger → Level
  | [] => .notSet
  | l :: ls => if l.level = .notSet then effective ls else l.level

/-- The levels of the handlers that a record of the first of some loggers is handed to. -/
def reached : List Logger → List Level
  | [] => []
  | l :: ls => l.handlers ++ if l.propagates then reached ls else []

/-- Whether a record is written out: it is made, and one of the handlers takes it. -/
def write (ls : List Logger) (severity : Severity) : Bool :=
  decide ((effective ls).rank ≤ severity.level.rank)
    && (reached ls).any fun level => decide (level.rank ≤ severity.level.rank)

end Logger

/-! ## Reading a configuration -/

/-- The level of a logger or a handler. -/
def level? (j : Json) : Option Level :=
  ((j.member? "level").bind Json.text?).bind Level.ofName?

/-- The names of the handlers of a logger. -/
def handlerNames? (j : Json) : Option (List Text) := (j.member? "handlers").bind Json.texts?

/-- Whether a logger passes its records on, which it does unless it is told not to. -/
def propagates (j : Json) : Bool :=
  match j.member? "propagate" with
  | some (.bool b) => b
  | _ => true

/-- The member of a member of a configuration. -/
def setting? (config : Json) (part : String) (name : Text) : Option Json :=
  ((config.member? part).bind Json.members?).bind (Json.lookup? name)

/-- The logger that an entry of a configuration sets up. -/
def logger? (config j : Json) : Option Logger := do
  let level ← level? j
  let names ← handlerNames? j
  let handlers ← names.mapM fun name => (setting? config "handlers" name).bind level?
  some ⟨level, handlers, propagates j⟩

/-- A name, and what it is cut to at its dots, the longest first. -/
def ancestors (name : Text) : List Text :=
  ((pieces '.' name).inits.tail.map (joinPieces '.')).reverse

/-- The loggers for records under a name, the nearest first. -/
def loggers? (config : Json) (name : Text) : Option (List Logger) := do
  let root ← config.member? "root"
  (((ancestors name).filterMap (setting? config "loggers")) ++ [root]).mapM (logger? config)

/-- Whether a configuration lets a record through, if it can be read. -/
def passes? (config : Json) (r : Record) : Option Bool :=
  (loggers? config r.source.name).map fun ls => Logger.write ls r.severity

/-! ## The configuration of the program -/

section Configuration

variable {settings : Settings} {level : Level}
  (h : Level.ofName? settings.logLevel = some level)
include h

/-- The handler that all loggers have takes records from the level of the settings on. -/
theorem handlers_configuration :
    [("console".toList : Text)].mapM
        (fun name => (setting? (configuration settings) "handlers" name).bind level?)
      = some [level] := by
  have hconsole : (setting? (configuration settings) "handlers" "console".toList).bind level?
      = Level.ofName? settings.logLevel := rfl
  simp only [List.mapM_cons, List.mapM_nil, hconsole, h]
  rfl

/-- The loggers for the records of the program are its own, which keeps them to itself, and the
root. -/
theorem loggers?_configuration (source : Source) :
    loggers? (configuration settings) source.name
      = some [⟨level, [level], false⟩, ⟨.warning, [level], true⟩] := by
  have hnearest : (ancestors source.name).filterMap (setting? (configuration settings) "loggers")
      = [logger settings.logLevel] := by
    cases source <;> rfl
  obtain ⟨root, hroot, hrootLevel, hrootNames⟩ : ∃ root,
      (configuration settings).member? "root" = some root ∧ level? root = some .warning
        ∧ handlerNames? root = some ["console".toList] := ⟨_, rfl, rfl, rfl⟩
  have hlogger : logger? (configuration settings) (logger settings.logLevel)
      = some ⟨level, [level], false⟩ := by
    have hlevel : level? (logger settings.logLevel) = Level.ofName? settings.logLevel := rfl
    have hnames : handlerNames? (logger settings.logLevel) = some ["console".toList] := rfl
    rw [logger?, hlevel, h, hnames]
    simp only [Option.bind_eq_bind, Option.bind_some, handlers_configuration h]
    rfl
  have hrootLogger : logger? (configuration settings) root
      = some ⟨.warning, [level], propagates root⟩ := by
    rw [logger?, hrootLevel, hrootNames]
    simp only [Option.bind_eq_bind, Option.bind_some, handlers_configuration h]
  have hpropagates : propagates root = true := by
    cases hroot
    rfl
  rw [loggers?, hroot]
  simp [hnearest, hlogger, hrootLogger, hpropagates]

end Configuration

/-- With one level for the logger and the handler, a record is written out if it reaches it, or if
it reaches that of the root where the level is not set. -/
theorem write_effective (level : Level) (severity : Severity) :
    Logger.write [⟨level, [level], false⟩, ⟨.warning, [level], true⟩] severity
      = decide (level.effective.rank ≤ severity.level.rank) := by
  cases level <;> cases severity <;> rfl

theorem setup_eq_ok_iff {settings : Settings} {level : Level} :
    setup settings = .ok level ↔ Level.ofName? settings.logLevel = some level := by
  rw [setup]
  cases Level.ofName? settings.logLevel <;> simp

/-- When logging has been set up, the configuration lets exactly the records through that are shown
at the level of the settings. -/
theorem passes?_configuration {settings : Settings} {level : Level} (h : setup settings = .ok level)
    (r : Record) : passes? (configuration settings) r = some (r.isShownAt level) := by
  rw [passes?, loggers?_configuration (setup_eq_ok_iff.1 h), Option.map_some, write_effective,
    Record.isShownAt]

end Log

end SnippetReview
