import SnippetReview.Launch
import SnippetReview.Proofs.Log.Configuration

/-!
# Environments that differ in logging

Two variables set up logging. If a program starts in an environment, it starts in every other that
differs in these two alone and names a level, and its settings differ in nothing else
(`Program.start_of_agree`).
-/

namespace SnippetReview

namespace Environment

/-- Two environments differ at most in the variables that set up logging. -/
def AgreeButLogging (env env' : Environment) : Prop :=
  ∀ v, v ≠ .debug → v ≠ .logLevel → env v = env' v

/-- Whether debugging is switched on. -/
def debugging (env : Environment) : Bool := (env .debug).any Settings.isTrueWord

/-- The name of the level of the log. -/
def levelName (env : Environment) : Text :=
  Text.toUpper ((env .logLevel).getD (if env.debugging then "DEBUG".toList else "INFO".toList))

/-- The environment with a name for the level of the log. -/
def withLevelName (env : Environment) (name : Text) : Environment :=
  fun v => if v = .logLevel then some name else env v

theorem agreeButLogging_withLevelName (env : Environment) (name : Text) :
    env.AgreeButLogging (env.withLevelName name) := by
  intro v _ hlevel
  rw [withLevelName, if_neg hlevel]

theorem levelName_withLevelName (env : Environment) (name : Text) :
    (env.withLevelName name).levelName = Text.toUpper name := rfl

end Environment

namespace Settings

/-- The settings with others for logging. -/
def withLogging (s : Settings) (debug : Bool) (logLevel : Text) : Settings :=
  { s with debug, logLevel }

/-- The steps of a reading that succeeds have succeeded. -/
theorem exists_of_bind_eq_ok {ε α β : Type} {x : Except ε α} {f : α → Except ε β} {b : β}
    (h : x >>= f = .ok b) : ∃ a, x = .ok a ∧ f a = .ok b := by
  cases x with
  | error e => cases h
  | ok a => exact ⟨a, rfl, h⟩

/-- What the settings in an environment are, if there are any. -/
theorem ofEnvironment_eq_ok_iff {env : Environment} {s : Settings} :
    ofEnvironment env = .ok s ↔
      number env .port 8000 = .ok s.port
        ∧ number env .minCodeChars 10 = .ok s.minCodeChars
        ∧ number env .maxCodeChars 200000 = .ok s.maxCodeChars
        ∧ number env .longSnippetLines 80 = .ok s.longSnippetLines
        ∧ s.debug = env.debugging
        ∧ s.logLevel = env.levelName
        ∧ s.host = (env .host).getD "0.0.0.0".toList
        ∧ s.reportPreparedBy = (env .reportPreparedBy).getD "CodeChat Reviewer".toList := by
  constructor
  · intro h
    obtain ⟨port, hport, h⟩ := exists_of_bind_eq_ok h
    obtain ⟨minCodeChars, hmin, h⟩ := exists_of_bind_eq_ok h
    obtain ⟨maxCodeChars, hmax, h⟩ := exists_of_bind_eq_ok h
    obtain ⟨longSnippetLines, hlong, h⟩ := exists_of_bind_eq_ok h
    cases h
    exact ⟨hport, hmin, hmax, hlong, rfl, rfl, rfl, rfl⟩
  · obtain ⟨debug, logLevel, host, port, minCodeChars, maxCodeChars, longSnippetLines, author⟩ := s
    rintro ⟨hport, hmin, hmax, hlong, rfl, rfl, rfl, rfl⟩
    rw [ofEnvironment, hport, hmin, hmax, hlong]
    rfl

/-- Where all four numbers can be read, there are settings with them. -/
theorem exists_ofEnvironment {env : Environment} {port least most lines : Int}
    (hport : number env .port 8000 = .ok port) (hleast : number env .minCodeChars 10 = .ok least)
    (hmost : number env .maxCodeChars 200000 = .ok most)
    (hlines : number env .longSnippetLines 80 = .ok lines) :
    ∃ settings, ofEnvironment env = .ok settings ∧ settings.minCodeChars = least
      ∧ settings.maxCodeChars = most := by
  have hread : ofEnvironment env = .ok
      ⟨env.debugging, env.levelName, (env .host).getD "0.0.0.0".toList, port, least, most, lines,
        (env .reportPreparedBy).getD "CodeChat Reviewer".toList⟩ :=
    ofEnvironment_eq_ok_iff.2 ⟨hport, hleast, hmost, hlines, rfl, rfl, rfl, rfl⟩
  exact ⟨_, hread, rfl, rfl⟩

/-- Where two environments agree but for logging, so do their settings. -/
theorem ofEnvironment_of_agree {env env' : Environment} (h : env.AgreeButLogging env')
    {s : Settings} (hs : ofEnvironment env = .ok s) :
    ofEnvironment env' = .ok (s.withLogging env'.debugging env'.levelName) := by
  have hnumber : ∀ v default, v ≠ .debug → v ≠ .logLevel →
      number env' v default = number env v default := by
    intro v default hdebug hlevel
    rw [number, number, h v hdebug hlevel]
  obtain ⟨hport, hmin, hmax, hlong, -, -, hhost, hauthor⟩ := ofEnvironment_eq_ok_iff.1 hs
  rw [h .host (by decide) (by decide)] at hhost
  rw [h .reportPreparedBy (by decide) (by decide)] at hauthor
  refine ofEnvironment_eq_ok_iff.2 ⟨?_, ?_, ?_, ?_, rfl, rfl, hhost, hauthor⟩
  · rw [hnumber .port 8000 (by decide) (by decide)]
    exact hport
  · rw [hnumber .minCodeChars 10 (by decide) (by decide)]
    exact hmin
  · rw [hnumber .maxCodeChars 200000 (by decide) (by decide)]
    exact hmax
  · rw [hnumber .longSnippetLines 80 (by decide) (by decide)]
    exact hlong

end Settings

namespace Program

theorem start_eq_ok_iff {env : Environment} {p : Program} :
    start env = .ok p ↔ Settings.ofEnvironment env = .ok p.settings
      ∧ Log.setup p.settings = .ok p.level := by
  rw [start]
  constructor
  · intro h
    cases hs : Settings.ofEnvironment env with
    | error e => rw [hs] at h; cases h
    | ok s =>
    cases hlevel : Log.setup s with
    | error e => rw [hs] at h; simp only [hlevel] at h; cases h
    | ok level =>
      rw [hs] at h
      simp only [hlevel] at h
      cases h
      exact ⟨rfl, hlevel⟩
  · rintro ⟨hs, hlevel⟩
    rw [hs]
    simp only [hlevel]

/-- A program that starts in an environment starts in every other that differs in logging alone and
names a level, and differs itself in nothing else. -/
theorem start_of_agree {env env' : Environment} (h : env.AgreeButLogging env') {p : Program}
    (hstart : start env = .ok p) {level : Log.Level}
    (hlevel : Log.Level.ofName? env'.levelName = some level) :
    start env' = .ok ⟨p.settings.withLogging env'.debugging env'.levelName, level⟩ :=
  start_eq_ok_iff.2 ⟨Settings.ofEnvironment_of_agree h (start_eq_ok_iff.1 hstart).1,
    Log.setup_eq_ok_iff.2 hlevel⟩

end Program

end SnippetReview
