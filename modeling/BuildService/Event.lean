import BuildService.LogFilter
import BuildService.Outcome
import BuildService.Platform
import BuildService.Registry
import BuildService.Settings
import BuildService.Text.Quoted
/-!
What the service reports of itself while it runs.

An event has a weight, a target that says which part of the service reports it,
a message, and fields with a name and a value each. A filter decides by the
weight, the target and the names of the fields whether an event is shown.
-/

set_option autoImplicit false

namespace BuildService

/-- What can be reported. -/
inductive Event where
  /-- The filter in the environment makes no sense and is passed over. -/
  | filterIgnored (fault : FilterFault)
  | configLoading (path : String)
  | configMissing (path : String)
  | settingsLoaded (settings : Settings)
  | dryRunComplete
  | jobRunning (project : String)
  | jobCompleted (project : String) (state : JobState)
  /-- A job is to be completed with a state in which no build ends. -/
  | completionRefused (project : String) (state : JobState)
  /-- A job is to be completed that is not running; `current` is its entry, if it has one. -/
  | completionIgnored (project : String) (current : Option JobState) (requested : JobState)
  | platformRefused (platform : Platform) (project : String)
  | buildAccepted (platform : Platform) (project : String)
  | logEmptied (project path : String)
  | toolStarting (command : Command)
  | outputLine (build line : String)
  | outputClosed (build : String) (lines : Nat)
  | toolExited (build : String) (code : Int) (elapsed : Duration)
  | toolStuck (build : String) (timeout : Duration) (lines : Nat)
  | toolCancelled (build : String)
  | trailerFailed (project : String) (fault : Fault)
  | buildFaulty (project : String) (fault : Fault)
  | buildRecorded (project : String) (state : JobState)
  | stopping
  deriving DecidableEq, Repr

namespace Event

def programTarget : String := "buildrunner"

/-- The target of the lines that build tools print. -/
def outputTarget : String := programTarget ++ "::output"

/-- The environment variable that holds the filter. -/
def filterVariable : String := "BUILDRUNNER_LOG"

def level : Event → LogLevel
  | filterIgnored _ => .warn
  | configLoading _ => .info
  | configMissing _ => .info
  | settingsLoaded _ => .info
  | dryRunComplete => .debug
  | jobRunning _ => .debug
  | jobCompleted _ _ => .debug
  | completionRefused _ _ => .warn
  | completionIgnored _ _ _ => .warn
  | platformRefused _ _ => .info
  | buildAccepted _ _ => .info
  | logEmptied _ _ => .debug
  | toolStarting _ => .info
  | outputLine _ _ => .info
  | outputClosed _ _ => .debug
  | toolExited _ _ _ => .info
  | toolStuck _ _ _ => .warn
  | toolCancelled _ => .info
  | trailerFailed _ _ => .warn
  | buildFaulty _ _ => .error
  | buildRecorded _ _ => .info
  | stopping => .info

def target : Event → String
  | filterIgnored _ => programTarget ++ "::logging"
  | configLoading _ => programTarget ++ "::config::loader"
  | configMissing _ => programTarget ++ "::config::loader"
  | settingsLoaded _ => programTarget
  | dryRunComplete => programTarget
  | jobRunning _ => programTarget ++ "::jobs::registry"
  | jobCompleted _ _ => programTarget ++ "::jobs::registry"
  | completionRefused _ _ => programTarget ++ "::jobs::registry"
  | completionIgnored _ _ _ => programTarget ++ "::jobs::registry"
  | platformRefused _ _ => programTarget ++ "::build::orchestrator"
  | buildAccepted _ _ => programTarget ++ "::build::orchestrator"
  | logEmptied _ _ => programTarget ++ "::exec::log_sink"
  | toolStarting _ => programTarget ++ "::exec::runner"
  | outputLine _ _ => outputTarget
  | outputClosed _ _ => programTarget ++ "::exec::runner"
  | toolExited _ _ _ => programTarget ++ "::exec::runner"
  | toolStuck _ _ _ => programTarget ++ "::exec::runner"
  | toolCancelled _ => programTarget ++ "::exec::runner"
  | trailerFailed _ _ => programTarget ++ "::build::orchestrator"
  | buildFaulty _ _ => programTarget ++ "::build::orchestrator"
  | buildRecorded _ _ => programTarget ++ "::build::orchestrator"
  | stopping => programTarget ++ "::build::orchestrator"

def message : Event → String
  | filterIgnored _ => "ignoring invalid log filter"
  | configLoading _ => "loading config"
  | configMissing _ => "no config file found; using built-in defaults"
  | settingsLoaded _ => "build settings loaded"
  | dryRunComplete => "dry-run complete (server not started)"
  | jobRunning _ => "job marked running"
  | jobCompleted _ _ => "job completed"
  | completionRefused _ _ => "refusing non-terminal completion state"
  | completionIgnored _ _ _ => "ignoring completion for job that is not running"
  | platformRefused _ _ => "rejecting unsupported platform"
  | buildAccepted _ _ => "build accepted"
  | logEmptied _ _ => "log truncated"
  | toolStarting _ => "starting build process"
  | outputLine _ line => line
  | outputClosed _ _ => "output pipe closed"
  | toolExited _ _ _ => "build process exited"
  | toolStuck _ _ _ => "build exceeded timeout; killing process"
  | toolCancelled _ => "cancellation requested; killing process"
  | trailerFailed _ _ => "failed to append status line to log"
  | buildFaulty _ _ => "build could not be executed"
  | buildRecorded _ _ => "build recorded"
  | stopping => "cancelling in-flight builds"

/-- A state as the entry of a table shows it. -/
def entryText : JobState → String
  | .running => "Running"
  | .finished => "Finished"
  | .failed => "Failed"
  | .stuck => "Stuck"
  | .unknown => "Unknown"

/-- A value that may be missing. -/
def optionText : Option String → String
  | some s => "Some(" ++ s ++ ")"
  | none => "None"

def fields : Event → List (String × String)
  | filterIgnored e => [("env", Text.quoted filterVariable), ("error", e.message)]
  | configLoading path => [("path", path)]
  | configMissing path => [("path", path)]
  | settingsLoaded s =>
    [("program", s.program), ("working_dir", s.workingDir), ("logs_dir", s.logsDir),
      ("timeout_secs", toString s.timeout.seconds),
      ("max_concurrent_builds", toString s.maxBuilds)]
  | dryRunComplete => []
  | jobRunning p => [("project", p)]
  | jobCompleted p s => [("project", p), ("state", s.name)]
  | completionRefused p s => [("project", p), ("state", s.name)]
  | completionIgnored p current s =>
    [("project", p), ("current", optionText (current.map entryText)), ("requested", s.name)]
  | platformRefused platform p => [("platform", platform.name), ("project", p)]
  | buildAccepted platform p => [("platform", platform.name), ("project", p)]
  | logEmptied p path => [("project", p), ("path", path)]
  | toolStarting c =>
    [("build", c.label), ("program", c.program), ("args", Text.quotedList c.args),
      ("cwd", optionText (c.workingDir.map Text.quotedPath))]
  | outputLine b _ => [("build", b)]
  | outputClosed b lines => [("build", b), ("lines_written", toString lines)]
  | toolExited b code elapsed =>
    [("build", b), ("exit_code", toString code), ("success", toString (code == 0)),
      ("elapsed_ms", toString elapsed.millis)]
  | toolStuck b timeout lines =>
    [("build", b), ("timeout_secs", timeout.secondsText), ("lines_written", toString lines)]
  | toolCancelled b => [("build", b)]
  | trailerFailed p e => [("project", p), ("error", e.message)]
  | buildFaulty p e => [("project", p), ("error", e.message)]
  | buildRecorded p s => [("project", p), ("state", s.name)]
  | stopping => []

/-- The names that a filter can ask for; the message counts as a field. -/
def fieldNames (e : Event) : List String := "message" :: e.fields.map (·.1)

/-- Whether a filter lets an event through. -/
def passes (e : Event) (f : LogFilter) : Bool := f.admits e.level e.target e.fieldNames

/-- A character of a message. Characters that a terminal would obey are escaped. -/
def messageChar (c : Char) : String :=
  let escaped := ['\x1b', '\x07', '\x08', '\x0c', '\x7f']
  if escaped.contains c then
    "\\x" ++ (if c.toNat < 16 then "0" else "") ++ Text.hexText c.toNat
  else if 0x80 ≤ c.toNat ∧ c.toNat ≤ 0x9F then "\\u\x7b" ++ Text.hexText c.toNat ++ "\x7d"
  else c.toString

/-- The line that shows an event. -/
def text (e : Event) : String :=
  e.level.label ++ " " ++ e.target ++ ": " ++ String.join (e.message.toList.map messageChar) ++
    String.join (e.fields.map fun (name, value) => " " ++ name ++ "=" ++ value)

/-- The lines that a filter lets through. -/
def shown (f : LogFilter) (es : List Event) : List String :=
  (es.filter (·.passes f)).map (·.text)

end Event

end BuildService
