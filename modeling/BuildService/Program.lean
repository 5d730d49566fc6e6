import BuildService.CommandLine.Help
import BuildService.CommandLine.Options
import BuildService.Config.Load
import BuildService.Dispatcher
import BuildService.Event
/-!
The program from its command line to the moment at which it serves.

It reads the command line, sets up the filter for its events, finds its
configuration, and then either says what the configuration comes to or starts
to listen. Everything before the last step is decided by the command line, one
environment variable and the files.
-/

set_option autoImplicit false

namespace BuildService

/-- The configuration, with what is reported while it is found. -/
def Config.loadEvents (d : Disk) : Option String → List Event
  | some _ => []
  | none =>
    if Config.hasDefault d then [.configLoading Config.defaultPath]
    else [.configMissing Config.defaultPath]

namespace Program

/-- Why the program gives up. -/
inductive Failure where
  | fault (e : Fault)
  /-- The address cannot be listened on. -/
  | bind (address : SocketAddress) (cause : IoFault)
  deriving DecidableEq, Repr

/-- The failure, and below it what it was caused by, if that is something of its own. -/
def Failure.message : Failure → String
  | .fault (.io cause) => "IO error: " ++ cause.message ++ causes cause.message
  | .fault e => e.message
  | .bind address cause => "failed to bind to " ++ address.text ++ causes cause.message
where
  /-- The paragraph on a cause. -/
  causes (cause : String) : String := "\n\nCaused by:\n    " ++ cause

/-- What the program breaks down over. -/
inductive Breakdown where
  /-- There would be more permits than can be managed. -/
  | permits
  /-- A filter is cut inside a character. -/
  | filter
  deriving DecidableEq, Repr

def Breakdown.message : Breakdown → String
  | .permits =>
    "a semaphore may not have more than MAX_PERMITS permits (" ++
      toString Dispatcher.permitLimit ++ ")"
  | .filter => FilterFault.torn.message

/-- How the program ends, or that it goes on. -/
inductive Ending where
  | done
  /-- The command line makes no sense. -/
  | usage
  | failed (f : Failure)
  | broken (cause : Breakdown)
  /-- It listens at an address until it is told to stop. -/
  | serving (address : SocketAddress) (service : Dispatcher)

/-- The exit code of the program; one that serves exits with 0 when it is told to stop. -/
def Ending.code : Ending → Nat
  | done => 0
  | usage => 2
  | failed _ => 1
  | broken _ => 101
  | serving _ _ => 0

/-- What the program prints, what it reports, and how it ends. -/
structure Report where
  output : String
  events : List Event
  ending : Ending

def dryRunText (c : Config) : String :=
  "buildrunner dry-run\n" ++ String.join (lines.map fun (name, value) =>
    "  " ++ name ++ " = " ++ value ++ "\n")
where
  /-- The settings that are in force. -/
  lines : List (String × String) :=
    [("server.bind", c.bind.text), ("build.program", c.build.program)] ++
      (if c.build.args.isEmpty then [] else [("build.args", Text.quotedList c.build.args)]) ++
      [("build.working_dir", c.build.workingDir), ("build.logs_dir", c.build.logsDir),
        ("build.timeout", c.build.timeout.text),
        ("build.max_concurrent_builds", toString c.build.maxBuilds)]

/-- Why an address cannot be listened on. Low ports are reserved, and the address must be one of
the machine's own. -/
def listenFault? (a : SocketAddress) : Option IoFault :=
  if 0 < a.port && a.port < 1024 then some .permissionDenied
  else
    let own := match a.host with
      | .v4 (b :: rest) => b == 127 || (b :: rest).all (· == 0)
      | .v4 [] => false
      | .v6 groups _ => groups.dropLast.all (· == 0) && groups.getLast?.all (· ≤ 1)
    if own then none else some .addressNotAvailable

def serve (c : Config) (d : Disk) : List Event × Ending :=
  match Dispatcher.start? c.build Registry.empty d with
  | none => ([], .broken .permits)
  | some service =>
    ([.settingsLoaded c.build],
      match listenFault? c.bind with
      | some cause => .failed (.bind c.bind cause)
      | none => .serving c.bind service)

def runWith (o : Options) (d : Disk) : Report :=
  let found := Config.loadEvents d o.config
  match Config.loadOrDefault d o.config with
  | .error e => ⟨"", found, .failed (.fault e)⟩
  | .ok c =>
    let c := { c with bind := o.bind.getD c.bind }
    if o.dryRun then ⟨dryRunText c, found ++ [.dryRunComplete], .done⟩
    else
      let (events, ending) := serve c d
      ⟨"", found ++ events, ending⟩

/-- The filter for the events, and the fault of the one that was asked for. Without a filter that
makes sense, the level alone counts. -/
def filterFor? (level : Option LogLevel) (environment : Option String) :
    Option (LogFilter × List Event) :=
  match LogFilter.build level environment with
  | .ok f => some (f, [])
  | .error .torn => none
  | .error e => (LogFilter.build level none).toOption.map fun f => (f, [.filterIgnored e])

/-- What became of a run of the program: what it printed, the events that were shown, and how it
ended. -/
structure Run where
  output : String
  log : List String
  ending : Ending

def run (args : List String) (environment : Option String) (d : Disk) : Run :=
  match Options.parse args with
  | .error (.refused _) => ⟨"", [], .usage⟩
  | .error (.help long) => ⟨if long then Help.long else Help.short, [], .done⟩
  | .error .version => ⟨Help.version, [], .done⟩
  | .ok o =>
    match filterFor? o.logLevel environment with
    | none => ⟨"", [], .broken .filter⟩
    | some (filter, ignored) =>
      let r := runWith o d
      ⟨r.output, Event.shown filter (ignored ++ r.events), r.ending⟩

end Program

end BuildService
