import BuildService.Dispatcher
import BuildService.Event
/-!
What a service reports of its moves.

Every move of a service may be reported. The reports say nothing that the state
does not say; they are worked out from the state before the move.
-/

set_option autoImplicit false

namespace BuildService

/-- The report on the completion of a job. -/
def Event.ofCompletion (r : Registry) (project : String) (state : JobState) : Event :=
  if !state.isTerminal then .completionRefused project state
  else match r.get project with
    | .running => .jobCompleted project state
    | .unknown => .completionIgnored project none state
    | current => .completionIgnored project (some current) state

namespace Dispatcher

/-- The reports on a request for a build. -/
def acceptReports (s : Dispatcher) (platform : Platform) (r : Request) : List Event :=
  match s.check platform r with
  | .ok _ => [.jobRunning r.projectId, .buildAccepted platform r.projectId]
  | .error (.unsupportedPlatform _) => [.platformRefused platform r.projectId]
  | .error _ => []

/-- The reports when the end of a build is recorded. -/
def recordReports (s : Dispatcher) (b : Build) (result : BuildResult) : List Event :=
  let faulty : List Event := match result with
    | .ok _ => []
    | .error e => [.buildFaulty b.project e]
  faulty ++ [Event.ofCompletion s.registry b.project result.state,
    .buildRecorded b.project result.state]

/-- The reports when the log of a build is opened. -/
def openLogReports (s : Dispatcher) (b : Build) : List Event :=
  match s.logs.reset s.disk b.project with
  | (.ok sink, _) => [.logEmptied b.project sink.path]
  | (.error _, _) => []

/-- The reports when the log of a build is closed. -/
def closeReports (s : Dispatcher) (b : Build) (sink : LogSink) (result : BuildResult) :
    List Event :=
  match result.trailer s.settings.timeout with
  | none => []
  | some line => match sink.writeLine s.disk line with
    | .ok _ => []
    | .error e => [.trailerFailed b.project (.io e)]

/-- The reports when a build goes on by itself. -/
def moveReports (s : Dispatcher) (t : Task) : List Event :=
  match t.stage with
  | .arrived => s.openLogReports t.build
  | .leaving result => s.recordReports t.build result
  | _ => []

/-- The reports on the end of a build whose tool was called. -/
def finishReports (s : Dispatcher) (t : Task) (result : BuildResult) : List Event :=
  match t.stage with
  | .running sink => s.closeReports t.build sink result ++ s.recordReports t.build result
  | _ => []

end Dispatcher

end BuildService
