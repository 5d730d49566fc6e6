import BuildService.LogStore
import BuildService.Outcome
import BuildService.Permits
import BuildService.Platform
import BuildService.Registry
import BuildService.Settings
import BuildService.Text.Quoted
/-!
Admitting builds and running a bounded number of them at a time.

A build that is admitted is live until it is recorded. On its way its log is
emptied, it asks for a permit and may have to wait for it, its tool is called,
writes lines and ends, the permit is given back, and the end is recorded. Each
of these is a move of its own, so whatever other builds do may come in between.
If the log cannot be opened the build goes straight to its end. A build whose
caller waits for it can be given up on the way.

Everything that can happen is one of a few moves, each of which is a function on
the whole state. A move that does not apply changes nothing. Which move comes
when is not decided here.
-/

set_option autoImplicit false

namespace BuildService

/-- An admitted build. -/
structure Build where
  id : BuildId
  request : Request
  /-- Whether its caller waits for it, and so may give it up. -/
  awaited : Bool
  deriving DecidableEq, Repr, Inhabited

namespace Build

def project (b : Build) : String := b.request.projectId

end Build

/-- How far a live build has come. -/
inductive Stage where
  /-- Its log has still to be emptied. -/
  | arrived
  /-- Its log is empty and open. -/
  | opened (sink : LogSink)
  /-- It has asked for a permit; its tool has not been called. -/
  | asking (sink : LogSink)
  /-- Its tool has been called and has not ended. -/
  | running (sink : LogSink)
  /-- Its tool has ended and its log is closed; the permit has still to be given back. -/
  | closed (result : BuildResult)
  /-- It holds no permit, and its end has still to be recorded. -/
  | leaving (result : BuildResult)
  deriving Repr

namespace Stage

/-- How many stages a build still has before it, this one included. -/
def ahead : Stage → Nat
  | arrived => 6
  | opened _ => 5
  | asking _ => 4
  | running _ => 3
  | closed _ => 2
  | leaving _ => 1

def isRunning : Stage → Bool
  | running _ => true
  | _ => false

def isAsking : Stage → Bool
  | asking _ => true
  | _ => false

/-- How the build has ended, once its tool has or could not be called. -/
def result? : Stage → Option BuildResult
  | closed result => some result
  | leaving result => some result
  | _ => none

def isLeaving : Stage → Bool
  | leaving _ => true
  | _ => false

end Stage

/-- A live build and how far it has come. -/
structure Task where
  build : Build
  stage : Stage
  deriving Repr

/-- A call of the build tool: the command and the time it is given. -/
structure Call where
  command : Command
  timeout : Duration
  deriving DecidableEq, Repr

/-- The whole state of a service. -/
structure Dispatcher where
  settings : Settings
  registry : Registry
  disk : Disk
  permits : Permits
  /-- Whether the service has been told to stop. -/
  stopping : Bool
  /-- The live builds, in the order of admission. -/
  tasks : List Task
  /-- The calls of the build tool, in order. -/
  calls : List Call
  /-- How builds ended, in order. -/
  endings : List (BuildId × BuildResult)
  /-- The number of the next build. -/
  nextId : BuildId

namespace Dispatcher

/-- The greatest number of permits that can be managed. -/
def permitLimit : Nat := 2305843009213693951

/-- A service on a disk, with a registry that may have entries already. -/
def start (settings : Settings) (registry : Registry) (disk : Disk) : Dispatcher where
  settings := settings
  registry := registry
  disk := disk
  permits := .start settings.maxBuilds
  stopping := false
  tasks := []
  calls := []
  endings := []
  nextId := 0

/-- A service, unless it would need more permits than can be managed. -/
def start? (settings : Settings) (registry : Registry) (disk : Disk) : Option Dispatcher :=
  if permitLimit < settings.maxBuilds then none else some (start settings registry disk)

def logs (s : Dispatcher) : LogStore := ⟨s.settings.logsDir⟩

def callOf (s : Dispatcher) (b : Build) : Call := ⟨s.settings.command b.request, s.settings.timeout⟩

def live (s : Dispatcher) : List Build := s.tasks.map (·.build)

def task? (s : Dispatcher) (id : BuildId) : Option Task := s.tasks.find? (·.build.id == id)

/-- A build has come to another stage. -/
def setStage (s : Dispatcher) (id : BuildId) (stage : Stage) : Dispatcher :=
  { s with tasks := s.tasks.map fun t => if t.build.id = id then { t with stage := stage } else t }

/-- A build is not live any more. -/
def dismiss (s : Dispatcher) (id : BuildId) : Dispatcher :=
  { s with tasks := s.tasks.filter (·.build.id != id) }

/-! ## Admission -/

/-- Whether a request may be built now: first the platform is looked at, then the fields, then
the project's latest build. -/
def check (s : Dispatcher) (platform : Platform) (r : Request) : Except Fault Registry :=
  if !platform.isExecutable then .error (.unsupportedPlatform platform.name)
  else match r.validate with
    | .error e => .error e
    | .ok () => s.registry.tryBegin r.projectId

/-- Admits a build and marks its job as running; or refuses it and changes nothing. -/
def accept (s : Dispatcher) (awaited : Bool) (platform : Platform) (r : Request) :
    Except Fault (Build × Dispatcher) :=
  match s.check platform r with
  | .error e => .error e
  | .ok registry =>
    -- The job is marked in the same move, so nobody can begin it in between.
    .ok (⟨s.nextId, r, awaited⟩, { s with
      registry := registry
      tasks := s.tasks ++ [⟨⟨s.nextId, r, awaited⟩, .arrived⟩]
      nextId := s.nextId + 1 })

/-! ## The way of a build -/

/-- Empties the log of a build. If that fails the build is at its end. -/
def openLog (s : Dispatcher) (id : BuildId) : Dispatcher :=
  match s.task? id with
  | some ⟨b, .arrived⟩ =>
    match s.logs.reset s.disk b.project with
    -- It has not asked for a permit, so it has none to give back.
    | (.error e, disk) => { s with disk := disk }.setStage id (.leaving (.error (.io e)))
    | (.ok sink, disk) => { s with disk := disk }.setStage id (.opened sink)
  | _ => s

/-- Asks for a permit, and waits if there is none. -/
def ask (s : Dispatcher) (id : BuildId) : Dispatcher :=
  match s.task? id with
  | some ⟨_, .opened sink⟩ =>
    { s with permits := s.permits.acquire id }.setStage id (.asking sink)
  | _ => s

/-- Calls the build tool, if the build holds a permit. -/
def call (s : Dispatcher) (id : BuildId) : Dispatcher :=
  match s.task? id with
  | some ⟨b, .asking sink⟩ =>
    -- That the service is to stop is a matter of the tool, and is not asked here.
    if id ∈ s.permits.holders then
      { s with calls := s.calls ++ [s.callOf b] }.setStage id (.running sink)
    else s
  | _ => s

/-- Writes a line into the log of a build whose tool has been called. -/
def writeLine (s : Dispatcher) (id : BuildId) (line : String) : Except IoFault Unit × Dispatcher :=
  match s.task? id with
  | some ⟨_, .running sink⟩ =>
    match sink.writeLine s.disk line with
    | .error e => (.error e, s)
    | .ok (sink, disk) => (.ok (), { s with disk := disk }.setStage id (.running sink))
  | _ => (.ok (), s)

/-- The disk after the closing line of a log, if there is one; a failure to write it is passed
over. -/
def trailed (s : Dispatcher) (sink : LogSink) (result : BuildResult) : Disk :=
  match result.trailer s.settings.timeout with
  | none => s.disk
  | some line =>
    match sink.writeLine s.disk line with
    | .error _ => s.disk
    | .ok (_, disk) => disk

/-- The tool of a build has ended: its log is closed. -/
def close (s : Dispatcher) (id : BuildId) (result : BuildResult) : Dispatcher :=
  match s.task? id with
  | some ⟨_, .running sink⟩ => { s with disk := s.trailed sink result }.setStage id (.closed result)
  | _ => s

def giveBack (s : Dispatcher) (id : BuildId) : Dispatcher :=
  match s.task? id with
  | some ⟨_, .closed result⟩ =>
    { s with permits := s.permits.release id }.setStage id (.leaving result)
  | _ => s

def record (s : Dispatcher) (id : BuildId) : Dispatcher :=
  match s.task? id with
  | some ⟨b, .leaving result⟩ =>
    { s with
      registry := (s.registry.complete b.project result.state).2
      endings := s.endings ++ [(id, result)] }.dismiss id
  | _ => s

/-- Ends a build whose tool has been called: its log is closed, its permit given back, and its end
recorded. -/
def finish (s : Dispatcher) (id : BuildId) (result : BuildResult) : Dispatcher :=
  ((s.close id result).giveBack id).record id

/-- Forgets a build that its caller does not wait for any more: its permit or its place is given
up, and nothing is recorded. -/
def abandon (s : Dispatcher) (id : BuildId) : Dispatcher :=
  match s.task? id with
  | some ⟨b, stage⟩ =>
    -- Once the permit is given back nothing is waited for before the end is recorded.
    if b.awaited && !stage.isLeaving then
      { s with permits := s.permits.giveUp id }.dismiss id
    else s
  | none => s

def stop (s : Dispatcher) : Dispatcher := { s with stopping := true }

/-! ## Moves -/

inductive Move where
  | accept (awaited : Bool) (platform : Platform) (request : Request)
  | openLog (id : BuildId)
  | ask (id : BuildId)
  | call (id : BuildId)
  | writeLine (id : BuildId) (line : String)
  | close (id : BuildId) (result : BuildResult)
  | giveBack (id : BuildId)
  | record (id : BuildId)
  | abandon (id : BuildId)
  | stop

def apply (s : Dispatcher) : Move → Dispatcher
  | .accept awaited platform r =>
    match s.accept awaited platform r with
    | .ok (_, s') => s'
    | .error _ => s
  | .openLog id => s.openLog id
  | .ask id => s.ask id
  | .call id => s.call id
  | .writeLine id line => (s.writeLine id line).2
  | .close id result => s.close id result
  | .giveBack id => s.giveBack id
  | .record id => s.record id
  | .abandon id => s.abandon id
  | .stop => s.stop

def applyAll (s : Dispatcher) (moves : List Move) : Dispatcher := moves.foldl apply s

/-! ## What happens by itself -/

/-- The move that a build makes without anything from outside; to call its tool is none. -/
def moveOf? (t : Task) : Option Move :=
  match t.stage with
  | .arrived => some (.openLog t.build.id)
  | .opened _ => some (.ask t.build.id)
  | .closed _ => some (.giveBack t.build.id)
  | .leaving _ => some (.record t.build.id)
  | .asking _ | .running _ => none

/-- The first build that can move by itself, and how it moves. -/
def nextMove? (s : Dispatcher) : Option (Task × Move) :=
  s.tasks.findSome? fun t => (moveOf? t).map (t, ·)

/-- The builds that hold a permit and have not called their tool, in the order in which they were
given their permits. -/
def ready (s : Dispatcher) : List Task :=
  (s.permits.holders.filterMap s.task?).filter (·.stage.isAsking)

def holds (s : Dispatcher) (t : Task) : Bool := t.build.id ∈ s.permits.holders

/-- Whether a build waits for a permit. -/
def waits (s : Dispatcher) (t : Task) : Bool := t.stage.isAsking && !s.holds t

/-- Whether a build can only wait, for a permit or for its tool. -/
def isBlocked (s : Dispatcher) (t : Task) : Bool := t.stage.isRunning || s.waits t

/-- Whether every live build can only wait. -/
def isSettled (s : Dispatcher) : Bool := s.tasks.all s.isBlocked

/-- How many stages the live builds have before them, all together. -/
def ahead (s : Dispatcher) : Nat := s.tasks.foldr (fun t n => t.stage.ahead + n) 0

/-! ## Questions -/

def ending? (s : Dispatcher) (id : BuildId) : Option BuildResult :=
  (s.endings.find? (·.1 == id)).map (·.2)

/-- Takes the calls that were made since they were last taken. -/
def takeCalls (s : Dispatcher) : List Call × Dispatcher := (s.calls, { s with calls := [] })

def readLog (s : Dispatcher) (project : String) : Except Fault (Option String) :=
  match s.logs.read s.disk project with
  | .ok log => .ok log
  | .error e => .error (.io e)

/-- The service in one line, as it shows itself: its settings, its logs and its free permits. -/
def description (s : Dispatcher) : String :=
  let field (name value : String) : String := name ++ ": " ++ value
  let record (name : String) (fields : List String) (close : String) : String :=
    name ++ " \x7b " ++ ", ".intercalate fields ++ close
  record "BuildOrchestrator"
    [ field "settings" (record "BuildSettings"
        [ field "program" (Text.quoted s.settings.program),
          field "args" (Text.quotedList s.settings.args),
          field "working_dir" (Text.quotedPath s.settings.workingDir),
          field "logs_dir" (Text.quotedPath s.settings.logsDir),
          field "timeout" s.settings.timeout.text,
          field "max_concurrent_builds" (toString s.settings.maxBuilds)] " \x7d"),
      field "logs" (record "LogStore" [field "dir" (Text.quotedPath s.settings.logsDir)] " \x7d"),
      field "available_permits" (toString s.permits.free)] ", .. \x7d"

end Dispatcher

end BuildService
