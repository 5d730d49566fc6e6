import BuildService.Api
/-!
Running a service on scripts instead of build tools.

A script says which lines a build writes, whether it then waits at a gate, and
how it ends. After every step from outside the service goes on until nothing can
move: every arrival has its log, every build with a permit has been called and
has either ended or waits at the gate.

There are two kinds of gates. One stands in front of each project and lets the
run through that waits there; a second run of the project takes the place of the
first. The other is common to all runs, lets them through one at a time in the
order in which they came, and remembers one opening that nobody waited for.
-/

set_option autoImplicit false

namespace BuildService

/-- How a scripted build ends. -/
inductive ScriptEnd where
  | outcome (o : Outcome)
  /-- The program cannot be started. -/
  | spawn (cause : IoFault)
  | other (text : String)
  deriving DecidableEq, Repr

/-- What a scripted build does. -/
structure Script where
  lines : List String
  gated : Bool
  ending : ScriptEnd
  deriving DecidableEq, Repr

/-- Nothing is written and the build succeeds. -/
def Script.empty : Script := ⟨[], false, .outcome .success⟩

/-- Which gate the runs wait at. -/
inductive Gate where
  | perProject
  | common
  deriving DecidableEq, Repr

/-- A run that waits at a gate, with the script it follows. -/
structure Held where
  build : Build
  script : Script
  deriving DecidableEq, Repr

/-- A service together with its scripts and its gates. -/
structure Rehearsal where
  service : Dispatcher
  gate : Gate
  /-- The script of every project that has one; the newest one counts. -/
  scripts : List (String × Script)
  /-- The script of all other projects. -/
  fallback : Script
  /-- The runs at a gate, in the order in which they came. -/
  held : List Held
  /-- Whether the common gate was opened while nobody waited. -/
  openings : Bool

namespace Rehearsal

/-- The result of a script that has come to its end. -/
def resultOf (s : Rehearsal) (script : Script) : BuildResult :=
  match script.ending with
  | .outcome o => .ok o
  | .spawn cause => .error (.spawn s.service.settings.program cause)
  | .other text => .error (.other text)

def scriptFor (s : Rehearsal) (project : String) : Script :=
  (s.scripts.lookup project).getD s.fallback

def finish (s : Rehearsal) (id : BuildId) (result : BuildResult) : Rehearsal :=
  { s with
    service := s.service.finish id result
    held := s.held.filter (·.build.id != id) }

/-- Writes lines until one cannot be written. -/
def writeLines (service : Dispatcher) (id : BuildId) :
    List String → Except IoFault Unit × Dispatcher
  | [] => (.ok (), service)
  | line :: lines =>
    match service.writeLine id line with
    | (.ok (), service) => writeLines service id lines
    | (.error e, service) => (.error e, service)

/-- A run has written its lines and comes to its gate. -/
def arrive (s : Rehearsal) (b : Build) (script : Script) : Rehearsal :=
  if !script.gated then s.finish b.id (s.resultOf script)
  else if s.service.stopping then s.finish b.id (.ok .cancelled)
  else match s.gate with
    | .common =>
      -- The opening that was remembered is used up.
      if s.openings then { s with openings := false }.finish b.id (s.resultOf script)
      else { s with held := s.held ++ [⟨b, script⟩] }
    | .perProject =>
      -- Whoever waits there is let through, and this run waits in its place.
      let s' := match s.held.find? (·.build.project == b.project) with
        | some h => s.finish h.build.id (s.resultOf h.script)
        | none => s
      { s' with held := s'.held ++ [⟨b, script⟩] }

/-- Calls the tool of a build: its lines are written, and it comes to its gate. -/
def perform (s : Rehearsal) (b : Build) : Rehearsal :=
  let script := s.scriptFor b.project
  match writeLines (s.service.call b.id) b.id script.lines with
  | (.error e, service) => { s with service := service }.finish b.id (.error (.io e))
  | (.ok (), service) => { s with service := service }.arrive b script

/-- The next thing that happens by itself, if anything can move: a build goes on, a build with a
permit is called, or a run at a gate notices that the service stops. -/
def next? (s : Rehearsal) : Option Rehearsal :=
  match s.service.nextMove? with
  | some (_, move) => some { s with service := s.service.apply move }
  | none =>
    match s.service.ready with
    | t :: _ => some (s.perform t.build)
    | [] =>
      if s.service.stopping then s.held.head?.map fun h => s.finish h.build.id (.ok .cancelled)
      else none

/-- Goes on for at most `n` moves. -/
def settleFor : Nat → Rehearsal → Rehearsal
  | 0, s => s
  | n + 1, s =>
    match s.next? with
    | none => s
    | some s => settleFor n s

/-- Goes on until nothing can move. -/
def settle (s : Rehearsal) : Rehearsal := settleFor s.service.ahead s

/-! ## Steps from outside -/

def setScript (s : Rehearsal) (project : String) (script : Script) : Rehearsal :=
  { s with scripts := (project, script) :: s.scripts }

/-- Admits a build and goes on without it being waited for. -/
def submit (s : Rehearsal) (platform : Platform) (r : Request) : Except Fault Unit × Rehearsal :=
  match s.service.accept false platform r with
  | .error e => (.error e, s)
  | .ok (_, service) => (.ok (), { s with service := service }.settle)

/-- Admits a build and waits for it. A build that would have to be waited for without an end is
abandoned, and has no result. -/
def execute (s : Rehearsal) (platform : Platform) (r : Request) :
    Except Fault (Option BuildResult) × Rehearsal :=
  match s.service.accept true platform r with
  | .error e => (.error e, s)
  | .ok (b, service) =>
    let s := { s with service := service }.settle
    match s.service.ending? b.id with
    | some result => (.ok (some result), s)
    | none =>
      -- Nothing moves any more, so there is nothing to wait for.
      (.ok none, { s with
        service := s.service.abandon b.id
        held := s.held.filter (·.build.id != b.id) }.settle)

/-- Opens the gate of a project; says whether a run waited there. -/
def openFor (s : Rehearsal) (project : String) : Bool × Rehearsal :=
  match s.held.find? (·.build.project == project) with
  | none => (false, s)
  | some h => (true, (s.finish h.build.id (s.resultOf h.script)).settle)

/-- Opens the common gate for one run: for the first that waits, or else for the next that
comes. -/
def openOnce (s : Rehearsal) : Rehearsal :=
  match s.held with
  | [] => { s with openings := true }
  | h :: _ => (s.finish h.build.id (s.resultOf h.script)).settle

def answer (s : Rehearsal) (m : Http.Message) : Http.Response × Rehearsal :=
  let (r, service) := Api.answer s.service m
  (r, { s with service := service }.settle)

def stop (s : Rehearsal) : Rehearsal := { s with service := s.service.stop }.settle

def heldProjects (s : Rehearsal) : List String := s.held.map (·.build.project)

end Rehearsal

end BuildService
