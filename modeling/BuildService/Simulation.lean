import BuildService.Api
import BuildService.Journal
import BuildService.Launch
/-!
Running a service on programs, with a clock of its own.

Builds and the clock go on when somebody waits: for a build, for a state, or for a
span of time. So a build that nobody waits for does nothing before its admission is
answered, and what is asked right after that is answered before its log is emptied.
A program that is started does its first thing a millisecond later, so a build that
has no time at all is stopped before it has done anything.
-/

set_option autoImplicit false

namespace BuildService

/-- How long a program takes to start. -/
def startupTime : Nat := 1

/-- Starts a program at a time, to be watched over. -/
def Supervised.start (d : Disk) (c : Command) (timeout : Duration) (now : Nat) :
    Except Fault (Supervised × Disk) :=
  match Launch.start d c timeout.millis with
  | .error e => .error (.spawn c.program e)
  | .ok (behaviour, d) =>
    .ok (⟨c, timeout, now, (behaviour.delay (now + startupTime)).course, Watch.start⟩, d)

/-! ## One program -/

/-- Watches over a program for at most so many things that happen. -/
def watchFor (stopped : Option Nat) : Nat → Disk → LogSink → Supervised → BuildResult × Disk
  | 0, d, _, _ => (.ok .stuck, d)
  | n + 1, d, sink, s =>
    match s.watch.result with
    | some r => (r, d)
    | none =>
      match s.next stopped with
      | (t, .inr o) => watchFor stopped n d sink (s.advance t o).2
      | (t, .inl (.line text)) =>
        match sink.writeLine d text with
        | .ok (sink, d) => watchFor stopped n d sink (s.advance t (.line text)).2
        | .error e => watchFor stopped n d sink (s.advance t (.refused text e)).2
      | (t, .inl .closed) => watchFor stopped n d sink (s.advance t .closed).2
      | (t, .inl (.exited status)) => watchFor stopped n d sink (s.advance t (.exited status)).2

/-- Runs a command from start to end, with its lines going into a log. The service stops at a given
time, or not at all. -/
def runCommand (d : Disk) (sink : LogSink) (c : Command) (timeout : Duration)
    (stopped : Option Nat) : BuildResult × Disk :=
  match Supervised.start d c timeout 0 with
  | .error e => (.error e, d)
  -- Behind everything that the program does by itself there is only the end of its time.
  | .ok (s, d) => watchFor stopped (s.ahead.length + 3) d sink s

/-! ## A service -/

/-- A service, the time, and the programs that it watches over. -/
structure Simulation where
  service : Dispatcher
  now : Nat
  /-- When the service was told to stop. -/
  stopped : Option Nat
  active : List (BuildId × Supervised)
  /-- What was reported, in order. -/
  reported : List Event

namespace Simulation

/-- A service at its beginning. -/
def start (service : Dispatcher) : Simulation := ⟨service, 0, none, [], []⟩

def report (s : Simulation) (es : List Event) : Simulation :=
  { s with reported := s.reported ++ es }

def finish (s : Simulation) (id : BuildId) (result : BuildResult) : Simulation :=
  match s.service.task? id with
  | none => s
  | some t =>
    { s.report (s.service.finishReports t result) with
      service := s.service.finish id result
      active := s.active.filter (·.1 != id) }

def startProgram (s : Simulation) (b : Build) : Simulation :=
  let call := s.service.callOf b
  let s := { s.report [.toolStarting call.command] with service := s.service.call b.id }
  match Supervised.start s.service.disk call.command call.timeout s.now with
  | .error e => s.finish b.id (.error e)
  | .ok (program, d) =>
    -- What the program changes on the disk is there from its start on.
    { s with service := { s.service with disk := d }, active := s.active ++ [(b.id, program)] }

/-- What the service does next by itself without time passing: a build goes on, or the program of
a build with a permit is started. -/
def next? (s : Simulation) : Option Simulation :=
  match s.service.nextMove? with
  | some (t, move) =>
    some { s.report (s.service.moveReports t) with service := s.service.apply move }
  | none => s.service.ready.head?.map fun t => s.startProgram t.build

/-- Goes on for at most so many moves. -/
def settleFor : Nat → Simulation → Simulation
  | 0, s => s
  | n + 1, s =>
    match s.next? with
    | none => s
    | some s => settleFor n s

/-- Goes on until time has to pass. -/
def settle (s : Simulation) : Simulation := settleFor s.service.ahead s

/-! ## Time -/

/-- What happens next, to which build, and when. -/
def due? (s : Simulation) : Option (Nat × BuildId × Supervised × (Deed ⊕ Occurrence)) :=
  s.active.foldl (fun found (id, program) =>
    let (t, what) := program.next s.stopped
    match found with
    -- Of two things at the same time that of the older program comes first.
    | some (u, _) => if t < u then some (t, id, program, what) else found
    | none => some (t, id, program, what)) none

/-- Something happens to a build. -/
def happen (s : Simulation) (t : Nat) (id : BuildId) (program : Supervised)
    (what : Deed ⊕ Occurrence) : Simulation :=
  let (o, service) : Occurrence × Dispatcher := match what with
    | .inr o => (o, s.service)
    | .inl (.line text) =>
      -- Whether a line can be written is known before the watch hears of it.
      match s.service.writeLine id text with
      | (.ok (), service) => (.line text, service)
      | (.error e, service) => (.refused text e, service)
    | .inl .closed => (.closed, s.service)
    | .inl (.exited status) => (.exited status, s.service)
  let (events, program) := program.advance t o
  let s := { s.report events with
    service := service
    now := max s.now t
    active := s.active.map fun (other, p) => if other == id then (id, program) else (other, p) }
  match program.watch.result with
  | none => s
  | some result => (s.finish id result).settle

/-- How many things may happen at most. -/
def stepLimit : Nat := 1000000

/-- Lets things happen, at most so many and none after a given time, until a condition holds. -/
def passFor (limit : Option Nat) (enough : Simulation → Bool) : Nat → Simulation → Simulation
  | 0, s => s
  | n + 1, s =>
    if enough s then s
    else match s.due? with
      | none => s
      | some (t, id, program, what) =>
        if limit.any (· < t) then s
        else passFor limit enough n (s.happen t id program what)

/-! ## Steps from outside -/

/-- Admits a build that nobody waits for. -/
def submit (s : Simulation) (platform : Platform) (r : Request) :
    Except Fault Unit × Simulation :=
  let s := s.report (s.service.acceptReports platform r)
  match s.service.accept false platform r with
  | .error e => (.error e, s)
  | .ok (_, service) => (.ok (), { s with service := service })

/-- Admits a build and waits for it; it has no result if it would have to be waited for without an
end. -/
def execute (s : Simulation) (platform : Platform) (r : Request) :
    Except Fault (Option BuildResult) × Simulation :=
  let s := s.report (s.service.acceptReports platform r)
  match s.service.accept true platform r with
  | .error e => (.error e, s)
  | .ok (b, service) =>
    let s := passFor none (fun s => (s.service.ending? b.id).isSome) stepLimit
      { s with service := service }.settle
    (.ok (s.service.ending? b.id), s)

def answer (s : Simulation) (m : Http.Message) : Http.Response × Simulation :=
  let (r, service) := Api.answer s.service m
  (r, { s with service := service })

def sleep (s : Simulation) (millis : Nat) : Simulation :=
  let s := passFor (some (s.now + millis)) (fun _ => false) stepLimit s.settle
  { s with now := s.now + millis }

/-- Waits until the state of a project is one in which builds end. -/
def await (s : Simulation) (project : String) : JobState × Simulation :=
  let s := passFor none (fun s => (s.service.registry.get project).isTerminal) stepLimit s.settle
  (s.service.registry.get project, s)

def stop (s : Simulation) : Simulation :=
  { s.report [.stopping] with
    service := s.service.stop
    -- Only the first time counts.
    stopped := some (s.stopped.getD s.now) }

end Simulation

end BuildService
