import BuildService.Event
import BuildService.Output
/-!
Watching over one build tool.

While the tool runs, several things can happen in any order: a line arrives, the
output is closed by everybody who could write to it, the tool has exited, its
time is up, or the service stops. An exit counts only once the output is closed,
so no line is lost; the other two end the watch at once, and then the tool is
killed. A line that cannot be written ends it as well.

`Watch.step` says what each of these does, whatever the order. What happens at
which time is a matter of the tool and is described by a `Course`.
-/

set_option autoImplicit false

namespace BuildService

/-- How a process has ended. -/
inductive ExitStatus where
  | code (n : Nat)
  /-- A signal ended it. -/
  | signal (n : Nat)
  deriving DecidableEq, Repr

namespace ExitStatus

/-- The code of an ending; a signal has none of its own. -/
def number : ExitStatus → Int
  | code n => n
  | signal _ => -1

/-- The outcome that an ending comes to. -/
def outcome : ExitStatus → Outcome
  | code 0 => .success
  | code (n + 1) => .failed ((n + 1 : Nat) : Int)
  | signal _ => .failed (-1)

end ExitStatus

/-- What can happen while a tool is watched over. -/
inductive Occurrence where
  /-- A line has arrived and is written to the log. -/
  | line (text : String)
  /-- A line has arrived and cannot be written. -/
  | refused (text : String) (cause : IoFault)
  /-- Nobody can write to the output any more, and all of it has been read. -/
  | closed
  | exited (status : ExitStatus)
  /-- The time is up. -/
  | deadline
  /-- The service stops. -/
  | cancelled
  deriving DecidableEq, Repr

/-- What is known of a tool that is watched over. -/
structure Watch where
  /-- Whether more output may come. -/
  isOpen : Bool
  /-- The lines in the log, the last one first. -/
  written : List String
  killed : Bool
  /-- How it ended, once it has. -/
  result : Option BuildResult

namespace Watch

/-- The tool has just been started. -/
def start : Watch := ⟨true, [], false, none⟩

/-- Whether something that happens is looked at: nothing is after the end, no line is after the
output was closed, and no exit is before. -/
def attends (w : Watch) : Occurrence → Bool
  | .line _ => w.result.isNone && w.isOpen
  | .refused _ _ => w.result.isNone && w.isOpen
  | .closed => w.result.isNone && w.isOpen
  | .exited _ => w.result.isNone && !w.isOpen
  | .deadline => w.result.isNone
  | .cancelled => w.result.isNone

/-- What becomes of the watch when something happens that is looked at. -/
def react (w : Watch) : Occurrence → Watch
  | .line s => { w with written := s :: w.written }
  | .refused _ cause => { w with killed := true, result := some (.error (.io cause)) }
  | .closed => { w with isOpen := false }
  | .exited status => { w with result := some (.ok status.outcome) }
  | .deadline => { w with killed := true, result := some (.ok .stuck) }
  | .cancelled => { w with killed := true, result := some (.ok .cancelled) }

/-- What becomes of the watch when something happens. -/
def step (w : Watch) (o : Occurrence) : Watch := if w.attends o then w.react o else w

/-- What becomes of the watch when several things happen. -/
def run (w : Watch) (os : List Occurrence) : Watch := os.foldl step w

/-- What is reported when something happens that is looked at, `elapsed` after the start. -/
def reports (w : Watch) (build : String) (timeout elapsed : Duration) : Occurrence → List Event
  | .line s => [.outputLine build s]
  | .refused _ _ => []
  | .closed => [.outputClosed build w.written.length]
  | .exited status => [.toolExited build status.number elapsed]
  | .deadline => [.toolStuck build timeout w.written.length]
  | .cancelled => [.toolCancelled build]

end Watch

/-! ## Courses of tools -/

/-- What a tool does by itself. -/
inductive Deed where
  | line (text : String)
  | closed
  | exited (status : ExitStatus)
  deriving DecidableEq, Repr

/-- What a tool does by itself, and at what time; the earliest first. -/
abbrev Course := List (Nat × Deed)

/-- What a process gives out and when; when nobody can write to its output any more; and when and
how it ends. What never happens has no time. -/
structure Behaviour where
  chunks : List (Nat × List UInt8)
  closed : Option Nat
  exited : Option (Nat × ExitStatus)

namespace Behaviour

/-- The lines of an output that comes in chunks, each with the time at which it has come to its
end, and what has been read of the next one. -/
def timedLines : Output.Reader → List (Nat × List UInt8) → Course × Output.Reader
  | r, [] => ([], r)
  | r, (t, bytes) :: rest =>
    let (lines, r) := r.feed bytes
    let (more, r) := timedLines r rest
    (lines.map (fun s => (t, .line s)) ++ more, r)

/-- The course of a process. The exit is known at once, but it is reported after the output has
been closed. -/
def course (b : Behaviour) : Course :=
  let (lines, r) := timedLines Output.Reader.start b.chunks
  match b.closed with
  | none => lines
  | some t =>
    -- A last line without a newline ends where the output does.
    lines ++ r.finish.map (fun s => (t, .line s)) ++ [(t, .closed)] ++
      (b.exited.map fun (u, status) => [(max t u, Deed.exited status)]).getD []

/-- The behaviour some time later. -/
def delay (b : Behaviour) (span : Nat) : Behaviour where
  chunks := b.chunks.map fun (t, bytes) => (t + span, bytes)
  closed := b.closed.map (· + span)
  exited := b.exited.map fun (t, status) => (t + span, status)

end Behaviour

/-! ## Watching over a course -/

/-- A tool that is watched over: what it has still to do, and when its time is up. -/
structure Supervised where
  command : Command
  timeout : Duration
  started : Nat
  ahead : Course
  watch : Watch

namespace Supervised

/-- When the time of the tool is up. -/
def deadline (s : Supervised) : Nat := s.started + s.timeout.millis

/-- What happens next, given the time at which the service stops, if it does. Of two things at the
same time a cancellation comes first, then the end of the time. -/
def next (s : Supervised) (stopped : Option Nat) : Nat × (Deed ⊕ Occurrence) :=
  let forced : Nat × Occurrence := match stopped with
    -- A tool that is started later is cancelled at its start.
    | some t => if max t s.started ≤ s.deadline then (max t s.started, .cancelled)
      else (s.deadline, .deadline)
    | none => (s.deadline, .deadline)
  match s.ahead with
  | (t, deed) :: _ => if t < forced.1 then (t, .inl deed) else (forced.1, .inr forced.2)
  | [] => (forced.1, .inr forced.2)

/-- The tool after something has happened at a time, and what is reported of it. -/
def advance (s : Supervised) (time : Nat) (o : Occurrence) : List Event × Supervised :=
  let events := if s.watch.attends o
    then s.watch.reports s.command.label s.timeout ⟨time - s.started⟩ o else []
  (events, { s with watch := s.watch.step o, ahead := s.ahead.drop 1 })

end Supervised

end BuildService
