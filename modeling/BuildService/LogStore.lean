import BuildService.Disk
import BuildService.Fault
/-!
Build logs: one file per project in one directory.

Starting a build empties the file of its project and opens it; every line is
written on its own, so a reader sees all that was written so far. The directory
is made when the first log is opened.
-/

set_option autoImplicit false

namespace BuildService

structure LogStore where
  dir : String
  deriving DecidableEq, Repr

/-- An open log: lines go to a node of the disk, from a position on. -/
structure LogSink where
  path : String
  node : NodeId
  position : Nat
  deriving DecidableEq, Repr

namespace LogStore

/-- The log of a project. A project id that is a single name stays in the directory. -/
def pathFor (s : LogStore) (project : String) : String := Disk.join s.dir (project ++ "_log.txt")

/-- Empties the log of a project and opens it. The directory that was made for it stays even if
the log cannot be opened. -/
def reset (s : LogStore) (d : Disk) (project : String) : Except IoFault LogSink × Disk :=
  match d.makeDirs s.dir with
  | .error e => (.error e, d)
  | .ok d =>
    match d.create (s.pathFor project) with
    | .error e => (.error e, d)
    | .ok (n, d) => (.ok ⟨s.pathFor project, n, 0⟩, d)

/-- The log of a project, if it has one. Bytes that are no UTF-8 are read as U+FFFD. -/
def read (s : LogStore) (d : Disk) (project : String) : Except IoFault (Option String) :=
  match d.read (s.pathFor project) with
  | .ok bytes => .ok (some (Utf8.lossy bytes))
  | .error e => if e = .notFound then .ok none else .error e

end LogStore

namespace LogSink

def lineBytes (line : String) : List UInt8 := Utf8.encode line ++ [0x0A]

/-- Writes a line where the log stands. -/
def writeLine (s : LogSink) (d : Disk) (line : String) : Except IoFault (LogSink × Disk) :=
  match d.writeAt s.node s.position (lineBytes line) with
  | .error e => .error e
  | .ok d => .ok ({ s with position := s.position + (lineBytes line).length }, d)

end LogSink

end BuildService
