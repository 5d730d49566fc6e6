import BuildService.Shell.Interpreter
/-!
Starting a program, and what it will do.

A program is started in its directory, with its variables on top of those of
the service, with nothing to read, and with everything it prints going into one
pipe. A command that cannot be started at all fails before anything happens. The
changes that a program makes to the disk are made when it is started.
-/

set_option autoImplicit false

namespace BuildService.Launch

open BuildService.Shell

/-- The variables that the service itself has. -/
def ownVariables : List (String × String) :=
  [("PATH", "/usr/local/sbin:/usr/local/bin:/usr/sbin:/usr/bin:/sbin:/bin")]

/-- The variables of a command; of two values for one name the later one counts. -/
def environment (c : Command) : List (String × String) :=
  (ownVariables ++ c.environment).foldl
    (fun vs (name, value) => vs.filter (·.1 != name) ++ [(name, value)]) []

/-- Whether a command holds NUL somewhere. -/
def holdsNul (c : Command) : Bool :=
  (c.program :: c.args ++ c.workingDir.toList ++ c.environment.flatMap fun (n, v) => [n, v]).any
    fun s => s.toList.contains '\x00'

def enter (d : Disk) (c : Command) : Except IoFault Disk :=
  match c.workingDir with
  | none => .ok d
  | some dir =>
    match d.find dir with
    | .error e => .error e
    | .ok n => if d.isDirectory dir then .ok { d with base := n } else .error .notADirectory

/-- Whether the node at a path can be run, and if so the node. -/
def runnable (d : Disk) (path : String) : Except IoFault Node :=
  match d.find path with
  | .error e => .error e
  | .ok n =>
    match d.node? n with
    | some node => if isProgram node then .ok node else .error .permissionDenied
    | none => .error .notFound

/-- The first of several paths at which something can be run. If there is none, a refusal counts
more than a path that leads nowhere. -/
def firstRunnable (d : Disk) (refused : Bool) : List String → Except IoFault Node
  | [] => .error (if refused then .permissionDenied else .notFound)
  | path :: rest =>
    match runnable d path with
    | .ok node => .ok node
    | .error e =>
      -- Any other failure ends the search.
      if e = .notFound || e = .notADirectory then firstRunnable d refused rest
      else if e = .permissionDenied then firstRunnable d true rest
      else .error e

/-- The program of a command. A name with a slash is a path; any other name is looked for in the
directories of a variable. -/
def find (d : Disk) (c : Command) : Except IoFault Node :=
  if c.program.isEmpty then .error .notFound
  else if c.program.toList.contains '/' then runnable d c.program
  else
    let dirs := (((environment c).lookup "PATH").getD "").toList.splitOn ':'
    firstRunnable d false (dirs.map fun dir =>
      if dir.isEmpty then c.program else String.ofList dir ++ "/" ++ c.program)

/-- A file is run by the interpreter that its first line names; a file that names none is no
program. -/
def loadable (d : Disk) : Node → Except IoFault Unit
  | .file c _ =>
    match interpreter? c.bytes with
    | none => .error .execFormat
    | some (path, _) => (runnable d (Raw.text path)).map fun _ => ()
  | _ => .ok ()

/-- How many steps a program may take. -/
def stepLimit : Nat := 100000

/-- A process at its beginning. Its descriptors lead to a device that holds nothing and to the
output. -/
def process (d : Disk) (c : Command) : Process where
  pid := 2
  shellPid := 2
  now := 0
  name := Raw.ofText c.program
  args := []
  bindings := ((environment c).map fun (n, v) => (Raw.ofText n, Raw.ofText v)).reverse
  exported := (environment c).map fun (n, _) => Raw.ofText n
  functions := []
  status := 0
  descriptors := [(0, .file 0), (1, .output), (2, .output)]
  base := d.base
  traps := []
  jobs := []
  lastJob := none
  fixed := []
  hidden := none
  options := []
  isGuarded := false
  loops := 0
  halted := none

/-- The world at the beginning of a process, of which nothing is looked at after the horizon. -/
def world (d : Disk) (horizon : Nat) : World where
  disk := d
  files := [⟨(d.find "/dev/null").toOption.getD Disk.top, 0, false⟩]
  pipes := []
  given := []
  holds := []
  nextPid := 3
  horizon := horizon

/-- When nobody can write any more, if that time comes. -/
def closing (holds : List (Nat × Option Nat)) : Option Nat :=
  if holds.any (·.2.isNone) then none else some ((holds.filterMap (·.2)).foldl max 0)

/-- Starts a command: what it will do from now on, and the disk with what it has changed. -/
def start (d : Disk) (c : Command) (horizon : Nat) : Except IoFault (Behaviour × Disk) :=
  if holdsNul c then .error .nulInCommand
  else match enter d c with
    | .error e => .error e
    | .ok inside =>
      match find inside c with
      | .error e => .error e
      | .ok node =>
        match loadable inside node with
        | .error e => .error e
        | .ok () =>
          let body : Act Flow :=
            Shell.load stepLimit node (Raw.ofText c.program) (c.args.map Raw.ofText)
          let ((_, ending), s) := (Act.settle body).run ⟨world inside horizon, process inside c⟩
          -- Processes are run one after the other, so what they give out has to be put in order.
          let given := (s.world.given.reverse.mergeSort fun a b => a.1 ≤ b.1).map
            fun (t, _, bytes) => (t, Raw.toBytes bytes)
          .ok (⟨given, closing s.world.holds, ending⟩, { s.world.disk with base := d.base })

end BuildService.Launch
