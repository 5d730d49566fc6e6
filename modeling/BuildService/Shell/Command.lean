import BuildService.Shell.Signal
import BuildService.Shell.Tools
import BuildService.Shell.Variable
/-!
What a shell does by itself: processes and descriptors, looking for programs,
and those of its own commands that run no script.
-/

set_option autoImplicit false

namespace BuildService.Shell

open Act

def natural? (s : Raw) : Option Nat :=
  if !s.isEmpty && s.all Char.isDigit then some (Format.decimal s) else none

/-! ## Descriptors and children -/

def openFor (direction : Direction) (path : Raw) : Act (Except String Channel) := do
  let d ← disk
  let name := Raw.text path
  match direction with
  | .read =>
    match d.find name with
    | .ok n => return .ok (← openNode n false)
    | .error e =>
      let why := if e = .notFound then "No such file" else Tools.wording e
      return .error ("cannot open " ++ name ++ ": " ++ why)
  | _ =>
    let opened : Except IoFault (NodeId × Disk) :=
      if direction = .append then
        match d.find name with
        | .ok n => match d.node? n with
          -- What is there already is kept, unlike when it is created.
          | some (.directory _ _) => .error .isADirectory
          | _ => .ok (n, d)
        | .error _ => d.create name
      else d.create name
    match opened with
    | .ok (n, d) =>
      setDisk d
      return .ok (← openNode n (direction = .append))
    | .error e =>
      let why := if e = .notFound then "Directory nonexistent" else Tools.wording e
      return .error ("cannot create " ++ name ++ ": " ++ why)

/-- Does something in a new process that begins as the current one is; gives its number and its
ending. -/
def inChild (prepare : Process → Process) (body : Act Flow) :
    Act (Nat × Option (Nat × ExitStatus)) := do
  let parent ← self
  let pid := (← get).world.nextPid
  setWorld fun w => { w with nextPid := w.nextPid + 1 }
  setSelf fun p => prepare { p with
    -- Jobs and traps stay with the parent; signals that are passed over are passed over here too.
    pid := pid, jobs := [], halted := none, traps := p.traps.filter (·.2.isEmpty) }
  let flow ← body
  noteHold (flow = .never)
  -- From here on the parent is looked at again, at the time at which it was left.
  let child ← self
  setSelf fun _ => parent
  let ending := match flow with
    | .never => none
    | .dead n => some (child.now, .signal n)
    | _ => some (child.now, .code child.status)
  return (pid, ending)

/-- Does something as the only process there is; gives its ending. -/
def Act.settle (body : Act Flow) : Act (Nat × Option (Nat × ExitStatus)) := do
  inChild id body

/-- Takes over the status of a process at its end, and says so if a signal ended it. -/
def collect (t : Nat) (status : ExitStatus) : Act Unit := do
  waitUntil t
  setStatus (statusOfEnding status)
  match status with
  | .signal n => match Signal.text? n with
    | some s => complain s
    | none => pure ()
  | .code _ => pure ()

def await (ending : Option (Nat × ExitStatus)) : Act Flow := do
  match ending with
  | none => return .never
  | some (t, status) => do
    collect t status
    return .next

/-! ## Programs -/

/-- The directories in which programs are looked for. -/
def searchPath (p : Process) : List Raw :=
  ((p.bindings.lookup "PATH".toList).getD []).splitOn ':'

/-- What a program is looked for as, in order. -/
def candidates (p : Process) (name : Raw) : List Raw :=
  if name.contains '/' then [name]
  else (searchPath p).map fun dir => if dir.isEmpty then name else dir ++ '/' :: name

def isProgram : Node → Bool
  | .tool _ => true
  | .file _ x => x
  | _ => false

/-- The path and the node of a program; or the status and the words for a program that is not
there. -/
def program (name : Raw) : Act (Except (Nat × String) (Raw × Node)) := do
  let p ← self
  let d ← disk
  let found := (candidates p name).filterMap fun path =>
    ((d.find (Raw.text path)).toOption.bind d.node?).map fun node => (path, node)
  match found.find? fun (_, node) => isProgram node with
  | some r => return .ok r
  | none =>
    -- A file in one of the directories that cannot be run counts as not found.
    let isRefused := name.isEmpty || (name.contains '/' && !found.isEmpty)
    return .error (if name.contains '/' && !found.isEmpty then 126 else 127,
      if isRefused then "Permission denied" else "not found")

def interpreter? (bs : List UInt8) : Option (Raw × List Raw) :=
  match Raw.ofBytes bs with
  | '#' :: '!' :: rest =>
    let line := rest.takeWhile (· != '\n')
    let blank (c : Char) : Bool := c == ' ' || c == '\t'
    let line := ((line.dropWhile blank).reverse.dropWhile blank).reverse
    let path := line.takeWhile (!blank ·)
    let arg := (line.drop path.length).dropWhile blank
    some (path, if arg.isEmpty then [] else [arg])
  | _ => none

/-- How a foreign program goes on as a flow. -/
def ofTool (r : Option Nat) : Act Flow := do
  match r with
  | none => return .never
  | some status =>
    setStatus status
    return .leave

/-- A shell at its beginning, in the current process. -/
def freshShell (name : Raw) (args : List Raw) (options : List Char) (p : Process) : Process :=
  { p with
    shellPid := p.pid
    name := name
    args := args
    bindings := Tools.environment p |>.reverse
    fixed := []
    hidden := none
    functions := []
    status := 0
    jobs := []
    lastJob := none
    options := options
    isGuarded := false
    loops := 0
    halted := none }

/-! ## Names of commands -/

/-- The commands that change the shell for good, even by the assignments in front of them. -/
def specialNames : List String :=
  [":", ".", "break", "continue", "eval", "exec", "exit", "export", "readonly", "return", "set",
    "shift", "trap", "unset"]

/-- The commands that the shell knows itself. -/
def ownNames : List String :=
  specialNames ++ ["cd", "command", "echo", "false", "kill", "local", "printf", "pwd", "read",
    "test", "[", "true", "type", "umask", "wait"]

/-- What a name means as a command. -/
inductive Meaning where
  | keyword
  | function
  | special
  | own
  | program (path : Raw)
  | nothing
  deriving DecidableEq, Repr

/-- Finds out what a name means. -/
def meaning (name : Raw) : Act Meaning := do
  let text := Raw.text name
  if Reader.keywords.contains text then return .keyword
  else if ((← self).functions.lookup name).isSome then return .function
  else if specialNames.contains text then return .special
  else if ownNames.contains text then return .own
  else match ← program name with
    | .ok (path, _) => return .program path
    | .error _ => return .nothing

/-- Says what names mean; the status tells whether all of them mean something. -/
def describe (names : List Raw) : Act Nat := do
  let mut status := 0
  for name in names do
    let words ← match ← meaning name with
      | .keyword => pure " is a shell keyword"
      | .function => pure " is a shell function"
      | .special => pure " is a special shell builtin"
      | .own => pure " is a shell builtin"
      | .program path => pure (" is " ++ Raw.text path)
      | .nothing => pure ": not found"
    if words = ": not found" then status := 127
    let _ ← write 1 (name ++ Raw.ofText words ++ ['\n'])
  return status

/-- Says how names would be called; the status tells whether the last one means something. -/
def whereabouts (names : List Raw) : Act Nat := do
  let mut status := 0
  for name in names do
    match ← meaning name with
    | .nothing => status := 127
    | .program path => do
      let _ ← write 1 (path ++ ['\n'])
      status := 0
    | _ => do
      let _ ← write 1 (name ++ ['\n'])
      status := 0
  return status

/-! ## Commands of the shell itself -/

/-- Changes the directory, and notes where the shell was and where it is. -/
def changeDirectory (path : Raw) : Act Bool := do
  let d ← disk
  match d.find (Raw.text path) with
  | .error _ => return false
  | .ok n =>
    if d.isDirectory (Raw.text path) then
      let old := Raw.ofText (d.pathOf (← self).base)
      setSelf fun p => { p with base := n }
      setVariable "OLDPWD".toList old
      setVariable "PWD".toList (Raw.ofText (d.pathOf n))
      return true
    else return false

/-- Sets a trap for each of some signals, or takes it away; the status tells whether all of them
are signals. -/
def setTraps (action : Option Raw) (names : List Raw) : Act Nat := do
  let mut status := 0
  for name in names do
    match Signal.ofText? name with
    | some n =>
      let key := Raw.ofInt n
      setSelf fun p => { p with
        traps := (action.map fun a => (key, a)).toList ++ p.traps.filter (·.1 != key) }
    | none =>
      complain ("trap: " ++ Raw.text name ++ ": bad trap")
      status := 1
  return status

/-- A text between apostrophes, as the shell would read it. -/
def quotedText (s : Raw) : Raw :=
  let escaped := s.flatMap fun c => if c = '\'' then "'\"'\"'".toList else [c]
  '\'' :: escaped ++ ['\'']

def showTraps : Act Unit := do
  let p ← self
  for n in List.range Signal.names.length do
    match p.traps.lookup (Raw.ofInt n) with
    | some action =>
      let _ ← write 1 ("trap -- ".toList ++ quotedText action ++ ' ' :: (Signal.name n).toList ++
        ['\n'])
    | none => pure ()

/-- Gives out some variables, each behind the command that would declare it. -/
def showVariables (command : String) (names : List Raw) : Act Unit := do
  let p ← self
  for name in names.mergeSort fun a b => String.ofList a ≤ String.ofList b do
    let value := (p.bindings.lookup name).map fun v => '=' :: quotedText v
    let _ ← write 1 (command.toList ++ ' ' :: name ++ value.getD [] ++ ['\n'])

/-- Sends a signal to a job of the current process; whether the job is there. -/
def killJob (pid : Nat) (signal : Signal) : Act Bool := do
  let p ← self
  match p.jobs.find? (·.pid == pid) with
  | none => return false
  | some job =>
    let isLive := job.ending.all fun (t, _) => p.now < t
    -- What it would have given out later is taken back.
    if isLive && !Signal.isPassedOver signal then
      let isStop := Signal.isStop signal
      setWorld fun w => { w with
        given := w.given.filter fun (t, q, _) => q != pid || t ≤ p.now
        holds := w.holds.map fun (q, t) =>
          if q == pid then (q, if isStop then none else some p.now) else (q, t) }
      setSelf fun p => { p with
        jobs := p.jobs.map fun j =>
          if j.pid == pid then
            { j with ending := if isStop then none else some (p.now, .signal signal) }
          else j }
    return isLive

/-- The options of `read`: whether a backslash means itself, and the names. -/
def readOptions (isRaw : Bool) : List Raw → Bool × List Raw
  | ['-', 'r'] :: rest => readOptions true rest
  | ['-', 'p'] :: _ :: rest => readOptions isRaw rest
  | names => (isRaw, names)

/-- The items of a line in which a backslash takes away the meaning of what follows it. -/
def unescapedItems : Raw → List Item
  | [] => []
  | '\\' :: c :: s => .char c true false :: unescapedItems s
  | c :: s => .char c true true :: unescapedItems s

/-- Divides items among variables; the last one gets all that is left. -/
def shareAmong (line : Nat) (isBlank : Item → Bool) : List Raw → List Item → Act Unit
  | [], _ => pure ()
  | [name], is =>
    assign line "read: " name (textOf ((is.dropWhile isBlank).reverse.dropWhile isBlank).reverse)
  | name :: names, is => do
    let is := is.dropWhile isBlank
    assign line "read: " name (textOf (is.takeWhile (!isBlank ·)))
    shareAmong line isBlank names ((is.dropWhile (!isBlank ·)).drop 1)

def readLine (line : Nat) (isRaw : Bool) (names : List Raw) : Act Flow := do
  match ← readAll 0 with
  | .error _ => setStatus 1; return .next
  | .ok q =>
    match q.takeLine? with
    | none => return .never
    | some (s, ended, t, rest) =>
      waitUntil t
      -- Others may go on reading behind the line.
      unread 0 rest
      let seps ← separators
      let isBlank (i : Item) : Bool := match i with
        | .char c _ maySplit => maySplit && seps.contains c
        | _ => false
      shareAmong line isBlank names (if isRaw then items s false else unescapedItems s)
      setStatus (if ended then 0 else 1)
      return .next

/-- The options that have a name, with their letters. -/
def optionNames : List (String × Char) := [
  ("errexit", 'e'), ("noglob", 'f'), ("noexec", 'n'), ("xtrace", 'x'), ("verbose", 'v'),
  ("noclobber", 'C'), ("allexport", 'a'), ("nounset", 'u')]

def switchOption (isOn : Bool) (letter : Char) (options : List Char) : List Char :=
  (if isOn then [letter] else []) ++ options.filter (· != letter)

/-- The options after some arguments, and the arguments that follow; or the argument that is no
option. -/
def optionsAfter (options : List Char) : List Raw → Except Raw (List Char × Option (List Raw))
  | [] => .ok (options, none)
  | ['-', '-'] :: rest => .ok (options, some rest)
  | ['-', 'o'] :: name :: rest => named true name rest
  | ['+', 'o'] :: name :: rest => named false name rest
  | (sign :: c :: cs) :: rest =>
    if sign = '-' ∨ sign = '+' then
      match (c :: cs).find? fun l => !optionNames.any (·.2 == l) with
      | some l => .error [sign, l]
      | none =>
        optionsAfter ((c :: cs).foldl (fun o l => switchOption (sign = '-') l o) options) rest
    else .ok (options, some ((sign :: c :: cs) :: rest))
  | args => .ok (options, some args)
where
  /-- An option that is given by its name. -/
  named (isOn : Bool) (name : Raw) (rest : List Raw) :
      Except Raw (List Char × Option (List Raw)) :=
    match optionNames.lookup (Raw.text name) with
    | some l => optionsAfter (switchOption isOn l options) rest
    | none => .error ("-o ".toList ++ name)

/-- Waits for the jobs that are named, or for all. -/
def waitFor (args : List Raw) : Act Flow := do
  let p ← self
  if args.isEmpty then
    -- Who waits for a job that never ends does not end either.
    if p.jobs.any fun j => j.ending.isNone then return .never
    waitUntil ((p.jobs.filterMap (·.ending)).map (·.1) |>.foldl max p.now)
    setSelf fun p => { p with jobs := [], status := 0 }
    return .next
  else
    let mut flow := Flow.next
    for a in args do
      match p.jobs.find? fun j => Raw.ofInt j.pid = a with
      | none => setStatus 127
      | some j => match j.ending with
        | none => flow := .never
        | some (t, status) => collect t status
    return flow

end BuildService.Shell
