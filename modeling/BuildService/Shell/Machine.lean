import BuildService.Disk
import BuildService.Shell.Script
import BuildService.Supervision
/-!
Processes, what they hold open, and the time at which they do things.

Time is counted in milliseconds and passes only while a process sleeps or waits;
a process in the background begins one millisecond after it was asked for. What
one process does is worked out from its beginning to its end before the next one
is looked at, and every byte that is given out keeps the time at which it was
given out, so the whole can be put in order afterwards.
-/

set_option autoImplicit false

namespace BuildService.Shell

/-- An open file: where it stands, and whether it always writes at the end. -/
structure OpenFile where
  node : NodeId
  position : Nat
  atEnd : Bool
  deriving Repr, Inhabited

/-- What a descriptor leads to. -/
inductive Channel where
  /-- The output of the whole. -/
  | output
  | file (index : Nat)
  | pipe (index : Nat)
  deriving DecidableEq, Repr

/-- How a stream goes on after its last bytes. -/
inductive Tail where
  | closed (time : Nat)
  /-- The same bytes come again and again. -/
  | endless (s : Raw)
  /-- Nothing more comes, and nobody will close it. -/
  | silent
  deriving DecidableEq, Repr

/-- Bytes that can be read, each with the time at which they are there. -/
structure Stream where
  chunks : List (Nat × Raw)
  tail : Tail
  deriving DecidableEq, Repr

instance : Inhabited Stream := ⟨⟨[], .closed 0⟩⟩

def Stream.empty : Stream := ⟨[], .closed 0⟩

/-- How many bytes there are before the tail. -/
def Stream.size (q : Stream) : Nat := q.chunks.foldl (fun n (_, s) => n + s.length) 0

/-- What the processes share. -/
structure World where
  disk : Disk
  files : List OpenFile
  pipes : List Stream
  /-- What was given out: the time, the process, and the bytes, the last first. -/
  given : List (Nat × Nat × Raw)
  /-- Until when processes could write to the output; those that never let go have no time. -/
  holds : List (Nat × Option Nat)
  nextPid : Nat
  /-- The time after which nothing is looked at any more. -/
  horizon : Nat

/-- A process in the background, and how it ends if it does. -/
structure Job where
  pid : Nat
  ending : Option (Nat × ExitStatus)
  deriving DecidableEq, Repr

/-- How a process goes on after a command. -/
inductive Flow where
  | next
  /-- It ends with the status of the last command. -/
  | leave
  /-- A signal ends it. -/
  | dead (signal : Nat)
  /-- Nothing happens any more, or nothing that is looked at. -/
  | never
  /-- Some loops are left. -/
  | out (loops : Nat)
  /-- Some loops but one are left, and that one goes on. -/
  | again (loops : Nat)
  /-- A function is left. -/
  | back
  deriving DecidableEq, Repr, Inhabited

/-- A process that runs a shell or a tool. -/
structure Process where
  pid : Nat
  /-- The process that the script calls its own. -/
  shellPid : Nat
  now : Nat
  /-- What it was called as. -/
  name : Raw
  args : List Raw
  bindings : List (Raw × Raw)
  exported : List Raw
  /-- The variables that keep their values for good. -/
  fixed : List Raw
  /-- The variables of the function that is called, with the values they get back after it. -/
  hidden : Option (List (Raw × Option Raw))
  functions : List (Raw × Tree)
  status : Nat
  descriptors : List (Nat × Channel)
  base : NodeId
  /-- What is to be done when a signal comes; `EXIT` is the end of the shell. -/
  traps : List (Raw × Raw)
  jobs : List Job
  lastJob : Option Nat
  /-- The options in force, by their letters. -/
  options : List Char
  /-- Whether a failure is asked for, so that it does not end the script. -/
  isGuarded : Bool
  /-- How many loops are around the current command. -/
  loops : Nat
  /-- How the process goes on, if that was decided in the middle of a command. -/
  halted : Option Flow

/-- The world together with the process that is looked at. -/
structure State where
  world : World
  self : Process

/-- Something that a process does. -/
abbrev Act := StateM State

namespace Act

def setSelf (f : Process → Process) : Act Unit := modify fun s => { s with self := f s.self }

def setWorld (f : World → World) : Act Unit := modify fun s => { s with world := f s.world }

def self : Act Process := do return (← get).self

/-- The disk, seen from the directory of the process. -/
def disk : Act Disk := do
  let s ← get
  return { s.world.disk with base := s.self.base }

def setDisk (d : Disk) : Act Unit :=
  -- Where a process stands is its own affair.
  setWorld fun w => { w with disk := { d with base := w.disk.base } }

def hasOption (letter : Char) : Act Bool := do return (← self).options.contains letter

def setStatus (n : Nat) : Act Unit := setSelf fun p => { p with status := n }

/-- Lets time pass up to a point. -/
def waitUntil (t : Nat) : Act Unit := setSelf fun p => { p with now := max p.now t }

/-! ## Variables -/

def value? (name : Raw) : Act (Option Raw) := do return (← self).bindings.lookup name

def setVariable (name value : Raw) : Act Unit :=
  setSelf fun p => { p with bindings := (name, value) :: p.bindings.filter (·.1 != name) }

def dropVariable (name : Raw) : Act Unit :=
  setSelf fun p => { p with
    bindings := p.bindings.filter (·.1 != name)
    exported := p.exported.filter (· != name) }

/-- Hands a variable on to the processes that are started later. -/
def exportVariable (name : Raw) : Act Unit :=
  setSelf fun p => { p with exported := name :: p.exported.filter (· != name) }

/-! ## Descriptors -/

def channel? (fd : Nat) : Act (Option Channel) := do return (← self).descriptors.lookup fd

/-- Whether the process can write to the output. -/
def holdsOutput (p : Process) : Bool := p.descriptors.any (·.2 == .output)

/-- Notes that the process could write to the output up to now, or for ever. -/
def noteHold (isForever : Bool) : Act Unit := do
  let p ← self
  if holdsOutput p then
    setWorld fun w => { w with
      holds := (p.pid, if isForever then none else some p.now) :: w.holds }

/-- Puts a descriptor in place, or takes it away. -/
def setChannel (fd : Nat) (channel : Option Channel) : Act Unit := do
  -- It may be the last way to the output.
  noteHold false
  setSelf fun p => { p with
    descriptors := (channel.map (fd, ·)).toList ++ p.descriptors.filter (·.1 != fd) }

def openNode (node : NodeId) (atEnd : Bool) : Act Channel := do
  let index := (← get).world.files.length
  setWorld fun w => { w with files := w.files ++ [⟨node, 0, atEnd⟩] }
  return .file index

def makePipe : Act Nat := do
  let index := (← get).world.pipes.length
  setWorld fun w => { w with pipes := w.pipes ++ [⟨[], .silent⟩] }
  return index

def setPipe (index : Nat) (f : Stream → Stream) : Act Unit :=
  setWorld fun w => { w with pipes := w.pipes.modify index f }

/-! ## Writing -/

/-- Writes bytes to where a channel leads. -/
def writeChannel (channel : Channel) (s : Raw) : Act Bool := do
  let p ← self
  match channel with
  | .output => do
    setWorld fun w => { w with given := (p.now, p.pid, s) :: w.given }
    return true
  | .pipe k => do
    setPipe k fun q => { q with chunks := q.chunks ++ [(p.now, s)] }
    return true
  | .file k => do
    let w := (← get).world
    match w.files[k]? with
    | none => return false
    | some f =>
      let bytes := Raw.toBytes s
      -- Somebody else may have written there in the meantime.
      let position := if f.atEnd then w.disk.size f.node else f.position
      match w.disk.writeAt f.node position bytes with
      | .error _ => return false
      | .ok d => do
        setWorld fun w => { w with
          disk := d
          files := w.files.set k { f with position := position + bytes.length } }
        return true

def write (fd : Nat) (s : Raw) : Act Bool := do
  match ← channel? fd with
  | none => return false
  | some channel => if s.isEmpty then return true else writeChannel channel s

/-- Writes the same bytes again and again. Only a pipe can take that; whether it did. The output
takes them once, and then time only passes. -/
def writeEndless (fd : Nat) (s : Raw) : Act Bool := do
  match ← channel? fd with
  | some (.pipe k) => do
    setPipe k fun q => { q with tail := .endless s }
    return true
  | some .output => do
    let _ ← writeChannel .output s
    return false
  | _ => return false

def complain (s : String) : Act Unit := do
  let _ ← write 2 (Raw.ofText s ++ ['\n'])

/-! ## Reading -/

/-- All that can be read from a node from a position on. -/
def nodeStream (d : Disk) (node : NodeId) (position now : Nat) : Except IoFault Stream :=
  match d.node? node with
  | some .zero => .ok ⟨[], .endless ['\x00']⟩
  | some .full => .ok ⟨[], .endless ['\x00']⟩
  | _ => match d.bytes node with
    | .error e => .error e
    | .ok bs => .ok ⟨[(now, Raw.ofBytes (bs.drop position))], .closed now⟩

/-- Takes all that can be read from a descriptor. -/
def readAll (fd : Nat) : Act (Except IoFault Stream) := do
  let p ← self
  match ← channel? fd with
  | some (.pipe k) => do
    let q := ((← get).world.pipes[k]?).getD .empty
    -- What is taken out of a pipe is gone, but not how it goes on.
    setPipe k fun q => { q with chunks := [] }
    return .ok q
  | some (.file k) => do
    let w := (← get).world
    match w.files[k]? with
    | none => return .error (.system 9)
    | some f =>
      match nodeStream w.disk f.node f.position p.now with
      | .error e => return .error e
      | .ok q => do
        let size := q.size
        setWorld fun w => { w with files := w.files.set k { f with position := f.position + size } }
        return .ok q
  | _ => return .error (.system 9)

/-- Puts back what was taken too much of. -/
def unread (fd : Nat) (q : Stream) : Act Unit := do
  match ← channel? fd with
  | some (.pipe k) => setPipe k fun _ => q
  | some (.file k) => do
    let size := q.size
    setWorld fun w => { w with
      files := w.files.modify k fun f => { f with position := f.position - size } }
  | _ => return ()

end Act

/-! ## Lines of streams -/

namespace Stream

/-- All bytes, and the time at which the last of them is there; nothing if there is no end. -/
def whole? (q : Stream) : Option (Raw × Nat) :=
  match q.tail with
  | .closed t => some (q.chunks.flatMap (·.2), (q.chunks.map (·.1)).foldl max t)
  | _ => none

/-- Takes bytes up to and with the first newline. The time is that at which they are there; without
a newline and without an end there is none. -/
def takeLine? (q : Stream) : Option (Raw × Bool × Nat × Stream) :=
  go [] 0 q.chunks
where
  /-- Goes through the chunks with what has been taken already. -/
  go (taken : Raw) (time : Nat) : List (Nat × Raw) → Option (Raw × Bool × Nat × Stream)
    | [] =>
      match q.tail with
      | .closed t => some (taken, false, max time t, ⟨[], q.tail⟩)
      | .endless s =>
        -- The same bytes come again and again, so a newline is in the first ones or nowhere.
        if s.contains '\n' then
          some (taken ++ s.takeWhile (· != '\n'), true, time, ⟨[], q.tail⟩)
        else none
      | .silent => none
    | (t, s) :: rest =>
      let line := s.takeWhile (· != '\n')
      match s.drop line.length with
      | _ :: more =>
        let left := if more.isEmpty then rest else (t, more) :: rest
        some (taken ++ line, true, max time t, ⟨left, q.tail⟩)
      | [] => go (taken ++ line) (max time t) rest

/-- The first bytes, in chunks with their times. What is missing is missing because the stream ends
earlier, or because nothing more comes. -/
def takeBytes (q : Stream) (n : Nat) : List (Nat × Raw) × Tail :=
  go n 0 q.chunks
where
  /-- Goes through the chunks. -/
  go (n time : Nat) : List (Nat × Raw) → List (Nat × Raw) × Tail
    | [] =>
      match q.tail with
      | .endless s =>
        if s.isEmpty then ([], .silent)
        else
          -- As many as are wanted, and none after that.
          let s := (List.replicate (n / s.length + 1) s).flatten.take n
          ([(time, s)], .closed time)
      | tail => if n = 0 then ([], .closed time) else ([], tail)
    | (t, s) :: rest =>
      if n ≤ s.length then ([(max time t, s.take n)], .closed (max time t))
      else
        let (more, tail) := go (n - s.length) (max time t) rest
        ((max time t, s) :: more, tail)

end Stream

end BuildService.Shell
