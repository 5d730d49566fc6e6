import BuildService.IoFault
import BuildService.Text.Utf8
/-!
The files that a service reads and writes.

A disk is a list of nodes; a directory maps names to the numbers of nodes. An
open file is a node number together with a position of its own, so it goes on
writing where it stands even if the file was cut down or replaced meanwhile.
Names are resolved one after the other, links included. Beside files there are
directories, links, the tools of the system, and three devices.
-/

set_option autoImplicit false

namespace BuildService

/-- The number of a node. -/
abbrev NodeId := Nat

/-- What is in a file: its bytes, the last one first, and their number. A file grows at its end
most often, and there this takes no look at what is in it already. -/
structure Content where
  backwards : List UInt8
  size : Nat
  size_eq : backwards.length = size
  deriving Repr

namespace Content

def ofBytes (bs : List UInt8) : Content := ⟨bs.reverse, bs.length, List.length_reverse⟩

instance : Inhabited Content := ⟨ofBytes []⟩

/-- The bytes in their order. -/
def bytes (c : Content) : List UInt8 := c.backwards.reverse

/-- Bytes after others were written at a position; a gap is filled with zeros. -/
def spliced (old : List UInt8) (position : Nat) (new : List UInt8) : List UInt8 :=
  old.take position ++ List.replicate (position - old.length) 0 ++ new ++
    old.drop (position + new.length)

/-- The content after bytes were written at a position. -/
def overwrite (c : Content) (position : Nat) (new : List UInt8) : Content :=
  if position = c.size then
    ⟨new.reverse ++ c.backwards, new.length + c.size, by
      rw [List.length_append, List.length_reverse, c.size_eq]⟩
  else ofBytes (spliced c.bytes position new)

theorem bytes_ofBytes (bs : List UInt8) : (ofBytes bs).bytes = bs := List.reverse_reverse bs

theorem length_bytes (c : Content) : c.bytes.length = c.size := by
  rw [bytes, List.length_reverse, c.size_eq]

/-- Wherever bytes are written, they replace those that were there. At the end nothing is
replaced, so what is written is put behind the rest. -/
theorem bytes_overwrite (c : Content) (position : Nat) (new : List UInt8) :
    (c.overwrite position new).bytes = spliced c.bytes position new := by
  rw [overwrite]
  split
  · subst position
    have h := c.length_bytes
    rw [spliced, List.take_of_length_le (Nat.le_of_eq h), h, Nat.sub_self,
      List.drop_eq_nil_of_le (by omega)]
    simp [bytes]
  · exact bytes_ofBytes _

end Content

/-- What a name leads to. -/
inductive Node where
  /-- A file, and whether it may be run. -/
  | file (content : Content) (executable : Bool)
  /-- A directory: the one above it, and its names. -/
  | directory (parent : NodeId) (names : List (String × NodeId))
  /-- A link, and the path that it stands for. -/
  | link (target : String)
  /-- A tool of the system. -/
  | tool (name : String)
  /-- A device that holds nothing and swallows everything. -/
  | null
  /-- A device that gives zeros and swallows everything. -/
  | zero
  /-- A device that gives zeros and refuses every byte. -/
  | full
  deriving Repr, Inhabited

/-- All nodes, and the directory in which relative paths begin. -/
structure Disk where
  nodes : List Node
  base : NodeId
  deriving Repr, Inhabited

/-- Where a path leads. -/
inductive Place where
  /-- To something that exists. -/
  | found (node : NodeId)
  /-- To a name that is still free in a directory. -/
  | free (directory : NodeId) (name : String)
  deriving DecidableEq, Repr

namespace Disk

/-- The names between the slashes of a path; empty ones do not count. -/
def pathNames (path : String) : List String :=
  ((path.toList.splitOn '/').filter (!·.isEmpty)).map String.ofList

/-- A path that begins at the top. -/
def isAbsolute (path : String) : Bool := path.toList.head? == some '/'

/-- A path under a directory; an absolute one stands for itself. -/
def join (directory path : String) : String :=
  if isAbsolute path then path
  else if directory.isEmpty then path
  else if directory.toList.getLast? == some '/' then directory ++ path
  else directory ++ "/" ++ path

def node? (d : Disk) (n : NodeId) : Option Node := d.nodes[n]?

/-- What a name stands for in a directory. -/
def child? (d : Disk) (directory : NodeId) (name : String) : Option NodeId :=
  match d.node? directory with
  | some (.directory _ names) => (names.find? (·.1 == name)).map (·.2)
  | _ => none

def top : NodeId := 0

/-- How many links a path may lead through. -/
def linkLimit : Nat := 40

/-- Follows names from a directory. `links` is the number of links that may still be followed;
`follow` says whether the last name is looked through if it is a link. -/
def walk (d : Disk) (follow : Bool) (links : Nat) (directory : NodeId) (names : List String) :
    Except IoFault Place :=
  match names with
  | [] => .ok (.found directory)
  | name :: rest =>
    match d.node? directory with
    | some (.directory parent _) =>
      if name = "." then walk d follow links directory rest
      else if name = ".." then walk d follow links parent rest
      else if 255 < name.utf8ByteSize then .error .nameTooLong
      else match d.child? directory name with
        -- Only the last name may be free.
        | none => if rest.isEmpty then .ok (.free directory name) else .error .notFound
        | some n =>
          match d.node? n with
          | some (.link target) =>
            if rest.isEmpty && !follow then .ok (.found n)
            -- The target stands in the place of the link, and is read from where the link is.
            else match links with
              | 0 => .error .tooManyLinks
              | links + 1 =>
                walk d follow links (if isAbsolute target then top else directory)
                  (pathNames target ++ rest)
          | _ => walk d follow links n rest
    | _ => .error .notADirectory
termination_by (links, names.length)

def locate (d : Disk) (follow : Bool) (path : String) : Except IoFault Place :=
  if path.toList.contains '\x00' then .error .nulInName
  else if path.isEmpty then .error .notFound
  else if 4095 < path.utf8ByteSize then .error .nameTooLong
  else walk d follow linkLimit (if isAbsolute path then top else d.base) (pathNames path)

/-- The node at the end of a path. -/
def find (d : Disk) (path : String) : Except IoFault NodeId :=
  match d.locate true path with
  | .ok (.found n) => .ok n
  | .ok (.free _ _) => .error .notFound
  | .error e => .error e

def isDirectory (d : Disk) (path : String) : Bool :=
  match d.find path with
  | .ok n => match d.node? n with
    | some (.directory _ _) => true
    | _ => false
  | .error _ => false

def isFile (d : Disk) (path : String) : Bool :=
  match d.find path with
  | .ok n => match d.node? n with
    | some (.file _ _) | some (.tool _) => true
    | _ => false
  | .error _ => false

/-- The names that lead to a directory from the top, at most so many. -/
def namesTo (d : Disk) : Nat → NodeId → List String
  | 0, _ => []
  | n + 1, node =>
    if node = top then []
    else match d.node? node with
      | some (.directory parent _) =>
        match d.node? parent with
        | some (.directory _ names) =>
          namesTo d n parent ++ ((names.find? (·.2 == node)).map (·.1)).toList
        | _ => []
      | _ => []

/-- The path that leads to a directory from the top. -/
def pathOf (d : Disk) (node : NodeId) : String :=
  "/" ++ "/".intercalate (d.namesTo d.nodes.length node)

/-! ## Changing the disk -/

def setNode (d : Disk) (n : NodeId) (node : Node) : Disk := { d with nodes := d.nodes.set n node }

/-- A new node, under a name that is free or stood for something else before. -/
def addNode (d : Disk) (directory : NodeId) (name : String) (node : Node) : Disk :=
  match d.node? directory with
  | some (.directory parent names) =>
    -- It gets the next number, so no number is given twice.
    { d with nodes :=
        (d.nodes.set directory
          (.directory parent ((name, d.nodes.length) :: names.filter (·.1 != name)))) ++ [node] }
  | _ => d

def makeDir (d : Disk) (path : String) : Except IoFault Disk :=
  -- A link at the end is in the way, wherever it leads.
  match d.locate false path with
  | .error e => .error e
  | .ok (.found _) => .error .fileExists
  | .ok (.free directory name) => .ok (d.addNode directory name (.directory directory []))

/-- A path and all paths above it, the shortest last. -/
def ancestors (path : String) : List String :=
  let names := pathNames path
  let text (ns : List String) : String :=
    (if isAbsolute path then "/" else "") ++ "/".intercalate ns
  (List.range names.length).reverse.map fun n => text (names.take (n + 1))

/-- How many paths, from the longest on, cannot be made because something above them is missing.
The first one that can be made is made. -/
def missingFrom (d : Disk) : List String → Except IoFault (Nat × Disk)
  | [] => .ok (0, d)
  | path :: above =>
    match d.makeDir path with
    | .ok d => .ok (0, d)
    | .error e =>
      if e = .notFound then (missingFrom d above).map fun (n, d) => (n + 1, d)
      else if e = .fileExists && d.isDirectory path then .ok (0, d)
      else .error e

/-- Makes directories, one after the other; those that are there already are left alone. -/
def makeEach (d : Disk) : List String → Except IoFault Disk
  | [] => .ok d
  | path :: paths =>
    match d.makeDir path with
    | .ok d => makeEach d paths
    | .error e =>
      if e = .fileExists && d.isDirectory path then makeEach d paths else .error e

/-- Makes a directory and all that are missing above it. -/
def makeDirs (d : Disk) (path : String) : Except IoFault Disk :=
  let paths := ancestors path
  match d.missingFrom paths with
  | .error e => .error e
  -- The others are made from the one that could be made downwards.
  | .ok (n, d) => d.makeEach (paths.take n).reverse

/-- Opens a file for writing: a new one if the path leads nowhere yet, otherwise the old one with
nothing in it. -/
def create (d : Disk) (path : String) : Except IoFault (NodeId × Disk) :=
  match d.locate true path with
  | .error e => .error e
  | .ok (.free directory name) =>
    .ok (d.nodes.length, d.addNode directory name (.file (.ofBytes []) false))
  | .ok (.found n) =>
    match d.node? n with
    | some (.directory _ _) => .error .isADirectory
    | some (.file _ x) => .ok (n, d.setNode n (.file (.ofBytes []) x))
    | some (.tool _) => .error .permissionDenied
    -- A device is opened and cannot be emptied.
    | _ => .ok (n, d)

/-- The bytes of an open file. A device that gives zeros without an end is not read. -/
def bytes (d : Disk) (n : NodeId) : Except IoFault (List UInt8) :=
  match d.node? n with
  | some (.directory _ _) => .error .isADirectory
  | some (.file c _) => .ok c.bytes
  | _ => .ok []

def size (d : Disk) (n : NodeId) : Nat :=
  match d.node? n with
  | some (.file c _) => c.size
  | _ => 0

def read (d : Disk) (path : String) : Except IoFault (List UInt8) :=
  match d.find path with
  | .error e => .error e
  | .ok n => d.bytes n

def readText (d : Disk) (path : String) : Except IoFault String :=
  match d.read path with
  | .error e => .error e
  | .ok bs =>
    match Utf8.decode? bs with
    | some s => .ok s
    | none => .error .notText

/-- Writes at a position of an open file. -/
def writeAt (d : Disk) (n : NodeId) (position : Nat) (new : List UInt8) : Except IoFault Disk :=
  match d.node? n with
  | some (.file old x) => .ok (d.setNode n (.file (old.overwrite position new) x))
  | some .full => if new.isEmpty then .ok d else .error .noSpace
  | _ => .ok d

def remove (d : Disk) (isDeep : Bool) (path : String) : Except IoFault Disk :=
  match d.locate false path with
  | .error e => .error e
  | .ok (.free _ _) => .error .notFound
  | .ok (.found n) =>
    let isDirectory := match d.node? n with
      | some (.directory _ _) => true
      | _ => false
    if isDirectory && !isDeep then .error .isADirectory
    -- The node itself stays, for those who have it open.
    else .ok { d with nodes := d.nodes.map fun
      | .directory parent names => .directory parent (names.filter (·.2 != n))
      | other => other }

/-! ## Preparing a disk -/

/-- The directory above a path. -/
def parentPath (path : String) : String :=
  let names := pathNames path
  (if isAbsolute path then "/" else "") ++ "/".intercalate names.dropLast

/-- Puts a file at a path, with the directories above it. What is there already is overwritten. -/
def putFile (d : Disk) (path : String) (bs : List UInt8) (executable : Bool) :
    Except IoFault Disk := do
  let d ← d.makeDirs (parentPath path)
  let (n, d) ← d.create path
  match d.node? n with
  -- What could be run before can still be run.
  | some (.file _ x) => .ok (d.setNode n (.file (.ofBytes bs) (executable || x)))
  | _ => .ok d

/-- Puts a link at a path, with the directories above it. -/
def putLink (d : Disk) (path target : String) : Except IoFault Disk := do
  let d ← d.makeDirs (parentPath path)
  match d.locate false path with
  | .error e => .error e
  | .ok (.free directory name) => .ok (d.addNode directory name (.link target))
  | .ok (.found n) => .ok (d.setNode n (.link target))

/-- The tools that every disk has. -/
def tools : List String :=
  ["sh", "dash", "env", "cat", "echo", "false", "head", "ls", "mkdir", "printenv", "printf", "rm",
    "seq", "sleep", "sort", "tail", "test", "touch", "tr", "true", "wc", "yes"]

/-- A disk with devices, tools, and an empty directory in which relative paths begin. -/
def initial : Disk :=
  let fixed : List Node :=
    [ .directory 0 [("dev", 1), ("bin", 2), ("usr", 3), ("tmp", 5)],
      .directory 0 [("null", 7), ("zero", 8), ("full", 9)],
      .directory 0 (tools.zipIdx.map fun (t, k) => (t, 10 + k)),
      .directory 0 [("bin", 4)],
      .directory 3 (tools.zipIdx.map fun (t, k) => (t, 10 + k)),
      .directory 0 [("work", 6)],
      .directory 5 [],
      .null, .zero, .full ]
  ⟨fixed ++ tools.map .tool, 6⟩

end Disk

end BuildService
