import BuildService.Disk
import BuildService.Shell.Script
/-!
Patterns: asterisks, question marks and sets of characters.

A pattern is a list of characters each of which is marked as meaning itself or
as having its special meaning. It is compared with a text, or with the names in
the directories of a disk.
-/

set_option autoImplicit false

namespace BuildService.Shell

/-- A character of a pattern, and whether it means nothing but itself. -/
abbrev Pattern := List (Char × Bool)

namespace Pattern

def literal (s : Raw) : Pattern := s.map fun c => (c, true)

def text (p : Pattern) : Raw := p.map (·.1)

def isSpecial (p : Pattern) : Bool :=
  p.any fun (c, isLiteral) => !isLiteral && (c == '*' || c == '?' || c == '[')

/-- Reads the characters and ranges of a set up to its bracket; a bracket at the front means
itself. -/
def members : Nat → Bool → Pattern → Option (List (Char × Char) × Pattern)
  | 0, _, _ => none
  | _, _, [] => none
  | n + 1, isFirst, (c, isLiteral) :: rest =>
    if c = ']' && !isLiteral && !isFirst then some ([], rest)
    else match rest with
      | ('-', false) :: (d, e) :: more =>
        -- A hyphen in front of the closing bracket stands for itself.
        if d = ']' && !e then
          (members n false rest).map fun (ms, r) => ((c, c) :: ms, r)
        else (members n false more).map fun (ms, r) => ((c, d) :: ms, r)
      | _ => (members n false rest).map fun (ms, r) => ((c, c) :: ms, r)

/-- A set of characters behind its opening bracket: whether a character is in it, and what
follows. -/
def set? (p : Pattern) : Option ((Char → Bool) × Pattern) :=
  let (isNegated, p) := match p with
    | ('!', false) :: rest => (true, rest)
    | ('^', false) :: rest => (true, rest)
    | rest => (false, rest)
  (members (p.length + 1) true p).map fun (ms, rest) =>
    (fun c => (ms.any fun (a, b) => a ≤ c && c ≤ b) != isNegated, rest)

/-- Whether a pattern fits the whole of a text. The number counts down the steps. -/
def fitsIn : Nat → Pattern → Raw → Bool
  | 0, _, _ => false
  | _, [], s => s.isEmpty
  | n + 1, (c, isLiteral) :: rest, s =>
    if c = '*' && !isLiteral then
      fitsIn n rest s || (match s with
        | _ :: s => fitsIn n ((c, isLiteral) :: rest) s
        | [] => false)
    else match s with
      | [] => false
      | d :: s =>
        if c = '?' && !isLiteral then fitsIn n rest s
        else if c = '[' && !isLiteral then
          match set? rest with
          | some (holds, rest) => holds d && fitsIn n rest s
          -- A bracket that is not closed stands for itself.
          | none => c == d && fitsIn n rest s
        else c == d && fitsIn n rest s

def fits (p : Pattern) (s : Raw) : Bool := fitsIn (p.length + s.length + 1) p s

/-- A text without the part at its front that fits a pattern, the shortest or the longest one. -/
def trimFront (p : Pattern) (longest : Bool) (s : Raw) : Raw :=
  let sizes := List.range (s.length + 1)
  match (if longest then sizes.reverse else sizes).find? fun n => p.fits (s.take n) with
  | some n => s.drop n
  | none => s

/-- A text without the part at its end that fits a pattern, the shortest or the longest one. -/
def trimEnd (p : Pattern) (longest : Bool) (s : Raw) : Raw :=
  let sizes := List.range (s.length + 1)
  match (if longest then sizes else sizes.reverse).find? fun n => p.fits (s.drop n) with
  | some n => s.take n
  | none => s

/-! ## Names of files -/

/-- The parts of a pattern between its slashes. -/
def parts (p : Pattern) : List Pattern := p.splitOnP fun (c, _) => c == '/'

/-- The paths that begin with a given one and go on as the parts say. -/
def pathsFrom (d : Disk) (path : Raw) : List Pattern → List Raw
  | [] => [path]
  | part :: rest =>
    let below (name : Raw) : Raw :=
      if path.isEmpty || path.getLast? = some '/' then path ++ name else path ++ '/' :: name
    if part.isEmpty then pathsFrom d (path ++ ['/']) rest
    else if !part.isSpecial then pathsFrom d (below part.text) rest
    else
      let place := if path.isEmpty then "." else Raw.text path
      match (d.find place).toOption.bind d.node? with
      | some (.directory _ names) =>
        let names := (names.map fun (name, _) => Raw.ofText name).filter fun name =>
          -- A dot at the front of a name has to be written out.
          part.fits name && (name.head? != some '.' || part.head?.map (·.1) = some '.')
        (names.mergeSort fun a b => String.ofList a ≤ String.ofList b).flatMap fun name =>
          pathsFrom d (below name) rest
      | _ => []

/-- The paths that a pattern stands for; the pattern itself if there are none. -/
def paths (p : Pattern) (d : Disk) : List Raw :=
  if !p.isSpecial then [p.text]
  else
    let found := (pathsFrom d [] p.parts).filter fun path => (d.find (Raw.text path)).isOk
    if found.isEmpty then [p.text] else found

end Pattern

end BuildService.Shell
