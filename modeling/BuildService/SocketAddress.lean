import BuildService.Text.Percent
import BuildService.Text.Quoted
/-!
Addresses that a service can listen on.

An address is a network address and a port: `1.2.3.4:80`, or `[::1]:80` for the
newer kind. Reading takes any admissible spelling; writing always gives the
same one, with the longest run of zero groups left out.
-/

set_option autoImplicit false

namespace BuildService

inductive HostAddress where
  /-- Four bytes. -/
  | v4 (bytes : List Nat)
  /-- Eight groups of sixteen bits, and the zone they are meant in. -/
  | v6 (groups : List Nat) (scope : Nat)
  deriving DecidableEq, Repr

structure SocketAddress where
  host : HostAddress
  port : Nat
  deriving DecidableEq, Repr

namespace SocketAddress

/-- The characters still to be read. -/
abbrev Input := List Char

/-! ## Reading -/

/-- A number in a base, of at most `most` digits, that is below `bound`. -/
def number? (base bound : Nat) (most : Option Nat) (i : Input) : Option (Nat × Input) :=
  let isDigit (c : Char) : Bool := (Text.hexValue? c).any (· < base)
  let ds := i.takeWhile isDigit
  let n := ds.foldl (fun n c => n * base + (Text.hexValue? c).getD 0) 0
  if ds.isEmpty || most.any (· < ds.length) || bound ≤ n then none
  else some (n, i.dropWhile isDigit)

def mark? (c : Char) : Input → Option Input
  | d :: rest => if d = c then some rest else none
  | [] => none

/-- A byte in decimal; no zero stands in front of another digit. -/
def byte? (i : Input) : Option (Nat × Input) := do
  let (n, rest) ← number? 10 256 (some 3) i
  if i.head? = some '0' ∧ rest.length + 1 < i.length then none else some (n, rest)

/-- Four bytes with dots between them. -/
def fourBytes? (i : Input) : Option (List Nat × Input) := do
  let (a, i) ← byte? i
  let (b, i) ← byte? (← mark? '.' i)
  let (c, i) ← byte? (← mark? '.' i)
  let (d, i) ← byte? (← mark? '.' i)
  some ([a, b, c, d], i)

/-- A colon, unless this is the first of the groups. -/
def groupStart? (isFirst : Bool) (i : Input) : Option Input :=
  if isFirst then some i else mark? ':' i

/-- Up to `room` groups, as many as there are. The last two may be written as four bytes, which the
answer tells. -/
def groups (isFirst : Bool) : (room : Nat) → Input → List Nat × Bool × Input
  | 0, i => ([], false, i)
  | room + 1, i =>
    let embedded : Option (List Nat × Input) :=
      if room = 0 then none else (groupStart? isFirst i).bind fourBytes?
    match embedded with
    | some ([a, b, c, d], rest) => ([256 * a + b, 256 * c + d], true, rest)
    | _ =>
      match (groupStart? isFirst i).bind (number? 16 65536 (some 4)) with
      | none => ([], false, i)
      | some (g, rest) =>
        let (gs, four, rest) := groups false room rest
        (g :: gs, four, rest)

/-- Eight groups; one run of zero groups may be left out and shown by two colons. -/
def eightGroups? (i : Input) : Option (List Nat × Input) :=
  let (front, four, rest) := groups true 8 i
  if front.length = 8 then some (front, rest)
  else if four then none
  else do
    let rest ← mark? ':' (← mark? ':' rest)
    let (back, _, rest) := groups true (7 - front.length) rest
    some (front ++ List.replicate (8 - front.length - back.length) 0 ++ back, rest)

/-- The zone of an address; none is the same as zone 0. -/
def scope (i : Input) : Nat × Input :=
  match mark? '%' i with
  | none => (0, i)
  | some rest => (number? 10 UInt32.size none rest).getD (0, i)

/-- A colon and a port. -/
def port? (i : Input) : Option (Nat × Input) := do
  number? 10 65536 none (← mark? ':' i)

def parseV4? (i : Input) : Option (SocketAddress × Input) := do
  let (bytes, i) ← fourBytes? i
  let (p, i) ← port? i
  some (⟨.v4 bytes, p⟩, i)

/-- An address with eight groups, which stand in brackets. -/
def parseV6? (i : Input) : Option (SocketAddress × Input) := do
  let (gs, i) ← eightGroups? (← mark? '[' i)
  let (zone, i) := scope i
  let (p, i) ← port? (← mark? ']' i)
  some (⟨.v6 gs zone, p⟩, i)

/-- Reads an address; nothing may follow it. -/
def parse? (s : String) : Option SocketAddress :=
  match (parseV4? s.toList).orElse (fun _ => parseV6? s.toList) with
  | some (a, []) => some a
  | _ => none

/-! ## Writing -/

/-- Four bytes with dots between them. -/
def bytesText (bytes : List Nat) : String := ".".intercalate (bytes.map toString)

/-- Groups with colons between them. -/
def groupsText (gs : List Nat) : String := ":".intercalate (gs.map Text.hexText)

/-- How many zero groups stand in front. -/
def leadingZeros (gs : List Nat) : Nat := (gs.takeWhile (· == 0)).length

/-- The first of the longest runs of zero groups: where it begins and how long it is. -/
def longestZeros (gs : List Nat) : Nat × Nat :=
  (List.range gs.length).foldl (fun (best : Nat × Nat) start =>
    let len := leadingZeros (gs.drop start)
    if best.2 < len then (start, len) else best) (0, 0)

/-- Eight groups, with the longest run of at least two zero groups left out. Addresses of the
older kind that stand in the newer one keep their dots. -/
def hostText (gs : List Nat) : String :=
  match gs with
  | [0, 0, 0, 0, 0, 0xFFFF, a, b] =>
    "::ffff:" ++ bytesText [a / 256, a % 256, b / 256, b % 256]
  | _ =>
    let (start, len) := longestZeros gs
    if len ≤ 1 then groupsText gs
    else groupsText (gs.take start) ++ "::" ++ groupsText (gs.drop (start + len))

def text (a : SocketAddress) : String :=
  match a.host with
  | .v4 bytes => bytesText bytes ++ ":" ++ toString a.port
  | .v6 gs zone =>
    "[" ++ hostText gs ++ (if zone = 0 then "" else "%" ++ toString zone) ++ "]:" ++ toString a.port

def isV6 (a : SocketAddress) : Bool :=
  match a.host with
  | .v4 _ => false
  | .v6 _ _ => true

end SocketAddress

end BuildService
