import BuildService.Shell.Arithmetic
import BuildService.Disk
/-!
Conditions: comparisons of texts and numbers, and questions about files.
-/

set_option autoImplicit false

namespace BuildService.Shell.Condition

/-- Why a condition cannot be decided. -/
inductive Fault where
  | number (s : Raw)
  | operator (s : Raw)
  /-- Nothing follows an operator. -/
  | argument (operator : Raw)
  | openBracket
  | missingBracket
  deriving DecidableEq, Repr

def Fault.message : Fault → String
  | number s => "Illegal number: " ++ Raw.text s
  | operator s => Raw.text s ++ ": unexpected operator"
  | argument op => Raw.text op ++ ": argument expected"
  | openBracket => "closing paren expected"
  | missingBracket => "missing ]"

def number (s : Raw) : Except Fault Int :=
  let core := ((s.dropWhile Char.isWhitespace).reverse.dropWhile Char.isWhitespace).reverse
  let (negative, ds) := match core with
    | '-' :: rest => (true, rest)
    | '+' :: rest => (false, rest)
    | rest => (false, rest)
  if ds.isEmpty || !ds.all Char.isDigit then .error (.number s)
  else
    let n : Int := (ds.foldl (fun n c => n * 10 + (c.toNat - '0'.toNat)) 0 : Nat)
    .ok (if negative then -n else n)

/-- What an operator with two sides says. -/
def compare? (op : Raw) (a b : Raw) : Option (Except Fault Bool) :=
  let numbers (f : Int → Int → Bool) : Option (Except Fault Bool) := some do
    .ok (f (← number a) (← number b))
  match op with
  | ['='] => some (.ok (a == b))
  | ['!', '='] => some (.ok (a != b))
  | ['<'] => some (.ok (String.ofList a < String.ofList b))
  | ['>'] => some (.ok (String.ofList b < String.ofList a))
  | ['-', 'e', 'q'] => numbers (· == ·)
  | ['-', 'n', 'e'] => numbers (· != ·)
  | ['-', 'l', 't'] => numbers (· < ·)
  | ['-', 'l', 'e'] => numbers (· ≤ ·)
  | ['-', 'g', 't'] => numbers (fun a b => b < a)
  | ['-', 'g', 'e'] => numbers (fun a b => b ≤ a)
  | _ => none

def nodeAt (d : Disk) (follow : Bool) (path : Raw) : Option Node :=
  match d.locate follow (Raw.text path) with
  | .ok (.found n) => d.node? n
  | _ => none

/-- What a question with one letter says. -/
def ask? (d : Disk) (letter : Char) (s : Raw) : Option Bool :=
  let node := nodeAt d true s
  match letter with
  | 'n' => some !s.isEmpty
  | 'z' => some s.isEmpty
  | 'e' => some node.isSome
  | 'r' => some node.isSome
  | 'w' => some node.isSome
  | 'f' => some (match node with
    | some (.file _ _) => true
    | some (.tool _) => true
    | _ => false)
  | 'd' => some (match node with
    | some (.directory _ _) => true
    | _ => false)
  | 'x' => some (match node with
    | some (.file _ x) => x
    | some (.tool _) => true
    | some (.directory _ _) => true
    | _ => false)
  | 's' => some (match node with
    | some (.file c _) => c.size != 0
    | some (.tool _) => true
    | some (.directory _ _) => true
    | _ => false)
  | 'L' => some (match nodeAt d false s with
    | some (.link _) => true
    | _ => false)
  | 'h' => some (match nodeAt d false s with
    | some (.link _) => true
    | _ => false)
  | 't' => some false
  | _ => none

/-- What a word means where a condition begins or goes on. -/
inductive Token where
  | operand
  | nothing
  /-- It asks something of the word that follows. -/
  | question
  /-- It compares the words around it. -/
  | comparison
  | both
  | either
  | not
  | opening
  | closing
  deriving DecidableEq, Repr

/-- Whether a word compares the words around it. -/
def isComparison (s : Raw) : Bool := (compare? s [] []).isSome

/-- What the first of some words means. A word that could ask something is an operand if nothing
follows it, or a comparison and a third word. -/
def token (d : Disk) (ws : List Raw) : Token :=
  match ws with
  | [] => .nothing
  | s :: rest =>
    if isComparison s then .comparison
    else match s with
      | ['-', 'a'] => .both
      | ['-', 'o'] => .either
      | ['!'] => .not
      | ['('] => if rest.isEmpty then .operand else .opening
      | [')'] => .closing
      | ['-', c] =>
        if (ask? d c []).isNone then .operand
        else match rest with
          | [] => .operand
          | [_] => .question
          | op :: _ => if isComparison op then .operand else .question
      | _ => .operand

mutual

/-- One of several conditions holds. What is given back begins with the last word that was used,
and so do all that follow. -/
def anyOf (d : Disk) : Nat → Token → List Raw → Except Fault (Bool × List Raw)
  | 0, _, ws => .ok (false, ws)
  | n + 1, first, ws => do
    let (a, ws) ← allOf d n first ws
    if token d (ws.drop 1) = .either then
      let (b, ws) ← anyOf d n (token d (ws.drop 2)) (ws.drop 2)
      .ok (a || b, ws)
    else .ok (a, ws)

def allOf (d : Disk) : Nat → Token → List Raw → Except Fault (Bool × List Raw)
  | 0, _, ws => .ok (false, ws)
  | n + 1, first, ws => do
    let (a, ws) ← negated d n first ws
    if token d (ws.drop 1) = .both then
      let (b, ws) ← allOf d n (token d (ws.drop 2)) (ws.drop 2)
      .ok (a && b, ws)
    else .ok (a, ws)

/-- A condition that may be turned around. -/
def negated (d : Disk) : Nat → Token → List Raw → Except Fault (Bool × List Raw)
  | 0, _, ws => .ok (false, ws)
  | n + 1, first, ws =>
    if first = .not then do
      let next := token d (ws.drop 1)
      let (a, ws) ← negated d n next (if next = .nothing then ws else ws.drop 1)
      .ok (!a, ws)
    else single d n first ws

def single (d : Disk) : Nat → Token → List Raw → Except Fault (Bool × List Raw)
  | 0, _, ws => .ok (false, ws)
  | n + 1, first, ws =>
    match first, ws with
    | .nothing, _ => .ok (false, ws)
    | .opening, _ =>
      if token d (ws.drop 1) = .closing then .ok (false, ws.drop 1)
      else do
        let (a, ws) ← anyOf d n (token d (ws.drop 1)) (ws.drop 1)
        if token d (ws.drop 1) = .closing then .ok (a, ws.drop 1) else .error .openBracket
    | .question, ['-', c] :: s :: rest => .ok ((ask? d c s).getD false, s :: rest)
    | _, a :: op :: rest =>
      if isComparison op then
        match rest with
        | [] => .error (.argument op)
        | b :: _ => ((compare? op a b).getD (.ok false)).map fun x => (x, rest)
      else .ok (!a.isEmpty, ws)
    | _, [a] => .ok (!a.isEmpty, ws)
    | _, [] => .ok (false, [])

end

/-- Whether a condition holds. An empty one does not; of three words the middle one compares the
others if it can, and brackets around the whole mean nothing. -/
def holds (d : Disk) (ws : List Raw) : Except Fault Bool :=
  let isTriple := ws.length = 3 && (ws.drop 1).head?.any isComparison
  let ws := if !isTriple && (ws.length = 3 || ws.length = 4) && ws.head? = some ['('] &&
    ws.getLast? = some [')'] then (ws.drop 1).dropLast else ws
  match anyOf d (4 * ws.length + 8) (if isTriple then .operand else token d ws) ws with
  | .error e => .error e
  | .ok (a, last :: _ :: _) => if ws.isEmpty then .ok a else .error (.operator last)
  | .ok (a, _) => .ok a

end BuildService.Shell.Condition
