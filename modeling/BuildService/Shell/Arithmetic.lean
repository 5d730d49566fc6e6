import BuildService.Shell.Format
import BuildService.Shell.Reader
/-!
Arithmetic in scripts.

Values are integers of 64 bits. An expression is evaluated while it is read, with
the variables as a state, since it may assign to them.
-/

set_option autoImplicit false

namespace BuildService.Shell.Arithmetic

/-- Variables and their values. -/
abbrev Bindings := List (Raw × Raw)

/-- What an expression goes on with. -/
inductive Expected where
  | primary
  | ending
  | bracket
  | colon
  deriving DecidableEq, Repr

/-- Why an expression has no value. -/
inductive Fault where
  /-- Something else stands where this is expected. -/
  | expecting (e : Expected)
  | divisionByZero
  /-- The value of a variable is no number. -/
  | number (s : Raw)
  deriving DecidableEq, Repr

def Fault.message (source : Raw) : Fault → String
  | expecting e => inExpression ("expecting " ++ match e with
    | .primary => "primary"
    | .ending => "EOF"
    | .bracket => "')'"
    | .colon => "':'")
  | divisionByZero => inExpression "division by zero"
  | number s => "Illegal number: " ++ Raw.text s
where
  /-- What is wrong with the expression as a whole. -/
  inExpression (what : String) : String :=
    "arithmetic expression: " ++ what ++ ": \"" ++ Raw.text source ++ "\""

/-- What an evaluator has: the rest of the expression, and the variables. -/
structure Position where
  rest : Raw
  bindings : Bindings

/-- The outcome of an evaluator. -/
abbrev Result := Except Fault (Int × Position)

def wrap (n : Int) : Int := Int.bmod n UInt64.size

/-- The expression from its next character that is no blank. -/
def skip (p : Position) : Position :=
  { p with rest := p.rest.dropWhile fun c => c == ' ' || c == '\t' || c == '\n' }

def truth (b : Bool) : Int := if b then 1 else 0

def greatest : Int := (Nat.pow 2 63 : Nat) - 1

/-- The number at the front of a text, and what follows it. Greater numbers than can be held are
cut down. -/
def leading (s : Raw) : Int × Raw :=
  let (base, ds) := Format.baseOf s
  let good := ds.takeWhile fun c => Format.digitValue c < base
  (min greatest (good.foldl (fun n c => n * base + Format.digitValue c) 0 : Nat),
    ds.drop good.length)

/-- The value of a variable; without one it is zero. -/
def valueOf (vs : Bindings) (name : Raw) : Except Fault Int :=
  match (vs.lookup name).getD [] with
  | [] => .ok 0
  | s =>
    let (isNegative, n, rest) := Format.leading s
    if rest.isEmpty then
      .ok (min greatest (max (-greatest - 1) (if isNegative then -n else n)))
    else .error (.number s)

/-- The operators with two sides, the longer ones before those that they begin with, each with how
strongly it binds. -/
def operators : List (String × Nat) := [
  ("||", 1), ("&&", 2), ("==", 6), ("!=", 6), ("<<", 8), (">>", 8), ("<=", 7), (">=", 7),
  ("|", 3), ("^", 4), ("&", 5), ("<", 7), (">", 7), ("+", 9), ("-", 9), ("*", 10), ("/", 10),
  ("%", 10)]

/-- The operators of assignments, each with the operator it applies first. -/
def assignments : List (String × Option String) := [
  ("<<=", some "<<"), (">>=", some ">>"), ("+=", some "+"), ("-=", some "-"), ("*=", some "*"),
  ("/=", some "/"), ("%=", some "%"), ("&=", some "&"), ("|=", some "|"), ("^=", some "^"),
  ("=", none)]

/-- Whether a text begins in a certain way. -/
def begins (w : String) (s : Raw) : Bool := w.toList.isPrefixOf s

/-- The operator that stands here, if one does and no assignment is meant. -/
def operator? (s : Raw) : Option (String × Nat) :=
  -- An assignment to what is no variable is left for whoever called.
  if assignments.any fun (w, _) => begins w s && !begins "==" s then none
  else operators.find? fun (w, _) => begins w s

def apply (w : String) (a b : Int) : Except Fault Int :=
  let bits (f : Nat → Nat → Nat) : Int :=
    wrap (f (a % (UInt64.size : Int)).toNat (b % (UInt64.size : Int)).toNat : Nat)
  if w = "||" then .ok (truth (a != 0 || b != 0))
  else if w = "&&" then .ok (truth (a != 0 && b != 0))
  else if w = "==" then .ok (truth (a == b))
  else if w = "!=" then .ok (truth (a != b))
  else if w = "<=" then .ok (truth (a ≤ b))
  else if w = ">=" then .ok (truth (b ≤ a))
  else if w = "<" then .ok (truth (a < b))
  else if w = ">" then .ok (truth (b < a))
  else if w = "<<" then .ok (wrap (a * (Nat.pow 2 (b % 64).toNat : Int)))
  else if w = ">>" then .ok (Int.fdiv a (Nat.pow 2 (b % 64).toNat : Int))
  else if w = "|" then .ok (bits (· ||| ·))
  else if w = "^" then .ok (bits (· ^^^ ·))
  else if w = "&" then .ok (bits (· &&& ·))
  else if w = "+" then .ok (wrap (a + b))
  else if w = "-" then .ok (wrap (a - b))
  else if w = "*" then .ok (wrap (a * b))
  -- Only division is left.
  else if b = 0 then .error .divisionByZero
  else if w = "/" then .ok (wrap (Int.tdiv a b))
  else .ok (Int.tmod a b)

mutual

/-- An assignment, a choice, or anything that binds more strongly. -/
def expression : Nat → Position → Result
  | 0, _ => .error (.expecting .primary)
  | n + 1, p => do
    let p := skip p
    let name := if p.rest.head?.any Reader.isNameStart then p.rest.takeWhile Reader.isNameChar
      else []
    let after := skip { p with rest := p.rest.drop name.length }
    match assignments.find? fun (w, _) => begins w after.rest && !begins "==" after.rest with
    | some (w, op) =>
      if name.isEmpty then .error (.expecting .primary)
      else
        let (b, q) ← expression n { after with rest := after.rest.drop w.length }
        let v ← match op with
          | some op => apply op (← valueOf q.bindings name) b
          | none => .ok b
        .ok (v, { q with bindings := (name, Raw.ofInt v) :: q.bindings.filter (·.1 != name) })
    | none =>
      let (a, p) ← unary n p
      let (a, p) ← binary n 0 a p
      let p := skip p
      match p.rest with
      | '?' :: rest =>
        let (yes, q) ← expression n { p with rest }
        let q := skip q
        match q.rest with
        | ':' :: rest =>
          let (no, r) ← expression n { q with rest }
          -- Both sides have been evaluated by now, with all their assignments.
          .ok (if a != 0 then yes else no, r)
        | _ => .error (.expecting .colon)
      | _ => .ok (a, p)

/-- What follows a value, as far as its operators bind more strongly than a given one. -/
def binary : Nat → Nat → Int → Position → Result
  | 0, _, _, _ => .error (.expecting .primary)
  | n + 1, least, a, p => do
    let p := skip p
    match operator? p.rest with
    | none => .ok (a, p)
    | some (w, strength) =>
      if strength ≤ least then .ok (a, p)
      else
        let (b, q) ← unary n { p with rest := p.rest.drop w.length }
        -- What binds more strongly belongs to the right side.
        let (b, q) ← binary n strength b q
        binary n least (← apply w a b) q

/-- A value with signs in front. -/
def unary : Nat → Position → Result
  | 0, _ => .error (.expecting .primary)
  | n + 1, p => do
    let p := skip p
    match p.rest with
    | '-' :: rest => do
      let (a, q) ← unary n { p with rest }
      .ok (wrap (-a), q)
    | '+' :: rest => unary n { p with rest }
    | '!' :: rest => do
      let (a, q) ← unary n { p with rest }
      .ok (truth (a == 0), q)
    | '~' :: rest => do
      let (a, q) ← unary n { p with rest }
      .ok (wrap (-a - 1), q)
    | '(' :: rest => do
      let (a, q) ← expression n { p with rest }
      let q := skip q
      match q.rest with
      | ')' :: rest => .ok (a, { q with rest })
      | _ => .error (.expecting .bracket)
    | c :: _ =>
      if c.isDigit then
        let (v, rest) := leading p.rest
        .ok (v, { p with rest })
      else if Reader.isNameStart c then
        let name := p.rest.takeWhile Reader.isNameChar
        .ok (← valueOf p.bindings name, { p with rest := p.rest.drop name.length })
      else .error (.expecting .primary)
    | [] => .error (.expecting .primary)

end

def evaluate (s : Raw) (vs : Bindings) : Except Fault (Int × Bindings) :=
  match expression (8 * s.length + 8) ⟨s, vs⟩ with
  | .error e => .error e
  | .ok (a, p) =>
    if (skip p).rest.isEmpty then .ok (a, p.bindings) else .error (.expecting .ending)

end BuildService.Shell.Arithmetic
