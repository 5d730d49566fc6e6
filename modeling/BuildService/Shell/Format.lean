import BuildService.Shell.Script
/-!
Escapes and formats, as tools that print take them.

A format is used again as long as it takes arguments and some are left.
-/

set_option autoImplicit false

namespace BuildService.Shell.Format

def isOctal (c : Char) : Bool := '0' ≤ c && c ≤ '7'

def octal (s : Raw) : Char :=
  Char.ofNat (s.foldl (fun n c => n * 8 + (c.toNat - '0'.toNat)) 0 % 256)

/-- The escapes of one letter. -/
def letter? (c : Char) : Option Char :=
  match c with
  | 'a' => some '\x07'
  | 'b' => some '\x08'
  | 'e' => some '\x1b'
  | 'f' => some '\x0c'
  | 'n' => some '\n'
  | 'r' => some '\r'
  | 't' => some '\t'
  | 'v' => some '\x0b'
  | '\\' => some '\\'
  | _ => none

/-- A text with its escapes replaced, and whether it was ended by `\c`. An octal number has up to
three digits, and may have a zero in front of them. -/
def unescape : Nat → Raw → Raw × Bool
  | 0, s => (s, false)
  | _, [] => ([], false)
  | n + 1, '\\' :: c :: rest =>
    let next (d : Raw) (rest : Raw) : Raw × Bool :=
      let (s, ended) := unescape n rest
      (d ++ s, ended)
    if c = 'c' then ([], true)
    else if isOctal c then
      let digits : Raw := if c = '0' then rest else c :: rest
      let ds := (digits.take 3).takeWhile isOctal
      next [octal ds] (digits.drop ds.length)
    else match letter? c with
      | some d => next [d] rest
      | none => next ['\\', c] rest
  | n + 1, c :: rest =>
    let (s, ended) := unescape n rest
    (c :: s, ended)

/-- The arguments of a tool that echoes: with blanks between them, escapes replaced, and a newline
at the end unless the first argument is `-n`. -/
def echo (escapes : Bool) (args : List Raw) : Raw :=
  let (newline, args) := match args with
    | ['-', 'n'] :: rest => (false, rest)
    | rest => (true, rest)
  let s := [' '].intercalate args
  let (s, ended) := if escapes then unescape (s.length + 1) s else (s, false)
  if newline && !ended then s ++ ['\n'] else s

/-- How a value is to be printed. -/
structure Layout where
  isLeft : Bool
  zeros : Bool
  plus : Bool
  blank : Bool
  alternate : Bool
  width : Nat
  precision : Option Nat

def pad (l : Layout) (s : Raw) : Raw :=
  let missing := List.replicate (l.width - s.length) ' '
  if l.isLeft then s ++ missing else missing ++ s

def digits (base n : Nat) : Raw := Nat.toDigits base n

/-- A number with its sign, its zeros and its width. -/
def number (l : Layout) (sign body : Raw) : Raw :=
  let body := List.replicate (l.precision.getD 1 - body.length) '0' ++ body
  if l.zeros && !l.isLeft && l.precision.isNone then
    sign ++ List.replicate (l.width - sign.length - body.length) '0' ++ body
  else pad l (sign ++ body)

/-- Why an argument is no number, or why a format cannot be printed. -/
inductive Fault where
  | notNumber (arg : Raw)
  /-- The number is only the beginning of the argument. -/
  | leftOver (arg : Raw)
  | outOfRange (arg : Raw)
  | badDirective (s : Raw)
  /-- The format ends in the middle of a directive. -/
  | cutShort
  deriving DecidableEq, Repr

def Fault.message : Fault → String
  | notNumber arg => Raw.text arg ++ ": expected numeric value"
  | leftOver arg => Raw.text arg ++ ": not completely converted"
  | outOfRange arg => Raw.text arg ++ ": Numerical result out of range"
  | badDirective s => Raw.text s ++ ": invalid directive"
  | cutShort => "missing format character"

/-- Whether a fault ends the printing. -/
def Fault.isFatal : Fault → Bool
  | badDirective _ => true
  | cutShort => true
  | _ => false

/-- The value of a digit in bases up to sixteen; other characters have a greater one. -/
def digitValue (c : Char) : Nat :=
  if c.isDigit then c.toNat - '0'.toNat
  else if c.isAlpha then c.toLower.toNat - 'a'.toNat + 10
  else 99

/-- The base of a number as its front shows it, and what stands behind that. -/
def baseOf (s : Raw) : Nat × Raw :=
  match s with
  | '0' :: x :: d :: rest =>
    if (x = 'x' ∨ x = 'X') && digitValue d < 16 then (16, d :: rest) else (8, s)
  | '0' :: _ => (8, s)
  | _ => (10, s)

/-- The number at the front of a text: its sign, its amount, and what follows it. -/
def leading (s : Raw) : Bool × Nat × Raw :=
  let (isNegative, s) := match s.dropWhile Char.isWhitespace with
    | '-' :: rest => (true, rest)
    | '+' :: rest => (false, rest)
    | rest => (false, rest)
  let (base, ds) := baseOf s
  let good := ds.takeWhile fun c => digitValue c < base
  (isNegative, good.foldl (fun n c => n * base + digitValue c) 0, ds.drop good.length)

/-- The value of an argument that is to be a number, within bounds. -/
def integer (least greatest : Int) (s : Raw) : Int × Option Fault :=
  match s with
  | [] => (0, none)
  | '"' :: c :: _ => (c.toNat, none)
  | '\'' :: c :: _ => (c.toNat, none)
  | _ =>
    let (isNegative, n, rest) := leading s
    let v : Int := if isNegative then -n else n
    if rest = s then (0, some (.notNumber s))
    else if v < least then (least, some (.outOfRange s))
    else if greatest < v then (greatest, some (.outOfRange s))
    else (v, if rest.isEmpty then none else some (.leftOver s))

/-- The decimal number that a text of digits stands for. -/
def decimal (s : Raw) : Nat := s.foldl (fun n c => n * 10 + (c.toNat - '0'.toNat)) 0

/-- What has been printed, the arguments that are left, whether one was used, what went wrong, and
whether the printing was ended. -/
structure Progress where
  printed : Raw
  args : List Raw
  used : Bool
  faults : List Fault
  ended : Bool

def Progress.fail (p : Progress) (e : Fault) : Progress :=
  { p with faults := p.faults ++ [e], ended := p.ended || e.isFatal }

/-- Numbers of 64 bits with a sign. -/
def signed (s : Raw) : Int × Option Fault :=
  integer (-(Nat.pow 2 63 : Nat)) (Nat.pow 2 63 - 1 : Nat) s

def layout (s : Raw) (args : List Raw) : Layout × Raw × List Raw :=
  let flags := s.takeWhile fun c => "-0+ #".toList.contains c
  let s := s.drop flags.length
  let size (s : Raw) (args : List Raw) : Option Int × Raw × List Raw :=
    match s with
    | '*' :: rest => (some (signed (args.head?.getD [])).1, rest, args.drop 1)
    | _ =>
      let ds := s.takeWhile Char.isDigit
      (if ds.isEmpty then none else some (decimal ds : Int), s.drop ds.length, args)
  let (width, s, args) := size s args
  let (precision, s, args) := match s with
    | '.' :: rest =>
      let (p, s, args) := size rest args
      (some (p.getD 0).toNat, s, args)
    | _ => (none, s, args)
  let w := width.getD 0
  (⟨flags.contains '-' || w < 0, flags.contains '0', flags.contains '+', flags.contains ' ',
    flags.contains '#', w.natAbs, precision⟩, s, args)

def once : Nat → Raw → Progress → Progress
  | 0, _, p => p
  | _, [], p => p
  | n + 1, '\\' :: c :: rest, p =>
    let add (s : Raw) : Progress := { p with printed := p.printed ++ s }
    if isOctal c then
      let ds := ((c :: rest).take 3).takeWhile isOctal
      once n ((c :: rest).drop ds.length) (add [octal ds])
    else match letter? c with
      | some d => once n rest (add [d])
      | none => once n rest (add ['\\', c])
  | n + 1, '%' :: '%' :: rest, p => once n rest { p with printed := p.printed ++ ['%'] }
  | n + 1, '%' :: rest, p =>
    let (l, after, args) := layout rest p.args
    let arg := args.head?.getD []
    let directive := '%' :: rest.take (rest.length - after.length)
    let p := { p with args := args.drop 1, used := true }
    let add (s : Raw) (p : Progress) : Progress := { p with printed := p.printed ++ s }
    let noted (e : Option Fault) : Progress := (e.map p.fail).getD p
    let cut (s : Raw) : Raw := match l.precision with
      | some k => s.take k
      | none => s
    let natural (base : Nat) (front : Raw) (isUpper : Bool) : Progress :=
      let (v, e) := integer (-(UInt64.size : Int)) (UInt64.size - 1 : Nat) arg
      let v := (v % (UInt64.size : Int)).toNat
      let ds := digits base v
      let ds := if isUpper then ds.map Char.toUpper else ds
      add (number l (if l.alternate && v != 0 then front else []) ds) (noted e)
    let whole : Progress :=
      let (v, e) := signed arg
      let sign := if v < 0 then ['-'] else if l.plus then ['+'] else if l.blank then [' '] else []
      add (number l sign (digits 10 v.natAbs)) (noted e)
    match after with
    | 's' :: rest => once n rest (add (pad l (cut arg)) p)
    | 'b' :: rest =>
      let (s, ended) := unescape (arg.length + 1) arg
      let p := add (pad l (cut s)) p
      if ended then { p with ended := true } else once n rest p
    | 'c' :: rest => once n rest (add (pad l (if arg.isEmpty then ['\x00'] else arg.take 1)) p)
    | 'd' :: rest => once n rest whole
    | 'i' :: rest => once n rest whole
    | 'u' :: rest => once n rest (natural 10 [] false)
    | 'o' :: rest => once n rest (natural 8 ['0'] false)
    | 'x' :: rest => once n rest (natural 16 ['0', 'x'] false)
    | 'X' :: rest => once n rest (natural 16 ['0', 'X'] true)
    | c :: _ => p.fail (.badDirective (directive ++ [c]))
    | [] => p.fail .cutShort
  | n + 1, c :: rest, p => once n rest { p with printed := p.printed ++ [c] }

/-- Prints a format again and again. -/
def repeated (format : Raw) : Nat → Progress → Progress
  | 0, p => p
  | n + 1, p =>
    let p := once (format.length + 1) format { p with used := false }
    if p.ended || !p.used || p.args.isEmpty then p else repeated format n p

/-- What a format makes of arguments, and what went wrong. -/
def print (format : Raw) (args : List Raw) : Raw × List Fault :=
  let p := repeated format (args.length + 1) ⟨[], args, false, [], false⟩
  (p.printed, p.faults)

end BuildService.Shell.Format
