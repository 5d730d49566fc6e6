import BuildService.Shell.Condition
import BuildService.Shell.Format
import BuildService.Shell.Machine
import BuildService.Shell.Pattern
/-!
The tools of the system that scripts call.

A tool is something that a process does: it reads and writes through its
descriptors, lets time pass, and ends with a status, unless it never ends.
-/

set_option autoImplicit false

namespace BuildService.Shell.Tools

open Act

/-- What a tool does: it ends with a status, or it does not end. -/
abbrev Tool := List Raw → Act (Option Nat)

/-- The wording of a failure, without its number. -/
def wording : IoFault → String
  | .system n => IoFault.systemText n
  | e => e.message

def fail (message : String) : Act (Option Nat) := do
  complain message
  return some 1

/-- Writes a stream as it comes. -/
def pass (tool : String) (q : Stream) : Act (Option Nat) := do
  let mut good := true
  for (t, s) in q.chunks do
    waitUntil t
    good := (← write 1 s) && good
  -- Only the full device refuses what it is given.
  if !good then fail (tool ++ ": write error: No space left on device")
  else match q.tail with
    | .closed t => do
      waitUntil t
      return some 0
    | .endless s => do
      return if ← writeEndless 1 s then some 0 else none
    | .silent => return none

/-- Complains, hints at the help of the tool, and ends. -/
def refuse (tool message : String) (status : Nat) : Act (Option Nat) := do
  complain (tool ++ ": " ++ message ++ "\nTry '" ++ tool ++ " --help' for more information.")
  return some status

/-! ## Arguments -/

/-- The arguments of a tool, divided into the letters of its options, the values of options that
have one, and the rest. -/
structure Usage where
  letters : List Char
  values : List (Char × Raw)
  operands : List Raw

inductive BadUsage where
  | letter (c : Char)
  | name (s : Raw)
  | noValue (c : Char)

def BadUsage.message : BadUsage → String
  | letter c => "invalid option -- '" ++ Raw.text [c] ++ "'"
  | name s => "unrecognized option '" ++ Raw.text s ++ "'"
  | noValue c => "option requires an argument -- '" ++ Raw.text [c] ++ "'"

/-- The letters of one argument. The first letter that has a value takes all that follows it, or
the next argument. -/
def lettersOf (plain valued : List Char) (u : Usage) (next : List Raw) :
    Raw → Except BadUsage (Usage × List Raw)
  | [] => .ok (u, next)
  | c :: cs =>
    if plain.contains c then lettersOf plain valued { u with letters := u.letters ++ [c] } next cs
    else if valued.contains c then
      match cs, next with
      | [], [] => .error (.noValue c)
      | [], v :: next => .ok ({ u with values := u.values ++ [(c, v)] }, next)
      | v, next => .ok ({ u with values := u.values ++ [(c, v)] }, next)
    else .error (.letter c)

/-- Divides arguments. Options may stand anywhere in front of two dashes. -/
def usageOf (plain valued : List Char) : Nat → Usage → List Raw → Except BadUsage Usage
  | 0, u, _ => .ok u
  | _, u, [] => .ok u
  | n + 1, u, arg :: rest =>
    match arg with
    | ['-', '-'] => .ok { u with operands := u.operands ++ rest }
    | '-' :: '-' :: _ => .error (.name arg)
    | '-' :: c :: cs =>
      match lettersOf plain valued u rest (c :: cs) with
      | .error e => .error e
      | .ok (u, rest) => usageOf plain valued n u rest
    | _ => usageOf plain valued n { u with operands := u.operands ++ [arg] } rest

/-- Goes on with the arguments of a tool, or complains about them. -/
def withUsage (tool plain valued : String) (status : Nat) (args : List Raw)
    (f : Usage → Act (Option Nat)) : Act (Option Nat) :=
  match usageOf plain.toList valued.toList (args.length + 1) ⟨[], [], []⟩ args with
  | .error e => refuse tool e.message status
  | .ok u => f u

/-! ## Files -/

/-- Where the words about a file that cannot be read stand: when it is opened and when it is
read. -/
structure Wording where
  opening : Raw → String
  reading : Raw → String

/-- Most tools only give the name. -/
def Wording.plain : Wording := ⟨Raw.text, Raw.text⟩

/-- Some tools say what they were about to do. -/
def Wording.full : Wording where
  opening a := "cannot open '" ++ Raw.text a ++ "' for reading"
  reading a := "error reading '" ++ Raw.text a ++ "'"

/-- The stream of a file that is named, or of the standard input; or the words on why there is
none. -/
def input (words : Wording) (a : Raw) : Act (Except String Stream) := do
  if a = ['-'] then
    match ← readAll 0 with
    | .ok q => return .ok q
    | .error e => return .error (words.reading a ++ ": " ++ wording e)
  else
    let d ← disk
    let p ← self
    match d.find (Raw.text a) with
    | .error e => return .error (words.opening a ++ ": " ++ wording e)
    | .ok n =>
      match nodeStream d n 0 p.now with
      | .ok q => return .ok q
      | .error e => return .error (words.reading a ++ ": " ++ wording e)

/-- Does something with each of the files that are named, or with the standard input. The tool ends
with a status of its own if one of them cannot be read. -/
def eachInput (tool : String) (words : Wording) (bad : Nat) (operands : List Raw)
    (f : Raw → Stream → Act (Option Nat)) : Act (Option Nat) := do
  let mut good := true
  for a in if operands.isEmpty then [['-']] else operands do
    match ← input words a with
    | .error e =>
      complain (tool ++ ": " ++ e)
      good := false
    | .ok q =>
      match ← f a q with
      -- Once a tool has failed or goes on for ever, the files behind are not looked at.
      | some 0 => pure ()
      | other => return other
  return some (if good then 0 else bad)

/-- A status that says whether all went well. -/
def statusOf (good : Bool) : Nat := if good then 0 else 1

/-- Goes on with all that a stream will ever give, unless it has no end. -/
def withWhole (q : Stream) (f : Raw → Act (Option Nat)) : Act (Option Nat) := do
  match q.whole? with
  | none => return none
  | some (s, t) => do
    waitUntil t
    f s

def linesOf (s : Raw) : List Raw :=
  let (lines, last) := s.foldl (fun (lines, line) c =>
    if c = '\n' then ((c :: line).reverse :: lines, []) else (lines, c :: line)) ([], [])
  (if last.isEmpty then lines else last.reverse :: lines).reverse

/-- The lines of a text with their numbers, from one on. -/
def numbered (s : Raw) : Raw :=
  (linesOf s).zipIdx.flatMap fun (line, k) =>
    let n := Raw.ofInt (k + 1 : Nat)
    List.replicate (6 - n.length) ' ' ++ n ++ '\t' :: line

def cat : Tool := fun args => withUsage "cat" "nu" "" 1 args fun u =>
  eachInput "cat" .plain 1 u.operands fun _ q =>
    if u.letters.contains 'n' then withWhole q fun s => do
      let _ ← write 1 (numbered s)
      return some 0
    else pass "cat" q

/-- How much of a file is meant: a number of lines or of bytes. -/
structure Count where
  ofBytes : Bool
  number : Nat
  /-- The sign in front of the number, which turns the meaning around. -/
  sign : Option Char

/-- The units of a number of bytes or lines. -/
def units : List (String × Nat) := [
  ("", 1), ("b", 512), ("kB", 1000), ("k", 1024), ("K", 1024), ("KB", 1000), ("MB", 1000000),
  ("M", 1048576), ("GB", 1000000000), ("G", 1073741824)]

def Count.ofText? (ofBytes : Bool) (s : Raw) : Option Count :=
  let (sign, s) : Option Char × Raw := match s with
    | '-' :: rest => (some '-', rest)
    | '+' :: rest => (some '+', rest)
    | rest => (none, rest)
  let ds := s.takeWhile Char.isDigit
  if ds.isEmpty then none
  else (units.lookup (Raw.text (s.drop ds.length))).map fun unit =>
    ⟨ofBytes, Format.decimal ds * unit, sign⟩

/-- Goes on with the count that the options of a tool give; of several the last one counts. A
number right behind a dash means lines. -/
def withCount (tool : String) (args : List Raw) (f : Count → List Raw → Act (Option Nat)) :
    Act (Option Nat) :=
  let args := match args with
    | ('-' :: c :: cs) :: rest => if c.isDigit then ['-', 'n'] :: (c :: cs) :: rest else args
    | _ => args
  withUsage tool "" "cn" 1 args fun u =>
    match u.values.getLast? with
    | none => f ⟨false, 10, none⟩ u.operands
    | some (c, s) =>
      match Count.ofText? (c == 'c') s with
      | some count => f count u.operands
      | none => fail (tool ++ ": invalid number of " ++ (if c = 'c' then "bytes" else "lines") ++
          ": '" ++ Raw.text s ++ "'")

/-- Does something with each of several files, each under a heading of its own. -/
def eachHeaded (tool : String) (operands : List Raw) (f : Stream → Act (Option Nat)) :
    Act (Option Nat) :=
  eachInput tool .full 1 operands fun a q => do
    if 1 < operands.length then
      let _ ← write 1 ((if operands.head? = some a then [] else ['\n']) ++
        "==> ".toList ++ a ++ " <==\n".toList)
    f q

/-- The first lines of a stream, and how it goes on behind them. -/
def firstLines : Nat → Stream → List (Nat × Raw) × Tail
  | 0, _ => ([], .closed 0)
  | n + 1, q =>
    match q.takeLine? with
    -- The next line never comes to its end, but what there is of it is given out.
    | none => (q.chunks, .silent)
    | some (line, ended, t, rest) =>
      if ended then
        let (more, tail) := firstLines n rest
        ((t, line ++ ['\n']) :: more, tail)
      else ((if line.isEmpty then [] else [(t, line)]), .closed t)

def head : Tool := fun args => withCount "head" args fun count operands =>
  eachHeaded "head" operands fun q =>
    if count.sign = some '-' then withWhole q fun s => do
      let lines := linesOf s
      let _ ← write 1 (if count.ofBytes then s.take (s.length - count.number)
        else (lines.take (lines.length - count.number)).flatten)
      return some 0
    else
      let (chunks, tail) := if count.ofBytes then q.takeBytes count.number
        else firstLines count.number q
      pass "head" ⟨chunks, tail⟩

def tail : Tool := fun args => withCount "tail" args fun count operands =>
  eachHeaded "tail" operands fun q => withWhole q fun s => do
    let part (n : Nat) : Nat :=
      -- With a plus sign the number is that of a line, counted from one on.
      if count.sign = some '+' then count.number - 1 else n - count.number
    let lines := linesOf s
    let _ ← write 1 (if count.ofBytes then s.drop (part s.length)
      else (lines.drop (part lines.length)).flatten)
    return some 0

/-- The characters that a set of `tr` stands for. -/
def setOf : Nat → Raw → Raw
  | 0, _ => []
  | _, [] => []
  | n + 1, s =>
    let range (a b : Char) : Raw :=
      (List.range (b.toNat + 1 - a.toNat)).map fun k => Char.ofNat (a.toNat + k)
    let classes : List (String × Raw) := [
      ("[:upper:]", range 'A' 'Z'), ("[:lower:]", range 'a' 'z'), ("[:digit:]", range '0' '9'),
      ("[:alpha:]", range 'A' 'Z' ++ range 'a' 'z'),
      ("[:alnum:]", range '0' '9' ++ range 'A' 'Z' ++ range 'a' 'z'),
      ("[:space:]", range '\t' '\r' ++ [' ']), ("[:blank:]", ['\t', ' '])]
    match classes.find? fun (w, _) => w.toList.isPrefixOf s with
    | some (w, cs) => cs ++ setOf n (s.drop w.length)
    | none =>
      let (c, rest) := match s with
        | '\\' :: d :: rest =>
          if Format.isOctal d then
            let ds := ((d :: rest).take 3).takeWhile Format.isOctal
            (Format.octal ds, (d :: rest).drop ds.length)
          else ((Format.letter? d).getD d, rest)
        | d :: rest => (d, rest)
        | [] => (' ', [])
      match rest with
      | '-' :: d :: rest => range c d ++ setOf n rest
      | rest => c :: setOf n rest

def tr : Tool := fun args => withUsage "tr" "cCds" "" 1 args fun u => do
  let set (k : Nat) : Raw := let s := u.operands[k]?.getD []; setOf (s.length + 1) s
  let (a, b) := (set 0, set 1)
  let isDeleting := u.letters.contains 'd'
  let isSqueezing := u.letters.contains 's'
  let isComplement := u.letters.contains 'c' || u.letters.contains 'C'
  let isChanging := !isDeleting && u.operands.length = 2
  let inFirst (c : Char) : Bool := a.contains c != isComplement
  let change (c : Char) : Char :=
    if !inFirst c then c
    else if isComplement then b.getLast?.getD c
    -- The last character of the second set stands for all that it is too short for.
    else (b[a.idxOf c]?).getD (b.getLast?.getD c)
  let isSqueezed (c : Char) : Bool :=
    -- What is squeezed is what has come out, so the second set counts if there is one.
    if u.operands.length = 1 then inFirst c else b.contains c
  let squeeze (s : Raw) : Raw :=
    (s.foldl (fun acc c => if acc.head? = some c && isSqueezed c then acc else c :: acc)
      []).reverse
  let f (s : Raw) : Raw :=
    let s := if isDeleting then s.filter (!inFirst ·) else if isChanging then s.map change else s
    if isSqueezing then squeeze s else s
  match u.operands with
  | [] => refuse "tr" "missing operand" 1
  | [one] =>
    if isDeleting == isSqueezing then
      refuse "tr" ("missing operand after '" ++ Raw.text one ++
        "'\nTwo strings must be given when " ++
        (if isDeleting then "both deleting and squeezing repeats." else "translating.")) 1
    else run f
  | _ => run f
where
  /-- Gives out what becomes of the standard input. -/
  run (f : Raw → Raw) : Act (Option Nat) := do
    match ← readAll 0 with
    | .error e => fail ("tr: read error: " ++ wording e)
    | .ok q =>
      let tail : Tail := match q.tail with
        | .endless s => .endless (f s)
        | other => other
      pass "tr" ⟨q.chunks.map fun (t, s) => (t, f s), tail⟩

/-- Whether a path leads to a file, so that its size is known beforehand. -/
def hasSize (a : Raw) : Act Bool := do
  if a = ['-'] then
    match ← channel? 0 with
    | some (.file k) => do
      let w := (← get).world
      return match (w.files[k]?).bind fun f => w.disk.node? f.node with
        | some (.file _ _) => true
        | _ => false
    | _ => return false
  else return (← disk).isFile (Raw.text a)

/-- The counts of `wc`: lines, words and bytes, as far as they are asked for. -/
def counts (letters : List Char) (s : Raw) : List Nat :=
  let words := (s.splitOnP Char.isWhitespace).filter (!·.isEmpty)
  ([('l', s.count '\n'), ('w', words.length), ('c', s.length)].filter fun (c, _) =>
    letters.isEmpty || letters.contains c || (c == 'c' && letters.contains 'm')).map (·.2)

/-- Counts lines, words or bytes. The numbers are as wide as the size of all files, and wide
where a size is not known beforehand. -/
def wc : Tool := fun args => withUsage "wc" "clmw" "" 1 args fun u => do
  let operands := if u.operands.isEmpty then [['-']] else u.operands
  let mut rows : Array (List Nat × Raw) := #[]
  let mut good := true
  let mut size := 0
  let mut isSized := true
  for a in operands do
    match ← input .plain a with
    | .error e =>
      complain ("wc: " ++ e)
      good := false
    | .ok q =>
      isSized := (← hasSize a) && isSized
      match q.whole? with
      | none => return none
      | some (s, t) =>
        waitUntil t
        size := size + s.length
        rows := rows.push (counts u.letters s, if u.operands.isEmpty then [] else ' ' :: a)
  let total := rows.foldl (fun sum (ns, _) =>
    if sum.isEmpty then ns else (sum.zip ns).map fun (a, b) => a + b) []
  if 1 < operands.length then rows := rows.push (total, " total".toList)
  let width := if rows.all fun (ns, _) => ns.length ≤ 1 && operands.length ≤ 1 then 1
    else if isSized then (toString size).length else 7
  for (ns, name) in rows do
    let texts := ns.map fun n =>
      let t := (toString n).toList
      List.replicate (width - t.length) ' ' ++ t
    let _ ← write 1 ([' '].intercalate texts ++ name ++ ['\n'])
  return some (statusOf good)

/-- A decimal number, as a number of units of a last place and how many places there are. -/
def decimal? (s : Raw) : Option (Int × Nat) :=
  let (isNegative, s) : Bool × Raw := match s with
    | '-' :: rest => (true, rest)
    | '+' :: rest => (false, rest)
    | rest => (false, rest)
  let whole := s.takeWhile Char.isDigit
  let places := (s.drop (whole.length + 1)).takeWhile Char.isDigit
  let isGood := s.length = whole.length + (if places.isEmpty then 0 else places.length + 1) &&
    !whole.isEmpty && (places.isEmpty || s[whole.length]? = some '.')
  let n : Int := (Format.decimal (whole ++ places) : Nat)
  if isGood then some (if isNegative then -n else n, places.length) else none

def seq : Tool := fun args => do
  let (separator, args) : Raw × List Raw := match args with
    | ['-', 's'] :: s :: rest => (s, rest)
    | ('-' :: 's' :: s) :: rest => (s, rest)
    | rest => (['\n'], rest)
  match args.find? fun a => (decimal? a).isNone with
  | some a => refuse "seq" ("invalid floating point argument: '" ++ Raw.text a ++ "'") 1
  | none =>
    let range? : Option (Raw × Raw × Raw) := match args with
      | [last] => some (['1'], ['1'], last)
      | [first, last] => some (first, ['1'], last)
      | [first, step, last] => some (first, step, last)
      | _ => none
    match range? with
    | none => match args[3]? with
      | some a => refuse "seq" ("extra operand '" ++ Raw.text a ++ "'") 1
      | none => refuse "seq" "missing operand" 1
    | some (first, step, last) =>
      let parts := [first, step, last].map fun a => (decimal? a).getD (0, 0)
      let places := (parts.map (·.2)).foldl max 0
      -- All three in units of the last place that any of them has.
      let scaled := parts.map fun (n, k) => n * (Nat.pow 10 (places - k) : Int)
      let shown := max ((decimal? first).getD (0, 0)).2 ((decimal? step).getD (0, 0)).2
      let text (n : Int) : Raw :=
        let ds := (toString n.natAbs).toList
        let ds := List.replicate (places + 1 - ds.length) '0' ++ ds
        let whole := ds.take (ds.length - places)
        let rest := (ds.drop (ds.length - places)).take shown
        (if n < 0 then ['-'] else []) ++ whole ++ (if shown = 0 then [] else '.' :: rest)
      match scaled with
      | [a, b, c] =>
        if b = 0 then refuse "seq" ("invalid Zero increment value: '" ++ Raw.text step ++ "'") 1
        else do
          let count := (Int.fdiv (c - a) b + 1).toNat
          let numbers := (List.range count).map fun (k : Nat) => text (a + b * (k : Int))
          let _ ← write 1 (separator.intercalate numbers ++ if count = 0 then [] else ['\n'])
          return some 0
      | _ => return some 0

/-- The milliseconds of an interval, with a fraction and a unit. -/
def interval? (s : Raw) : Option Nat :=
  let whole := s.takeWhile Char.isDigit
  let rest := s.drop whole.length
  let (places, rest) := match rest with
    | '.' :: rest => (rest.takeWhile Char.isDigit, rest.dropWhile Char.isDigit)
    | rest => ([], rest)
  let unit : Option Nat := match rest with
    | [] => some 1
    | ['s'] => some 1
    | ['m'] => some 60
    | ['h'] => some 3600
    | ['d'] => some 86400
    | _ => none
  if whole.isEmpty && places.isEmpty then none
  else
    let value (ds : Raw) : Nat := ds.foldl (fun n c => n * 10 + (c.toNat - '0'.toNat)) 0
    unit.map fun u => value (whole ++ places) * u * 1000 / Nat.pow 10 places.length

def sleep : Tool := fun args => do
  if args.isEmpty then refuse "sleep" "missing operand" 1
  else if args.any fun a => a = "infinity".toList || a = "inf".toList then return none
  else
    match args.filter fun a => (interval? a).isNone with
    | [] => do
      let p ← self
      waitUntil (p.now + (args.filterMap interval?).foldl (· + ·) 0)
      return some 0
    | bad =>
      let texts := bad.map fun a => "invalid time interval '" ++ Raw.text a ++ "'"
      refuse "sleep" ("\nsleep: ".intercalate texts) 1

/-- The variables that are handed on, with their values. -/
def environment (p : Process) : List (Raw × Raw) :=
  (p.bindings.filter fun (name, _) => p.exported.contains name).reverse

def printenv : Tool := fun args => do
  let vs := environment (← self)
  if args.isEmpty then
    let _ ← write 1 (vs.flatMap fun (name, value) => name ++ '=' :: value ++ ['\n'])
    return some 0
  else
    let found := args.filterMap fun a => vs.lookup a
    let _ ← write 1 (found.flatMap (· ++ ['\n']))
    return some (statusOf (found.length = args.length))

/-- Does something to each of some paths; a complaint for each that fails. -/
def eachPath (tool what : String) (paths : List Raw)
    (f : Disk → String → Except IoFault Disk) : Act (Option Nat) := do
  let mut good := true
  for a in paths do
    match f (← disk) (Raw.text a) with
    | .ok d => setDisk d
    | .error e =>
      complain (tool ++ ": " ++ what ++ " '" ++ Raw.text a ++ "': " ++ wording e)
      good := false
  return some (statusOf good)

def touch : Tool := fun args => withUsage "touch" "acm" "" 1 args fun u =>
  if u.operands.isEmpty then refuse "touch" "missing file operand" 1
  else eachPath "touch" "cannot touch" u.operands fun d path =>
    match d.find path with
    | .ok _ => .ok d
    | .error _ => if u.letters.contains 'c' then .ok d else (d.create path).map (·.2)

def mkdir : Tool := fun args => withUsage "mkdir" "p" "" 1 args fun u =>
  if u.operands.isEmpty then refuse "mkdir" "missing operand" 1
  else eachPath "mkdir" "cannot create directory" u.operands fun d path =>
    if u.letters.contains 'p' then d.makeDirs path else d.makeDir path

def rm : Tool := fun args => withUsage "rm" "frR" "" 1 args fun u =>
  let isForced := u.letters.contains 'f'
  let isDeep := u.letters.contains 'r' || u.letters.contains 'R'
  if u.operands.isEmpty && !isForced then refuse "rm" "missing operand" 1
  else eachPath "rm" "cannot remove" u.operands fun d path =>
    match d.remove isDeep path with
    | .ok d => .ok d
    -- To remove what is not there is no failure if it is forced.
    | .error e => if isForced && e = .notFound then .ok d else .error e

def yes : Tool := fun args => do
  let line := (if args.isEmpty then ['y'] else [' '].intercalate args) ++ ['\n']
  return if ← writeEndless 1 line then some 0 else none

/-- The number at the front of a line, in units of its last place, and how many places there
are. -/
def lineNumber (s : Raw) : Int × Nat :=
  let s := s.dropWhile fun c => c == ' ' || c == '\t'
  let (isNegative, s) : Bool × Raw := match s with
    | '-' :: rest => (true, rest)
    | rest => (false, rest)
  let whole := s.takeWhile Char.isDigit
  let places := match s.drop whole.length with
    | '.' :: rest => rest.takeWhile Char.isDigit
    | _ => []
  let n : Int := (Format.decimal (whole ++ places) : Nat)
  (if isNegative then -n else n, places.length)

/-- The order of lines by their numbers, as the sign of a number. -/
def compareNumbers (a b : Raw) : Int :=
  let (x, i) := lineNumber a
  let (y, j) := lineNumber b
  x * (Nat.pow 10 j : Int) - y * (Nat.pow 10 i : Int)

def sort : Tool := fun args => withUsage "sort" "nru" "" 2 args fun u => do
  let words : Wording := ⟨fun a => "cannot read: " ++ Raw.text a, fun a => "read failed: " ++
    Raw.text a⟩
  let mut lines : List Raw := []
  for a in if u.operands.isEmpty then [['-']] else u.operands do
    match ← input words a with
    | .error e =>
      complain ("sort: " ++ e)
      return some 2
    | .ok q =>
      match q.whole? with
      | none => return none
      | some (s, t) =>
        waitUntil t
        lines := lines ++ (linesOf s).map fun l => if l.getLast? = some '\n' then l.dropLast else l
  let isNumeric := u.letters.contains 'n'
  let isReversed := u.letters.contains 'r'
  let isUnique := u.letters.contains 'u'
  let bytes (a b : Raw) : Bool := String.ofList a ≤ String.ofList b
  let inOrder (a b : Raw) : Bool :=
    let (a, b) := if isReversed then (b, a) else (a, b)
    if isNumeric then
      let c := compareNumbers a b
      -- Lines with one number are put in the order of their texts, unless only one of them stays.
      c < 0 || (c = 0 && (isUnique || bytes a b))
    else bytes a b
  let isSame (a b : Raw) : Bool := if isNumeric then compareNumbers a b = 0 else a == b
  let sorted := lines.mergeSort inOrder
  let kept := if isUnique then
      (sorted.foldl (fun acc l => if acc.head?.any (isSame · l) then acc else l :: acc) []).reverse
    else sorted
  let _ ← write 1 (kept.flatMap (· ++ ['\n']))
  return some 0

/-- The names in a directory, in order. -/
def namesIn (letters : List Char) (entries : List (String × NodeId)) : List Raw :=
  let names := entries.map fun e => Raw.ofText e.1
  let names := if letters.contains 'a' then ['.'] :: ['.', '.'] :: names else names
  let isShown (s : Raw) : Bool :=
    letters.contains 'a' || letters.contains 'A' || s.head? != some '.'
  (names.filter isShown).mergeSort fun a b => String.ofList a ≤ String.ofList b

def ls : Tool := fun args => withUsage "ls" "1aAd" "" 2 args fun u => do
  let d ← disk
  let operands := if u.operands.isEmpty then [['.']]
    else u.operands.mergeSort fun a b => String.ofList a ≤ String.ofList b
  let mut good := true
  let mut files : List Raw := []
  let mut directories : List (Raw × List Raw) := []
  for a in operands do
    match d.find (Raw.text a) with
    | .error e =>
      complain ("ls: cannot access '" ++ Raw.text a ++ "': " ++ wording e)
      good := false
    | .ok n =>
      match d.node? n with
      | some (.directory _ entries) =>
        if u.letters.contains 'd' then files := files ++ [a]
        else directories := directories ++ [(a, namesIn u.letters entries)]
      | _ => files := files ++ [a]
  let _ ← write 1 (files.flatMap (· ++ ['\n']))
  let mut isFirst := files.isEmpty
  for (a, names) in directories do
    if 1 < operands.length then
      let _ ← write 1 ((if isFirst then [] else ['\n']) ++ a ++ ":\n".toList)
    isFirst := false
    let _ ← write 1 (names.flatMap (· ++ ['\n']))
  return some (if good then 0 else 2)

/-- Prints a format. `name` is what a complaint begins with. -/
def printf (name : String) : Tool := fun args => do
  match if args.head? = some ['-', '-'] then args.drop 1 else args with
  | [] => do
    complain (name ++ ": usage: printf format [arg ...]")
    return some 2
  | format :: args => do
    let (s, faults) := Format.print format args
    for e in faults do complain (name ++ ": " ++ e.message)
    let good ← write 1 s
    if !good then complain (name ++ ": printf: I/O error")
    return some (if faults.any (·.isFatal) then 2 else statusOf (good && faults.isEmpty))

def echo (name : String) (escapes : Bool) : Tool := fun args => do
  if ← write 1 (Format.echo escapes args) then return some 0
  else fail (name ++ ": echo: I/O error")

def test (name : String) (needsBracket : Bool) : Tool := fun args => do
  let d ← disk
  let decided : Except Condition.Fault Bool :=
    if needsBracket then
      if args.getLast? = some [']'] then Condition.holds d args.dropLast
      else .error .missingBracket
    else Condition.holds d args
  match decided with
  | .ok b => return some (statusOf b)
  | .error e => do
    complain (name ++ ": " ++ e.message)
    return some 2

/-- The tools by their names. -/
def find? (name : String) : Option Tool :=
  match name with
  | "cat" => some cat
  | "echo" => some (echo "echo" false)
  | "false" => some fun _ => return some 1
  | "head" => some head
  | "ls" => some ls
  | "mkdir" => some mkdir
  | "printenv" => some printenv
  | "printf" => some (printf "printf")
  | "rm" => some rm
  | "seq" => some seq
  | "sleep" => some sleep
  | "sort" => some sort
  | "tail" => some tail
  | "test" => some (test "test" false)
  | "touch" => some touch
  | "tr" => some tr
  | "true" => some fun _ => return some 0
  | "wc" => some wc
  | "yes" => some yes
  | _ => none

end BuildService.Shell.Tools
