import BuildService.Binary64
import BuildService.Text.Percent
import BuildService.Toml.Value
/-!
The values of TOML that stand without quotes and brackets: truth values,
integers, binary fractions, dates and times.
-/

set_option autoImplicit false

namespace BuildService.Toml

/-! ## Numbers -/

/-- The digits of a run in which single underscores may stand between two digits. -/
def groupedDigits? (isDigit : Char → Bool) : List Char → Option (List Char)
  | [] => none
  | [c] => if isDigit c then some [c] else none
  | c :: '_' :: rest =>
    if isDigit c then (groupedDigits? isDigit rest).map (c :: ·) else none
  | c :: rest => if isDigit c then (groupedDigits? isDigit rest).map (c :: ·) else none

def digitsValue (base : Nat) (ds : List Char) : Nat :=
  ds.foldl (fun n c => n * base + (Text.hexValue? c).getD 0) 0

def isBaseDigit (base : Nat) (c : Char) : Bool := (Text.hexValue? c).any (· < base)

/-- The digits of a decimal integer: no zero stands in front of another digit. -/
def decimalDigits? (cs : List Char) : Option (List Char) :=
  match groupedDigits? Char.isDigit cs with
  | some ('0' :: _ :: _) => none
  | other => other

/-- Integers are kept if they fit 128 bits, with or without a sign. -/
def fits (n : Int) : Bool := -(Nat.pow 2 127 : Int) ≤ n && n < (Nat.pow 2 128 : Int)

/-- An integer without its sign. -/
def unsigned? (cs : List Char) : Option Nat :=
  (decimalDigits? cs).map (digitsValue 10)

def based? (base : Nat) (cs : List Char) : Option Nat :=
  (groupedDigits? (isBaseDigit base) cs).map (digitsValue base)

/-- The sign in front, if there is one, and what follows it. -/
def splitSign : List Char → Bool × List Char
  | '-' :: rest => (true, rest)
  | '+' :: rest => (false, rest)
  | rest => (false, rest)

/-- An integer. Only decimal ones have a sign. -/
def integer? (cs : List Char) : Option Int :=
  let n? : Option Int :=
    match cs with
    | '0' :: 'x' :: ds => (based? 16 ds).map Int.ofNat
    | '0' :: 'o' :: ds => (based? 8 ds).map Int.ofNat
    | '0' :: 'b' :: ds => (based? 2 ds).map Int.ofNat
    | other =>
      let (isNegative, ds) := splitSign other
      (unsigned? ds).map fun n => if isNegative then -(n : Int) else n
  n?.filter fits

/-- A binary fraction: it has a fraction or an exponent, and is not too large. -/
def isFloat (cs : List Char) : Bool :=
  let body := (splitSign cs).2
  if body == "inf".toList || body == "nan".toList then true
  else
    let notMark (c : Char) : Bool := c != '.' && c != 'e' && c != 'E'
    let whole := body.takeWhile notMark
    let rest := body.dropWhile notMark
    let (fraction, rest) : Option (List Char) × List Char :=
      match rest with
      | '.' :: more => (some (more.takeWhile notMark), more.dropWhile notMark)
      | other => (none, other)
    let exponent : Option (List Char) :=
      match rest with
      | [] => none
      | _ :: more => some more
    -- A point calls for digits behind it, and so does the mark of an exponent.
    let places? : Option (List Char) :=
      match fraction with
      | none => some []
      | some ds => groupedDigits? Char.isDigit ds
    let exponent? : Option Int :=
      match exponent with
      | none => some 0
      | some more =>
        let (isNegative, ds) := splitSign more
        (groupedDigits? Char.isDigit ds).map fun ds =>
          if isNegative then -(digitsValue 10 ds : Int) else digitsValue 10 ds
    match decimalDigits? whole, places?, exponent? with
    | some w, some f, some e =>
      (fraction.isSome || exponent.isSome) &&
        (Binary64.ofDecimal? (digitsValue 10 (w ++ f)) (e - f.length)).isSome
    | _, _, _ => false

/-! ## Dates and times -/

/-- A number of exactly `count` digits, and what follows it. -/
def fixedDigits? (count : Nat) (cs : List Char) : Option (Nat × List Char) :=
  let ds := cs.take count
  if ds.length = count ∧ ds.all Char.isDigit then some (digitsValue 10 ds, cs.drop count) else none

def daysInMonth (year month : Nat) : Nat :=
  if month = 2 then
    if year % 4 = 0 ∧ (year % 100 ≠ 0 ∨ year % 400 = 0) then 29 else 28
  else if [4, 6, 9, 11].contains month then 30
  else 31

/-- What follows a date. -/
def afterDate? (cs : List Char) : Option (List Char) := do
  let (year, cs) ← fixedDigits? 4 cs
  let '-' :: cs := cs | none
  let (month, cs) ← fixedDigits? 2 cs
  let '-' :: cs := cs | none
  let (day, cs) ← fixedDigits? 2 cs
  if 1 ≤ month ∧ month ≤ 12 ∧ 1 ≤ day ∧ day ≤ daysInMonth year month then some cs else none

/-- What follows a time of day. The seconds may be left out, and may have a fraction. -/
def afterTime? (cs : List Char) : Option (List Char) := do
  let (hour, cs) ← fixedDigits? 2 cs
  let ':' :: cs := cs | none
  let (minute, cs) ← fixedDigits? 2 cs
  if 23 < hour ∨ 59 < minute then none
  else match cs with
    -- A minute may have one second more.
    | ':' :: more => do
      let (second, cs) ← fixedDigits? 2 more
      if 60 < second then none
      else match cs with
        | '.' :: ds =>
          if (ds.head?.map Char.isDigit).getD false then some (ds.dropWhile Char.isDigit) else none
        | other => some other
    | other => some other

/-- The distance from universal time, or nothing. -/
def isOffset (cs : List Char) : Bool :=
  match cs with
  | [] => true
  | ['Z'] | ['z'] => true
  | sign :: cs =>
    if sign = '+' ∨ sign = '-' then
      match fixedDigits? 2 cs with
      | some (hour, ':' :: cs) =>
        match fixedDigits? 2 cs with
        | some (minute, []) => decide (hour ≤ 23 ∧ minute ≤ 59)
        | _ => false
      | _ => false
    else false

/-- A date, a time, or both. -/
def isMoment (cs : List Char) : Bool :=
  match afterDate? cs with
  | some [] => true
  | some (mark :: rest) =>
    if mark = 'T' ∨ mark = 't' ∨ mark = ' ' then
      match afterTime? rest with
      | some offset => isOffset offset
      | none => false
    else false
  | none => afterTime? cs == some []

/-- A value without quotes and brackets. -/
def scalar? (cs : List Char) : Option Value :=
  if cs == "true".toList then some (.boolean true)
  else if cs == "false".toList then some (.boolean false)
  else match integer? cs with
    | some n => some (.integer n)
    | none =>
      -- Neither kind is kept, but a document with a torn one is refused.
      if isFloat cs then some .float
      else if isMoment cs then some .moment
      else none

/-- What such a value is made of. -/
def isScalarChar (c : Char) : Bool :=
  c.isAlphanum || c == '_' || c == '-' || c == '+' || c == '.' || c == ':'

/-- The text of such a value, and what follows it. One blank may stand between a date and a
time. -/
def splitScalar (i : List Char) : List Char × List Char :=
  let first := i.takeWhile isScalarChar
  let rest := i.dropWhile isScalarChar
  match rest with
  | ' ' :: d :: more =>
    if afterDate? first == some [] ∧ d.isDigit then
      let second := (d :: more).takeWhile isScalarChar
      (first ++ ' ' :: second, (d :: more).dropWhile isScalarChar)
    else (first, rest)
  | _ => (first, rest)

end BuildService.Toml
