import BuildService.Binary64
import BuildService.Regex.Admission
/-!
Values that a filter asks of fields.

A value is a truth value, a number, or else a regular expression, and it is read
as the first of these that its text allows. Values of all kinds have one order,
by kind and then by value; numbers of different kinds are not compared with each
other by size.
-/

set_option autoImplicit false

namespace BuildService

/-- The value that a field must have. -/
inductive FieldValue where
  | truth (b : Bool)
  /-- A number with a fraction, an exponent, or beyond the whole numbers of 64 bits; without a size
  it is infinite. -/
  | real (isNegative : Bool) (size : Option Binary64)
  | notANumber
  /-- A whole number without a minus sign. -/
  | natural (n : Nat)
  /-- A whole number with a minus sign. -/
  | integer (n : Int)
  /-- An admissible regular expression for the text of the value. -/
  | pattern (text : String)
  deriving DecidableEq, Repr

namespace FieldValue

/-! ## Reading -/

/-- The value of decimal digits. -/
def digitsValue (cs : List Char) : Nat :=
  cs.foldl (fun n c => n * 10 + (c.toNat - '0'.toNat)) 0

/-- A decimal number with a fraction or an exponent, as digits and a power of ten. -/
def decimal? (cs : List Char) : Option (Nat × Int) :=
  let whole := cs.takeWhile Char.isDigit
  let rest := cs.dropWhile Char.isDigit
  let (fraction, rest) := match rest with
    | '.' :: more => (more.takeWhile Char.isDigit, more.dropWhile Char.isDigit)
    | other => ([], other)
  let exponent? : Option Int := match rest with
    | [] => some 0
    | e :: more =>
      if e = 'e' ∨ e = 'E' then
        let (isNegative, ds) := match more with
          | '-' :: ds => (true, ds)
          | '+' :: ds => (false, ds)
          | ds => (false, ds)
        if ds.isEmpty || !ds.all Char.isDigit then none
        else
          let n := digitsValue ds
          some (if isNegative then -(n : Int) else n)
      else none
  if whole.isEmpty && fraction.isEmpty then none
  else exponent?.map fun e => (digitsValue (whole ++ fraction), e - fraction.length)

/-- A whole number of 64 bits, after its sign. -/
def whole? (isNegative : Bool) (body : List Char) : Option FieldValue :=
  if body.isEmpty || !body.all Char.isDigit then none
  else
    let n := digitsValue body
    if isNegative then
      if n ≤ Nat.pow 2 63 then some (.integer (-(n : Int))) else none
    else if n < UInt64.size then some (.natural n) else none

/-- A number that need not be whole, after its sign. -/
def real? (isNegative : Bool) (body : List Char) : Option FieldValue :=
  let low := String.ofList (body.map Char.toLower)
  if low = "nan" then some .notANumber
  else if low = "inf" || low = "infinity" then some (.real isNegative none)
  else (decimal? body).map fun (digits, e) => .real isNegative (Binary64.ofDecimal? digits e)

/-- A truth value or a number. -/
def plain? (s : String) : Option FieldValue :=
  if s = "true" then some (.truth true)
  else if s = "false" then some (.truth false)
  else
    let (isNegative, body) := match s.toList with
      | '-' :: rest => (true, rest)
      | '+' :: rest => (false, rest)
      | rest => (false, rest)
    (whole? isNegative body).or (real? isNegative body)

/-- Reads a value. What is neither a truth value nor a number has to be a pattern. -/
def parse (s : String) : Except Regex.Fault FieldValue :=
  match plain? s with
  | some v => .ok v
  | none =>
    match Regex.fault? s with
    | some e => .error e
    | none => .ok (.pattern s)

/-! ## Text and order -/

def text : FieldValue → String
  | truth b => if b then "true" else "false"
  | real isNegative size =>
    (if isNegative then "-" else "") ++ (size.map (·.plainText)).getD "inf"
  | notANumber => "NaN"
  | natural n => toString n
  | integer n => toString n
  | pattern s => s

def rank : FieldValue → Nat
  | truth _ => 0
  | real _ _ => 1
  | notANumber => 2
  | natural _ => 3
  | integer _ => 4
  | pattern _ => 5

/-- The order of two sizes, where a missing one is infinite. -/
def compareSize : Option Binary64 → Option Binary64 → Ordering
  | none, none => .eq
  | none, some _ => .gt
  | some _, none => .lt
  | some x, some y => (compare x.exponent y.exponent).then (compare x.mantissa y.mantissa)

/-- The sign of a number; the two zeros are the same. -/
def signOf (isNegative : Bool) (size : Option Binary64) : Int :=
  if size = some Binary64.zero then 0 else if isNegative then -1 else 1

/-- The order of two values. -/
def order (a b : FieldValue) : Ordering :=
  match a, b with
  | truth x, truth y => compare x.toNat y.toNat
  | real n x, real m y =>
    (compare (signOf n x) (signOf m y)).then (if n then compareSize y x else compareSize x y)
  | natural x, natural y => compare x y
  | integer x, integer y => compare x y
  | pattern x, pattern y => compare x y
  | x, y => compare x.rank y.rank

end FieldValue

end BuildService
