import BuildService.Text.Blank
import BuildService.Text.LowerCase
/-!
Durations, as a configuration writes them.

A duration is a run of digits and a unit, with blanks allowed around both:
`250ms`, `3s`, `30m`, `1h`. The finest unit is the millisecond, so a duration is
a number of whole milliseconds. The number, and the product with the unit, must
fit 64 bits; a text that says more is refused, never reduced.
-/

set_option autoImplicit false

namespace BuildService

/-- A span of time in whole milliseconds. -/
structure Duration where
  millis : Nat
  deriving DecidableEq, Repr, Inhabited

namespace Duration

def ofSeconds (n : Nat) : Duration := ⟨n * 1000⟩

def seconds (d : Duration) : Nat := d.millis / 1000

/-- The nanoseconds beyond the whole seconds. -/
def nanos (d : Duration) : Nat := d.millis % 1000 * 1000000

/-- Three decimal places without zeros at the end. -/
private def places (millis : Nat) : String :=
  let ds := (toString (1000 + millis)).toList.drop 1
  String.ofList (ds.reverse.dropWhile (· == '0')).reverse

/-- A duration in the largest unit of which it holds at least one. -/
def text (d : Duration) : String :=
  if d.millis = 0 then "0ns"
  else if d.millis < 1000 then toString d.millis ++ "ms"
  else if d.millis % 1000 = 0 then toString d.seconds ++ "s"
  else toString d.seconds ++ "." ++ places (d.millis % 1000) ++ "s"

/-- The seconds with their fraction, at least one place of it. -/
def secondsText (d : Duration) : String :=
  toString d.seconds ++ "." ++
    (if d.millis % 1000 = 0 then "0" else places (d.millis % 1000))

/-! ## Reading -/

/-- The greatest number that a duration may be written with. -/
def limit : Nat := UInt64.size - 1

/-- Why a text is no duration. -/
inductive Fault where
  /-- Nothing but blanks. -/
  | empty
  /-- Digits only. -/
  | missingUnit
  /-- No digit in front of the unit. -/
  | missingNumber
  /-- The number does not fit 64 bits. -/
  | numberTooLarge (digits : String)
  /-- The unit, in lower case, is none of the four. -/
  | unknownUnit (unit : String)
  /-- The number of seconds does not fit 64 bits. -/
  | tooLarge (text : String)
  deriving DecidableEq, Repr

def Fault.message : Fault → String
  | .empty => "empty duration string"
  | .missingUnit => "duration missing unit suffix"
  | .missingNumber => "invalid duration number '': cannot parse integer from empty string"
  | .numberTooLarge ds =>
    "invalid duration number '" ++ ds ++ "': number too large to fit in target type"
  | .unknownUnit u => "unsupported duration unit '" ++ u ++ "'; expected ms, s, m, or h"
  | .tooLarge t => "duration '" ++ t ++ "' is too large"

/-- The units that are counted in seconds, and how many seconds each has. -/
def secondsPerUnit? (unit : String) : Option Nat :=
  if unit = "s" then some 1
  else if unit = "m" then some 60
  else if unit = "h" then some 3600
  else none

/-- The number that a run of ASCII digits stands for. -/
def digitsValue (ds : List Char) : Nat :=
  ds.foldl (fun n c => n * 10 + (c.toNat - '0'.toNat)) 0

/-- Reads a duration. The number is looked at before the unit, and the unit before the product. -/
def parse (s : String) : Except Fault Duration :=
  let cs := Text.trimmed s.toList
  let ds := cs.takeWhile Char.isDigit
  let rest := cs.dropWhile Char.isDigit
  if cs.isEmpty then .error .empty
  else if rest.isEmpty then .error .missingUnit
  else if ds.isEmpty then .error .missingNumber
  else if limit < digitsValue ds then .error (.numberTooLarge (String.ofList ds))
  else
    let unit := Text.lowerCase (String.ofList (Text.trimmed rest))
    if unit = "ms" then .ok ⟨digitsValue ds⟩
    else match secondsPerUnit? unit with
      | none => .error (.unknownUnit unit)
      | some n =>
        if limit < digitsValue ds * n then .error (.tooLarge (String.ofList cs))
        else .ok (ofSeconds (digitsValue ds * n))

end Duration

end BuildService
