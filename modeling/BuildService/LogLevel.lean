/-!
How much is reported.

A level is both the weight of one event and the least weight that a filter lets
through; `off` lets nothing through.
-/

set_option autoImplicit false

namespace BuildService

/-- The levels, from the quietest filter to the loudest one. -/
inductive LogLevel where
  | off
  | error
  | warn
  | info
  | debug
  | trace
  deriving DecidableEq, Repr

namespace LogLevel

/-- All levels, each at the place of its number. -/
def all : List LogLevel := [.off, .error, .warn, .info, .debug, .trace]

def rank : LogLevel → Nat
  | .off => 0
  | .error => 1
  | .warn => 2
  | .info => 3
  | .debug => 4
  | .trace => 5

/-- The name of a level in a filter. -/
def name : LogLevel → String
  | .off => "off"
  | .error => "error"
  | .warn => "warn"
  | .info => "info"
  | .debug => "debug"
  | .trace => "trace"

/-- The name of a level in front of an event. -/
def label : LogLevel → String
  | .off => "OFF"
  | .error => "ERROR"
  | .warn => "WARN"
  | .info => "INFO"
  | .debug => "DEBUG"
  | .trace => "TRACE"

/-- A natural number in decimal, with an optional plus sign and zeros in front. -/
def number? (s : String) : Option Nat :=
  let ds := match s.toList with
    | '+' :: rest => rest
    | other => other
  if ds.isEmpty || !ds.all Char.isDigit then none
  else some (ds.foldl (fun n c => n * 10 + (c.toNat - '0'.toNat)) 0)

/-- The level of a name, in any letter case, or of a number. -/
def ofText? (s : String) : Option LogLevel :=
  match (number? s).bind (all[·]?) with
  | some l => some l
  | none =>
    let low := String.ofList (s.toList.map Char.toLower)
    all.find? (·.name == low)

/-- A filter at this level lets an event of that level through. -/
def admits (filter event : LogLevel) : Bool := event.rank ≤ filter.rank

end LogLevel

end BuildService
