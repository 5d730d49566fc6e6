/-!
The values of a TOML document, and the rules for putting tables together.

A table is written in pieces: under its header, by dotted keys, in braces, or on
the way to a table with a longer header. Which pieces may meet depends on how
the table came to be, so a table remembers its origin. No two pieces may give
one key twice.
-/

set_option autoImplicit false

namespace BuildService.Toml

/-- How a table came to be. -/
inductive Origin where
  /-- It has a header of its own. -/
  | header
  /-- It lies on the way to the table of a longer header. -/
  | path
  /-- It was made by a dotted key. -/
  | dotted
  /-- It was written in braces, and nothing can be added to it. -/
  | braces
  deriving DecidableEq, Repr

/-- A value. Binary fractions, dates and times are recognised and not kept, since no setting is
one. -/
inductive Value where
  | string (s : String)
  | integer (n : Int)
  | boolean (b : Bool)
  | float
  | moment
  | array (elements : List Value)
  | tables (elements : List Value)
  | table (origin : Origin) (entries : List (String × Value))
  deriving Repr, Inhabited

abbrev Entries := List (String × Value)

namespace Entries

def get? (es : Entries) (key : String) : Option Value := (es.find? (·.1 == key)).map (·.2)

/-- Gives a key a value, in its old place if it has one. -/
def put (key : String) (v : Value) : Entries → Entries
  | [] => [(key, v)]
  | e :: es => if e.1 == key then (key, v) :: es else e :: put key v es

/-- Adds a value at the end of a way of keys. The tables on the way are made if they are missing.
`origin` is what such a table comes from, and `passes` says through which existing tables the way
may lead; of an array of tables it leads into the last one. -/
def enter (origin : Origin) (passes : Origin → Bool) (change : Origin → Entries → Option Entries) :
    List String → Origin → Entries → Option Entries
  | [], own, es => change own es
  | key :: keys, _, es =>
    match es.get? key with
    | none =>
      (enter origin passes change keys origin []).map fun inner =>
        es.put key (.table origin inner)
    | some (.table o inner) =>
      if passes o then
        (enter origin passes change keys o inner).map fun inner => es.put key (.table o inner)
      else none
    -- A header leads into the last table of an array.
    | some (.tables ts) =>
      match ts.reverse with
      | .table o inner :: before =>
        (enter origin passes change keys o inner).map fun inner =>
          es.put key (.tables (.table o inner :: before).reverse)
      | _ => none
    | some _ => none

/-- The way to a table that a header names: it passes through every table that is not closed. -/
def alongHeader (change : Origin → Entries → Option Entries) (keys : List String) (es : Entries) :
    Option Entries :=
  enter .path (· != .braces) change keys .header es

/-- Adds `key = value` where the key is dotted: it passes only through tables without a header,
and what it adds to must have come from dotted keys as well. -/
def addKey (way : List String) (key : String) (v : Value) (es : Entries) : Option Entries :=
  enter .dotted (fun o => o != .braces && o != .header)
    (fun own es =>
      -- The current table may be of any origin, but a table at the end of a way must be dotted.
      if !way.isEmpty && own != .dotted then none
      else if (es.get? key).isSome then none
      else some (es.put key v))
    way .header es

/-- Opens the table that a header names. It may exist only because of a longer header. -/
def openTable (way : List String) (key : String) (es : Entries) : Option Entries :=
  alongHeader (fun _ es =>
    match es.get? key with
    | none => some (es.put key (.table .header []))
    | some (.table .path inner) => some (es.put key (.table .header inner))
    | some _ => none) way es

/-- Opens a further table in the array of tables that a header names. -/
def openArrayTable (way : List String) (key : String) (es : Entries) : Option Entries :=
  alongHeader (fun _ es =>
    match es.get? key with
    | none => some (es.put key (.tables [.table .header []]))
    | some (.tables ts) => some (es.put key (.tables (ts ++ [.table .header []])))
    | some _ => none) way es

end Entries

end BuildService.Toml
