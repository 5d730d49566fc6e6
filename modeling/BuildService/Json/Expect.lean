import BuildService.Json.Token
import BuildService.Json.Skip
import BuildService.Text.Quoted
/-!
Reading a JSON value of one kind, and saying what stood there instead.

A value of the wrong kind is only looked at as far as its kind calls for: a
literal, a number or a string is read to its end, since it may be malformed
after all, while an opening bracket is enough to tell an array or an object.
-/

set_option autoImplicit false

namespace BuildService.Json

/-- The fault of a value that is not the one called for. -/
def wrongKind (found expected : String) : Fault :=
  .mismatch none ("invalid type: " ++ found ++ ", expected " ++ expected)

/-- What is wrong with the value that begins with the byte `b`, where another kind is called
for. -/
def unexpected (expected : String) (b : UInt8) (rest : Input) : Fault :=
  let word (cs : List Char) (found : String) : Fault :=
    match literal cs rest with
    | .error e => e
    | .ok _ => wrongKind found expected
  let numeral (isNegative : Bool) (i : Input) : Fault :=
    match number .cutShort i with
    | .error e => e
    | .ok t =>
      match t.value.value? isNegative with
      | none => .malformed
      | some n => wrongKind n.describe expected
  if byteChar b = 'n' then word ['u', 'l', 'l'] "null"
  else if byteChar b = 't' then word ['r', 'u', 'e'] "boolean `true`"
  else if byteChar b = 'f' then word ['a', 'l', 's', 'e'] "boolean `false`"
  else if byteChar b = '-' then numeral true rest
  else if isDigit b then numeral false (b :: rest)
  else if byteChar b = '"' then
    match string rest with
    | .error e => e
    | .ok t => wrongKind ("string " ++ Text.quoted t.value) expected
  else if byteChar b = '[' then wrongKind "sequence" expected
  else if byteChar b = '{' then wrongKind "map" expected
  else .malformed

/-- A string, where `expected` names what it is to be. -/
def expectString (expected : String) (i : Input) : Reading String i.length :=
  match hi : skipBlanks i with
  | [] => .error .cutShort
  | b :: rest =>
    if byteChar b = '"' then
      (string rest).map fun t => t.widen (length_le_of_skipBlanks_eq_cons hi)
    else .error (unexpected expected b rest)

/-- The literal `null`, where nothing else may stand. -/
def expectNull (i : Input) : Reading Unit i.length :=
  match hi : skipBlanks i with
  | [] => .error .cutShort
  | b :: rest =>
    if byteChar b = 'n' then
      (literal ['u', 'l', 'l'] rest).map fun r =>
        ⟨(), r.1, Nat.lt_of_le_of_lt r.2 (length_lt_of_skipBlanks_eq_cons hi)⟩
    else .error (unexpected "unit" b rest)

/-- One byte after blanks, which has to be a given character. -/
def expectMark (c : Char) (i : Input) : Reading Unit i.length :=
  match hi : skipBlanks i with
  | [] => .error .cutShort
  | b :: rest =>
    if byteChar b = c then .ok ⟨(), rest, length_lt_of_skipBlanks_eq_cons hi⟩
    else .error .malformed

/-- Nothing but blanks follows. -/
def expectEnd (i : Input) : Except Fault Unit :=
  if (skipBlanks i).isEmpty then .ok () else .error .malformed

end BuildService.Json
