import BuildService.Text.Utf8
/-!
Percent encoding in a path.

`%` and two hexadecimal digits stand for one byte; a `%` that is not followed by
two such digits stands for itself. The bytes together have to be UTF-8.
-/

set_option autoImplicit false

namespace BuildService.Text

/-- The value of a hexadecimal digit, in either case. -/
def hexValue? (c : Char) : Option Nat :=
  if '0' ≤ c ∧ c ≤ '9' then some (c.toNat - '0'.toNat)
  else if 'a' ≤ c ∧ c ≤ 'f' then some (c.toNat - 'a'.toNat + 10)
  else if 'A' ≤ c ∧ c ≤ 'F' then some (c.toNat - 'A'.toNat + 10)
  else none

/-- The bytes that an encoded text stands for. -/
def percentBytes : List Char → List UInt8
  | [] => []
  | c :: rest =>
    if c = '%' then
      match rest with
      | a :: b :: more =>
        match hexValue? a, hexValue? b with
        | some x, some y => UInt8.ofNat (16 * x + y) :: percentBytes more
        | _, _ => String.utf8EncodeChar '%' ++ percentBytes (a :: b :: more)
      | short => String.utf8EncodeChar '%' ++ percentBytes short
    else String.utf8EncodeChar c ++ percentBytes rest

/-- The text that an encoded text stands for, unless its bytes are no UTF-8. -/
def percentDecode? (s : String) : Option String :=
  Utf8.decode? (percentBytes s.toList)

end BuildService.Text
