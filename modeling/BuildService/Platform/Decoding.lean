import BuildService.Platform
import BuildService.Json.Expect
/-!
A platform in JSON: its name as a string, or as the one member of an object
whose value is `null`.
-/

set_option autoImplicit false

namespace BuildService.Platform

open Json in
/-- The platform of a name that has been read. -/
def named (s : String) : Except Json.Fault Platform :=
  match ofName? s with
  | some p => .ok p
  | none =>
    .error (.mismatch none ("unknown variant `" ++ s ++ "`, expected `android` or `ios`"))

open Json in
/-- Reads a platform from a whole document. -/
def ofJson (i : Json.Input) : Except Json.Fault Platform :=
  match skipBlanks i with
  | [] => .error .cutShort
  | b :: rest =>
    if byteChar b = '"' then do
      let t ← string rest
      let p ← named t.value
      expectEnd t.rest
      .ok p
    else if byteChar b = '{' then do
      let t ← expectString "variant identifier" rest
      let p ← named t.value
      let colon ← expectMark ':' t.rest
      let value ← expectNull colon.rest
      let closed ← expectMark '}' value.rest
      expectEnd closed.rest
      .ok p
    else .error .malformed

end BuildService.Platform
