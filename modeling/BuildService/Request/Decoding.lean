import BuildService.Request
import BuildService.Json.Expect
import BuildService.Json.Skip
/-!
A build request in JSON.

A request is an object with a member for each field, under either of the names
of the field and in any order; members that no field knows are read past. It
may also be an array that holds the values of the fields in their order. A
field given twice is refused as soon as its second name has been read, and a
field left out as soon as the object ends.
-/

set_option autoImplicit false

namespace BuildService.Request

open Json

/-- The values of the fields that have been read so far, the last one first. -/
abbrev Values := List (Field × String)

/-- The value of a field, if it has been read. -/
def Values.get? (vs : Values) (f : Field) : Option String :=
  (vs.find? (·.1 == f)).map (·.2)

/-- The request, once every field has a value; otherwise the first field that has none. -/
def Values.complete (vs : Values) : Except Json.Fault Request :=
  match Field.all.find? (fun f => (vs.get? f).isNone) with
  | some f => .error (.mismatch none ("missing field `" ++ f.name ++ "`"))
  | none => .ok (ofValues fun f => (vs.get? f).getD "")

/-- A fault in the value at a place: only values of the wrong kind are about the place. -/
def faultAt (place : String) : Json.Fault → Json.Fault
  | .mismatch none message => .mismatch (some place) message
  | other => other

/-- Reads the string that is the value at a place. -/
def valueAt (place : String) (i : Json.Input) : Reading String i.length :=
  (expectString "a string" i).mapError (faultAt place)

/-- Reads one member, from the byte after the opening quote of its name on. -/
def member (vs : Values) (i : Json.Input) : Reading Values i.length :=
  match string i with
  | .error e => .error e
  | .ok name =>
    match Field.ofMember? name.value with
    | some f =>
      -- A field that comes again is refused before its value is read.
      if (vs.get? f).isSome then
        .error (.mismatch none ("duplicate field `" ++ f.name ++ "`"))
      else
        match expectMark ':' name.rest with
        | .error e => .error e
        | .ok colon =>
          (valueAt name.value colon.rest).map fun t => ⟨(f, t.value) :: vs, t.rest, by
            have h1 := name.shorter; have h2 := colon.shorter; have h3 := t.shorter
            omega⟩
    | none =>
      match expectMark ':' name.rest with
      | .error e => .error e
      | .ok colon =>
        -- A member that nobody asks for may hold anything.
        (skipValue colon.rest).map fun t => ⟨vs, t.rest, by
          have h1 := name.shorter; have h2 := colon.shorter; have h3 := t.shorter
          omega⟩

/-- Reads the members that follow another member; gives back what stands behind the object. -/
def laterMembers (vs : Values) (i : Json.Input) : Except Json.Fault (Request × Json.Input) :=
  match hi : skipBlanks i with
  | [] => .error .cutShort
  | b :: rest =>
    if byteChar b = '}' then vs.complete.map fun r => (r, rest)
    else if byteChar b = ',' then
      match hr : skipBlanks rest with
      | [] => .error .cutShort
      | c :: more =>
        if byteChar c = '"' then
          match member vs more with
          | .error e => .error e
          | .ok t =>
            have h1 : (b :: rest).length ≤ i.length := by rw [← hi]; exact length_skipBlanks_le i
            have _h2 : (c :: more).length ≤ rest.length := by
              rw [← hr]; exact length_skipBlanks_le rest
            have _h3 := t.shorter
            laterMembers t.value t.rest
        else .error .malformed
    else .error .malformed
termination_by i.length
decreasing_by
  simp only [List.length_cons] at h1 _h2
  omega

/-- Reads the members of an object, from the byte after its bracket on. -/
def members (i : Json.Input) : Except Json.Fault (Request × Json.Input) :=
  match skipBlanks i with
  | [] => .error .cutShort
  | b :: rest =>
    if byteChar b = '}' then (Values.complete []).map fun r => (r, rest)
    else if byteChar b = '"' then
      match member [] rest with
      | .error e => .error e
      | .ok t => laterMembers t.value t.rest
    else .error .malformed

/-- What the array that stands for a request is called in a message. -/
def arrayDescription : String := "struct BuildRequest with 7 elements"

/-- The fault of an array that ends after `count` values. -/
def tooShort (count : Nat) : Json.Fault :=
  .mismatch none
    ("invalid length " ++ toString count ++ ", expected " ++ arrayDescription)

/-- Reads the values of the remaining fields from an array, `count` of which have been read. -/
def elements (count : Nat) (vs : Values) :
    List Field → Json.Input → Except Json.Fault (Request × Json.Input)
  | [], i =>
    match expectMark ']' i with
    | .error e => .error e
    | .ok t => .ok (ofValues fun f => (vs.get? f).getD "", t.rest)
  | f :: fs, i =>
    match skipBlanks i with
    | [] => .error .cutShort
    | b :: rest =>
      if byteChar b = ']' then .error (tooShort count)
      else
        let start : Except Json.Fault Json.Input :=
          if count = 0 then .ok (b :: rest)
          else if byteChar b = ',' then
            match skipBlanks rest with
            | [] => .error .cutShort
            -- No comma stands behind the last value.
            | c :: more => if byteChar c = ']' then .error .malformed else .ok (c :: more)
          else .error .malformed
        match start with
        | .error e => .error e
        | .ok j =>
          match valueAt ("[" ++ toString count ++ "]") j with
          | .error e => .error e
          | .ok t => elements (count + 1) ((f, t.value) :: vs) fs t.rest

/-- Reads a request from a whole document. -/
def ofJson (i : Json.Input) : Except Json.Fault Request :=
  match skipBlanks i with
  | [] => .error .cutShort
  | b :: rest => do
    let (r, after) ←
      if byteChar b = '[' then elements 0 [] Field.all rest
      else if byteChar b = '{' then members rest
      else .error (unexpected "struct BuildRequest" b rest)
    expectEnd after
    .ok r

end BuildService.Request
