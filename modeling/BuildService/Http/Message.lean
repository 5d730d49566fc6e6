import BuildService.Http.MediaType
/-!
Requests and responses as a service sees them.

Of a request the method, the target, one header and the body count. A response
is a status, a media type if it has a body, and the methods that are allowed if
it refuses a method.
-/

set_option autoImplicit false

namespace BuildService.Http

structure Message where
  method : String
  target : Target
  /-- The header that says what the body is. -/
  contentType : Option String
  body : List UInt8

/-- The bytes of a header's value: no control character but the tab. -/
def isHeaderValue (s : String) : Bool :=
  s.toList.all fun c => (' ' ≤ c && c != '\x7f') || c == '\t'

/-- Puts a request together, unless its method, its target or its header is no such thing. -/
def Message.of? (method target : String) (contentType : Option String) (body : List UInt8) :
    Option Message :=
  match Target.parse? target with
  | none => none
  | some t =>
    if isMethod method && contentType.all isHeaderValue then some ⟨method, t, contentType, body⟩
    else none

/-- Whether a request says of its body that it is JSON. -/
def Message.isJson (m : Message) : Bool :=
  match m.contentType.bind MediaType.parse? with
  | some t => t.isJson
  | none => false

/-- What a response carries. -/
inductive Body where
  | none
  | text (s : String)
  /-- An object with one member. -/
  | member (name value : String)
  deriving DecidableEq, Repr

structure Response where
  status : Nat
  body : Body
  /-- The methods that would have been accepted. -/
  allow : Option String
  /-- Whether the body is announced and not sent. -/
  headOnly : Bool
  deriving DecidableEq, Repr

namespace Response

/-- A response that carries an object with one member. -/
def object (status : Nat) (name value : String) : Response :=
  ⟨status, .member name value, none, false⟩

def plain (status : Nat) (s : String) : Response := ⟨status, .text s, none, false⟩

def bare (status : Nat) : Response := ⟨status, .none, none, false⟩

def contentType (r : Response) : Option String :=
  match r.body with
  | .none => none
  | .text _ => some "text/plain; charset=utf-8"
  | .member _ _ => some "application/json"

end Response

end BuildService.Http
