import BuildService.Fault
import BuildService.Text.Blank
/-!
Build requests, and the allow-list that every field has to pass.

The values of a request end up in the environment of the build tool, and the
project id in a file name. So anything outside the expected shape is refused
before a job exists. The fields are looked at in a fixed order and the first
one that fails is named.
-/

set_option autoImplicit false

namespace BuildService

/-- What a client asks to be built. -/
structure Request where
  url : String
  appEnv : String
  projectToken : String
  projectId : String
  styleUrl : String
  appName : String
  packageName : String
  deriving DecidableEq, Repr, Inhabited

namespace Request

/-- The value of a field. -/
def get (r : Request) : Field → String
  | .url => r.url
  | .appEnv => r.appEnv
  | .projectToken => r.projectToken
  | .projectId => r.projectId
  | .styleUrl => r.styleUrl
  | .appName => r.appName
  | .packageName => r.packageName

/-- The request that has the values of a function. -/
def ofValues (value : Field → String) : Request where
  url := value .url
  appEnv := value .appEnv
  projectToken := value .projectToken
  projectId := value .projectId
  styleUrl := value .styleUrl
  appName := value .appName
  packageName := value .packageName

@[simp] theorem get_ofValues (value : Field → String) (f : Field) :
    (ofValues value).get f = value f := by cases f <;> rfl

@[simp] theorem ofValues_get (r : Request) : ofValues r.get = r := rfl

/-! ## The shapes -/

/-- ASCII letters and digits. -/
def isAlphanumeric (c : Char) : Bool := c.isAlphanum

/-- What a name is made of: letters, digits, `.`, `_` and `-`. -/
def isNameChar (c : Char) : Bool := isAlphanumeric c || c == '.' || c == '_' || c == '-'

/-- What a token is made of: characters that need no escape in an address. -/
def isTokenChar (c : Char) : Bool :=
  isAlphanumeric c || ['.', '_', '~', '+', '/', '=', ':', '-'].contains c

/-- What a segment of a package name is made of after its first letter. -/
def isWordChar (c : Char) : Bool := isAlphanumeric c || c == '_'

/-- A project id: up to 128 name characters, the first a letter or a digit. -/
def isProjectId (s : String) : Bool :=
  match s.toList with
  | [] => false
  | c :: cs => isAlphanumeric c && cs.length ≤ 127 && cs.all isNameChar

/-- A text of `1` to `most` characters of a class. -/
def isRun (cls : Char → Bool) (most : Nat) (s : String) : Bool :=
  let cs := s.toList
  !cs.isEmpty && cs.length ≤ most && cs.all cls

/-- The pieces between the dots: one more than there are dots. -/
def segments : List Char → List (List Char)
  | [] => [[]]
  | c :: cs =>
    if c = '.' then [] :: segments cs
    else match segments cs with
      | [] => [[c]]
      | s :: ss => (c :: s) :: ss

/-- A segment of a package name: a letter and then word characters. -/
def isSegment : List Char → Bool
  | [] => false
  | c :: cs => c.isAlpha && cs.all isWordChar

/-- Two or more segments with dots between them. -/
def isPackageName (s : String) : Bool :=
  let ss := segments s.toList
  2 ≤ ss.length && ss.all isSegment

/-! ## The rules, field by field -/

inductive Reason where
  | projectId
  | urlTooLong
  | urlScheme
  | urlCharacter
  | appEnv
  | token
  | nameLength
  | nameCharacter
  | packageTooLong
  | packageShape
  deriving DecidableEq, Repr

def Reason.message : Reason → String
  | .projectId =>
    "expected 1-128 letters, digits, '.', '_' or '-', starting with a letter or digit"
  | .urlTooLong => "longer than 2048 bytes"
  | .urlScheme => "must start with http:// or https://"
  | .urlCharacter => "must not contain whitespace or control characters"
  | .appEnv => "expected 1-64 letters, digits, '.', '_' or '-'"
  | .token => "expected 1-512 URL-safe token characters"
  | .nameLength => "must be 1-128 characters"
  | .nameCharacter => "must not contain control characters"
  | .packageTooLong => "longer than 255 bytes"
  | .packageShape => "expected a dotted package name like com.example.app"

def projectIdFault? (s : String) : Option Reason :=
  if isProjectId s then none else some .projectId

/-- What is wrong with an address: its length is looked at first, then its scheme. -/
def urlFault? (s : String) : Option Reason :=
  if 2048 < s.utf8ByteSize then some .urlTooLong
  else if !("http://".toList.isPrefixOf s.toList || "https://".toList.isPrefixOf s.toList) then
    some .urlScheme
  else if s.toList.any (fun c => Text.isBlank c || Text.isControl c) then some .urlCharacter
  else none

def appNameFault? (s : String) : Option Reason :=
  let n := s.toList.length
  if n = 0 || 128 < n then some .nameLength
  else if s.toList.any Text.isControl then some .nameCharacter
  else none

/-- What is wrong with a package name: its length is looked at first. -/
def packageNameFault? (s : String) : Option Reason :=
  if 255 < s.utf8ByteSize then some .packageTooLong
  else if isPackageName s then none else some .packageShape

def fieldFault? : Field → String → Option Reason
  | .projectId, s => projectIdFault? s
  | .url, s => urlFault? s
  | .styleUrl, s => urlFault? s
  | .appEnv, s => if isRun isNameChar 64 s then none else some .appEnv
  | .projectToken, s => if isRun isTokenChar 512 s then none else some .token
  | .appName, s => appNameFault? s
  | .packageName, s => packageNameFault? s

/-- The order in which the fields are looked at. -/
def checkOrder : List Field :=
  [.projectId, .url, .styleUrl, .appEnv, .projectToken, .appName, .packageName]

/-- The first field that fails, and why. -/
def firstFault? (r : Request) : Option (Field × Reason) :=
  checkOrder.findSome? fun f => (fieldFault? f (r.get f)).map (f, ·)

/-- Passes a request on which every field is inside its allow-list. -/
def validate (r : Request) : Except Fault Unit :=
  match r.firstFault? with
  | none => .ok ()
  | some (f, reason) => .error (.invalidField f reason.message)

/-- Passes a text that is a project id. -/
def validateProjectId (s : String) : Except Fault Unit :=
  match projectIdFault? s with
  | none => .ok ()
  | some reason => .error (.invalidField .projectId reason.message)

end Request

end BuildService
