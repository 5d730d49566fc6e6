/-!
Request targets: what a request names on its first line.

A target is a path with or without a query, a whole address with a scheme and an
authority in front, an authority alone, or an asterisk. A fragment is accepted
and dropped. Only the path says which part of a service is meant, but a target
with a fault anywhere is no target at all.
-/

set_option autoImplicit false

namespace BuildService.Http

/-- Letters and digits of ASCII. -/
def isAsciiAlphanumeric (c : Char) : Bool :=
  ('a' ≤ c && c ≤ 'z') || ('A' ≤ c && c ≤ 'Z') || ('0' ≤ c && c ≤ '9')

/-- The characters of a token, such as the name of a method. -/
def isTokenChar (c : Char) : Bool :=
  isAsciiAlphanumeric c || "!#$%&'*+-.^_`|~".toList.contains c

/-- Whether a text is the name of a method; there may be methods that nobody knows. -/
def isMethod (s : String) : Bool := !s.isEmpty && s.toList.all isTokenChar

/-- Small letters in the place of ASCII capitals. -/
def foldCase (cs : List Char) : List Char := cs.map Char.toLower

/-- What a target is about. -/
structure Target where
  /-- The path as it was written, without the query. -/
  path : String
  deriving DecidableEq, Repr

namespace Target

/-! ## The path and what follows it -/

def isPathChar (c : Char) : Bool :=
  c == '!' || c == '"' || ('$' ≤ c && c ≤ ';') || c == '=' || ('@' ≤ c && c ≤ '_') ||
    ('a' ≤ c)

def isQueryChar (c : Char) : Bool :=
  c == '!' || ('$' ≤ c && c ≤ ';') || c == '=' || ('?' ≤ c)

/-- Whether a query is well formed, up to the fragment if there is one. -/
def isQuery (cs : List Char) : Bool := (cs.takeWhile (· != '#')).all isQueryChar

/-- The path at the front of what follows the authority. -/
def pathOf? (cs : List Char) : Option (List Char) :=
  let path := cs.takeWhile fun c => c != '?' && c != '#'
  let rest := cs.dropWhile fun c => c != '?' && c != '#'
  let restIsFine := match rest with
    | '?' :: query => isQuery query
    | _ => true
  if path.all isPathChar && restIsFine then some path else none

/-! ## The scheme and the authority -/

def isSchemeChar (c : Char) : Bool := isAsciiAlphanumeric c || c == '+' || c == '-' || c == '.'

/-- The length of a scheme, unless it is one of the two that everybody knows. -/
def schemeLimit : Nat := 64

/-- What follows the scheme, if there is a scheme, and the whole otherwise. Nothing if the scheme
is too long. -/
def withoutScheme? (cs : List Char) : Option (Bool × List Char) :=
  if foldCase (cs.take 7) == "http://".toList then some (true, cs.drop 7)
  else if foldCase (cs.take 8) == "https://".toList then some (true, cs.drop 8)
  else
    let scheme := cs.takeWhile isSchemeChar
    match cs.drop scheme.length with
    | ':' :: '/' :: '/' :: rest =>
      if cs.length ≤ 3 then some (false, cs)
      else if schemeLimit < scheme.length then none
      else some (true, rest)
    | _ => some (false, cs)

/-- The characters of an authority. A percent sign has rules of its own. -/
def isAuthorityChar (c : Char) : Bool :=
  isAsciiAlphanumeric c || "!$&'()*+,-.:;=@[]_~".toList.contains c

/-- What is known of an authority that is read from left to right. -/
structure AuthorityScan where
  /-- The colons since the last `@` or `]`. -/
  colons : Nat
  opened : Bool
  closed : Bool
  /-- Whether a percent sign stands behind the last `@` or `]`. -/
  percent : Bool
  /-- Whether the last character is an `@`. -/
  atEnd : Bool

namespace AuthorityScan

def start : AuthorityScan := ⟨0, false, false, false, false⟩

/-- How many colons an address may have. -/
def colonLimit : Nat := 8

/-- What is known after one more character; nothing if it must not stand there. -/
def step? (s : AuthorityScan) (c : Char) : Option AuthorityScan :=
  let s := { s with atEnd := c == '@' }
  if c = '%' then some { s with percent := true }
  else if !isAuthorityChar c then none
  else if c = ':' then
    if colonLimit ≤ s.colons then none else some { s with colons := s.colons + 1 }
  else if c = '[' then
    if s.percent || s.opened then none else some { s with opened := true }
  else if c = ']' then
    if !s.opened || s.closed then none
    else some { s with closed := true, colons := 0, percent := false }
  -- What stands in front of it is no part of the address.
  else if c = '@' then some { s with colons := 0, percent := false }
  else some s

def mayEnd (s : AuthorityScan) : Bool :=
  s.opened == s.closed && s.colons ≤ 1 && !s.atEnd && !s.percent

end AuthorityScan

/-- Whether a text is an authority; an empty one is. -/
def isAuthority (cs : List Char) : Bool :=
  match cs.foldlM AuthorityScan.step? AuthorityScan.start with
  | some s => s.mayEnd
  | none => false

/-! ## Whole targets -/

def sizeLimit : Nat := 65534

/-- The characters that end an authority. -/
def endsAuthority (c : Char) : Bool := c == '/' || c == '?' || c == '#'

/-- Reads a target that does not begin with a slash. -/
def parseFull? (cs : List Char) : Option Target :=
  match withoutScheme? cs with
  | none => none
  | some (hasScheme, cs) =>
    let authority := cs.takeWhile (!endsAuthority ·)
    let rest := cs.dropWhile (!endsAuthority ·)
    if !isAuthority authority then none
    -- An authority alone leads to no path.
    else if !hasScheme then if rest.isEmpty then some ⟨""⟩ else none
    else if authority.isEmpty then none
    else (pathOf? rest).map fun path => ⟨if path.isEmpty then "/" else String.ofList path⟩

/-- Reads a target. -/
def parse? (s : String) : Option Target :=
  if sizeLimit < s.utf8ByteSize then none
  else match s.toList with
    | [] => none
    | ['*'] => some ⟨"*"⟩
    | '/' :: rest => (pathOf? ('/' :: rest)).map fun path => ⟨String.ofList path⟩
    | cs => parseFull? cs

end Target

end BuildService.Http
