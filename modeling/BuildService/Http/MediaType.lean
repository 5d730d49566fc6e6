import BuildService.Http.Target
/-!
Media types, as far as they say whether a body is JSON.

A media type is a type and a subtype, then parameters. The subtype ends at its
last plus sign, and what follows that sign is the suffix; so `vnd.api+json` is
JSON by its suffix and `json+x` is JSON by its subtype. A media type with a fault
in its parameters is no media type at all.
-/

set_option autoImplicit false

namespace BuildService.Http

/-- A media type without its parameters, in small letters. -/
structure MediaType where
  type : String
  subtype : String
  suffixName : Option String
  deriving DecidableEq, Repr

namespace MediaType

/-- The characters between the quotes of a value. -/
def isQuotedChar (c : Char) : Bool := ' ' ≤ c && c ≤ '~'

/-- Where a reader of parameters stands. -/
inductive Place where
  /-- In front of a parameter, where blanks may stand. -/
  | start
  /-- In a name of which at least one character has been read. -/
  | name
  /-- At the front of a value. -/
  | valueStart
  /-- In a value of which at least one character has been read. -/
  | value
  /-- Right behind the quote at the front of a value. -/
  | quoteStart
  /-- Between quotes, with at least one character read. -/
  | quoted
  /-- Behind the quote at the end of a value. -/
  | closed
  deriving DecidableEq, Repr

namespace Place

/-- Where a reader stands after one more character; nothing if it must not stand there. -/
def step? (p : Place) (c : Char) : Option Place :=
  match p with
  | start => if c = ' ' then some start else if isTokenChar c then some name else none
  | name => if c = '=' then some valueStart else if isTokenChar c then some name else none
  | valueStart => if c = '"' then some quoteStart else if isTokenChar c then some value else none
  | value => if c = ';' then some start else if isTokenChar c then some value else none
  | quoteStart => if isQuotedChar c then some quoted else none
  | quoted => if c = '"' then some closed else if isQuotedChar c then some quoted else none
  | closed => if c = ';' then some start else if c = ' ' then some closed else none

def mayEnd : Place → Bool
  | start | valueStart | value | closed => true
  | name | quoteStart | quoted => false

end Place

/-- Whether what follows the first semicolon is a list of parameters. -/
def areParameters (cs : List Char) : Bool :=
  match cs.foldlM Place.step? Place.start with
  | some p => p.mayEnd
  | none => false

/-- Divides a subtype at its last plus sign, unless that is the first character. -/
def divide (cs : List Char) : List Char × Option (List Char) :=
  let suffixName := (cs.reverse.takeWhile (· != '+')).reverse
  let before := cs.take (cs.length - suffixName.length - 1)
  if before.isEmpty then (cs, none) else (before, some suffixName)

def parse? (s : String) : Option MediaType :=
  let type := s.toList.takeWhile (· != '/')
  let full := (s.toList.drop (type.length + 1)).takeWhile (· != ';')
  let parameters := s.toList.drop (type.length + 1 + full.length + 1)
  if type.isEmpty || !type.all isTokenChar then none
  else if s.toList.length ≤ type.length then none
  else if !full.all isTokenChar || !areParameters parameters then none
  else
    let (subtype, suffixName) := divide (foldCase full)
    some ⟨String.ofList (foldCase type), String.ofList subtype, suffixName.map String.ofList⟩

def isJson (m : MediaType) : Bool :=
  m.type == "application" && (m.subtype == "json" || m.suffixName == some "json")

end MediaType

end BuildService.Http
