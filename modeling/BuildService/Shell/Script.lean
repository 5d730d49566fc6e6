import BuildService.Text.Utf8
/-!
Scripts of a shell: words, redirections and commands.

A script is made of bytes, and so is everything that a script computes; each
byte is written as the character of the same number. What stands inside a
substitution keeps its written form and is read when it is needed.
-/

set_option autoImplicit false

namespace BuildService.Shell

/-- A string of bytes, each as the character of the same number. -/
abbrev Raw := List Char

namespace Raw

/-- The characters of bytes. -/
def ofBytes (bs : List UInt8) : Raw := bs.map fun b => Char.ofNat b.toNat

/-- The bytes of characters. -/
def toBytes (s : Raw) : List UInt8 := s.map fun c => UInt8.ofNat c.toNat

def ofText (s : String) : Raw := ofBytes (Utf8.encode s)

/-- The text that is encoded; what is no UTF-8 is replaced. -/
def text (s : Raw) : String := Utf8.lossy (toBytes s)

def ofInt (n : Int) : Raw := (toString n).toList

end Raw

/-- What is done with the value of a variable. -/
inductive Use where
  | value
  | length
  /-- Something else is taken if there is no value; `orEmpty` says that an empty one counts as
  none. -/
  | default (orEmpty : Bool) (word : Raw)
  /-- The same, and the variable gets that value. -/
  | assign (orEmpty : Bool) (word : Raw)
  /-- Something else is taken if there is a value. -/
  | instead (orEmpty : Bool) (word : Raw)
  /-- Without a value the script ends with a message. -/
  | require (orEmpty : Bool) (word : Raw)
  /-- What is written makes no sense. -/
  | broken
  /-- The part that fits a pattern is cut off, at the front or at the end. -/
  | trim (atEnd longest : Bool) (pattern : Raw)
  deriving DecidableEq, Repr

/-- A piece of a word. Pieces that are not quoted may be split and may stand for file names. -/
inductive Piece where
  | literal (s : Raw) (isQuoted : Bool)
  | variable (name : Raw) (use : Use) (isQuoted : Bool)
  | command (source : Raw) (isQuoted : Bool)
  | arithmetic (source : Raw) (isQuoted : Bool)
  deriving DecidableEq, Repr

/-- A word is made of pieces without blanks between them. -/
abbrev Word := List Piece

/-- How a descriptor is redirected. -/
inductive Direction where
  | read
  | write
  | append
  /-- It becomes another name of a descriptor. -/
  | duplicate
  /-- It gives the word itself. -/
  | here
  deriving DecidableEq, Repr

/-- A redirection of a descriptor. -/
structure Redirection where
  descriptor : Nat
  direction : Direction
  target : Word
  deriving DecidableEq, Repr

/-- A command without structure, and the line it stands in. -/
structure Simple where
  line : Nat
  assignments : List (Raw × Word)
  words : List Word
  redirections : List Redirection
  deriving DecidableEq, Repr

/-- A command. -/
inductive Tree where
  | nothing
  | simple (c : Simple)
  | sequence (first second : Tree)
  | background (body : Tree)
  | pipe (left right : Tree)
  | negate (body : Tree)
  | andThen (first second : Tree)
  | orElse (first second : Tree)
  | subshell (body : Tree)
  | conditional (condition yes no : Tree)
  /-- The body is repeated as long as the condition has the given answer. -/
  | loop (answer : Bool) (condition body : Tree)
  | each (name : Raw) (words : Option (List Word)) (body : Tree)
  /-- The first arm one of whose patterns fits is taken; the others follow in `rest`. -/
  | choice (subject : Word) (patterns : List Word) (body rest : Tree)
  | function (name : Raw) (body : Tree)
  | redirected (body : Tree) (redirections : List Redirection)

end BuildService.Shell
