/-!
UTF-8, read one byte at a time.

A machine keeps what it owes of the character under way and puts out a symbol
each time something is settled: `some c` for a character, `none` for a stretch
of bytes that no character can be made of. A broken stretch is as long as it
could still have become a character, so that reading a text in which each
`none` is replaced by U+FFFD is the customary lossy decoding.

The machine never needs to look ahead, and after an ASCII byte it always stands
between characters. Hence reading can be cut at any ASCII byte: the symbols of
the parts are the symbols of the whole.
-/

set_option autoImplicit false

namespace BuildService.Utf8

/-! ## The machine -/

/-- A character under way: how many bytes are owed, the bounds of the next one,
and the bits collected so far. -/
structure Partial where
  owed : Nat
  low : Nat
  high : Nat
  bits : Nat
  deriving DecidableEq, Repr

/-- What a leading byte calls for: `none` if no character starts with it. ASCII
bytes are not asked about. -/
def Partial.ofLead? (b : Nat) : Option Partial :=
  if b < 0xC2 then none
  else if b < 0xE0 then some ⟨1, 0x80, 0xBF, b - 0xC0⟩
  else if b = 0xE0 then some ⟨2, 0xA0, 0xBF, 0⟩
  else if b = 0xED then some ⟨2, 0x80, 0x9F, 0xD⟩
  else if b < 0xF0 then some ⟨2, 0x80, 0xBF, b - 0xE0⟩
  else if b = 0xF0 then some ⟨3, 0x90, 0xBF, 0⟩
  else if b < 0xF4 then some ⟨3, 0x80, 0xBF, b - 0xF0⟩
  else if b = 0xF4 then some ⟨3, 0x80, 0x8F, 4⟩
  else none

/-- The machine between two bytes: the character under way, if any, and the
symbols put out so far, the last one first. -/
structure Machine where
  pending : Option Partial
  symbols : List (Option Char)
  deriving Repr

def Machine.start : Machine := ⟨none, []⟩

/-- Takes a byte that begins something new. -/
def Machine.lead (out : List (Option Char)) (b : Nat) : Machine :=
  if b < 0x80 then ⟨none, some (Char.ofNat b) :: out⟩
  else match Partial.ofLead? b with
    | some p => ⟨some p, out⟩
    | none => ⟨none, none :: out⟩

/-- Takes one byte. A byte that the character under way cannot use ends that
character as a broken stretch and begins something new. -/
def Machine.step (m : Machine) (byte : UInt8) : Machine :=
  let b := byte.toNat
  match m.pending with
  | none => Machine.lead m.symbols b
  | some p =>
    if p.low ≤ b ∧ b ≤ p.high then
      let bits := p.bits * 64 + (b - 0x80)
      if p.owed = 1 then ⟨none, some (Char.ofNat bits) :: m.symbols⟩
      else ⟨some ⟨p.owed - 1, 0x80, 0xBF, bits⟩, m.symbols⟩
    else Machine.lead (none :: m.symbols) b

/-- The symbols in order; a character that the input cuts short is broken. -/
def Machine.finish (m : Machine) : List (Option Char) :=
  match m.pending with
  | none => m.symbols.reverse
  | some _ => (none :: m.symbols).reverse

def symbols (bytes : List UInt8) : List (Option Char) :=
  (bytes.foldl Machine.step Machine.start).finish

/-! ## Texts -/

/-- The text of a byte string, if no part of it is broken. -/
def decode? (bytes : List UInt8) : Option String :=
  let found := symbols bytes
  if found.all Option.isSome then some (String.ofList (found.filterMap id)) else none

/-- The characters of a byte string, each broken stretch read as U+FFFD. -/
def lossyChars (bytes : List UInt8) : List Char :=
  (symbols bytes).map (·.getD '\uFFFD')

/-- The text of a byte string, each broken stretch read as U+FFFD. -/
def lossy (bytes : List UInt8) : String := String.ofList (lossyChars bytes)

/-- The bytes of a list of characters. -/
def encodeChars (cs : List Char) : List UInt8 := cs.flatMap String.utf8EncodeChar

def encode (s : String) : List UInt8 := encodeChars s.toList

/-! ## Standing between characters -/

/-- The bytes that a leading byte calls for lie above ASCII. -/
theorem Partial.low_of_ofLead? {b : Nat} {p : Partial} (h : Partial.ofLead? b = some p) :
    0x80 ≤ p.low := by
  unfold Partial.ofLead? at h
  grind

end BuildService.Utf8
