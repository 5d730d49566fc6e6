import BuildService.Taken
import BuildService.Binary64
import BuildService.Text.Percent
/-!
The tokens of JSON: blanks, literals, strings and numbers.

A document is read from its bytes, from left to right, and the first fault met
decides. A fault is of one of three kinds: the input ends too early, a byte
stands where it must not, or the value is well formed and is not the one called
for. A reader gives back what follows its token, together with the fact that
this is shorter than what it was given; that fact is what lets whole values be
read without a bound on their size.

A string is checked twice over: its escapes and its control characters on the
way, and the UTF-8 of the whole at the closing quote. A string that nobody asks
for is read past with only the first half of that.
-/

set_option autoImplicit false

namespace BuildService.Json

/-- The bytes still to be read. -/
abbrev Input := List UInt8

/-- Why a document is refused. -/
inductive Fault where
  /-- A byte stands where it must not. -/
  | malformed
  /-- The input ends too early. -/
  | cutShort
  /-- The value is well formed and not the one called for; `place` says where it stands, if the
  fault is about one place. -/
  | mismatch (place : Option String) (message : String)
  deriving DecidableEq, Repr

/-- The outcome of a reader that takes at least one byte of an input of the given size. -/
abbrev Reading (α : Type) (size : Nat) := Except Fault (Taken UInt8 α size)

/-- The ASCII character that a byte stands for; other bytes stand for no ASCII character. -/
def byteChar (b : UInt8) : Char := Char.ofNat b.toNat

/-- The blanks of JSON. -/
def isBlank (b : UInt8) : Bool :=
  (byteChar b) == ' ' || (byteChar b) == '\t' || (byteChar b) == '\n' || (byteChar b) == '\r'

/-- The input from its first byte that is no blank. -/
def skipBlanks (i : Input) : Input := i.dropWhile isBlank

theorem length_skipBlanks_le (i : Input) : (skipBlanks i).length ≤ i.length :=
  (List.dropWhile_sublist _).length_le

theorem length_lt_of_skipBlanks_eq_cons {i rest : Input} {b : UInt8}
    (h : skipBlanks i = b :: rest) : rest.length < i.length := by
  have := length_skipBlanks_le i
  rw [h, List.length_cons] at this
  exact this

theorem length_le_of_skipBlanks_eq_cons {i rest : Input} {b : UInt8}
    (h : skipBlanks i = b :: rest) : rest.length ≤ i.length :=
  Nat.le_of_lt (length_lt_of_skipBlanks_eq_cons h)

def literal : (cs : List Char) → (i : Input) → Except Fault { r : Input // r.length ≤ i.length }
  | [], i => .ok ⟨i, Nat.le_refl _⟩
  | _ :: _, [] => .error .cutShort
  | c :: cs, b :: i =>
    if (byteChar b) = c then
      match literal cs i with
      | .ok ⟨r, h⟩ => .ok ⟨r, by simp only [List.length_cons]; omega⟩
      | .error e => .error e
    else .error .malformed

/-! ## Strings -/

/-- The escapes of one letter. -/
def simpleEscape? (b : UInt8) : Option UInt8 :=
  match (byteChar b) with
  | '"' => some 0x22
  | '\\' => some 0x5C
  | '/' => some 0x2F
  | 'b' => some 0x08
  | 'f' => some 0x0C
  | 'n' => some 0x0A
  | 'r' => some 0x0D
  | 't' => some 0x09
  | _ => none

def codeUnit : (i : Input) → Reading Nat i.length
  | a :: b :: c :: d :: rest =>
    match Text.hexValue? (byteChar a), Text.hexValue? (byteChar b),
        Text.hexValue? (byteChar c), Text.hexValue? (byteChar d) with
    | some w, some x, some y, some z =>
      .ok ⟨((w * 16 + x) * 16 + y) * 16 + z, rest, by simp only [List.length_cons]; omega⟩
    | _, _, _, _ => .error .malformed
  | _ => .error .cutShort

/-- A unit that begins a pair. -/
def isLeadingUnit (n : Nat) : Bool := 0xD800 ≤ n && n ≤ 0xDBFF

/-- A unit that ends a pair. -/
def isTrailingUnit (n : Nat) : Bool := 0xDC00 ≤ n && n ≤ 0xDFFF

/-- One byte, which has to be a given character. -/
def expectByte (c : Char) : (i : Input) → Reading Unit i.length
  | [] => .error .cutShort
  | b :: rest =>
    if (byteChar b) = c then .ok ⟨(), rest, by simp⟩ else .error .malformed

/-- The character of a `\u` escape, from its first digit on. Units above the first plane come in
pairs, each unit with an escape of its own. -/
def unicodeEscape (i : Input) : Reading Char i.length := do
  let first ← codeUnit i
  -- A pair cannot begin with its second unit.
  if isTrailingUnit first.value then .error .malformed
  else if isLeadingUnit first.value then do
    let slash ← expectByte '\\' first.rest
    let letter ← expectByte 'u' slash.rest
    let second ← codeUnit letter.rest
    -- A leading unit alone is no character.
    if isTrailingUnit second.value then
      .ok ⟨Char.ofNat (0x10000 + (first.value - 0xD800) * 0x400 + (second.value - 0xDC00)),
        second.rest, by
          have h1 := first.shorter; have h2 := slash.shorter
          have h3 := letter.shorter; have h4 := second.shorter
          omega⟩
    else .error .malformed
  else .ok ⟨Char.ofNat first.value, first.rest, first.shorter⟩

/-- What an escape stands for, from the byte after the backslash on. -/
def escape : (i : Input) → Reading (List UInt8) i.length
  | [] => .error .cutShort
  | b :: rest =>
    match simpleEscape? b with
    | some e => .ok ⟨[e], rest, by simp⟩
    | none =>
      if (byteChar b) = 'u' then
        match unicodeEscape rest with
        | .ok t => .ok ⟨String.utf8EncodeChar t.value, t.rest, by
            have := t.shorter; simp only [List.length_cons]; omega⟩
        | .error e => .error e
      else .error .malformed

/-- An escape that nobody asks for: its units need not form pairs. -/
def skipEscape : (i : Input) → Reading Unit i.length
  | [] => .error .cutShort
  | b :: rest =>
    if (simpleEscape? b).isSome then .ok ⟨(), rest, by simp⟩
    else if (byteChar b) = 'u' then
      match codeUnit rest with
      | .ok t => .ok ⟨(), t.rest, by have := t.shorter; simp only [List.length_cons]; omega⟩
      | .error e => .error e
    else .error .malformed

/-- The bytes of a string up to its closing quote; `done` holds the bytes so far, the last one
first. -/
def stringBytes (size : Nat) (done : List UInt8) :
    (i : Input) → i.length ≤ size → Reading (List UInt8) size
  | [], _ => .error .cutShort
  | b :: rest, h =>
    if byteChar b = '"' then .ok ⟨done.reverse, rest, h⟩
    else if byteChar b = '\\' then
      match escape rest with
      | .error e => .error e
      | .ok t =>
        have := t.shorter
        stringBytes size (t.value.reverse ++ done) t.rest
          (by simp only [List.length_cons] at h; omega)
    -- Control characters have to be escaped.
    else if b < 0x20 then .error .malformed
    else stringBytes size (b :: done) rest (Nat.le_of_succ_le h)
termination_by i => i.length
decreasing_by
  all_goals simp only [List.length_cons]; omega

/-- A string, from the byte after its opening quote on. -/
def string (i : Input) : Reading String i.length :=
  match stringBytes i.length [] i (Nat.le_refl _) with
  | .error e => .error e
  | .ok t =>
    -- Escapes are put out as bytes, so the text as a whole is looked at once.
    match Utf8.decode? t.value with
    | some s => .ok ⟨s, t.rest, t.shorter⟩
    | none => .error .malformed

/-- Reads past the rest of a string and its closing quote. -/
def skipStringBytes (size : Nat) : (i : Input) → i.length ≤ size → Reading Unit size
  | [], _ => .error .cutShort
  | b :: rest, h =>
    if byteChar b = '"' then .ok ⟨(), rest, h⟩
    else if byteChar b = '\\' then
      match skipEscape rest with
      | .error e => .error e
      | .ok t =>
        have := t.shorter
        skipStringBytes size t.rest (by simp only [List.length_cons] at h; omega)
    else if b < 0x20 then .error .malformed
    else skipStringBytes size rest (Nat.le_of_succ_le h)
termination_by i => i.length
decreasing_by
  all_goals simp only [List.length_cons]; omega

/-- Reads past a string, from the byte after its opening quote on. -/
def skipString (i : Input) : Reading Unit i.length :=
  skipStringBytes i.length i (Nat.le_refl _)

/-! ## Numbers -/

/-- A number as it is written, without its sign. -/
structure NumberText where
  whole : List UInt8
  fraction : Option (List UInt8)
  exponent : Option (Bool × List UInt8)
  deriving Repr

def isDigit (b : UInt8) : Bool := (byteChar b).isDigit

def digits (i : Input) : List UInt8 × Input := (i.takeWhile isDigit, i.dropWhile isDigit)

theorem length_digits_rest_le (i : Input) : (digits i).2.length ≤ i.length :=
  (List.dropWhile_sublist _).length_le

/-- At least one digit. If the input ends instead, the fault is the one given. -/
def someDigits (atEnd : Fault) : (i : Input) → Reading (List UInt8) i.length
  | [] => .error atEnd
  | b :: rest =>
    if isDigit b then
      .ok ⟨b :: (digits rest).1, (digits rest).2, by
        have := length_digits_rest_le rest; simp only [List.length_cons]; omega⟩
    else .error .malformed

/-- The part of a number after `e`: a sign that may be left out, and digits. The answer says
whether the exponent is negative. -/
def exponentPart (atEnd : Fault) (i : Input) : Reading (Bool × List UInt8) i.length :=
  match i with
  | [] => .error atEnd
  | b :: rest =>
    if (byteChar b) = '+' ∨ (byteChar b) = '-' then
      (someDigits atEnd rest).map fun t =>
        ⟨((byteChar b) == '-', t.value), t.rest, by
          have := t.shorter; simp only [List.length_cons]; omega⟩
    else (someDigits atEnd (b :: rest)).map fun t => ⟨(false, t.value), t.rest, t.shorter⟩

/-- The exponent of a number, if there is one. -/
def exponentPart? (atEnd : Fault) (i : Input) :
    Except Fault (Option (Bool × List UInt8) × { r : Input // r.length ≤ i.length }) :=
  match i with
  | [] => .ok (none, ⟨[], Nat.le_refl _⟩)
  | b :: rest =>
    if (byteChar b) = 'e' ∨ (byteChar b) = 'E' then
      (exponentPart atEnd rest).map fun t =>
        (some t.value, ⟨t.rest, by have := t.shorter; simp only [List.length_cons]; omega⟩)
    else .ok (none, ⟨b :: rest, Nat.le_refl _⟩)

/-- The fraction of a number, if there is one. -/
def fractionPart? (atEnd : Fault) (i : Input) :
    Except Fault (Option (List UInt8) × { r : Input // r.length ≤ i.length }) :=
  match i with
  | [] => .ok (none, ⟨[], Nat.le_refl _⟩)
  | b :: rest =>
    if (byteChar b) = '.' then
      (someDigits atEnd rest).map fun t =>
        (some t.value, ⟨t.rest, by have := t.shorter; simp only [List.length_cons]; omega⟩)
    else .ok (none, ⟨b :: rest, Nat.le_refl _⟩)

/-- A number without its sign: no zero stands in front of another digit. -/
def number (atEnd : Fault) (i : Input) : Reading NumberText i.length := do
  let whole ← someDigits atEnd i
  -- A zero in front is a fault only if another digit follows it.
  if whole.value.length ≠ 1 ∧ whole.value.head?.any (byteChar · == '0') then .error .malformed
  else do
    let (fraction, r1) ← fractionPart? atEnd whole.rest
    let (exponent, r2) ← exponentPart? atEnd r1.1
    .ok ⟨⟨whole.value, fraction, exponent⟩, r2.1, by
      have h1 := r1.2; have h2 := r2.2; have h3 := whole.shorter; omega⟩

/-! ## The value of a number -/

/-- What a number is worth to a reader that knows 64-bit integers and binary fractions. -/
inductive Number where
  | natural (n : Nat)
  | negative (n : Nat)
  | float (isNegative : Bool) (x : Binary64)
  deriving Repr

/-- Takes digits into a number as long as it fits 64 bits; also how many were taken. -/
def absorb : Nat → List UInt8 → Nat × Nat
  | n, [] => (n, 0)
  | n, d :: ds =>
    let m := n * 10 + (d.toNat - 48)
    if UInt64.size ≤ m then (n, 0)
    else ((absorb m ds).1, (absorb m ds).2 + 1)

def powerOfTen (n : Nat) : Binary64 := (Binary64.nearest? (Nat.pow 10 n) 1).getD Binary64.zero

/-- An integer times a power of ten, in at most three roundings: the integer first, then for a
very small number a division by the largest power, then the power itself. -/
def scaled? (n : Nat) (exponent : Int) : Option Binary64 := do
  let f ← Binary64.nearest? n 1
  if 0 ≤ exponent then
    if exponent ≤ 308 then f.mul? (powerOfTen exponent.toNat)
    else if f.mantissa = 0 then some f else none
  else if -308 ≤ exponent then f.div? (powerOfTen (-exponent).toNat)
  else if -616 ≤ exponent then
    (← f.div? (powerOfTen 308)).div? (powerOfTen (-exponent - 308).toNat)
  else some Binary64.zero

def digitsValue (ds : List UInt8) : Nat := ds.foldl (fun n d => n * 10 + (d.toNat - 48)) 0

/-- The value of a number. Digits beyond 64 bits only move the point, and a number too large for
a binary fraction has no value. -/
def NumberText.value? (isNegative : Bool) (t : NumberText) : Option Number :=
  let (n, taken) := absorb 0 t.whole
  let beyond : Int := (t.whole.length - taken : Nat)
  match t.fraction, t.exponent with
  | none, none =>
    if 0 < beyond then (scaled? n beyond).map (.float isNegative)
    else if !isNegative then some (.natural n)
    -- There is no negative zero among the integers, and none below the least one.
    else if n = 0 ∨ Nat.pow 2 63 < n then (Binary64.nearest? n 1).map (.float true)
    else some (.negative n)
  | fraction, exponent =>
    let (m, places) := absorb n (fraction.getD [])
    let start : Int := beyond - places
    match exponent with
    | none => (scaled? m start).map (.float isNegative)
    | some (down, ds) =>
      let e := digitsValue ds
      -- Such a power is not computed: the number is too large, or as good as zero.
      if Nat.pow 2 31 ≤ e then
        if m ≠ 0 ∧ !down then none else some (.float isNegative Binary64.zero)
      else (scaled? m (if down then start - e else start + e)).map (.float isNegative)

/-- How a number is named in a message about a value of the wrong kind. -/
def Number.describe : Number → String
  | .natural n => "integer `" ++ toString n ++ "`"
  | .negative n => "integer `-" ++ toString n ++ "`"
  | .float isNegative x =>
    "floating point `" ++ (if isNegative then "-" else "") ++ x.scientificText ++ "`"

end BuildService.Json
