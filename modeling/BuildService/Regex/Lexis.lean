import BuildService.Taken
import BuildService.Text.Blank
import BuildService.Text.Percent
/-!
The small parts of a regular expression: blanks and comments, where the flags
allow them, and escapes.

Two of the flags have a say in what is admissible. With the one for blanks,
blanks and comments between the parts mean nothing. Without the one for
characters, a part may speak of single bytes, and it is refused if a match of it
could cut a character in two.
-/

set_option autoImplicit false

namespace BuildService.Regex

/-- What the flags in force say about the reading of a pattern. -/
structure Mode where
  /-- Characters are meant, and not bytes. -/
  isUnicode : Bool
  /-- Blanks and comments between the parts mean nothing. -/
  isSpaced : Bool
  deriving DecidableEq, Repr

/-- The mode at the beginning of a pattern. -/
def Mode.initial : Mode := ⟨true, false⟩

/-! ## Blanks and comments -/

/-- The text after the blanks and comments at its front. A comment goes from `#` to the end of
the line; `inComment` says that the text begins inside of one. -/
def afterBlanks : (inComment : Bool) → List Char → List Char
  | _, [] => []
  | true, c :: cs => afterBlanks (c != '\n') cs
  | false, c :: cs =>
    if Text.isBlank c then afterBlanks false cs
    else if c = '#' then afterBlanks true cs
    else c :: cs

/-- The text from its first character that means something. -/
def skip (m : Mode) (cs : List Char) : List Char :=
  if m.isSpaced then afterBlanks false cs else cs

theorem length_afterBlanks_le (inComment : Bool) (cs : List Char) :
    (afterBlanks inComment cs).length ≤ cs.length := by
  induction cs generalizing inComment with
  | nil => cases inComment <;> simp [afterBlanks]
  | cons c cs ih =>
    cases inComment with
    | true => exact Nat.le_succ_of_le (ih _)
    | false =>
      rw [afterBlanks]
      split
      · exact Nat.le_succ_of_le (ih _)
      · split
        · exact Nat.le_succ_of_le (ih _)
        · exact Nat.le_refl _

theorem length_skip_le (m : Mode) (cs : List Char) : (skip m cs).length ≤ cs.length := by
  rw [skip]
  split
  · exact length_afterBlanks_le _ _
  · exact Nat.le_refl _

theorem length_lt_of_skip_eq_cons {m : Mode} {cs rest : List Char} {c : Char}
    (h : skip m cs = c :: rest) : rest.length < cs.length := by
  have := length_skip_le m cs
  rw [h, List.length_cons] at this
  exact this

/-! ## Escapes -/

/-- What a part without parts of its own stands for. -/
inductive Atom where
  /-- One character. -/
  | literal (c : Char)
  /-- One character of several. -/
  | several
  /-- An edge of the text or of a line. -/
  | edge
  /-- An edge of a word, or a place that is none. -/
  | wordEdge
  deriving DecidableEq, Repr

/-- The number of digits after the letter of an escape that gives a character by its number. -/
def digitCount? (letter : Char) : Option Nat :=
  if letter = 'x' then some 2
  else if letter = 'u' then some 4
  else if letter = 'U' then some 8
  else none

/-- Goes on with a number in hexadecimal digits, of which a given count is left. -/
def hexNumber (m : Mode) : (count : Nat) → (value : Nat) → (cs : List Char) →
    Option { r : Nat × List Char // r.2.length ≤ cs.length }
  | 0, value, cs => some ⟨(value, cs), Nat.le_refl _⟩
  -- In a spaced pattern even the digits may stand apart.
  | count + 1, value, cs =>
    match h : skip m cs with
    | [] => none
    | c :: rest =>
      match Text.hexValue? c with
      | none => none
      | some d =>
        match hexNumber m count (value * 16 + d) rest with
        | none => none
        | some ⟨r, hr⟩ => some ⟨r, by have := length_lt_of_skip_eq_cons h; omega⟩

/-- The control characters that have an escape of one letter. -/
def controlOf? (letter : Char) : Option Char :=
  ([('a', 7), ('f', 12), ('t', 9), ('n', 10), ('r', 13), ('v', 11)].find? (·.1 = letter)).map
    fun e => Char.ofNat e.2

/-- What an escape of one character stands for. The marks of ASCII stand for themselves. A class
by its complement holds bytes that are no characters, unless characters are meant. -/
def markAtom? (m : Mode) (c : Char) : Option Atom :=
  if ['d', 's', 'w'].contains c then some .several
  else if ['D', 'S', 'W'].contains c then if m.isUnicode then some .several else none
  else if ['b', 'B', '<', '>'].contains c then some .wordEdge
  else if ['A', 'z'].contains c then some .edge
  else match controlOf? c with
    | some k => some (.literal k)
    | none => if c.toNat ≤ 0x7F && !c.isAlphanum then some (.literal c) else none

/-- The letters for the large classes of characters, in either case. -/
def isCategory (c : Char) : Bool := ['c', 'l', 'm', 'n', 'p', 's', 'z'].contains c.toLower

/-- What an escape stands for, from the character after the backslash on. -/
def escape (m : Mode) : (cs : List Char) → Option (Taken Char Atom cs.length)
  | [] => none
  | c :: rest =>
    match digitCount? c with
    | some count =>
      match hexNumber m count 0 rest with
      | none => none
      | some ⟨(value, after), h⟩ =>
        -- Where bytes are meant, two digits above ASCII would give a byte that is no character.
        if Nat.isValidChar value ∧ (m.isUnicode ∨ c ≠ 'x' ∨ value ≤ 0x7F) then
          some ⟨.literal (Char.ofNat value), after, Nat.lt_succ_of_le h⟩
        else none
    | none =>
      if c = 'p' ∨ c = 'P' then
        match h : skip m rest with
        | [] => none
        | category :: after =>
          if m.isUnicode && isCategory category then
            some ⟨.several, after, Nat.lt_succ_of_lt (length_lt_of_skip_eq_cons h)⟩
          else none
      else
        match markAtom? m c with
        | none => none
        | some a => some (.one a rest)

end BuildService.Regex
