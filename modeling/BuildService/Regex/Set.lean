import BuildService.Regex.Lexis
/-!
Sets of characters in brackets.

A set lists characters, ranges, classes by their names, and further sets. What is
listed counts together; `&&`, `--` and `~~` stand between two such lists and take
what is in both, in the first alone, or in one of the two. Of an admissible set
only its depth is kept, since nested parts are bounded.
-/

set_option autoImplicit false

namespace BuildService.Regex

/-- What has been read of an open set: how deep the parts of the present list go, and how deep
everything before the last operator. -/
structure SetFrame where
  before : Option Nat
  count : Nat
  deepest : Nat
  deriving DecidableEq, Repr

namespace SetFrame

/-- A set with a number of single characters in it. -/
def ofCount (n : Nat) : SetFrame := ⟨none, n, 0⟩

/-- Adds a part of some depth to the list. -/
def add (f : SetFrame) (depth : Nat) : SetFrame :=
  { f with count := f.count + 1, deepest := max f.deepest depth }

def depth (f : SetFrame) : Nat :=
  let list := if f.count ≤ 1 then f.deepest else f.deepest + 1
  match f.before with
  | none => list
  | some d => max d list + 1

/-- Begins the list after an operator. -/
def operator (f : SetFrame) : SetFrame := ⟨some f.depth, 0, 0⟩

end SetFrame

def classNames : List String :=
  ["alnum", "alpha", "ascii", "blank", "cntrl", "digit", "graph", "lower", "print", "punct",
    "space", "upper", "word", "xdigit"]

/-- What follows a class by its name, from the character after its opening bracket on, and whether
its complement is meant. -/
def namedClass? : List Char → Option (Bool × List Char)
  | ':' :: cs =>
    let isComplement := cs.head? == some '^'
    let body := if isComplement then cs.tail else cs
    let name := String.ofList (body.takeWhile (· != ':'))
    match body.dropWhile (· != ':') with
    | ':' :: ']' :: rest => if classNames.contains name then some (isComplement, rest) else none
    | _ => none
  | _ => none

theorem length_lt_of_namedClass {cs rest : List Char} {isComplement : Bool}
    (h : namedClass? cs = some (isComplement, rest)) : rest.length < cs.length := by
  unfold namedClass? at h
  split at h
  · rename_i body
    dsimp only at h
    generalize hb : (if body.head? == some '^' then body.tail else body) = b at h
    have hle : b.length ≤ body.length := by
      subst hb
      split
      · simp
      · exact Nat.le_refl _
    have hd : (b.dropWhile (· != ':')).length ≤ b.length := (List.dropWhile_sublist _).length_le
    split at h
    · rename_i rest' heq
      split at h
      · simp only [Option.some.injEq, Prod.mk.injEq] at h
        obtain ⟨-, rfl⟩ := h
        rw [heq] at hd
        simp only [List.length_cons] at hd ⊢
        omega
      · simp at h
    · simp at h
  · simp at h

/-- The hyphens at the front of a set, which stand for themselves, and what follows them. -/
def hyphens (m : Mode) (count : Nat) (cs : List Char) :
    { r : Nat × List Char // r.2.length ≤ cs.length } :=
  match h : skip m cs with
  | [] => ⟨(count, []), Nat.zero_le _⟩
  | c :: rest =>
    have hlt : rest.length < cs.length := length_lt_of_skip_eq_cons h
    if c = '-' then
      let r := hyphens m (count + 1) rest
      ⟨r.1, Nat.le_trans r.2 (Nat.le_of_lt hlt)⟩
    else ⟨(count, c :: rest), hlt⟩
termination_by cs.length

/-- The beginning of a set, from the character after its bracket on: the mark of a complement,
hyphens, and a closing bracket if it is the first character. A complement holds bytes that are no
characters, unless characters are meant. -/
def setHead (m : Mode) (cs : List Char) :
    Option { r : SetFrame × List Char // r.2.length ≤ cs.length } :=
  match h : skip m cs with
  | [] => none
  | c :: rest =>
    have hlt : rest.length < cs.length := length_lt_of_skip_eq_cons h
    if c = '^' ∧ ¬ m.isUnicode then none
    else
      let body : { b : List Char // b.length ≤ cs.length } :=
        if c = '^' then ⟨rest, Nat.le_of_lt hlt⟩ else ⟨c :: rest, hlt⟩
      let r := hyphens m 0 body.1
      have hr : r.1.2.length ≤ cs.length := Nat.le_trans r.2 body.2
      if r.1.1 = 0 ∧ r.1.2.head? = some ']' then
        some ⟨(SetFrame.ofCount 1, r.1.2.tail),
          Nat.le_trans (by rw [List.length_tail]; exact Nat.sub_le _ _) hr⟩
      else some ⟨(SetFrame.ofCount r.1.1, r.1.2), hr⟩

/-- One element of a set: a character or an escape. -/
def setAtom (m : Mode) : (cs : List Char) → Option (Taken Char Atom cs.length)
  | [] => none
  | c :: rest =>
    if c = '\\' then (escape m rest).map (·.wider)
    else some (.one (.literal c) rest)

/-- Whether an element may stand alone in a set. Where bytes are meant, the characters beyond
ASCII may not. -/
def Atom.isElement (m : Mode) : Atom → Bool
  | .literal c => m.isUnicode || c.toNat ≤ 0x7F
  | .several => true
  | .edge | .wordEdge => false

def isRange (m : Mode) : Atom → Atom → Bool
  | .literal a, .literal b => a.toNat ≤ b.toNat && (m.isUnicode || b.toNat ≤ 0x7F)
  | _, _ => false

/-- The character that decides whether a hyphen means a range. A look past blanks does not see
where a comment ends. -/
def following? (m : Mode) (cs : List Char) : Option Char :=
  if m.isSpaced then
    match cs.dropWhile Text.isBlank with
    | [] => cs.head?
    | c :: rest =>
      if c = '#' then
        match rest.dropWhile Text.isBlank with
        | [] => cs.head?
        | d :: _ => some d
      else some c
  else cs.head?

/-- A part of a list that is no set: a range, or one element. -/
def setItem (m : Mode) (cs : List Char) : Option (Taken Char Unit cs.length) :=
  match setAtom m cs with
  | none => none
  | some first =>
    let alone : Option (Taken Char Unit cs.length) :=
      if first.value.isElement m then some ⟨(), first.rest, first.shorter⟩ else none
    match h : skip m first.rest with
    | [] => none
    | c :: more =>
      -- In front of the closing bracket or of another hyphen a hyphen stands for itself.
      if c = '-' ∧ following? m more ≠ some ']' ∧ following? m more ≠ some '-' then
        match setAtom m (skip m more) with
        | none => none
        | some second =>
          if isRange m first.value second.value then
            some ⟨(), second.rest, by
              have h1 := second.shorter; have h2 := length_skip_le m more
              have h3 := length_lt_of_skip_eq_cons h; have h4 := first.shorter
              omega⟩
          else none
      else alone

/-- Whether a character and what follows it are an operator between two lists. -/
def isSetOperator (c : Char) (rest : List Char) : Bool :=
  (c = '&' || c = '-' || c = '~') && rest.head? == some c

/-- Goes on with a set and the sets around it, the inner ones first, up to the bracket that closes
the outermost; gives back how deep that one goes. -/
def setRest (m : Mode) (frame : SetFrame) (outer : List SetFrame) (cs : List Char) :
    Option (Taken Char Nat cs.length) :=
  match h : skip m cs with
  | [] => none
  | c :: rest =>
    have hlt : rest.length < cs.length := length_lt_of_skip_eq_cons h
    if c = '[' then
      match hc : namedClass? rest with
      | some (isComplement, after) =>
        have ha : after.length < cs.length := Nat.lt_trans (length_lt_of_namedClass hc) hlt
        if isComplement && !m.isUnicode then none
        else (setRest m (frame.add 0) outer after).map (·.widen (Nat.le_of_lt ha))
      | none =>
        -- A bracket that begins no class opens a set of its own.
        match setHead m rest with
        | none => none
        | some ⟨(inner, after), ha⟩ =>
          have ha : after.length < cs.length := Nat.lt_of_le_of_lt ha hlt
          (setRest m inner (frame :: outer) after).map (·.widen (Nat.le_of_lt ha))
    else if c = ']' then
      match outer with
      | [] => some ⟨frame.depth + 1, rest, hlt⟩
      | around :: outer =>
        (setRest m (around.add (frame.depth + 1)) outer rest).map (·.widen (Nat.le_of_lt hlt))
    else if isSetOperator c rest then
      have ht : rest.tail.length < cs.length :=
        Nat.lt_of_le_of_lt (by rw [List.length_tail]; exact Nat.sub_le _ _) hlt
      (setRest m frame.operator outer rest.tail).map (·.widen (Nat.le_of_lt ht))
    else
      match setItem m (c :: rest) with
      | none => none
      | some t =>
        have ht : t.rest.length < cs.length := Nat.lt_of_lt_of_le t.shorter hlt
        (setRest m (frame.add 0) outer t.rest).map (·.widen (Nat.le_of_lt ht))
termination_by cs.length

/-- A set, from the character after its bracket on, and how deep it goes. -/
def bracketSet (m : Mode) (cs : List Char) : Option (Taken Char Nat cs.length) :=
  match setHead m cs with
  | none => none
  | some ⟨(frame, rest), h⟩ => (setRest m frame [] rest).map (·.widen h)

end BuildService.Regex
