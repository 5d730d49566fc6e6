import BuildService.Json.Token
/-!
Reading past a JSON value that nobody asks for.

The brackets that are open are kept in a list, so a value may be nested as
deeply as it likes. The value is checked to be well formed, except that its
strings need be no UTF-8 and its escapes need form no pairs; a number that the
input cuts short counts as malformed here.
-/

set_option autoImplicit false

namespace BuildService.Json

/-- A bracket that is open. -/
inductive Frame where
  | array
  | object
  deriving DecidableEq, Repr

/-- The bracket that closes a frame. -/
def Frame.closing : Frame → Char
  | .array => ']'
  | .object => '}'

/-- What may stand next while a value is read past. -/
inductive Await where
  /-- A value. -/
  | value
  /-- The name of a member. -/
  | key
  /-- The first element or member, or the bracket that closes. -/
  | first
  /-- A comma or the bracket that closes; the end, if no bracket is open. -/
  | next
  deriving DecidableEq, Repr

/-- A value begins on the input as a whole; everything else stands behind at least one byte. -/
def Await.behind : Await → Nat
  | .value => 0
  | _ => 1

/-- How much is still to do apart from the input: looking for a first element may turn into
looking for a value. -/
def Await.rank : Await → Nat
  | .first => 1
  | _ => 0

/-- A value that holds no other value. -/
def skipScalar (b : UInt8) (rest : Input) : Reading Unit (rest.length + 1) :=
  let word (cs : List Char) : Reading Unit (rest.length + 1) :=
    (literal cs rest).map fun r => ⟨(), r.1, Nat.lt_succ_of_le r.2⟩
  if byteChar b = 'n' then word ['u', 'l', 'l']
  else if byteChar b = 't' then word ['r', 'u', 'e']
  else if byteChar b = 'f' then word ['a', 'l', 's', 'e']
  else if byteChar b = '"' then
    (skipString rest).map fun t => ⟨(), t.rest, Nat.lt_succ_of_lt t.shorter⟩
  else if byteChar b = '-' then
    match rest with
    | [] => .error .malformed
    | c :: more =>
      (number .malformed (c :: more)).map fun t => ⟨(), t.rest, Nat.lt_succ_of_lt t.shorter⟩
  else if isDigit b then
    (number .malformed (b :: rest)).map fun t => ⟨(), t.rest, t.shorter⟩
  else .error .malformed

/-- The name of a member and the colon behind it, from the opening quote on. -/
def skipKey (i : Input) : Reading Unit i.length :=
  match hi : skipBlanks i with
  | [] => .error .cutShort
  | b :: rest =>
    if byteChar b = '"' then
      match skipString rest with
      | .error e => .error e
      | .ok name =>
        match hc : skipBlanks name.rest with
        | [] => .error .cutShort
        | c :: more =>
          if byteChar c = ':' then
            .ok ⟨(), more, by
              have h1 := length_skipBlanks_le i
              have h2 := length_skipBlanks_le name.rest
              have h3 := name.shorter
              simp only [hi, hc, List.length_cons] at h1 h2
              omega⟩
          else .error .malformed
    else .error .malformed

/-- Reads on until no bracket is open. -/
def skipFrom (size : Nat) (await : Await) (stack : List Frame) (i : Input)
    (h : i.length + await.behind ≤ size) : Reading Unit size :=
  match await, stack with
  | .next, [] => .ok ⟨(), i, h⟩
  | .value, stack =>
    match hi : skipBlanks i with
    | [] => .error .cutShort
    | b :: rest =>
      have hb : (b :: rest).length ≤ i.length := by
        rw [← hi]; exact length_skipBlanks_le i
      if byteChar b = '[' then
        skipFrom size .first (.array :: stack) rest (by
          simp only [List.length_cons, Await.behind] at hb h ⊢; omega)
      else if byteChar b = '{' then
        skipFrom size .first (.object :: stack) rest (by
          simp only [List.length_cons, Await.behind] at hb h ⊢; omega)
      else
        match skipScalar b rest with
        | .error e => .error e
        | .ok t =>
          have := t.shorter
          skipFrom size .next stack t.rest (by
            simp only [List.length_cons, Await.behind] at hb h ⊢; omega)
  | .key, stack =>
    match skipKey i with
    | .error e => .error e
    | .ok t =>
      have := t.shorter
      skipFrom size .value stack t.rest (by simp only [Await.behind] at h ⊢; omega)
  -- Nobody comes here: a first element is looked for inside a bracket only.
  | .first, [] => .error .malformed
  | .first, frame :: stack =>
    match hi : skipBlanks i with
    | [] => .error .cutShort
    | b :: rest =>
      have hb : (b :: rest).length ≤ i.length := by
        rw [← hi]; exact length_skipBlanks_le i
      if byteChar b = frame.closing then
        skipFrom size .next stack rest (by
          simp only [List.length_cons, Await.behind] at hb h ⊢; omega)
      else
        match frame with
        | .array => skipFrom size .value (.array :: stack) (b :: rest) (by
            simp only [List.length_cons, Await.behind] at hb h ⊢; omega)
        | .object => skipFrom size .key (.object :: stack) (b :: rest) (by
            simp only [List.length_cons, Await.behind] at hb h ⊢; omega)
  | .next, frame :: stack =>
    match hi : skipBlanks i with
    | [] => .error .cutShort
    | b :: rest =>
      have hb : (b :: rest).length ≤ i.length := by
        rw [← hi]; exact length_skipBlanks_le i
      if byteChar b = frame.closing then
        skipFrom size .next stack rest (by
          simp only [List.length_cons, Await.behind] at hb h ⊢; omega)
      else if byteChar b = ',' then
        match frame with
        | .array => skipFrom size .value (.array :: stack) rest (by
            simp only [List.length_cons, Await.behind] at hb h ⊢; omega)
        | .object => skipFrom size .key (.object :: stack) rest (by
            simp only [List.length_cons, Await.behind] at hb h ⊢; omega)
      else .error .malformed
termination_by 2 * i.length + await.rank
decreasing_by
  all_goals simp only [Await.rank, List.length_cons] at *
  all_goals omega

/-- Reads past one value. -/
def skipValue (i : Input) : Reading Unit i.length :=
  skipFrom i.length .value [] i (Nat.le_refl _)

end BuildService.Json
