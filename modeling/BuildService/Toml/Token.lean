import BuildService.Taken
import BuildService.Text.Percent
/-!
The tokens of TOML: blanks, comments, keys and strings.

No fault is told from another here, so a reader either succeeds or not.
-/

set_option autoImplicit false

namespace BuildService.Toml

/-- The characters still to be read. -/
abbrev Input := List Char

/-- The outcome of a reader that takes at least one character. -/
abbrev Reading (α : Type) (size : Nat) := Option (Taken Char α size)

def isBlank (c : Char) : Bool := c == ' ' || c == '\t'

/-- A control character that no comment and no string may hold as it is. -/
def isForbidden (c : Char) : Bool := (c.toNat < 0x20 && c != '\t') || c.toNat == 0x7F

/-- The input from its first character that is no blank. -/
def skipBlanks (i : Input) : Input := i.dropWhile isBlank

theorem length_skipBlanks_le (i : Input) : (skipBlanks i).length ≤ i.length :=
  (List.dropWhile_sublist _).length_le

/-- The input after a line end, if one stands in front. -/
def newline? : Input → Option Input
  | '\n' :: rest => some rest
  | '\r' :: '\n' :: rest => some rest
  | _ => none

theorem length_of_newline? {i rest : Input} (h : newline? i = some rest) :
    rest.length < i.length := by
  unfold newline? at h
  split at h
  · simp only [Option.some.injEq] at h; subst h; simp
  · simp only [Option.some.injEq] at h; subst h; simp only [List.length_cons]; omega
  · contradiction

/-- The input after a comment, if one stands in front; the comment must be well formed. -/
def skipComment (i : Input) : Option { r : Input // r.length ≤ i.length } :=
  match i with
  | '#' :: rest =>
    let after := rest.dropWhile fun c => !isForbidden c
    have h : after.length ≤ rest.length := (List.dropWhile_sublist _).length_le
    if after.isEmpty || (newline? after).isSome then
      some ⟨after, Nat.le_trans h (Nat.le_succ _)⟩
    else none
  | other => some ⟨other, Nat.le_refl _⟩

/-- The input from its first character that is neither a blank nor a line end nor in a comment. -/
def skipLines (i : Input) : Option { r : Input // r.length ≤ i.length } :=
  match skipComment (skipBlanks i) with
  | none => none
  | some ⟨j, hj⟩ =>
    have hb := length_skipBlanks_le i
    match hn : newline? j with
    | none => some ⟨j, by omega⟩
    | some k =>
      have := length_of_newline? hn
      match skipLines k with
      | none => none
      | some ⟨r, hr⟩ => some ⟨r, by omega⟩
termination_by i.length

/-! ## Strings -/

def hexNumber? (cs : List Char) : Option Nat :=
  cs.foldl (fun n? c => do return (← n?) * 16 + (← Text.hexValue? c)) (some 0)

/-- The character of an escape of `count` hexadecimal digits. -/
def numericEscape (count : Nat) (i : Input) : Option (Char × Input) :=
  let ds := i.take count
  if ds.length < count then none
  else do
    let n ← hexNumber? ds
    if n.isValidChar then some (Char.ofNat n, i.drop count) else none

/-- What an escape stands for, from the character after the backslash on. -/
def escape : (i : Input) → Reading Char i.length
  | [] => none
  | c :: rest =>
    let one (e : Char) : Reading Char (rest.length + 1) := some (.one e rest)
    let numeric (count : Nat) : Reading Char (rest.length + 1) :=
      match h : numericEscape count rest with
      | none => none
      | some (e, after) => some ⟨e, after, by
          unfold numericEscape at h
          simp only at h
          split at h
          · contradiction
          · simp only [Option.bind_eq_bind, Option.bind_eq_some_iff] at h
            obtain ⟨n, _, h⟩ := h
            split at h
            · simp only [Option.some.injEq, Prod.mk.injEq] at h
              rw [← h.2]
              simp only [List.length_drop]
              omega
            · contradiction⟩
    match c with
    | 'b' => one '\x08'
    | 't' => one '\t'
    | 'n' => one '\n'
    | 'f' => one '\x0C'
    | 'r' => one '\r'
    | 'e' => one '\x1B'
    | '"' => one '"'
    | '\\' => one '\\'
    | 'x' => numeric 2
    | 'u' => numeric 4
    | 'U' => numeric 8
    | _ => none

/-- A text on one line, up to the quote that ends it; `done` holds what was read, the last
character first. Between apostrophes a backslash is nothing special. -/
def lineText (quote : Char) (size : Nat) (done : List Char) :
    (i : Input) → i.length ≤ size → Reading String size
  | [], _ => none
  | c :: rest, h =>
    if c = quote then some ⟨String.ofList done.reverse, rest, h⟩
    else if c = '\\' ∧ quote = '"' then
      match escape rest with
      | none => none
      | some t =>
        have := t.shorter
        lineText quote size (t.value :: done) t.rest
          (by simp only [List.length_cons] at h; omega)
    else if isForbidden c then none
    else lineText quote size (c :: done) rest (Nat.le_of_succ_le h)
termination_by i => i.length
decreasing_by
  all_goals simp only [List.length_cons]; omega

/-- The input after the blanks and line ends in front. -/
def skipSpace : Input → Input
  | [] => []
  | '\r' :: '\n' :: rest => skipSpace rest
  | c :: rest => if isBlank c || c == '\n' then skipSpace rest else c :: rest

theorem length_skipSpace_le (i : Input) : (skipSpace i).length ≤ i.length := by
  fun_induction skipSpace i <;> grind

/-- A line end that a backslash hides, with the blanks around it. -/
def hiddenLineEnd? (i : Input) : Option { r : Input // r.length ≤ i.length } :=
  match newline? (skipBlanks i) with
  | none => none
  | some _ => some ⟨skipSpace i, length_skipSpace_le i⟩

/-- A text over several lines, up to three quotes in a row; up to two more quotes in front of
them belong to the text. -/
def blockText (quote : Char) (size : Nat) (done : List Char) :
    (i : Input) → i.length ≤ size → Reading String size
  | [], _ => none
  | c :: rest, h =>
    if c = quote then
      let run := ((c :: rest).takeWhile (· == quote)).length
      if h3 : 3 ≤ run then
        let used := min run 5
        some ⟨String.ofList (List.replicate (used - 3) quote ++ done).reverse,
          (c :: rest).drop used, by
            have : 1 ≤ min run 5 := by omega
            simp only [List.length_drop, List.length_cons] at h ⊢
            omega⟩
      else blockText quote size (quote :: done) rest (Nat.le_of_succ_le h)
    else if c = '\\' ∧ quote = '"' then
      match hiddenLineEnd? rest with
      | some ⟨after, ha⟩ =>
        blockText quote size done after (by simp only [List.length_cons] at h; omega)
      | none =>
        match escape rest with
        | none => none
        | some t =>
          have := t.shorter
          blockText quote size (t.value :: done) t.rest
            (by simp only [List.length_cons] at h; omega)
    else
      match hn : newline? (c :: rest) with
      | some after =>
        have := length_of_newline? hn
        blockText quote size ('\n' :: done) after (by simp only [List.length_cons] at *; omega)
      | none =>
        if isForbidden c then none
        else blockText quote size (c :: done) rest (Nat.le_of_succ_le h)
termination_by i => i.length
decreasing_by
  all_goals simp only [List.length_cons] at *; omega

/-- A text in quotes, from the character after the first quote on. Three quotes begin a text over
several lines, and a line end right behind them is no part of it. -/
def text (quote : Char) (i : Input) : Reading String i.length :=
  match i with
  | a :: b :: rest =>
    if a = quote ∧ b = quote then
      match hn : newline? rest with
      | some after =>
        (blockText quote after.length [] after (Nat.le_refl _)).map (·.widen (by
          have := length_of_newline? hn
          simp only [List.length_cons]; omega))
      | none =>
        (blockText quote rest.length [] rest (Nat.le_refl _)).map (·.widen (by
          simp only [List.length_cons]; omega))
    else lineText quote _ [] (a :: b :: rest) (Nat.le_refl _)
  | short => lineText quote _ [] short (Nat.le_refl _)

/-! ## Keys -/

def isKeyChar (c : Char) : Bool := c.isAlphanum || c == '_' || c == '-'

/-- One part of a key. -/
def simpleKey (i : Input) : Reading String i.length :=
  match i with
  | [] => none
  | c :: rest =>
    if c = '"' ∨ c = '\'' then
      (lineText c _ [] rest (Nat.le_refl _)).map (·.wider)
    else if isKeyChar c then
      some ⟨String.ofList (c :: rest.takeWhile isKeyChar), rest.dropWhile isKeyChar, by
        have : (rest.dropWhile isKeyChar).length ≤ rest.length :=
          (List.dropWhile_sublist _).length_le
        simp only [List.length_cons]; omega⟩
    else none

/-- How many parts a dotted key may have, and how deep values may be nested. -/
def depthLimit : Nat := 80

/-- A dotted key of at most `limit` parts: the parts before the last one, and the last one. The
blanks behind it are taken as well. -/
def dottedKey : (limit : Nat) → (i : Input) → Reading (List String × String) i.length
  | 0, _ => none
  | limit + 1, i =>
    match simpleKey i with
    | none => none
    | some t =>
      match hs : skipBlanks t.rest with
      | '.' :: after =>
        match dottedKey limit (skipBlanks after) with
        | none => none
        | some more =>
          some ⟨(t.value :: more.value.1, more.value.2), more.rest, by
            have h1 := t.shorter
            have h2 := length_skipBlanks_le t.rest
            rw [hs] at h2
            have h3 := length_skipBlanks_le after
            have h4 := more.shorter
            simp only [List.length_cons] at h2
            omega⟩
      | other => some ⟨([], t.value), other, by
          have h1 := t.shorter
          have h2 := length_skipBlanks_le t.rest
          rw [hs] at h2
          omega⟩

end BuildService.Toml
