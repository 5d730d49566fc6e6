import BuildService.Toml.Token
import BuildService.Toml.Scalar
/-!
Whole TOML documents.

A document is read line by line. A line gives a key of the current table its
value, or names the table that the lines after it belong to. Values may nest up
to a limit, which bounds the recursion together with the length of the input.
-/

set_option autoImplicit false

namespace BuildService.Toml

/-- A value that is a single word, which begins with `c`. -/
def scalarAt (c : Char) (rest : Input) : Reading Value (rest.length + 1) :=
  let word := (splitScalar (c :: rest)).1
  let after := (splitScalar (c :: rest)).2
  match scalar? word with
  | none => none
  | some v => if h : after.length < rest.length + 1 then some ⟨v, after, h⟩ else none

mutual

/-- A value, nested at most `depth` deep. -/
def value (depth : Nat) (i : Input) : Reading Value i.length :=
  match i with
  | [] => none
  | c :: rest =>
    if c = '"' ∨ c = '\'' then
      (text c rest).map fun t => (t.map Value.string).wider
    else if c = '[' then
      match depth with
      | 0 => none
      | d + 1 =>
        (elements d (rest.length + 1) [] rest (Nat.lt_succ_self _)).map (·.map Value.array)
    else if c = '{' then
      match depth with
      | 0 => none
      | d + 1 =>
        (members d (rest.length + 1) [] rest (Nat.lt_succ_self _)).map
          (·.map (Value.table .braces))
    else scalarAt c rest
termination_by (depth, 2 * i.length)

/-- The elements of an array up to its closing bracket; `done` holds those that were read, the
last one first. -/
def elements (depth size : Nat) (done : List Value) (i : Input) (h : i.length < size) :
    Reading (List Value) size :=
  match skipLines i with
  | none => none
  | some ⟨[], _⟩ => none
  | some ⟨c :: more, hj⟩ =>
    -- A comma may stand behind the last element, so the bracket is looked for first.
    if c = ']' then
      some ⟨done.reverse, more, by simp only [List.length_cons] at hj; omega⟩
    else
      match value depth (c :: more) with
      | none => none
      | some t =>
        have ht := t.shorter
        match skipLines t.rest with
        | none => none
        | some ⟨[], _⟩ => none
        | some ⟨mark :: rest, hk⟩ =>
          if mark = ',' then
            elements depth size (t.value :: done) rest (by
              simp only [List.length_cons] at hk; omega)
          else if mark = ']' then
            some ⟨(t.value :: done).reverse, rest, by simp only [List.length_cons] at hk; omega⟩
          else none
termination_by (depth, 2 * i.length + 1)
decreasing_by
  · apply Prod.Lex.right
    omega
  · apply Prod.Lex.right
    simp only [List.length_cons] at hk
    omega

/-- The members of a table in braces up to its closing brace. -/
def members (depth size : Nat) (done : Entries) (i : Input) (h : i.length < size) :
    Reading Entries size :=
  match skipLines i with
  | none => none
  | some ⟨[], _⟩ => none
  | some ⟨c :: more, hj⟩ =>
    if c = '}' then
      some ⟨done, more, by simp only [List.length_cons] at hj; omega⟩
    else
      match dottedKey depthLimit (c :: more) with
      | none => none
      | some key =>
        have h1 := key.shorter
        match hk : key.rest with
        | '=' :: after =>
          have h2 := length_skipBlanks_le after
          match value depth (skipBlanks after) with
          | none => none
          | some t =>
            have h3 := t.shorter
            -- Keys may be dotted in braces too, so members can meet in a table.
            match done.addKey key.value.1 key.value.2 t.value with
            | none => none
            | some entries =>
              match skipLines t.rest with
              | none => none
              | some ⟨[], _⟩ => none
              | some ⟨mark :: rest, h4⟩ =>
                if mark = ',' then
                  members depth size entries rest (by
                    simp only [hk, List.length_cons] at hj h1 h4; omega)
                else if mark = '}' then
                  some ⟨entries, rest, by simp only [hk, List.length_cons] at hj h1 h4; omega⟩
                else none
        | _ => none
termination_by (depth, 2 * i.length + 1)
decreasing_by
  · apply Prod.Lex.right
    simp only [hk, List.length_cons] at hj h1
    omega
  · apply Prod.Lex.right
    simp only [hk, List.length_cons] at hj h1 h4
    omega

end

/-! ## Lines -/

/-- A document that has been read in part: its entries, and the table that further keys go to. -/
structure Document where
  entries : Entries
  current : List String

def Document.start : Document := ⟨[], []⟩

/-- Gives a dotted key of the current table a value. -/
def Document.assign (d : Document) (way : List String) (key : String) (v : Value) :
    Option Document :=
  -- What the header names exists by now, so the way to it is always open.
  (d.entries.alongHeader (fun _ es => es.addKey way key v) d.current).map fun es =>
    { d with entries := es }

def Document.openTable (d : Document) (way : List String) (key : String) : Option Document :=
  (d.entries.openTable way key).map fun es => ⟨es, way ++ [key]⟩

/-- Opens one more table of the array of a header. -/
def Document.openArrayTable (d : Document) (way : List String) (key : String) : Option Document :=
  (d.entries.openArrayTable way key).map fun es => ⟨es, way ++ [key]⟩

/-- What may stand behind a key with its value, or behind a header: a comment, and then a line
end or the end of the input. -/
def lineEnd (i : Input) : Option { r : Input // r.length ≤ i.length } :=
  match skipComment (skipBlanks i) with
  | none => none
  | some ⟨[], _⟩ => some ⟨[], Nat.zero_le _⟩
  | some ⟨c :: more, hj⟩ =>
    match hn : newline? (c :: more) with
    | none => none
    | some k => some ⟨k, by
        have h1 := length_skipBlanks_le i
        have h2 := length_of_newline? hn
        omega⟩

/-- One line that is not empty: a header, or a key and its value. -/
def line (d : Document) (i : Input) : Reading Document i.length :=
  match i with
  | '[' :: '[' :: rest =>
    match dottedKey depthLimit (skipBlanks rest) with
    | none => none
    | some key =>
      match hk : key.rest with
      | ']' :: ']' :: after =>
        match lineEnd after, d.openArrayTable key.value.1 key.value.2 with
        | some ⟨next, hn⟩, some d => some ⟨d, next, by
            have h1 := key.shorter
            have h2 := length_skipBlanks_le rest
            simp only [hk, List.length_cons] at h1 ⊢; omega⟩
        | _, _ => none
      | _ => none
  | '[' :: rest =>
    match dottedKey depthLimit (skipBlanks rest) with
    | none => none
    | some key =>
      match hk : key.rest with
      | ']' :: after =>
        match lineEnd after, d.openTable key.value.1 key.value.2 with
        | some ⟨next, hn⟩, some d => some ⟨d, next, by
            have h1 := key.shorter
            have h2 := length_skipBlanks_le rest
            simp only [hk, List.length_cons] at h1 ⊢; omega⟩
        | _, _ => none
      | _ => none
  | other =>
    match dottedKey depthLimit other with
    | none => none
    | some key =>
      match hk : key.rest with
      | '=' :: after =>
        match value depthLimit (skipBlanks after) with
        | none => none
        | some t =>
          match lineEnd t.rest, d.assign key.value.1 key.value.2 t.value with
          | some ⟨next, hn⟩, some d => some ⟨d, next, by
              have h1 := key.shorter
              have h2 := length_skipBlanks_le after
              have h3 := t.shorter
              simp only [hk, List.length_cons] at h1; omega⟩
          | _, _ => none
      | _ => none

def lines (d : Document) (i : Input) : Option Document :=
  match skipLines i with
  | none => none
  | some ⟨[], _⟩ => some d
  | some ⟨c :: rest, _hj⟩ =>
    match line d (c :: rest) with
    | none => none
    | some t =>
      have := t.shorter
      lines t.value t.rest
termination_by i.length

/-- The entries of a document. A byte-order mark in front is no part of it. -/
def parse? (s : String) : Option Entries :=
  let cs := s.toList
  let body := if cs.head? = some '\uFEFF' then cs.drop 1 else cs
  (lines .start body).map (·.entries)

end BuildService.Toml
