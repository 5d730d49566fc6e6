import BuildService.Regex.Set
import BuildService.Text.Alphanumeric
/-!
Which regular expressions are admissible.

A pattern is admissible if an automaton can be built for it that reads every
character once. That asks for a well-formed pattern whose parts are not nested
too deeply, without a part that could match a piece of a character. It also rules
out the edges of words, unless only the words of ASCII are meant: whether a place
is such an edge can depend on characters that are not read yet.

A pattern is read from left to right. The groups that are open are a stack, and
of what has been read in a group only its depth is kept.
-/

set_option autoImplicit false

namespace BuildService.Regex

/-- Why a pattern is not admissible. -/
inductive Fault where
  /-- The pattern is not well formed, or could match a piece of a character. -/
  | malformed
  /-- The pattern asks for edges of words of any script. -/
  | wordEdge
  deriving DecidableEq, Repr

/-- How deep the parts of a pattern may be nested. -/
def depthLimit : Nat := 250

/-! ## Groups and flags -/

/-- A part of a pattern, as far as its surroundings go. -/
inductive Part where
  /-- Opens a group, which may have a name, with the mode inside of it. -/
  | opening (name : Option String) (inner : Mode)
  | closing
  /-- Changes the mode up to the end of the group. -/
  | setting (m : Mode)
  | bar
  | repetition
  /-- A part without parts of its own. -/
  | single
  | wordEdge
  | set (depth : Nat)
  deriving DecidableEq, Repr

def isGroupName : List Char → Bool
  | [] => false
  | c :: cs =>
    (c == '_' || Text.isAlphabetic c) &&
      cs.all fun d => d == '_' || d == '.' || d == '[' || d == ']' || Text.isAlphanumeric d

def flagLetters : List Char := ['i', 'm', 's', 'U', 'u', 'R', 'x']

/-- Whether a text is a list of flags: each at most once, and a hyphen between those to be set
and those to be cleared. There is none to be cleared without a hyphen, and one at least with it. -/
def isFlagList (cs : List Char) : Bool :=
  cs.all (fun c => c == '-' || flagLetters.contains c) && decide cs.Nodup &&
    cs.getLast? != some '-'

/-- What a list of flags makes of a flag. -/
def flagAfter (cs : List Char) (letter : Char) (old : Bool) : Bool :=
  if (cs.takeWhile (· != '-')).contains letter then true
  else if cs.contains letter then false
  else old

/-- The mode after a list of flags. -/
def Mode.withFlags (m : Mode) (cs : List Char) : Mode where
  isUnicode := flagAfter cs 'u' m.isUnicode
  isSpaced := flagAfter cs 'x' m.isSpaced

/-- A group with a name, from the first character of the name on. -/
def namedGroup (m : Mode) (cs : List Char) : Option (Taken Char Part cs.length) :=
  let name := cs.takeWhile (· != '>')
  match h : cs.dropWhile (· != '>') with
  | [] => none
  | _ :: rest =>
    if isGroupName name then
      some ⟨.opening (some (String.ofList name)) m, rest, by
        have := (List.dropWhile_sublist (· != '>') (l := cs)).length_le
        rw [h, List.length_cons] at this
        exact this⟩
    else none

/-- Flags for the rest of a group or for a group of their own, from the first of them on. -/
def flagGroup (m : Mode) (cs : List Char) : Option (Taken Char Part cs.length) :=
  let flags := cs.takeWhile fun c => c != ':' && c != ')'
  match h : cs.dropWhile fun c => c != ':' && c != ')' with
  | [] => none
  | c :: rest =>
    have hlt : rest.length < cs.length := by
      have := (List.dropWhile_sublist (fun c => c != ':' && c != ')') (l := cs)).length_le
      rw [h, List.length_cons] at this
      exact this
    if !isFlagList flags then none
    else if c = ':' then some ⟨.opening none (m.withFlags flags), rest, hlt⟩
    -- A group may change nothing, but a change alone must be one.
    else if flags.isEmpty then none
    else some ⟨.setting (m.withFlags flags), rest, hlt⟩

/-- The beginning of a group, from the character after its parenthesis on. Without a mark the
group is a plain one. -/
def groupHead (m : Mode) (cs : List Char) : Option (Taken Char Part (cs.length + 1)) :=
  match h : skip m cs with
  | [] => some ⟨.opening none m, [], Nat.succ_pos _⟩
  | c :: rest =>
    have hlt : rest.length < cs.length := length_lt_of_skip_eq_cons h
    if c = '?' then
      -- The letter in front of the name may be left out.
      if rest.take 2 = ['P', '<'] then
        (namedGroup m (rest.drop 2)).map
          (·.widen (by rw [List.length_drop]; omega))
      else if rest.head? = some '<' then
        (namedGroup m (rest.drop 1)).map
          (·.widen (by rw [List.length_drop]; omega))
      else (flagGroup m rest).map (·.widen (Nat.le_succ_of_le (Nat.le_of_lt hlt)))
    else some ⟨.opening none m, c :: rest, Nat.succ_lt_succ hlt⟩

/-! ## Parts -/

/-- A character that repeats the part before it. -/
def isRepetition (c : Char) : Bool := c == '?' || c == '*' || c == '+'

/-- Takes the part that begins with a character. A question mark right after a repetition belongs
to it. A counted repetition would need a closing brace. -/
def part (m : Mode) (c : Char) (rest : List Char) : Option (Taken Char Part (rest.length + 1)) :=
  let one (p : Part) : Option (Taken Char Part (rest.length + 1)) := some (.one p rest)
  if c = '(' then groupHead m rest
  else if c = ')' then one .closing
  else if c = '|' then one .bar
  else if c = '[' then
    (bracketSet m rest).map fun t => (t.map .set).wider
  else if isRepetition c then
    if rest.head? = some '?' then
      some ⟨.repetition, rest.tail, by rw [List.length_tail]; omega⟩
    else one .repetition
  else if c = '\x7b' then none
  -- Where bytes are meant, a dot would match a piece of a character.
  else if c = '.' then if m.isUnicode then one .single else none
  else if c = '\\' then
    (escape m rest).map fun t =>
      (t.map fun a => if a = .wordEdge ∧ m.isUnicode then .wordEdge else .single).wider
  else one .single

/-! ## Whole patterns -/

/-- What has been read of a group: the branches before the last bar and the branch at hand. -/
structure Level where
  isSplit : Bool
  deepestBranch : Nat
  count : Nat
  deepest : Nat
  /-- How deep the last part of the branch goes, if that part can be repeated. -/
  last : Option Nat
  deriving DecidableEq, Repr

namespace Level

def empty : Level := ⟨false, 0, 0, 0, none⟩

def add (l : Level) (depth : Nat) : Level :=
  { l with count := l.count + 1, deepest := max l.deepest depth, last := some depth }

/-- Adds a change of the mode, which cannot be repeated. -/
def addSetting (l : Level) : Level := { l with count := l.count + 1, last := none }

/-- Repeats the last part. -/
def repeatLast? (l : Level) : Option Level :=
  l.last.map fun d => { l with deepest := max l.deepest (d + 1), last := some (d + 1) }

/-- How deep the branch at hand goes. -/
def branchDepth (l : Level) : Nat := if l.count ≤ 1 then l.deepest else l.deepest + 1

def split (l : Level) : Level := ⟨true, max l.deepestBranch l.branchDepth, 0, 0, none⟩

def depth (l : Level) : Nat :=
  if l.isSplit then max l.deepestBranch l.branchDepth + 1 else l.branchDepth

end Level

/-- Where the reader of a pattern stands. -/
structure Reader where
  mode : Mode
  level : Level
  /-- The groups around the one at hand, each with the mode to return to, the inner ones first. -/
  outer : List (Mode × Level)
  names : List String
  asksForWords : Bool
  deriving DecidableEq, Repr

namespace Reader

/-- Before the first character. -/
def initial : Reader := ⟨.initial, .empty, [], [], false⟩

/-- Takes one part. No two groups have the same name. -/
def step? (r : Reader) : Part → Option Reader
  | .opening name inner =>
    if name.any r.names.contains then none
    else some { r with
      mode := inner, level := .empty, outer := (r.mode, r.level) :: r.outer,
      names := name.toList ++ r.names }
  | .closing =>
    match r.outer with
    | [] => none
    | (mode, level) :: outer =>
      some { r with mode, level := level.add (r.level.depth + 1), outer }
  | .setting mode => some { r with mode, level := r.level.addSetting }
  | .bar => some { r with level := r.level.split }
  | .repetition => r.level.repeatLast?.map fun level => { r with level }
  | .single => some { r with level := r.level.add 0 }
  | .wordEdge => some { r with level := r.level.add 0, asksForWords := true }
  | .set depth => some { r with level := r.level.add depth }

/-- Takes all parts of a text. -/
def run? (r : Reader) (cs : List Char) : Option Reader :=
  match h : skip r.mode cs with
  | [] => some r
  | c :: rest =>
    match part r.mode c rest with
    | none => none
    | some t =>
      have : t.rest.length < cs.length :=
        Nat.lt_of_lt_of_le t.shorter (length_lt_of_skip_eq_cons h)
      match r.step? t.value with
      | none => none
      | some next => run? next t.rest
termination_by cs.length

end Reader

/-- Whether a pattern is admissible: nothing if it is. -/
def fault? (pattern : String) : Option Fault :=
  match Reader.initial.run? pattern.toList with
  | none => some .malformed
  | some r =>
    if !r.outer.isEmpty || depthLimit < r.level.depth then some .malformed
    -- This comes last, since it is not the pattern that is wrong.
    else if r.asksForWords then some .wordEdge
    else none

end BuildService.Regex
