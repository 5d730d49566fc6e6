import BuildService.Shell.Pattern
/-!
Dividing what an expansion gives into fields.

An expansion is a list of items. A character that stood between quotes neither
ends a field nor has a special meaning; a pair of quotes makes a field even if
there is nothing in it.
-/

set_option autoImplicit false

namespace BuildService.Shell

/-- What an expansion is made of. -/
inductive Item where
  /-- A character: whether it means nothing but itself, and whether a field may end at it. -/
  | char (c : Char) (isLiteral maySplit : Bool)
  /-- A field ends here. -/
  | boundary
  /-- There is a field here, even if nothing is in it. -/
  | mark
  deriving DecidableEq, Repr

def items (s : Raw) (isQuoted : Bool) : List Item := s.map fun c => .char c isQuoted (!isQuoted)

def patternOf (is : List Item) : Pattern :=
  is.filterMap fun
    | .char c isLiteral _ => some (c, isLiteral)
    | _ => none

def textOf (is : List Item) : Raw := (patternOf is).text

/-- What has been split so far: the fields, the last one first, and the current one, reversed. -/
structure Splitting where
  fields : List Pattern
  current : Option Pattern
  /-- Whether a blank ended the last field, so that another separator belongs to the same gap. -/
  isGapOpen : Bool

/-- The current field ends, if there is one. -/
def Splitting.close (s : Splitting) (isGapOpen : Bool) : Splitting :=
  match s.current with
  | some f => ⟨f.reverse :: s.fields, none, isGapOpen⟩
  | none => s

/-- One more item is split. -/
def splitStep (separators : Raw) (s : Splitting) (i : Item) : Splitting :=
  match i with
  | .mark => { s with current := some (s.current.getD []), isGapOpen := false }
  | .boundary => { s.close false with isGapOpen := false }
  | .char c isLiteral maySplit =>
    if maySplit && separators.contains c then
      if c == ' ' || c == '\t' || c == '\n' then s.close true
      else if s.current.isSome then s.close false
      else if s.isGapOpen then { s with isGapOpen := false }
      else { s with fields := [] :: s.fields }
    else { s with current := some ((c, isLiteral) :: s.current.getD []), isGapOpen := false }

def fieldsOf (separators : Raw) (is : List Item) : List Pattern :=
  let s := is.foldl (splitStep separators) ⟨[], none, false⟩
  ((match s.current with
    | some f => f.reverse :: s.fields
    | none => s.fields)).reverse

end BuildService.Shell
