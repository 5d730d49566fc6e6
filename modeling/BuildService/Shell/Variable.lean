import BuildService.Shell.Field
import BuildService.Shell.Format
import BuildService.Shell.Machine
import BuildService.Shell.Reader
/-!
Variables of a shell, and the values that stand for the shell itself.

A variable may be fixed for good, and a function may hide a variable until it is
left.
-/

set_option autoImplicit false

namespace BuildService.Shell

open Act

def giveUp (line : Nat) (message : String) : Act Unit := do
  let p ← self
  complain (Raw.text p.name ++ ": " ++ toString line ++ ": " ++ message)
  setSelf fun p => { p with status := 2, halted := some .leave }

/-- What separates fields. -/
def separators : Act Raw := do return (← value? "IFS".toList).getD [' ', '\t', '\n']

/-- The letters of options, in the order in which they are shown. -/
def shownOptions : List Char := "ubaCEVvxsnmiIfe".toList

/-- The value of a variable or of one of the shell's own values. -/
def valueOf (name : Raw) : Act (Option Raw) := do
  let p ← self
  match name with
  | ['#'] => return some (toString p.args.length).toList
  | ['?'] => return some (toString p.status).toList
  | ['$'] => return some (toString p.shellPid).toList
  | ['!'] => return p.lastJob.map fun n => (toString n).toList
  | ['-'] => return some (shownOptions.filter p.options.contains)
  | ['@'] => return if p.args.isEmpty then none else some ([' '].intercalate p.args)
  | ['*'] => return if p.args.isEmpty then none else some ([' '].intercalate p.args)
  | ['0'] => return some p.name
  | _ =>
    if name.all Char.isDigit then return p.args[Format.decimal name - 1]?
    else value? name

/-- The items of all arguments. -/
def argumentItems (isQuoted isJoined : Bool) : Act (List Item) := do
  let p ← self
  if isJoined && isQuoted then
    -- The first separator joins them; if there are none, nothing does.
    let join := ((← separators).head?.map fun c => [c]).getD []
    return .mark :: items (join.intercalate p.args) true
  else
    return [Item.boundary].intercalate (p.args.map fun a =>
      if isQuoted then .mark :: items a true else items a false)

/-- Gives a variable a value. A fixed one ends the script; `label` says which command tried. -/
def assign (line : Nat) (label : String) (name value : Raw) : Act Unit := do
  if (← self).fixed.contains name then
    giveUp line (label ++ Raw.text name ++ ": is read only")
  else setVariable name value

/-- Declares variables, with their values if there are any. Something is done with each of them
before and after it gets its value. -/
def declareAll (line : Nat) (label : String) (args : List Raw) (before after : Raw → Act Unit) :
    Act Unit := do
  for a in args do
    let name := a.takeWhile (· != '=')
    if (← self).halted.isNone then
      if Reader.isName name then
        before name
        match a.drop name.length with
        | _ :: value => assign line label name value
        | [] => pure ()
        after name
      else giveUp line (label ++ Raw.text name ++ ": bad variable name")

/-- Keeps a variable as it is for good. -/
def fixVariable (name : Raw) : Act Unit :=
  setSelf fun p => { p with fixed := name :: p.fixed.filter (· != name) }

/-- Notes the value that a variable gets back when the function is left. -/
def hideVariable (name : Raw) : Act Unit :=
  setSelf fun p => { p with
    hidden := p.hidden.map fun hs =>
      -- The first value that was hidden is the one of the caller.
      if hs.any (·.1 == name) then hs else (name, p.bindings.lookup name) :: hs }

/-- Calls a function: its arguments take the place of others, and what it hides comes back. -/
def inFunction (args : List Raw) (body : Act Flow) : Act Flow := do
  let caller ← self
  -- The loops around the call cannot be left from inside.
  setSelf fun p => { p with args := args, hidden := some [], loops := 0 }
  let flow ← body
  for (name, value) in (← self).hidden.getD [] do
    match value with
    | some v => setVariable name v
    | none => dropVariable name
  setSelf fun p => { p with args := caller.args, hidden := caller.hidden, loops := caller.loops }
  return if flow = .back then .next else flow

/-- Does something whose failure is asked for. -/
def guarded (body : Act Flow) : Act Flow := do
  let before := (← self).isGuarded
  setSelf fun p => { p with isGuarded := true }
  let flow ← body
  setSelf fun p => { p with isGuarded := before }
  return flow

def inLoop (body : Act Flow) : Act Flow := do
  let loops := (← self).loops
  setSelf fun p => { p with loops := loops + 1 }
  let flow ← body
  setSelf fun p => { p with loops := loops }
  return flow

end BuildService.Shell
