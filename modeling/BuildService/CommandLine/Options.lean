import BuildService.LogLevel
import BuildService.SocketAddress
/-!
The command line of the service.

Three options take a value, which stands behind an equals sign or is the next
argument; one is a switch. Arguments are read from left to right, and a value is
looked at when the next option begins or the line ends. So of two faults the one
that is met first in this way decides: an unknown argument wins over a bad value
right in front of it.
-/

set_option autoImplicit false

namespace BuildService

/-- What a command line asks for. -/
structure Options where
  config : Option String
  bind : Option SocketAddress
  logLevel : Option LogLevel
  dryRun : Bool
  deriving DecidableEq, Repr

namespace Options

/-- Nothing is asked for. -/
def empty : Options := ⟨none, none, none, false⟩

/-- The options that take a value. -/
inductive Key where
  | config
  | bind
  | logLevel
  deriving DecidableEq, Repr

/-- Why a command line is refused. -/
inductive Refusal where
  /-- There is no such argument. -/
  | unknown
  /-- A value is missing, empty or not one of the possible ones. -/
  | value
  /-- A value is no address. -/
  | address
  /-- A switch is given a value. -/
  | surplus
  /-- An option is given twice. -/
  | repeated
  deriving DecidableEq, Repr

/-- Why reading a command line ends before its last argument. -/
inductive Stop where
  | refused (r : Refusal)
  /-- The help is asked for, in its long or in its short form. -/
  | help (long : Bool)
  | version
  deriving DecidableEq, Repr

/-- The names behind two dashes. -/
inductive LongName where
  | key (k : Key)
  | dryRun
  | help
  | version
  deriving DecidableEq, Repr

/-- What a name behind two dashes stands for. -/
def longName? (s : String) : Option LongName :=
  if s = "config" then some (.key .config)
  else if s = "bind" then some (.key .bind)
  else if s = "log-level" then some (.key .logLevel)
  else if s = "dry-run" then some .dryRun
  else if s = "help" then some .help
  else if s = "version" then some .version
  else none

/-- The levels that can be asked for. -/
def levels : List LogLevel := [.error, .warn, .info, .debug, .trace]

def has (o : Options) : Key → Bool
  | .config => o.config.isSome
  | .bind => o.bind.isSome
  | .logLevel => o.logLevel.isSome

/-- Takes the value of an option. -/
def take (o : Options) (k : Key) (value : String) : Except Stop Options :=
  if o.has k then .error (.refused .repeated)
  else match k with
    | .config =>
      if value.isEmpty then .error (.refused .value) else .ok { o with config := some value }
    | .bind =>
      match SocketAddress.parse? value with
      | some a => .ok { o with bind := some a }
      | none => .error (.refused .address)
    | .logLevel =>
      match levels.find? (·.name == value) with
      | some l => .ok { o with logLevel := some l }
      | none => .error (.refused .value)

/-- Where a reader of a command line stands. -/
structure Reader where
  options : Options
  /-- The option that began last, with its value if there is one, as long as the value has not been
  looked at. -/
  pending : Option (Key × Option String)
  /-- Whether the rest of the line can hold no options. -/
  ended : Bool

namespace Reader

def start : Reader := ⟨Options.empty, none, false⟩

/-- Looks at the value of the option that began last. -/
def settle (r : Reader) : Except Stop Options :=
  match r.pending with
  | none => .ok r.options
  | some (_, none) => .error (.refused .value)
  | some (k, some v) => r.options.take k v

/-- Reads an option with two dashes, with the value behind its equals sign if it has one. -/
def long (r : Reader) (name : String) (value : Option String) : Except Stop Reader :=
  match longName? name, value with
  | none, _ => .error (.refused .unknown)
  -- The option before this one is looked at first.
  | some (.key k), some v => do
    .ok { r with options := ← (← r.settle).take k v, pending := none }
  | some (.key k), none => do
    .ok { r with options := ← r.settle, pending := some (k, none) }
  | some _, some _ => .error (.refused .surplus)
  | some .dryRun, none => do
    let o ← r.settle
    if o.dryRun then .error (.refused .repeated)
    else .ok { r with options := { o with dryRun := true }, pending := none }
  | some .help, none => do
    let _ ← r.settle
    .error (.help true)
  | some .version, none => do
    let _ ← r.settle
    .error .version

/-- Reads letters behind one dash. The first one decides. -/
def short (r : Reader) (letter : Char) : Except Stop Reader :=
  if letter = 'h' then do
    let _ ← r.settle
    .error (.help false)
  else if letter = 'V' then do
    let _ ← r.settle
    .error .version
  else .error (.refused .unknown)

/-- Reads an argument that begins with no dash, or is only a dash. -/
def plain (r : Reader) (argument : String) : Except Stop Reader :=
  match r.pending with
  -- It is taken as it stands, and looked at when the next option begins.
  | some (k, none) => .ok { r with pending := some (k, some argument) }
  | _ => .error (.refused .unknown)

/-- Reads one argument. -/
def step (r : Reader) (argument : String) : Except Stop Reader :=
  if r.ended then .error (.refused .unknown)
  else match argument.toList with
    | ['-', '-'] => .ok { r with ended := true }
    | '-' :: '-' :: rest =>
      let name := String.ofList (rest.takeWhile (· != '='))
      let value := match rest.dropWhile (· != '=') with
        | _ :: v => some (String.ofList v)
        | [] => none
      r.long name value
    | '-' :: letter :: _ => r.short letter
    | _ => r.plain argument

end Reader

/-- Reads a command line, without the name of the program. -/
def parse (args : List String) : Except Stop Options := do
  (← args.foldlM Reader.step Reader.start).settle

end Options

end BuildService
