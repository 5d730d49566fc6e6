import BuildService.Toml.Document
/-!
A configuration as it is written.

Every key has a default, and a document overrides exactly the keys that it
names. Keys and tables that the service does not know are passed over. Nothing
is checked here but the kind of each value.

A default is used in two ways: for a key that is missing in a section, and for
all keys of a section that is missing as a whole.
-/

set_option autoImplicit false

namespace BuildService

/-- The section `[server]`. -/
structure ServerSection where
  bind : String
  deriving DecidableEq, Repr, Inhabited

/-- The section `[build]`. -/
structure BuildSection where
  command : List String
  workingDir : String
  logsDir : String
  timeout : String
  maxBuilds : Nat
  deriving DecidableEq, Repr, Inhabited

/-- The settings of a configuration file, unchecked. -/
structure RawConfig extends ServerSection, BuildSection
  deriving DecidableEq, Repr, Inhabited

open Toml

namespace RawConfig

/-! ## Kinds of values -/

def asString? : Value → Option String
  | .string s => some s
  | _ => none

def asStrings? : Value → Option (List String)
  | .array vs => vs.mapM asString?
  | .tables vs => vs.mapM asString?
  | _ => none

/-- A number of builds, which fits 64 bits. -/
def asCount? : Value → Option Nat
  | .integer n => if 0 ≤ n ∧ n < (UInt64.size : Int) then some n.toNat else none
  | _ => none

/-- What stands for a key, or its default if nothing does; a value of another kind is refused. -/
def keyOr {α : Type} (read : Value → Option α) (v? : Option Value) (default : α) : Option α :=
  match v? with
  | none => some default
  | some v => read v

/-- The values of a section, in the order of its keys. A section is a table, or a list of the
values of its keys in their order, of which the last ones may be missing. -/
def sectionValues? (keys : List String) : Value → Option (List (Option Value))
  | .table _ es => some (keys.map (Entries.get? es ·))
  | .array vs => some ((List.range keys.length).map (vs[·]?))
  | .tables vs => some ((List.range keys.length).map (vs[·]?))
  | _ => none

end RawConfig

open RawConfig

/-! ## The section `[server]` -/

namespace ServerSection

def defaultBind : String := "0.0.0.0:8000"

/-- The section if a document has none. -/
def default : ServerSection where
  bind := defaultBind

/-- The section of a document; a key that is missing has its default. -/
def ofValue? (v : Value) : Option ServerSection := do
  let [bind] ← sectionValues? ["bind"] v | none
  some { bind := ← keyOr asString? bind defaultBind }

end ServerSection

/-! ## The section `[build]` -/

namespace BuildSection

def defaultCommand : List String := ["docker", "compose", "up", "--build"]

def defaultWorkingDir : String := "sdufReactNative"

def defaultLogsDir : String := "logs"

def defaultTimeout : String := "1h"

def defaultMaxBuilds : Nat := 2

/-- The section if a document has none. -/
def default : BuildSection where
  command := defaultCommand
  workingDir := defaultWorkingDir
  logsDir := defaultLogsDir
  timeout := defaultTimeout
  maxBuilds := defaultMaxBuilds

/-- The keys of the section. -/
def keys : List String := ["command", "working_dir", "logs_dir", "timeout", "max_concurrent_builds"]

/-- The section of a document; a key that is missing has its default. -/
def ofValue? (v : Value) : Option BuildSection := do
  let [command, workingDir, logsDir, timeout, maxBuilds] ← sectionValues? keys v | none
  some {
    command := ← keyOr asStrings? command defaultCommand
    workingDir := ← keyOr asString? workingDir defaultWorkingDir
    logsDir := ← keyOr asString? logsDir defaultLogsDir
    timeout := ← keyOr asString? timeout defaultTimeout
    maxBuilds := ← keyOr asCount? maxBuilds defaultMaxBuilds }

end BuildSection

/-! ## The whole document -/

namespace RawConfig

/-- The settings of a service without a configuration file. -/
def default : RawConfig where
  toServerSection := .default
  toBuildSection := .default

/-- The settings that a document names, and defaults for the others. -/
def ofEntries? (es : Entries) : Option RawConfig := do
  let server ← keyOr ServerSection.ofValue? (es.get? "server") .default
  let build ← keyOr BuildSection.ofValue? (es.get? "build") .default
  some { toServerSection := server, toBuildSection := build }

def ofText? (s : String) : Option RawConfig := (parse? s).bind ofEntries?

end RawConfig

end BuildService
