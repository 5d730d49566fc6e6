import BuildService.Config.Raw
import BuildService.Settings
import BuildService.SocketAddress
/-!
A configuration that makes sense.

The settings are looked at in a fixed order and the first one that fails is
reported. A configuration that passes can be served as it stands.
-/

set_option autoImplicit false

namespace BuildService

/-- What a service runs with. -/
structure Config where
  bind : SocketAddress
  build : Settings
  deriving DecidableEq, Repr

/-- Why a configuration makes no sense. -/
inductive ConfigFault where
  /-- The address, as it was written, is none. -/
  | bind (text : String)
  /-- The name of the program is blank. -/
  | blankProgram
  /-- There is no program. -/
  | noProgram
  /-- The time limit is no duration. -/
  | timeout (cause : Duration.Fault)
  /-- The time limit is zero. -/
  | zeroTimeout
  /-- No build may run. -/
  | noBuilds
  deriving DecidableEq, Repr

def ConfigFault.message : ConfigFault → String
  | .bind s =>
    "[server].bind must be a socket address like \"0.0.0.0:8000\" (got '" ++ s ++
      "': invalid socket address syntax)"
  | .blankProgram => "[build].command must start with a non-empty program name"
  | .noProgram => "[build].command must not be empty"
  | .timeout cause => "[build].timeout: " ++ cause.message
  | .zeroTimeout => "[build].timeout must be greater than zero"
  | .noBuilds => "[build].max_concurrent_builds must be >= 1 (got 0)"

namespace RawConfig

/-- The address, with blanks around it dropped. -/
def checkBind (bind : String) : Except ConfigFault SocketAddress :=
  match SocketAddress.parse? (Text.trim bind) with
  | some a => .ok a
  | none => .error (.bind bind)

def checkCommand : List String → Except ConfigFault (String × List String)
  | [] => .error .noProgram
  | p :: args => if (Text.trimmed p.toList).isEmpty then .error .blankProgram else .ok (p, args)

def checkTimeout (s : String) : Except ConfigFault Duration :=
  match Duration.parse s with
  | .error e => .error (.timeout e)
  | .ok d => if d.millis = 0 then .error .zeroTimeout else .ok d

def checkMaxBuilds (n : Nat) : Except ConfigFault Nat :=
  if n = 0 then .error .noBuilds else .ok n

/-- Checks the settings in their order. -/
def check (raw : RawConfig) : Except ConfigFault Config := do
  let bind ← checkBind raw.bind
  let (program, args) ← checkCommand raw.command
  let timeout ← checkTimeout raw.timeout
  let maxBuilds ← checkMaxBuilds raw.maxBuilds
  .ok { bind, build := { program, args, workingDir := raw.workingDir, logsDir := raw.logsDir,
                         timeout, maxBuilds } }

end RawConfig

end BuildService
