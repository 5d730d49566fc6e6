import BuildService.Config.Checked
import BuildService.Disk
/-!
Finding the configuration that a service runs with.

A path that is given must lead to a configuration. Without one, a file of a
fixed name is used if it is there, and the defaults otherwise.
-/

set_option autoImplicit false

namespace BuildService

/-- The file that is looked for if no path is given. -/
def Config.defaultPath : String := "BuildRunner.toml"

/-- Reads the settings of a file, unchecked. -/
def RawConfig.load (d : Disk) (path : String) : Except Fault RawConfig :=
  match d.readText path with
  | .error e => .error (.io e)
  | .ok text =>
    match RawConfig.ofText? text with
    | some raw => .ok raw
    | none => .error .document

/-- Settings that have been checked; what is wrong with them is a matter of the configuration. -/
def Config.ofRaw (raw : RawConfig) : Except Fault Config :=
  match raw.check with
  | .ok c => .ok c
  | .error e => .error (.configuration e.message)

def Config.load (d : Disk) (path : String) : Except Fault Config :=
  match RawConfig.load d path with
  | .error e => .error e
  | .ok raw => Config.ofRaw raw

/-- Whether the file that is looked for is there. -/
def Config.hasDefault (d : Disk) : Bool := d.isFile Config.defaultPath

/-- The configuration of a path, or of the file that is looked for, or the defaults. -/
def Config.loadOrDefault (d : Disk) : Option String → Except Fault Config
  | some path => Config.load d path
  | none =>
    if Config.hasDefault d then Config.load d Config.defaultPath
    else Config.ofRaw RawConfig.default

end BuildService
