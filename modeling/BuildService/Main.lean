import BuildService.Program
/-!
The command line of the program.

The configuration file is read before anything else, so that what the program
does is a function of its arguments, one environment variable and that file. A
machine without sockets is taken for granted here: a program that would serve
ends as one that cannot listen.
-/

set_option autoImplicit false

namespace BuildService.Program

/-- The path of the configuration that the arguments ask for. -/
def configurationPath (args : List String) : String :=
  match Options.parse args with
  | .ok o => o.config.getD Config.defaultPath
  | .error _ => Config.defaultPath

/-- A disk that holds one file of the machine, if that can be read. -/
def diskWith (path : String) : IO Disk := do
  try
    let bytes ← IO.FS.readBinFile path
    return (Disk.initial.putFile path bytes.toList false).toOption.getD Disk.initial
  catch
    | .inappropriateType .. => return (Disk.initial.makeDirs path).toOption.getD Disk.initial
    | _ => return Disk.initial

/-- An ending as it is on a machine without sockets. -/
def Ending.withoutSockets : Ending → Ending
  | .serving address _ => .failed (.bind address (.system 38))
  | other => other

end BuildService.Program

open BuildService in
/-- Runs the program. What it reports and why it fails goes to the error output. -/
def main (args : List String) : IO UInt32 := do
  let disk ← Program.diskWith (Program.configurationPath args)
  let run := Program.run args (← IO.getEnv Event.filterVariable) disk
  IO.print run.output
  run.log.forM IO.eprintln
  let ending := run.ending.withoutSockets
  match ending with
  | .usage => IO.eprint Help.hint
  | .failed f => IO.eprintln (Help.programName ++ " error: " ++ f.message)
  | .broken cause => IO.eprintln cause.message
  | _ => pure ()
  return ending.code.toUInt32
