import BuildService.Shell.Format
import BuildService.Supervision
/-!
Signals: their numbers, their names, and what they do to a process.

A signal ends a process unless it is one of those that are passed over or that
make a process stand still.
-/

set_option autoImplicit false

namespace BuildService.Shell

/-- The number of a signal; 0 stands for the end of a shell. -/
abbrev Signal := Nat

namespace Signal

/-- The names of the signals, from 0 on. -/
def names : List String := [
  "EXIT", "HUP", "INT", "QUIT", "ILL", "TRAP", "ABRT", "BUS", "FPE", "KILL", "USR1", "SEGV",
  "USR2", "PIPE", "ALRM", "TERM", "STKFLT", "CHLD", "CONT", "STOP", "TSTP", "TTIN", "TTOU", "URG",
  "XCPU", "XFSZ", "VTALRM", "PROF", "WINCH", "IO", "PWR", "SYS"]

def name (n : Signal) : String := names[n]?.getD (toString n)

def kill : Signal := 9

/-- The signal that asks a process to end. -/
def terminate : Signal := 15

/-- A signal by its number or its name. -/
def ofText? (s : Raw) : Option Signal :=
  if s.isEmpty then none
  else if s.all Char.isDigit then
    let n := Format.decimal s
    if n < 65 then some n else none
  else
    let s := String.ofList (if "SIG".toList.isPrefixOf s then s.drop 3 else s)
    if names.contains s then some (names.idxOf s) else none

/-- Whether a process passes over a signal that it knows nothing of. -/
def isPassedOver (n : Signal) : Bool := [0, 17, 18, 23, 28].contains n

/-- Whether a signal makes a process stand still. -/
def isStop (n : Signal) : Bool := [19, 20, 21, 22].contains n

/-- What is said when a signal has ended a command; of two signals nothing is said. -/
def text? (n : Signal) : Option String :=
  let texts := [
    "", "Hangup", "", "Quit", "Illegal instruction", "Trace/breakpoint trap", "Aborted",
    "Bus error", "Floating point exception", "Killed", "User defined signal 1",
    "Segmentation fault", "User defined signal 2", "", "Alarm clock", "Terminated",
    "Stack fault", "", "", "", "", "", "", "", "CPU time limit exceeded",
    "File size limit exceeded", "Virtual timer expired", "Profiling timer expired", "",
    "I/O possible", "Power failure", "Bad system call"]
  match texts[n]? with
  | some s => if s.isEmpty then none else some s
  | none => some ("Unknown signal " ++ toString n)

end Signal

/-- The status by which a shell knows an ending. -/
def statusOfEnding : ExitStatus → Nat
  | .code n => n
  | .signal n => 128 + n

end BuildService.Shell
