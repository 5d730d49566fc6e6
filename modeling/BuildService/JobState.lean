/-!
The state of the latest build of a project.

A job runs and then ends in one of three ways. `unknown` is the answer for a
project that was never built; no job is ever in that state.
-/

set_option autoImplicit false

namespace BuildService

/-- What is known of the latest build of a project. -/
inductive JobState where
  | running
  | finished
  | failed
  | stuck
  | unknown
  deriving DecidableEq, Repr

namespace JobState

def name : JobState → String
  | .running => "running"
  | .finished => "finished"
  | .failed => "failed"
  | .stuck => "stuck"
  | .unknown => "unknown"

def all : List JobState := [.running, .finished, .failed, .stuck, .unknown]

def ofName? (s : String) : Option JobState := all.find? (·.name == s)

/-- The three ways in which a job ends. -/
def isTerminal : JobState → Bool
  | .finished | .failed | .stuck => true
  | .running | .unknown => false

end JobState

end BuildService
