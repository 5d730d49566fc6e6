import BuildService.Duration
import BuildService.Fault
import BuildService.JobState
/-!
How a build ends, what is recorded of it, and what its log says at the end.

A build ends with an outcome of its tool, or with a fault of the service. Either
way the job gets a terminal state, and the log gets one closing line unless the
build succeeded.
-/

set_option autoImplicit false

namespace BuildService

/-- How the build tool ended. -/
inductive Outcome where
  /-- It exited with code 0. -/
  | success
  /-- It exited with another code; `-1` if a signal ended it. -/
  | failed (code : Int)
  /-- It was killed because its time was up. -/
  | stuck
  /-- It was killed because the service stops. -/
  | cancelled
  deriving DecidableEq, Repr

/-- How a build ended. -/
abbrev BuildResult := Except Fault Outcome

namespace BuildResult

/-- The state that is recorded. -/
def state : BuildResult → JobState
  | .ok .success => .finished
  | .ok .stuck => .stuck
  | .ok (.failed _) => .failed
  | .ok .cancelled => .failed
  | .error _ => .failed

/-- The closing line of the log, if there is one. -/
def trailer (timeout : Duration) : BuildResult → Option String
  | .ok .success => none
  | .ok (.failed code) => some ("[buildrunner] build failed with exit code " ++ toString code)
  | .ok .stuck =>
    some ("[buildrunner] build exceeded timeout of " ++ toString timeout.seconds ++
      "s and was terminated")
  | .ok .cancelled => some "[buildrunner] build cancelled: server shutting down"
  | .error e => some ("[buildrunner] build error: " ++ e.message)

/-- A build never ends in a state that is not terminal. -/
theorem state_isTerminal (r : BuildResult) : (state r).isTerminal := by
  match r with
  | .ok .success => rfl
  | .ok .stuck => rfl
  | .ok (.failed _) => rfl
  | .ok .cancelled => rfl
  | .error _ => rfl

end BuildResult

end BuildService
