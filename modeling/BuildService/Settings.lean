import BuildService.Duration
import BuildService.Request
/-!
The settings of a service, and the command that a request turns into.

Every build runs the same program with the same arguments in the same directory.
What differs between two builds is the label, which is the project id, and the
values of seven variables, one for each field of the request.
-/

set_option autoImplicit false

namespace BuildService

/-- What the builds of a service have in common. -/
structure Settings where
  program : String
  args : List String
  workingDir : String
  logsDir : String
  timeout : Duration
  maxBuilds : Nat
  deriving DecidableEq, Repr, Inhabited

/-- A program to run, without a shell in between. The variables come on top of those that the
service itself has. -/
structure Command where
  label : String
  program : String
  args : List String
  workingDir : Option String
  environment : List (String × String)
  deriving DecidableEq, Repr, Inhabited

/-- The variable that holds the value of a field. -/
def Field.variable : Field → String
  | .url => "URL"
  | .appEnv => "APP_ENV"
  | .projectToken => "SOCKET_PROJECT_TOKEN"
  | .projectId => "SOCKET_PROJECT_ID"
  | .styleUrl => "styleURL"
  | .appName => "APP_NAME"
  | .packageName => "APP_PACKAGE_NAME"

/-- The variables of a request, in the order of its fields. -/
def Request.environment (r : Request) : List (String × String) :=
  Field.all.map fun f => (f.variable, r.get f)

/-- The command that builds a request. -/
def Settings.command (s : Settings) (r : Request) : Command where
  label := r.projectId
  program := s.program
  args := s.args
  workingDir := some s.workingDir
  environment := r.environment

end BuildService
