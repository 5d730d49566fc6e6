import BuildService.Settings
/-!
Settings and requests to try the service with.

A sample is valid as it stands, and is changed one value at a time.
-/

set_option autoImplicit false

namespace BuildService

namespace Settings

/-- Settings that run a shell with nothing to do. -/
def sample (logsDir : String) : Settings where
  program := "sh"
  args := ["-c", "true"]
  workingDir := "."
  logsDir := logsDir
  timeout := .ofSeconds 5
  maxBuilds := 4

def withShell (s : Settings) (script : String) : Settings :=
  { s with program := "sh", args := ["-c", script] }

end Settings

namespace Request

/-- A valid request for a project. -/
def sample (project : String) : Request where
  url := "https://api.example.com"
  appEnv := "production"
  projectToken := "tok_abc123"
  projectId := project
  styleUrl := "https://maps.example.com/style.json"
  appName := "Example App"
  packageName := "com.example.app"

def setField (r : Request) (f : Field) (value : String) : Request :=
  ofValues fun g => if g = f then value else r.get g

/-- The request as an object whose values stand between quotes just as they are. It reads back as
the request if no value holds a character that a string would have to escape. -/
def plainJson (r : Request) : String :=
  "\x7b" ++ ",".intercalate (Field.all.map fun f => "\"" ++ f.name ++ "\":\"" ++ r.get f ++ "\"") ++
    "\x7d"

end Request

end BuildService
