import BuildService.IoFault
/-!
What can go wrong in the service, and how it is worded.

A fault is a cause, not a text. Where the wording needs more than the cause,
such as the program that could not be started, the constructor carries it.
-/

set_option autoImplicit false

namespace BuildService

/-- The fields of a build request. -/
inductive Field where
  | url
  | appEnv
  | projectToken
  | projectId
  | styleUrl
  | appName
  | packageName
  deriving DecidableEq, Repr

namespace Field

/-- The fields in the order in which a request lists them. -/
def all : List Field :=
  [.url, .appEnv, .projectToken, .projectId, .styleUrl, .appName, .packageName]

def name : Field → String
  | .url => "url"
  | .appEnv => "app_env"
  | .projectToken => "socket_project_token"
  | .projectId => "socket_project_id"
  | .styleUrl => "style_url"
  | .appName => "app_name"
  | .packageName => "app_package_name"

/-- The second name under which a field is accepted; the first field has only one. -/
def alias? : Field → Option String
  | .url => none
  | .appEnv => some "appEnv"
  | .projectToken => some "projectToken"
  | .projectId => some "projectId"
  | .styleUrl => some "styleUrl"
  | .appName => some "appName"
  | .packageName => some "appPackageName"

/-- The field that a member name stands for. -/
def ofMember? (s : String) : Option Field :=
  all.find? fun f => f.name == s || f.alias? == some s

end Field

/-- The causes for which the service refuses or gives up. -/
inductive Fault where
  /-- A setting makes no sense. -/
  | configuration (reason : String)
  /-- A file or a directory could not be used. -/
  | io (cause : IoFault)
  /-- The configuration file is no well-formed document of the expected shape. -/
  | document
  /-- No platform has this name. -/
  | invalidPlatform (name : String)
  /-- The platform exists but cannot be built. -/
  | unsupportedPlatform (name : String)
  /-- A field of a request is outside its allow-list. -/
  | invalidField (field : Field) (reason : String)
  /-- The project's latest build has not ended yet. -/
  | alreadyRunning (project : String)
  /-- The build tool could not be started. -/
  | spawn (program : String) (cause : IoFault)
  /-- Anything else, in the words of whoever reported it. -/
  | other (text : String)
  deriving DecidableEq, Repr

namespace Fault

def message : Fault → String
  | .configuration reason => "Configuration error: " ++ reason
  | .io cause => "IO error: " ++ cause.message
  | .document => "TOML parsing error"
  | .invalidPlatform name => "Invalid platform '" ++ name ++ "'. Use 'android' or 'ios'."
  | .unsupportedPlatform _ => "Only Android builds are supported at the moment."
  | .invalidField field reason => "Invalid field '" ++ field.name ++ "': " ++ reason
  | .alreadyRunning project => "A build for project " ++ project ++ " is already running"
  | .spawn program cause => "Failed to spawn '" ++ program ++ "': " ++ cause.message
  | .other text => text

end Fault

end BuildService
