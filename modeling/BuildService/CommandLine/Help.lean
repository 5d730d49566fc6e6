/-!
What the program says about itself.

The help has a short form, a line for every option, and a long form, a paragraph
or more for every option.
-/

set_option autoImplicit false

namespace BuildService.Help

def programName : String := "buildrunner"

/-- The program and its version. -/
def version : String := programName ++ " 0.1.0\n"

/-- What the program is for, and how it is called. -/
def summary : String :=
  "Trigger containerized app builds over HTTP and poll their logs and status.\n\n" ++
    "Usage: " ++ programName ++ " [OPTIONS]\n\nOptions:\n"

/-- What is said to a command line that makes no sense. -/
def hint : String := "error: the arguments make no sense\n\nFor more information, try '--help'.\n"

structure Entry where
  /-- How it is written. -/
  usage : String
  /-- What the short form says of it. -/
  brief : String
  /-- What the long form says of it, paragraph by paragraph. -/
  full : List String

def entries : List Entry := [
  ⟨"    --config <PATH>", "Path to the config file (TOML)",
    ["Path to the config file (TOML).",
      "Default: \x60BuildRunner.toml\x60 in the current working directory if it exists, " ++
        "built-in defaults otherwise."]⟩,
  ⟨"    --bind <ADDR>", "Address to listen on; overrides \x60[server].bind\x60",
    ["Address to listen on; overrides \x60[server].bind\x60"]⟩,
  ⟨"    --log-level <LEVEL>",
    "Logging level (error, warn, info, debug, trace) " ++
      "[possible values: error, warn, info, debug, trace]",
    ["Logging level (error, warn, info, debug, trace).",
      "If omitted, \x60BUILDRUNNER_LOG\x60 or a default level will be used.",
      "[possible values: error, warn, info, debug, trace]"]⟩,
  ⟨"    --dry-run", "Load and validate the config, print the effective settings, exit",
    ["Load and validate the config, print the effective settings, exit"]⟩,
  ⟨"-h, --help", "Print help (see more with '--help')", ["Print help (see a summary with '-h')"]⟩,
  ⟨"-V, --version", "Print version", ["Print version"]⟩]

def blanks (n : Nat) : String := String.ofList (List.replicate n ' ')

/-- The short form. The explanations stand two columns behind the longest option. -/
def short : String :=
  let width := (entries.map (·.usage.length)).foldl max 0
  summary ++ String.join (entries.map fun e =>
    blanks 2 ++ e.usage ++ blanks (width - e.usage.length + 2) ++ e.brief ++ "\n")

/-- The long form. The explanations stand below the options, in the tenth column, which the lines
between the paragraphs reach too. -/
def long : String :=
  let margin := "\n" ++ blanks 10
  summary ++ "\n".intercalate (entries.map fun e =>
    blanks 2 ++ e.usage ++ margin ++ (margin ++ margin).intercalate e.full ++ "\n")

end BuildService.Help
