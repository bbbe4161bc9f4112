/-
# Command line options

The arguments are read from left to right. The argument after `--config` is its
value, whatever it looks like. The first argument that asks for help or cannot be
understood decides the run by itself; otherwise the last `--config` counts, and
then the environment.
-/

namespace StoryShell.Cli

/-- How a run is set up. -/
structure Options where
  /-- The configuration file. -/
  config : Option String := none
  /-- Whether output lines are written as records. -/
  records : Bool := false
  deriving DecidableEq, Repr

/-- What the arguments ask for. -/
inductive Request
  | help
  | refuse (problem : String)
  | run (options : Options)
  deriving DecidableEq, Repr

/-- The configuration file that is asked for. -/
def Request.file? : Request → Option String
  | run options => options.config
  | help | refuse _ => none

/-- The line that tells how the program is used. -/
def usage : String := "usage: veneer [--config <path>] [--json]"

/-- Read the rest of the arguments, given the options so far. -/
def readArguments (options : Options) : List String → Request
  | [] => .run options
  | "--json" :: rest => readArguments { options with records := true } rest
  | ["--config"] => .refuse "--config needs a path"
  | "--config" :: path :: rest => readArguments { options with config := some path } rest
  | "-h" :: _ => .help
  | "--help" :: _ => .help
  | other :: _ => .refuse ("unknown argument: " ++ other ++ "\n" ++ usage)

/-- What the arguments ask for, given the configuration file that the environment names. -/
def Request.ofArguments (environment : Option String) (arguments : List String) : Request :=
  match readArguments {} arguments with
  | run options => run { options with config := options.config <|> environment }
  | request => request

end StoryShell.Cli
