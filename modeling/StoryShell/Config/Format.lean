/-
# Formats of configuration files

How a configuration is written down is left open here: a format says which
configuration a text describes, if it describes one. A text is refused as malformed
when it describes none, and as rejected when the one it describes is not accepted.
-/

import StoryShell.Config.Basic

namespace StoryShell.Config

/-- The format that configuration files are written in. -/
class Format where
  /-- The configuration that a text describes, accepted or not. -/
  read? : String → Option Config

/-- Why a configuration file is refused. -/
inductive Fault
  | malformed
  | rejected (failure : Failure)
  deriving DecidableEq, Repr

/-- The accepted configuration that the text of a file describes. -/
def ofText [Format] (text : String) : Except Fault Config :=
  match Format.read? text with
  | none => .error .malformed
  | some config => config.validate.mapError .rejected

end StoryShell.Config
