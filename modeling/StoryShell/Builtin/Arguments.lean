/-
# Reading arguments

An argument is written as an option when it starts with a dash and is not a lone
dash. Options may stand anywhere; the other arguments are operands and keep their
order. A command that takes options refuses the first one it does not know.
-/

import StoryShell.Text.Pieces

namespace StoryShell.Arguments

/-- Whether an argument is written as an option. -/
def isOption (argument : String) : Bool :=
  Text.startsWith argument "-" && argument ≠ "-"

/-- The first option that is none of the known ones. -/
def unknownOption? (known arguments : List String) : Option String :=
  arguments.find? fun argument => isOption argument && !known.contains argument

/-- Whether one of some options is given. -/
def gives (options arguments : List String) : Bool :=
  arguments.any options.contains

/-- The arguments that are not options. -/
def operands (arguments : List String) : List String :=
  arguments.filter fun argument => !isOption argument

end StoryShell.Arguments
