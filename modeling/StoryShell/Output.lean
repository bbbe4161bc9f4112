/-
# Output lines

What a terminal prints is a list of lines, each with a kind that tells the
surface around it how to show the line. One submitted line yields one batch.
-/

import StoryShell.Text.Pieces

namespace StoryShell

/-- How a line is to be shown. -/
inductive OutputKind
  /-- What a command prints. -/
  | system
  /-- A report of failure. -/
  | error
  /-- The typed command, after the current directory. -/
  | commandEcho
  /-- The typed answer to a question, after the question. -/
  | inputEcho
  deriving DecidableEq, Repr

/-- The name of a kind, as written in records. -/
def OutputKind.label : OutputKind → String
  | .system => "system"
  | .error => "error"
  | .commandEcho => "command-echo"
  | .inputEcho => "input-echo"

/-- One line of output. -/
structure OutputLine where
  kind : OutputKind
  text : String
  deriving DecidableEq, Repr

namespace OutputLine

/-- A line that a command prints. -/
def system (text : String) : OutputLine := ⟨.system, text⟩

/-- A line that reports a failure. -/
def error (text : String) : OutputLine := ⟨.error, text⟩

/-- Whether the line repeats what was typed. -/
def isEcho (line : OutputLine) : Bool :=
  line.kind = .commandEcho || line.kind = .inputEcho

end OutputLine

/-- The lines that one submission prints, in order. -/
abbrev Batch := List OutputLine

namespace Batch

/-- A text as system lines, one for each line of the text. -/
def ofText (text : String) : Batch :=
  (Text.lines text).map OutputLine.system

/-- The texts of the lines of one kind, in order. -/
def textsOf (batch : Batch) (kind : OutputKind) : List String :=
  (batch.filter (·.kind = kind)).map (·.text)

/-- Whether some line reports a failure. -/
def hasError (batch : Batch) : Bool :=
  batch.any (·.kind = .error)

end Batch

end StoryShell
