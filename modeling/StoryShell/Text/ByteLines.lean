/-
# Lines of a byte stream

A byte stream is cut into lines at line feeds; one carriage return before a line
feed is dropped with it, and a last line needs no line feed. A line that is not
UTF-8 has no text.
-/

import StoryShell.Text.Pieces

namespace StoryShell.Text

/-- A line of bytes, without its line feed. -/
structure RawLine where
  bytes : List UInt8
  /-- Whether a line feed ended the line. -/
  ended : Bool
  deriving DecidableEq, Repr

/-- The lines between the pieces of a byte stream cut at line feeds. -/
def rawLinesOf : List (List UInt8) → List RawLine
  | [] => []
  | [last] => if last = [] then [] else [⟨last, false⟩]
  | bytes :: rest => ⟨bytes, true⟩ :: rawLinesOf rest

/-- The lines of a byte stream. -/
def rawLines (bytes : List UInt8) : List RawLine :=
  rawLinesOf (bytes.splitOn 10)

/-- The text of a line, if it is UTF-8. -/
def RawLine.text? (line : RawLine) : Option String :=
  (String.fromUTF8? ⟨line.bytes.toArray⟩).map fun text =>
    if line.ended then dropReturn text else text

end StoryShell.Text
