/-
# Search

Both searches ignore case. `find` goes through the visible tree and reports what
matches by name and then which other files match by content; `grep` prints the
lines of one file that match.
-/

import StoryShell.Builtin.Arguments
import StoryShell.Dialog
import StoryShell.Text.Lowercase
import StoryShell.Tree.Walk
import StoryShell.View

namespace StoryShell.Search

/-- Whether a pattern occurs in the name of a node. -/
def matchesName (pattern : String) (located : Located) : Bool :=
  Text.containsIgnoringCase (Path.lastName located.1) pattern

/-- Whether a node is a plain file and a pattern occurs in its content. -/
def matchesContent (pattern : String) (located : Located) : Bool :=
  match located.2 with
  | .file content _ => Text.containsIgnoringCase content pattern
  | .directory _ _ => false
  | .executable _ _ _ => false

/-- How a match by name is reported. -/
def nameReport (located : Located) : String :=
  located.1 ++ if located.2.isDirectory then "/" else ""

/-- How a match by content is reported. -/
def contentReport (located : Located) : String :=
  located.1 ++ " (matches content)"

/-- The reports of a search among nodes: by name first, then by content alone. -/
def reports (pattern : String) (nodes : List Located) : List String :=
  (nodes.filter (matchesName pattern)).map nameReport ++
    (nodes.filter fun located => !matchesName pattern located && matchesContent pattern located).map
      contentReport

/-- Search the visible tree for the first argument. -/
def find (arguments : List String) (view : View) : Except Failure Outcome :=
  match arguments with
  | [] => .error .missingOperand
  | pattern :: _ =>
    match reports pattern (view.tree.descendants false) with
    | [] => .ok (.say ["no matches for '" ++ pattern ++ "'"])
    | found => .ok (.say found)

/-- The lines in which a pattern occurs, each with its position, counted from one. -/
def matchingLines (pattern content : String) : List (Nat × String) :=
  ((Text.lines content).zipIdx 1).filterMap fun (line, position) =>
    if Text.containsIgnoringCase line pattern then some (position, line) else none

/-- How a matching line is printed. -/
def lineReport (numbered : Bool) (found : Nat × String) : String :=
  if numbered then toString found.1 ++ ":" ++ found.2 else found.2

/-- How the search of a file is used. -/
def grepUsage : String := "grep [-n] <pattern> <file>"

/-- Print the lines of the second operand in which the first occurs. -/
def grep (arguments : List String) (view : View) : Except Failure Outcome :=
  match Arguments.unknownOption? ["-n"] arguments with
  | some option => .error (.invalidOption option)
  | none =>
    match Arguments.operands arguments with
    | pattern :: path :: _ => do
      let node ← view.nodeAt path
      match node.content? with
      | none => .error (.isADirectory path)
      | some content =>
        return .say ((matchingLines pattern content).map
          (lineReport (Arguments.gives ["-n"] arguments)))
    | _ => .error (.missingArguments grepUsage)

end StoryShell.Search
