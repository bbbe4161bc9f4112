/-
# Completion

Completing a line replaces its last word when exactly one candidate fits. The
first word is completed to a command name, and a later one to an entry of the
directory it points into. Hidden entries fit only a word whose last name starts
with a dot. While a question is pending nothing is completed.
-/

import StoryShell.Terminal

namespace StoryShell

/-- The characters of a line up to and including the last blank one, and those after it. -/
def Words.cutLast (line : List Char) : List Char × List Char :=
  let word := (line.reverse.takeWhile (!Text.isBlank ·)).reverse
  (line.take (line.length - word.length), word)

/-- The characters of a path up to and including the last slash, and those after it. -/
def Path.cutLast (path : List Char) : List Char × List Char :=
  let name := (path.reverse.takeWhile (· != '/')).reverse
  (path.take (path.length - name.length), name)

namespace Terminal

/-- Whether an entry of a directory fits the beginning of a name. -/
def fits (start : String) (entry : String × Node) : Bool :=
  Text.startsWith entry.1 start && (Text.startsWith start "." || !entry.2.isHidden)

/-- The entries that a word may be completed to, each with the directory as it was typed. -/
def pathCandidates (terminal : Terminal) (word : String) : List String :=
  let (typed, start) := Path.cutLast word.toList
  let directory := String.ofList typed
  match terminal.state.tree.list (terminal.view.resolve directory) with
  | .error _ => []
  | .ok children =>
    (children.filter (fits (String.ofList start))).map fun entry => directory ++ entry.1

/-- What the last word of a line may be completed to. -/
def candidates (terminal : Terminal) (head word : String) : List String :=
  if Text.allBlank head then terminal.table.completions word else terminal.pathCandidates word

/-- The line with its last word completed, if there is one way to do so. -/
def complete (terminal : Terminal) (line : String) : String :=
  if terminal.isAwaiting then line
  else
    let (head, word) := Words.cutLast line.toList
    match terminal.candidates (String.ofList head) (String.ofList word) with
    | [only] => String.ofList head ++ only
    | _ => line

end Terminal

end StoryShell
