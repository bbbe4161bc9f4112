/-
# Commands on files and directories

Listing a directory, going to one, telling the current one, and printing files.
-/

import StoryShell.Builtin.Arguments
import StoryShell.Dialog
import StoryShell.View

namespace StoryShell.Files

/-- The options that ask for hidden entries too. -/
def allOptions : List String := ["-a", "--all"]

/-- The lines of a directory listing; hidden entries only if `all` is set. -/
def listing (all : Bool) (children : Children) : List String :=
  (children.filter fun entry => all || !entry.2.isHidden).map fun entry =>
    entry.1 ++ entry.2.suffix

/-- List the directory that the first operand names, or the current one. -/
def list (arguments : List String) (view : View) : Except Failure Outcome :=
  match Arguments.unknownOption? allOptions arguments with
  | some option => .error (.invalidOption option)
  | none => do
    let target := (Arguments.operands arguments).head?.getD "."
    let node ← view.nodeAt target
    match node.children? with
    | none => .error (.notADirectory target)
    | some children => .ok (.say (listing (Arguments.gives allOptions arguments) children))

/-- Go to the directory that the first argument names, or to the root. -/
def enter (arguments : List String) (view : View) : Except Failure Outcome :=
  match arguments with
  | [] => .ok { changes := [.setCwd Path.root] }
  | target :: _ => do
    let node ← view.nodeAt target
    if node.isDirectory then .ok { changes := [.setCwd (view.resolve target)] }
    else .error (.notADirectory target)

/-- Tell the current directory. -/
def tell (view : View) : Outcome :=
  .say [view.session.cwd]

/-- The lines of the file or executable that an argument names. -/
def contentLines (view : View) (argument : String) : Except Failure (List String) := do
  let node ← view.nodeAt argument
  match node.content? with
  | some content => .ok (Text.lines content)
  | none => .error (.isADirectory argument)

/-- Print the files that the arguments name, one after the other. Nothing is printed if one of
them cannot be. -/
def print (arguments : List String) (view : View) : Except Failure Outcome :=
  match arguments with
  | [] => .error .missingOperand
  | _ :: _ => do
    let texts ← arguments.mapM (contentLines view)
    return .say texts.flatten

end StoryShell.Files
