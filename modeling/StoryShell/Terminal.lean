/-
# The terminal

A terminal takes one line at a time. While a question is pending the line is its
answer, handed over as typed; otherwise the line is cut into words and its first
word names a command or, after `./`, an executable. What comes of it is settled
as a whole: the changes first, and only if they are all made, the output and the
next question. Every batch starts with an echo of the line.
-/

import StoryShell.CommandTable
import StoryShell.Words

namespace StoryShell

/-- A terminal and everything it remembers. -/
structure Terminal where
  table : CommandTable := CommandTable.builtins
  config : Config := {}
  state : State := {}
  history : History := {}
  /-- The question that the next line answers. -/
  pending : Option Prompt := none

namespace Terminal

/-- A new terminal over a tree. -/
def onTree (config : Config) (tree : Tree) (table : CommandTable) : Terminal :=
  { table, config, state := { tree } }

/-- A new terminal over the story's world, if the configuration is accepted. -/
def start (config : Config) : Except Failure Terminal := do
  let accepted ← config.validate
  let tree ← Tree.ofNode World.home
  return onTree accepted tree .builtins

/-- What a command run now is given to read. -/
def view (terminal : Terminal) : View :=
  ⟨terminal.state, terminal.config, terminal.history⟩

/-- Whether the next line answers a question. -/
def isAwaiting (terminal : Terminal) : Bool :=
  terminal.pending.isSome

/-- Whether the next line is a password. -/
def isMasked (terminal : Terminal) : Bool :=
  terminal.pending.any (·.masked)

/-- What is shown before the next line: the pending question, or the current directory. -/
def promptText (terminal : Terminal) : String :=
  match terminal.pending with
  | some prompt => prompt.question
  | none => terminal.state.session.cwd ++ " $ "

/-- The line as it is echoed. -/
def echo (terminal : Terminal) (line : String) : OutputLine :=
  match terminal.pending with
  | some prompt => ⟨.inputEcho, prompt.echo line⟩
  | none => ⟨.commandEcho, terminal.state.session.cwd ++ " $ " ++ line⟩

/-- The terminal with the line in its history and no question pending. -/
def record (terminal : Terminal) (line : String) : Terminal :=
  { terminal with
    history := terminal.history.record line terminal.isMasked
    pending := none }

/-- Settle what a command or an answer came to. Only an outcome whose changes can all be made has
any effect; otherwise one line reports the failure under `origin`. -/
def settle (terminal : Terminal) (origin : String) (result : Except Failure Outcome) :
    Terminal × Batch :=
  match result with
  | .error failure => (terminal, [.error (failure.report origin)])
  | .ok outcome =>
    match terminal.state.applyAll outcome.changes with
    | .error failure => (terminal, [.error (failure.report origin)])
    | .ok state =>
      ({ terminal with state, pending := outcome.prompt.map (·.withOrigin origin) },
        outcome.output)

/-- Whether a word is the path of an executable rather than the name of a command. -/
def isPathToken (word : String) : Bool :=
  Text.startsWith word "./"

/-- Carry out the words of a line. A path that leads to no program is reported by itself. -/
def carryOut (terminal : Terminal) : List String → Terminal × Batch
  | [] => (terminal, [])
  | name :: arguments =>
    if isPathToken name then
      match terminal.table.programAt name terminal.view with
      | .error failure => (terminal, [.error failure.message])
      | .ok program => terminal.settle name (program.run arguments terminal.view)
    else terminal.settle name (terminal.table.dispatch name arguments terminal.view)

/-- Take one line: the terminal afterwards, and everything that is printed. -/
def submit (terminal : Terminal) (line : String) : Terminal × Batch :=
  let ready := terminal.record line
  let (next, output) :=
    match terminal.pending with
    | some prompt => ready.settle prompt.origin (prompt.answer line ready.view)
    | none => ready.carryOut (Words.ofLine line)
  (next, terminal.echo line :: output)

/-- Take lines in order: the terminal afterwards, and the batch of each line. -/
def run (terminal : Terminal) : List String → Terminal × List Batch
  | [] => (terminal, [])
  | line :: rest =>
    let (next, batch) := terminal.submit line
    let (last, batches) := next.run rest
    (last, batch :: batches)

/-- Recall the next older line. -/
def recallBack (terminal : Terminal) : Terminal :=
  { terminal with history := terminal.history.back }

/-- Recall the next newer line. -/
def recallForward (terminal : Terminal) : Terminal :=
  { terminal with history := terminal.history.forward }

end Terminal

end StoryShell
