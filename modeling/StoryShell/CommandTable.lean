/-
# The command table

A table holds the commands that are reached by name, whatever the case of the
letters, and the programs that executables of the tree run. The table itself
answers `help`. Its views agree with what it runs: the listing, the help and the
completions are all read off the same two maps.
-/

import StoryShell.Command

namespace StoryShell

/-- The commands under their names in lower case, and the programs under their names. -/
structure CommandTable where
  commands : NameMap Command := []
  programs : NameMap Command := []

namespace CommandTable

/-- The table with one more command, in place of one whose name differs in case at most. -/
def register (table : CommandTable) (command : Command) : CommandTable :=
  { table with commands := NameMap.put table.commands (Text.asciiLower command.name) command }

/-- The table with one more program, in place of one with the same name. -/
def registerProgram (table : CommandTable) (program : Command) : CommandTable :=
  { table with programs := NameMap.put table.programs program.name program }

/-- The table of the terminal's own commands and programs. -/
def builtins : CommandTable :=
  let named := Builtin.namedCommands.foldl (fun table which => table.register which.command) {}
  Builtin.programs.foldl (fun table which => table.registerProgram which.command) named

/-- The command of a name. -/
def find? (table : CommandTable) (name : String) : Option Command :=
  NameMap.find? table.commands (Text.asciiLower name)

/-! ### Help -/

/-- The name that the table answers itself. -/
def helpName : String := "help"

/-- A line of the overview: a category, a name in it, and what the name is for. -/
structure HelpRow where
  category : String
  name : String
  description : String
  deriving DecidableEq, Repr

/-- The row of a command. -/
def HelpRow.ofCommand (command : Command) : HelpRow :=
  ⟨command.category, command.name, command.description⟩

/-- The row of the help itself. -/
def helpRow : HelpRow :=
  ⟨"general", helpName, "List commands or show usage"⟩

/-- The rows of the overview, in no particular order. -/
def helpRows (table : CommandTable) : List HelpRow :=
  helpRow :: table.commands.map fun entry => HelpRow.ofCommand entry.2

/-- Rows sorted by name; rows of one name keep their order. -/
def sortRows (rows : List HelpRow) : List HelpRow :=
  rows.mergeSort fun first second => first.name ≤ second.name

/-- The categories of some rows, in order and each once. -/
def categories (rows : List HelpRow) : List String :=
  NameMap.names (NameMap.ofEntries (rows.map fun row => (row.category, ())))

/-- How a row is printed. -/
def HelpRow.line (row : HelpRow) : String :=
  "    " ++ Text.padRight 20 row.name ++ " " ++ row.description

/-- The section of a category: its heading, and its rows sorted by name. -/
def helpSection (rows : List HelpRow) (category : String) : List String :=
  ("  [" ++ category ++ "]") ::
    (sortRows (rows.filter (·.category = category))).map HelpRow.line

/-- The overview of all commands by category. -/
def overview (table : CommandTable) : List String :=
  let rows := table.helpRows
  ["Commands (" ++ toString rows.length ++ "):"] ++
    (categories rows).flatMap (helpSection rows) ++
    ["Type 'help <command>' for details. Run programs with ./name."]

/-- What the help tells about one command. -/
def explain (command : Command) : List String :=
  [command.name ++ " (" ++ command.category ++ ")",
   "  " ++ command.description,
   "  usage: " ++ command.usage]

/-- The help on the first argument, or the overview. -/
def help (table : CommandTable) (arguments : List String) : Except Failure Outcome :=
  match arguments with
  | [] => .ok (.say table.overview)
  | name :: _ =>
    match table.find? name with
    | some command => .ok (.say (explain command))
    | none =>
      if Text.asciiLower name = helpName then .ok (.say ["help [command]"])
      else .error (.commandNotFound name)

/-! ### Running -/

/-- Run the command of a name. The help is never a registered command. -/
def dispatch (table : CommandTable) (name : String) (arguments : List String) (view : View) :
    Except Failure Outcome :=
  if Text.asciiLower name = helpName then table.help arguments
  else
    match table.find? name with
    | some command => command.run arguments view
    | none => .error (.commandNotFound name)

/-- The program behind a typed path: the path has to lead to an executable that is bound to a
program of the table. -/
def programAt (table : CommandTable) (token : String) (view : View) : Except Failure Command := do
  let node ← view.nodeAt token
  match node with
  | .executable entry _ _ =>
    match NameMap.find? table.programs entry with
    | some program => .ok program
    | none => .error (.permissionDenied token)
  | .directory _ _ => .error (.permissionDenied token)
  | .file _ _ => .error (.permissionDenied token)

/-- Run the program behind a typed path. -/
def execute (table : CommandTable) (token : String) (arguments : List String) (view : View) :
    Except Failure Outcome := do
  let program ← table.programAt token view
  program.run arguments view

/-! ### Views -/

/-- The registered commands by name, with their descriptions. -/
def listing (table : CommandTable) : List (String × String) :=
  (sortRows (table.commands.map fun entry => HelpRow.ofCommand entry.2)).map fun row =>
    (row.name, row.description)

/-- The names under which something is found that start with a beginning in any case of letters,
sorted. -/
def completions (table : CommandTable) (start : String) : List String :=
  ((NameMap.names table.commands ++ [helpName]).filter
    (Text.startsWith · (Text.asciiLower start))).mergeSort

end CommandTable

end StoryShell
