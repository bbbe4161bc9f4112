/-
# Assembling tables

The lines of a settings file add to a tree of tables. A table comes into being
under its own heading, because a heading below it mentions it, or because a
dotted key does; which of these it was decides who may add to it later. No value
is ever replaced.
-/

import StoryShell.Config.Setting

namespace StoryShell.Toml

/-- How a table came into being. -/
inductive Origin
  /-- It has a heading of its own, or is the root, or an item of a list of tables. -/
  | heading
  /-- A heading mentions it on the way to another table. -/
  | mentioned
  /-- A dotted key mentions it on the way to a value. -/
  | dotted
  deriving DecidableEq

/-- What a name of a table under construction stands for. -/
inductive Item
  | value (setting : Setting)
  | table (origin : Origin) (entries : List (String × Item))
  /-- A list of tables, the newest one last. -/
  | tables (older : List (List (String × Item))) (newest : List (String × Item))

/-- A table under construction. -/
abbrev Entries := List (String × Item)

namespace Entries

/-- The entries with the item of a name replaced, or added at the end. -/
def set (name : String) (item : Item) : Entries → Entries
  | [] => [(name, item)]
  | (key, old) :: rest =>
    if key = name then (key, item) :: rest else (key, old) :: set name item rest

/-- Edit the table that a path of names leads to. Missing tables on the way are made. In a list of
tables the way leads into the newest. A dotted key does not lead into a table that has a heading
of its own, and nothing leads into a value. -/
def edit (dotted : Bool) (change : Origin → Entries → Option Entries) (origin : Origin) :
    List String → Entries → Option Entries
  | [], entries => change origin entries
  | name :: path, entries =>
    match entries.lookup name with
    | none => do
      let made := if dotted then Origin.dotted else Origin.mentioned
      let inner ← edit dotted change made path []
      return set name (.table made inner) entries
    | some (.table known inner) =>
      if dotted && known = .heading then none
      else do
        let inner ← edit dotted change known path inner
        return set name (.table known inner) entries
    | some (.tables older newest) => do
      let newest ← edit dotted change .heading path newest
      return set name (.tables older newest) entries
    | some (.value _) => none

/-- Give a value to a name that has none. At the end of a dotted key the table has to be one that
dotted keys have made, and elsewhere one that they have not. -/
def addValue (dotted : Bool) (name : String) (value : Setting) (origin : Origin)
    (entries : Entries) : Option Entries :=
  if decide (origin = .dotted) = dotted ∧ (entries.lookup name).isNone then
    some (set name (.value value) entries)
  else none

/-- Give a value to a key, seen from a table that has a heading of its own. -/
def define (key : List String) (value : Setting) (entries : Entries) : Option Entries := do
  let name ← key.getLast?
  edit true (addValue (key.length > 1) name value) .heading key.dropLast entries

/-- Begin the table of a heading. A table that was only mentioned so far keeps what it holds. -/
def openTable (name : String) (_ : Origin) (entries : Entries) : Option Entries :=
  match entries.lookup name with
  | none => some (set name (.table .heading []) entries)
  | some (.table .mentioned inner) => some (set name (.table .heading inner) entries)
  | some _ => none

/-- Begin the next table of the list of tables of a heading. -/
def openNext (name : String) (_ : Origin) (entries : Entries) : Option Entries :=
  match entries.lookup name with
  | none => some (set name (.tables [] []) entries)
  | some (.tables older newest) => some (set name (.tables (older ++ [newest]) []) entries)
  | some _ => none

/-- Enter the heading of a table, or of a list of tables if `repeated` is set. -/
def enter (repeated : Bool) (heading : List String) (entries : Entries) : Option Entries := do
  let name ← heading.getLast?
  edit false (if repeated then openNext name else openTable name) .heading heading.dropLast entries

/-- Give a value to a key under a heading. -/
def defineUnder (heading key : List String) (value : Setting) (entries : Entries) :
    Option Entries :=
  edit false (fun _ inner => define key value inner) .heading heading entries

end Entries

mutual

/-- The setting that a finished item is. -/
def Item.toSetting : Item → Setting
  | .value setting => setting
  | .table _ entries => .table (Item.toSettings entries)
  | .tables older newest =>
    .list (Item.toTables older ++ [.table (Item.toSettings newest)])

/-- The settings that finished entries are. -/
def Item.toSettings : List (String × Item) → List (String × Setting)
  | [] => []
  | (name, item) :: rest => (name, item.toSetting) :: Item.toSettings rest

/-- The settings that finished tables are. -/
def Item.toTables : List (List (String × Item)) → List Setting
  | [] => []
  | entries :: rest => .table (Item.toSettings entries) :: Item.toTables rest

end

end StoryShell.Toml
