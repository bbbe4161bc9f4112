/-
# Paths

There is one tree and its root is named `~`. A path is text: names separated by
slashes. A canonical path starts with `~` and holds no empty name, no `.` and no
`..`. Resolving turns whatever a user types into a canonical path, by walking
from the root when the path starts with `~` or `/` and from the current
directory otherwise.

A canonical path is the printed form of a list of names (`Path.render`), and
most rules are stated on that list.
-/

import StoryShell.Text.Pieces

namespace StoryShell.Path

open StoryShell.Text

/-- The name of the root directory. -/
def root : String := "~"

/-- The canonical path of the node that a list of names leads to from the root. -/
def render (names : List String) : String :=
  glue '/' (root :: names)

/-- One step of a walk from the directory that a list of names leads to. Nothing and `.` stay,
`..` climbs but never above the root, and any other name descends. -/
def step (names : List String) (segment : String) : List String :=
  if segment = "" ∨ segment = "." then names
  else if segment = ".." then names.dropLast
  else names ++ [segment]

/-- Where a walk along segments ends. -/
def walk (names segments : List String) : List String :=
  segments.foldl step names

/-- The names in a directory's path after the leading `~`, which may be missing. -/
def namesOf (directory : String) : List String :=
  match fullPieces '/' directory with
  | [] => []
  | first :: rest => if first = root then rest else first :: rest

/-- The names that a typed path leads to from the directory that `here` leads to. -/
def follow (here : List String) (path : String) : List String :=
  match pieces '/' path with
  | [] => here
  | first :: rest =>
    if first = root ∨ (first = "" ∧ rest ≠ []) then walk [] rest
    else walk here (first :: rest)

/-- The canonical path that a typed path stands for in the directory `cwd`. -/
def resolve (path cwd : String) : String :=
  render (follow (namesOf cwd) path)

/-- The path of the child `name` of the directory at `parent`. -/
def join (parent name : String) : String :=
  trimEnd '/' parent ++ "/" ++ name

/-- Whether a canonical path is `ancestor` or lies beneath it. -/
def isWithin (path ancestor : String) : Bool :=
  path == ancestor || startsWith path (ancestor ++ "/")

/-- The names below the root that a canonical path spells, or `none` when the path is not empty
and starts elsewhere than at the root. Repeated slashes count as one. -/
def names? (path : String) : Option (List String) :=
  match fullPieces '/' path with
  | [] => some []
  | first :: rest => if first = root then some rest else none

/-- The last piece of a path. -/
def lastName (path : String) : String :=
  ((pieces '/' path).getLast?).getD path

/-- Whether a name may be given to a new entry: a path holding it as one segment leads to that
entry and nowhere else. -/
def isEntryName (name : String) : Bool :=
  name ≠ "" && !name.toList.contains '/' && name ≠ "." && name ≠ ".." && name ≠ root

end StoryShell.Path
