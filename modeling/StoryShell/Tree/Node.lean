/-
# Nodes of the simulated tree

A node is a directory, a text file, or an executable: a banner together with the
name of the program that runs for it. A directory keeps its children in name
order. A hidden node is left out of listings unless they ask for everything.
-/

import StoryShell.NameMap

namespace StoryShell

/-- A node of the tree. -/
inductive Node
  | directory (children : List (String × Node)) (hidden : Bool)
  | file (content : String) (hidden : Bool)
  /-- A node that runs the program `entry`; its content is the banner. -/
  | executable (entry content : String) (hidden : Bool)

/-- The children of a directory, in name order. -/
abbrev Children := NameMap Node

instance : Inhabited Node := ⟨.directory [] false⟩

namespace Node

/-- A visible directory of the given entries; of two entries for one name the later counts. -/
def folder (entries : List (String × Node)) : Node :=
  .directory (NameMap.ofEntries entries) false

/-- A visible text file. -/
def textFile (content : String) : Node :=
  .file content false

/-- A visible executable bound to the program `entry`. -/
def program (entry banner : String) : Node :=
  .executable entry banner false

/-- Whether the node is left out of plain listings. -/
def isHidden : Node → Bool
  | .directory _ hidden => hidden
  | .file _ hidden => hidden
  | .executable _ _ hidden => hidden

/-- The node, hidden. -/
def conceal : Node → Node
  | .directory children _ => .directory children true
  | .file content _ => .file content true
  | .executable entry content _ => .executable entry content true

/-- Whether the node is a directory. -/
def isDirectory : Node → Bool
  | .directory _ _ => true
  | .file _ _ => false
  | .executable _ _ _ => false

/-- The children of a directory. -/
def children? : Node → Option Children
  | .directory children _ => some children
  | .file _ _ => none
  | .executable _ _ _ => none

/-- The text of a file or the banner of an executable. -/
def content? : Node → Option String
  | .directory _ _ => none
  | .file content _ => some content
  | .executable _ content _ => some content

/-- What a listing puts after a name to show the kind of its node. -/
def suffix : Node → String
  | .directory _ _ => "/"
  | .file _ _ => ""
  | .executable _ _ _ => "*"

mutual

/-- The names of every directory at or below a node increase strictly. -/
def Ordered : Node → Prop
  | .directory children _ => NameMap.Ordered children ∧ OrderedChildren children
  | .file _ _ => True
  | .executable _ _ _ => True

/-- The names of every directory at or below some children increase strictly. -/
def OrderedChildren : List (String × Node) → Prop
  | [] => True
  | (_, child) :: rest => child.Ordered ∧ OrderedChildren rest

end

end Node

end StoryShell
