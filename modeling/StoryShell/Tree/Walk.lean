/-
# Walking the tree

A walk lists every node below the root with its path: a directory before what it
holds, and the children of a directory in name order. A walk that leaves hidden
nodes out also leaves out everything beneath them.
-/

import StoryShell.Tree.Basic

namespace StoryShell

/-- A node together with its path. -/
abbrev Located := String × Node

mutual

/-- The nodes below a node at `path`; hidden ones only if `all` is set. -/
def Node.walk (all : Bool) (path : String) : Node → List Located
  | .directory children _ => Node.walkChildren all path children
  | .file _ _ => []
  | .executable _ _ _ => []

/-- Some children of the directory at `path`, each followed by the nodes below it. -/
def Node.walkChildren (all : Bool) (path : String) : List (String × Node) → List Located
  | [] => []
  | (name, child) :: rest =>
    if child.isHidden && !all then Node.walkChildren all path rest
    else
      (Path.join path name, child) ::
        (child.walk all (Path.join path name) ++ Node.walkChildren all path rest)

end

/-- Every node below the root, in the order of the walk. -/
def Tree.descendants (tree : Tree) (all : Bool) : List Located :=
  tree.root.walk all Path.root

end StoryShell
