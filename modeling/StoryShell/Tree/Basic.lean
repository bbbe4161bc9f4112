/-
# The simulated tree

A tree is a root directory. It is read by looking a path up and changed by
mounting a node as a child of a directory and by unmounting one. Every operation
takes a canonical path, and a path that leads nowhere is refused in the same way
by all of them.
-/

import StoryShell.Failure
import StoryShell.Path
import StoryShell.Tree.Node

namespace StoryShell

/-- Why a path leads to no node. -/
inductive Miss
  /-- A directory on the way has no child of the next name. -/
  | absent
  /-- The way leads on from a node that is no directory. -/
  | notADirectory
  /-- The path does not start at the root. -/
  | outside
  deriving DecidableEq, Repr

/-- The failure to report for a path, named as the reader knows it. -/
def Miss.failure (path : String) : Miss → Failure
  | .absent => .noSuchPath path
  | .notADirectory => .notADirectory path
  | .outside => .invalidPath path

/-- The node that names lead to from a node. -/
def Node.descend (node : Node) : List String → Except Miss Node
  | [] => .ok node
  | name :: rest =>
    match node with
    | .directory children _ =>
      match NameMap.find? children name with
      | some child => child.descend rest
      | none => .error .absent
    | .file _ _ => .error .notADirectory
    | .executable _ _ _ => .error .notADirectory

theorem Node.descend_nil (node : Node) : node.descend [] = .ok node := by
  rw [descend]

/-- The way from a directory goes through the child that the first name names. -/
theorem Node.descend_held {children : Children} {hidden : Bool} {name : String} {child : Node}
    (held : NameMap.find? children name = some child) (rest : List String) :
    (Node.directory children hidden).descend (name :: rest) = child.descend rest := by
  rw [descend, held]

theorem Node.descend_absent {children : Children} {hidden : Bool} {name : String}
    (absent : NameMap.find? children name = none) (rest : List String) :
    (Node.directory children hidden).descend (name :: rest) = .error .absent := by
  rw [descend, absent]

/-- The children of a directory with the directory that names lead to edited, and what the edit
gives besides. An edit may be refused, and so may the way there, which is named by its path. Only
the directories on the way change. -/
def Children.rebuild {α : Type} (path : String) (edit : Children → Except Failure (Children × α)) :
    List String → Children → Except Failure (Children × α)
  | [], children => edit children
  | name :: rest, children =>
    match NameMap.find? children name with
    | none => .error (.noSuchPath path)
    | some (.directory inner hidden) => do
      let (edited, given) ← rebuild path edit rest inner
      return (NameMap.put children name (.directory edited hidden), given)
    | some (.file _ _) => .error (.notADirectory path)
    | some (.executable _ _ _) => .error (.notADirectory path)

/-- The children of a directory without the one of a name, and that child, or a failure if there is
none. -/
def Children.take (name : String) (failure : Failure) (children : Children) :
    Except Failure (Children × Node) :=
  match NameMap.find? children name with
  | none => .error failure
  | some node => .ok (NameMap.remove children name, node)

theorem Children.take_absent {children : Children} {name : String}
    (absent : NameMap.find? children name = none) (failure : Failure) :
    children.take name failure = .error failure := by
  rw [take, absent]

theorem Children.take_held {children : Children} {name : String} {node : Node}
    (held : NameMap.find? children name = some node) (failure : Failure) :
    children.take name failure = .ok (NameMap.remove children name, node) := by
  rw [take, held]

/-- The simulated tree: the children of the root directory, and the root's own hidden mark. -/
structure Tree where
  children : Children := []
  hidden : Bool := false

namespace Tree

/-- The root directory as a node. -/
def root (tree : Tree) : Node :=
  .directory tree.children tree.hidden

/-- The names of every directory increase strictly. -/
def Ordered (tree : Tree) : Prop :=
  tree.root.Ordered

/-- The tree with a node as its root, which has to be a directory. -/
def ofNode : Node → Except Failure Tree
  | .directory children hidden => .ok ⟨children, hidden⟩
  | .file _ _ => .error (.notADirectory Path.root)
  | .executable _ _ _ => .error (.notADirectory Path.root)

/-- The node at a path, or why there is none. -/
def find (tree : Tree) (path : String) : Except Miss Node :=
  match Path.names? path with
  | some names => tree.root.descend names
  | none => .error .outside

/-- The node at a path. -/
def lookup (tree : Tree) (path : String) : Except Failure Node :=
  (tree.find path).mapError (Miss.failure path)

/-- Whether there is a node at a path. -/
def holds (tree : Tree) (path : String) : Bool :=
  (tree.find path).isOk

/-- The children of the directory at a path, in name order. -/
def list (tree : Tree) (path : String) : Except Failure Children := do
  let node ← tree.lookup path
  match node.children? with
  | some children => .ok children
  | none => .error (.notADirectory path)

/-- The tree with the directory at `parent` edited, and what the edit gives besides. -/
def rebuild {α : Type} (tree : Tree) (parent : String)
    (edit : Children → Except Failure (Children × α)) : Except Failure (Tree × α) :=
  match Path.names? parent with
  | none => .error (.invalidPath parent)
  | some names => do
    let (children, given) ← Children.rebuild parent edit names tree.children
    return ({ tree with children }, given)

/-- The tree with `node` as the child `name` of the directory at `parent`, in place of the child
that had the name before. A name that could not be typed as one segment is refused first. -/
def mount (tree : Tree) (parent name : String) (node : Node) : Except Failure Tree :=
  if Path.isEntryName name then do
    let (next, ()) ← tree.rebuild parent fun children => .ok (NameMap.put children name node, ())
    return next
  else .error (.invalidPath name)

/-- The child `name` of the directory at `parent`, and the tree without it. -/
def unmount (tree : Tree) (parent name : String) : Except Failure (Node × Tree) := do
  let (rest, node) ← tree.rebuild parent (Children.take name (.noSuchPath (Path.join parent name)))
  return (node, rest)

end Tree

end StoryShell
