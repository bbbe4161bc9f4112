/-
# Mounting and unmounting are edits of one directory

Rebuilding walks down to a directory on its own way, asking for a directory before each
step where a look-up asks after it. Both stop at the same place for the same reason, and
where rebuilding arrives it sees what the look-up sees. So rebuilding a tree comes to
listing a directory, editing what is listed, and putting it back. For mounting and
unmounting this means that each is the edit that puts a node in or takes one out,
wherever it is not refused.
-/

import Mathlib.Tactic.ByContra
import StoryShell.Proofs.Tree.Edits

namespace StoryShell

/-! ### Reading a directory -/

namespace Node

/-- The children of the directory that names lead to from a node. -/
def contents (node : Node) (names : List String) : Except Miss Children :=
  match node.descend names with
  | .error miss => .error miss
  | .ok found =>
    match found.children? with
    | some children => .ok children
    | none => .error .notADirectory

variable {node found : Node} {names : List String} {miss : Miss}

theorem contents_of_missed (missed : node.descend names = .error miss) :
    node.contents names = .error miss := by
  rw [contents, missed]

theorem contents_of_leaf (found? : node.descend names = .ok found)
    (leaf : found.children? = none) : node.contents names = .error .notADirectory := by
  simp only [contents, found?, leaf]

theorem contents_of_directory {children : Children} {hidden : Bool}
    (found? : node.descend names = .ok (.directory children hidden)) :
    node.contents names = .ok children := by
  simp only [contents, found?, children?]

theorem contents_congr {other : Node} {names : List String}
    (same : node.descend names = other.descend names) :
    node.contents names = other.contents names := by
  rw [contents, contents, same]

theorem contents_held {children : Children} {hidden : Bool} {name : String} {child : Node}
    (held : NameMap.find? children name = some child) (rest : List String) :
    (Node.directory children hidden).contents (name :: rest) = child.contents rest := by
  rw [contents, contents, descend_held held]

end Node

/-! ### Editing a directory -/

/-- An edit of the directory that names lead to is refused exactly when its children cannot be read,
and for the same reason. -/
theorem Children.editAt_eq_error_iff {edit : Children → Children} {names : List String}
    {children : Children} {hidden : Bool} {miss : Miss} :
    editAt edit names children = .error miss ↔
      (Node.directory children hidden).contents names = .error miss := by
  induction names generalizing children hidden with
  | nil =>
    rw [editAt, Node.contents_of_directory (Node.descend_nil _)]
    simp only [reduceCtorEq]
  | cons name rest ih =>
    rw [editAt]
    cases held : NameMap.find? children name with
    | none => rw [Node.contents_of_missed (Node.descend_absent held rest)]
    | some child =>
      rw [Node.contents_held held]
      cases child with
      | directory inner mark =>
        simp only [← ih]
        cases editAt edit rest inner with
        | error other => exact Iff.rfl
        | ok edited =>
          constructor
          · intro impossible
            cases impossible
          · intro impossible
            cases impossible
      | file content mark =>
        -- An edit stops at a file before the rest of the way is looked at, a look-up after it.
        cases rest <;> rfl
      | executable entry content mark => cases rest <;> rfl

/-- An edit counts by what it makes of the directory that names lead to. -/
theorem Children.editAt_congr {edit other : Children → Children} {names : List String}
    {children inner : Children} {hidden : Bool}
    (reached : (Node.directory children hidden).contents names = .ok inner)
    (same : edit inner = other inner) :
    editAt edit names children = editAt other names children := by
  induction names generalizing children hidden with
  | nil =>
    rw [Node.contents_of_directory (Node.descend_nil _)] at reached
    cases reached
    rw [editAt, editAt, same]
  | cons name rest ih =>
    cases held : NameMap.find? children name with
    | none =>
      rw [Node.contents_of_missed (Node.descend_absent held rest)] at reached
      cases reached
    | some child =>
      rw [Node.contents_held held] at reached
      cases child with
      | directory below mark => rw [editAt_held held, editAt_held held, ih reached]
      | file content mark | executable entry content mark => simp only [editAt, held]

/-- Rebuilding reads the directory that names lead to, edits what is there, and puts it back. -/
theorem Children.rebuild_eq {α : Type} (path : String)
    (edit : Children → Except Failure (Children × α)) (names : List String) (children : Children)
    (hidden : Bool) :
    rebuild path edit names children = do
      let inner ← ((Node.directory children hidden).contents names).mapError (Miss.failure path)
      let (changed, given) ← edit inner
      let edited ← (editAt (fun _ => changed) names children).mapError (Miss.failure path)
      return (edited, given) := by
  induction names generalizing children hidden with
  | nil =>
    rw [rebuild, Node.contents_of_directory (Node.descend_nil _)]
    simp only [editAt, Except.mapError, bind, Except.bind]
    cases edit children <;> rfl
  | cons name rest ih =>
    rw [rebuild]
    cases held : NameMap.find? children name with
    | none =>
      rw [Node.contents_of_missed (Node.descend_absent held rest)]
      rfl
    | some child =>
      rw [Node.contents_held held]
      cases child with
      | directory inner mark =>
        simp only [ih inner mark, editAt_held held, bind, Except.bind]
        cases (Node.directory inner mark).contents rest with
        | error miss => rfl
        | ok target =>
          simp only [Except.mapError]
          cases edit target with
          | error failure => rfl
          | ok result =>
            dsimp only
            cases editAt (fun _ => result.1) rest inner <;> rfl
      | file content mark | executable entry content mark => cases rest <;> rfl

namespace Tree

variable {tree : Tree} {parent name : String} {failure : Failure}

/-! ### What listing says of a path -/

theorem list_of_missed (missed : tree.lookup parent = .error failure) :
    tree.list parent = .error failure := by
  rw [list, missed]
  rfl

theorem list_of_leaf {found : Node} (reached : tree.lookup parent = .ok found)
    (leaf : found.isDirectory = false) : tree.list parent = .error (.notADirectory parent) := by
  rw [list, reached]
  cases found with
  | directory children hidden => cases leaf
  | file content hidden | executable entry content hidden => rfl

theorem list_of_directory {children : Children} {hidden : Bool}
    (reached : tree.lookup parent = .ok (.directory children hidden)) :
    tree.list parent = .ok children := by
  rw [list, reached]
  rfl

theorem list_of_names {names : List String} (spelled : Path.names? parent = some names) :
    tree.list parent = (tree.root.contents names).mapError (Miss.failure parent) := by
  rw [list, lookup_of_names spelled]
  cases reached : tree.root.descend names with
  | error miss => rw [Node.contents_of_missed reached]; rfl
  | ok found =>
    cases found with
    | directory children hidden => rw [Node.contents_of_directory reached]; rfl
    | file content hidden | executable entry content hidden =>
      rw [Node.contents_of_leaf reached rfl]
      rfl

/-! ### The edits of a tree -/

/-- An edit of the directory at a path is refused exactly when it cannot be listed. -/
theorem editAt_eq_error_iff {edit : Children → Children} :
    tree.editAt parent edit = .error failure ↔ tree.list parent = .error failure := by
  rw [editAt]
  cases spelled : Path.names? parent with
  | none =>
    rw [list_of_missed (lookup_of_outside spelled)]
    simp only [Except.error.injEq]
  | some names =>
    rw [list_of_names spelled]
    have same : ∀ miss, tree.children.editAt edit names = .error miss ↔
        tree.root.contents names = .error miss := fun _ => Children.editAt_eq_error_iff
    cases below : tree.root.contents names with
    | error miss => simp only [(same miss).mpr below, Except.mapError, Except.error.injEq]
    | ok children =>
      cases made : tree.children.editAt edit names with
      | error miss =>
        rw [(same miss).mp made] at below
        cases below
      | ok edited => simp only [made, Except.mapError, reduceCtorEq]

/-- A directory that can be listed can be edited. -/
theorem exists_editAt {children : Children} (listed : tree.list parent = .ok children)
    (edit : Children → Children) : ∃ after, tree.editAt parent edit = .ok after := by
  cases made : tree.editAt parent edit with
  | ok after => exact ⟨after, rfl⟩
  | error failure =>
    rw [editAt_eq_error_iff.mp made] at listed
    cases listed

theorem editAt_congr {edit other : Children → Children} {children : Children}
    (listed : tree.list parent = .ok children) (same : edit children = other children) :
    tree.editAt parent edit = tree.editAt parent other := by
  obtain ⟨hidden, found⟩ := find_of_list listed
  obtain ⟨names, spelled, reached⟩ := exists_names_of_find found
  have unchanged := Children.editAt_congr (Node.contents_of_directory reached) same
  simp only [editAt, spelled, unchanged]

/-- Rebuilding a tree lists the directory, edits what is there, and puts it back. -/
theorem rebuild_eq {α : Type} (tree : Tree) (parent : String)
    (edit : Children → Except Failure (Children × α)) :
    tree.rebuild parent edit = do
      let children ← tree.list parent
      let (changed, given) ← edit children
      let next ← tree.editAt parent fun _ => changed
      return (next, given) := by
  rw [rebuild]
  cases spelled : Path.names? parent with
  | none =>
    rw [list_of_missed (lookup_of_outside spelled)]
    rfl
  | some names =>
    simp only [list_of_names spelled, editAt, spelled, root,
      Children.rebuild_eq parent edit names tree.children tree.hidden, bind, Except.bind]
    cases (Node.directory tree.children tree.hidden).contents names with
    | error miss => rfl
    | ok inner =>
      simp only [Except.mapError]
      cases edit inner with
      | error failure => rfl
      | ok result =>
        dsimp only
        cases Children.editAt (fun _ => result.1) names tree.children <;> rfl

theorem rebuild_of_missed {α : Type} {edit : Children → Except Failure (Children × α)}
    (missed : tree.list parent = .error failure) : tree.rebuild parent edit = .error failure := by
  rw [rebuild_eq, missed]
  rfl

/-- An edit that is made in a directory is the function that does the same to it. -/
theorem rebuild_of_edited {α : Type} {edit : Children → Except Failure (Children × α)} {given : α}
    {children : Children} (change : Children → Children) (listed : tree.list parent = .ok children)
    (edited : edit children = .ok (change children, given)) :
    tree.rebuild parent edit = (tree.editAt parent change).map (·, given) := by
  have settled : tree.editAt parent change = tree.editAt parent fun _ => change children :=
    editAt_congr listed rfl
  rw [rebuild_eq, listed, settled]
  simp only [bind, Except.bind, edited]
  cases tree.editAt parent fun _ => change children <;> rfl

theorem mount_of_typable (typable : Path.isEntryName name = true) (node : Node) :
    tree.mount parent name node = tree.editAt parent (NameMap.put · name node) := by
  rw [mount, if_pos typable]
  cases listed : tree.list parent with
  | error failure =>
    rw [rebuild_of_missed listed, editAt_eq_error_iff.mpr listed]
    rfl
  | ok children =>
    rw [rebuild_of_edited (NameMap.put · name node) listed rfl]
    cases tree.editAt parent (NameMap.put · name node) <;> rfl

theorem mount_of_not_typable (untypable : ¬ Path.isEntryName name = true) (node : Node) :
    tree.mount parent name node = .error (.invalidPath name) :=
  if_neg untypable

theorem typable_of_mount {node : Node} {after : Tree}
    (mounted : tree.mount parent name node = .ok after) : Path.isEntryName name = true := by
  by_contra untypable
  rw [mount_of_not_typable untypable] at mounted
  cases mounted

/-- A mount that succeeds puts the node into the directory at `parent`. -/
theorem editAt_of_mount {node : Node} {after : Tree}
    (mounted : tree.mount parent name node = .ok after) :
    tree.editAt parent (NameMap.put · name node) = .ok after := by
  rwa [mount_of_typable (typable_of_mount mounted)] at mounted

theorem unmount_of_missed (missed : tree.list parent = .error failure) :
    tree.unmount parent name = .error failure := by
  rw [unmount, rebuild_of_missed missed]
  rfl

theorem unmount_of_absent {children : Children} (listed : tree.list parent = .ok children)
    (absent : NameMap.find? children name = none) :
    tree.unmount parent name = .error (.noSuchPath (Path.join parent name)) := by
  rw [unmount, rebuild_eq, listed]
  simp only [bind, Except.bind, Children.take_absent absent]

theorem unmount_eq_of_held {children : Children} {child : Node}
    (listed : tree.list parent = .ok children)
    (held : NameMap.find? children name = some child) :
    tree.unmount parent name = (tree.editAt parent (NameMap.remove · name)).map (child, ·) := by
  rw [unmount,
    rebuild_of_edited (NameMap.remove · name) listed (Children.take_held held _)]
  cases tree.editAt parent (NameMap.remove · name) <;> rfl

theorem unmount_of_held {children : Children} {child : Node} {after : Tree}
    (listed : tree.list parent = .ok children)
    (held : NameMap.find? children name = some child)
    (made : tree.editAt parent (NameMap.remove · name) = .ok after) :
    tree.unmount parent name = .ok (child, after) := by
  rw [unmount_eq_of_held listed held, made]
  rfl

/-- An unmount that succeeds takes a child out of the directory at `parent`. -/
theorem unmount_ok {child : Node} {after : Tree}
    (unmounted : tree.unmount parent name = .ok (child, after)) :
    ∃ children, tree.list parent = .ok children ∧ NameMap.find? children name = some child ∧
      tree.editAt parent (NameMap.remove · name) = .ok after := by
  cases listed : tree.list parent with
  | error failure =>
    rw [unmount_of_missed listed] at unmounted
    cases unmounted
  | ok children =>
    cases held : NameMap.find? children name with
    | none =>
      rw [unmount_of_absent listed held] at unmounted
      cases unmounted
    | some node =>
      rw [unmount_eq_of_held listed held] at unmounted
      cases made : tree.editAt parent (NameMap.remove · name) with
      | error failure =>
        rw [made] at unmounted
        cases unmounted
      | ok rest =>
        rw [made] at unmounted
        cases unmounted
        exact ⟨children, rfl, held, rfl⟩

theorem exists_unmount {children : Children} {child : Node}
    (listed : tree.list parent = .ok children)
    (held : NameMap.find? children name = some child) :
    ∃ after, tree.unmount parent name = .ok (child, after) := by
  obtain ⟨after, made⟩ := exists_editAt listed (NameMap.remove · name)
  exact ⟨after, unmount_of_held listed held made⟩

end Tree

end StoryShell
