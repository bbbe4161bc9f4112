/-
# Looking up is descending

The names that a path spells are all that counts for a look-up: it descends by
them from the root. Descending fails only because a child is absent or because
the way leads on from a node that is no directory; a path that starts elsewhere
than at the root is refused before.
-/

import StoryShell.Proofs.Path.Canonical
import StoryShell.Tree.Basic

namespace StoryShell

variable {tree : Tree} {names : List String} {path : String}

namespace Node

variable {node found : Node}

/-- A way from a directory depends on it only through the child that the first name names. -/
theorem descend_congr {children others : Children} {hidden mark : Bool} {name : String}
    (same : NameMap.find? children name = NameMap.find? others name) (rest : List String) :
    (Node.directory children hidden).descend (name :: rest) =
      (Node.directory others mark).descend (name :: rest) := by
  rw [descend, descend, same]

/-- Descending can be done in two stretches. -/
theorem descend_append (node : Node) (names rest : List String) :
    node.descend (names ++ rest) = node.descend names >>= (·.descend rest) := by
  induction names generalizing node with
  | nil => rw [List.nil_append, descend_nil]; rfl
  | cons name names ih =>
    cases node with
    | directory children hidden =>
      rw [List.cons_append]
      cases held : NameMap.find? children name with
      | none => rw [descend_absent held, descend_absent held]; rfl
      | some child => rw [descend_held held, descend_held held, ih]
    | file content hidden => rfl
    | executable entry content hidden => rfl

theorem descend_append_of_found {rest : List String} (reached : node.descend names = .ok found) :
    node.descend (names ++ rest) = found.descend rest := by
  rw [descend_append, reached]
  rfl

theorem descend_ne_outside (node : Node) (names : List String) :
    node.descend names ≠ .error .outside := by
  induction names generalizing node with
  | nil => simp [descend_nil]
  | cons name names ih =>
    cases node with
    | directory children hidden =>
      cases held : NameMap.find? children name with
      | none => simp [descend_absent held]
      | some child => exact descend_held held names ▸ ih child
    | file content hidden => simp [descend]
    | executable entry content hidden => simp [descend]

end Node

namespace Tree

theorem lookup_of_names (spelled : Path.names? path = some names) :
    tree.lookup path = (tree.root.descend names).mapError (Miss.failure path) := by
  rw [lookup, find, spelled]

theorem lookup_of_outside (outside : Path.names? path = none) :
    tree.lookup path = .error (.invalidPath path) := by
  rw [lookup, find, outside]
  rfl

theorem lookup_eq_ok {found : Node} : tree.lookup path = .ok found ↔ tree.find path = .ok found := by
  rw [lookup]
  cases tree.find path with
  | ok node =>
    constructor <;>
    · intro same
      cases same
      rfl
  | error miss =>
    constructor <;>
    · intro same
      cases same

/-- What is found at a path is what the names of the path lead to. -/
theorem exists_names_of_find {found : Node} (reached : tree.find path = .ok found) :
    ∃ names, Path.names? path = some names ∧ tree.root.descend names = .ok found := by
  rw [find] at reached
  cases spelled : Path.names? path with
  | none =>
    rw [spelled] at reached
    cases reached
  | some names =>
    rw [spelled] at reached
    exact ⟨names, rfl, reached⟩

/-- What is listed at a path is the children of a directory that is found there. -/
theorem find_of_list {children : Children} (listed : tree.list path = .ok children) :
    ∃ hidden, tree.find path = .ok (.directory children hidden) := by
  cases found : tree.lookup path with
  | error failure =>
    rw [list, found] at listed
    cases listed
  | ok node =>
    rw [list, found] at listed
    cases node with
    | directory inner hidden =>
      cases listed
      exact ⟨hidden, lookup_eq_ok.mp found⟩
    | file content hidden | executable entry content hidden => cases listed

/-- Looking up the printed form of some names is descending by them. -/
theorem find_render (segments : ∀ name ∈ names, Path.IsSegment name) (tree : Tree) :
    tree.find (Path.render names) = tree.root.descend names := by
  rw [find, Path.names?_render segments]

end Tree

end StoryShell
