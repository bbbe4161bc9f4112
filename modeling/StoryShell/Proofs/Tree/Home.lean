/-
# Changes in the home directory

The built-in story mounts and unmounts only in the home directory, the root of
the tree. There a mount always succeeds, an unmount succeeds exactly when there
is such a child, and every path that does not start with the child's name leads
to what it led to before.
-/

import StoryShell.Change
import StoryShell.Proofs.NameMap
import StoryShell.Proofs.Tree.Descent

namespace StoryShell

namespace Tree

/-- The tree with a child of the root put in. -/
def putChild (tree : Tree) (name : String) (node : Node) : Tree :=
  { tree with children := NameMap.put tree.children name node }

/-- The tree with a child of the root taken out. -/
def dropChild (tree : Tree) (name : String) : Tree :=
  { tree with children := NameMap.remove tree.children name }

/-- The tree with a named part of the world put in, if there is one to show. -/
def revealing (tree : Tree) : Option (String × Node) → Tree
  | none => tree
  | some part => tree.putChild part.1 part.2

variable {tree : Tree} {name : String}

theorem rebuild_root {α : Type} (edit : Children → Except Failure (Children × α)) :
    tree.rebuild Path.root edit = do
      let (children, given) ← edit tree.children
      return ({ tree with children }, given) :=
  rfl

theorem mount_root (typable : Path.isEntryName name = true) (node : Node) :
    tree.mount Path.root name node = .ok (tree.putChild name node) := by
  rw [Tree.mount, if_pos typable, rebuild_root]
  rfl

theorem unmount_root {node : Node} (held : NameMap.find? tree.children name = some node) :
    tree.unmount Path.root name = .ok (node, tree.dropChild name) := by
  rw [Tree.unmount, rebuild_root, Children.take_held held]
  rfl

/-- Names lead from the root to a directory. -/
def Leads (tree : Tree) (names : List String) : Prop :=
  ∃ children hidden, tree.root.descend names = .ok (.directory children hidden)

theorem leads_root : tree.Leads [] :=
  ⟨tree.children, tree.hidden, rfl⟩

/-- Where names lead depends on the root only through the child that the first one names. -/
theorem descend_congr {first : String} {rest : List String} {before after : Tree}
    (same : NameMap.find? after.children first = NameMap.find? before.children first) :
    after.root.descend (first :: rest) = before.root.descend (first :: rest) :=
  Node.descend_congr same rest

theorem Leads.of_same_child {names : List String} {before after : Tree} (leads : before.Leads names)
    (same : ∀ first rest, names = first :: rest →
      NameMap.find? after.children first = NameMap.find? before.children first) :
    after.Leads names := by
  cases names with
  | nil => exact leads_root
  | cons first rest =>
    obtain ⟨children, hidden, found⟩ := leads
    exact ⟨children, hidden, (descend_congr (same first rest rfl)).trans found⟩

/-- Names that lead somewhere start with the name of a child. -/
theorem Leads.child {first : String} {rest : List String} (leads : tree.Leads (first :: rest)) :
    NameMap.find? tree.children first ≠ none := by
  intro absent
  obtain ⟨children, hidden, found⟩ := leads
  rw [root, Node.descend_absent absent] at found
  cases found

/-- Putting a node where at most the same node was cuts no way. -/
theorem Leads.putChild {names : List String} {node : Node} (leads : tree.Leads names)
    (only : ∀ old, NameMap.find? tree.children name = some old → old = node) :
    (tree.putChild name node).Leads names := by
  apply leads.of_same_child
  intro first rest hnames
  subst hnames
  rw [Tree.putChild]
  by_cases here : name = first
  · subst here
    rw [NameMap.find?_put_self]
    cases held : NameMap.find? tree.children name with
    | none => exact absurd held leads.child
    | some old => rw [only old held]
  · exact NameMap.find?_put_of_ne here ..

/-- Taking a child out cuts only the ways through it. -/
theorem Leads.dropChild {names : List String} (leads : tree.Leads names)
    (outside : ¬ [name] <+: names) : (tree.dropChild name).Leads names := by
  apply leads.of_same_child
  intro first rest hnames
  subst hnames
  have different : name ≠ first := by
    intro same
    exact outside ⟨rest, by rw [same]; rfl⟩
  rw [Tree.dropChild, NameMap.find?_remove, if_neg different]

end Tree

namespace State

variable {state : State}

/-- When changes are made, each leaves its mark on the session. -/
theorem session_applyAll {changes : List Change} {next : State}
    (made : state.applyAll changes = .ok next) :
    next.session = changes.foldl Session.apply state.session := by
  induction changes generalizing state with
  | nil =>
    rw [applyAll_nil, Except.ok.injEq] at made
    rw [← made]
    rfl
  | cons change rest ih =>
    rw [applyAll_cons] at made
    cases first : state.tree.apply change with
    | error failure =>
      rw [State.apply_eq, first] at made
      cases made
    | ok tree =>
      rw [State.apply_eq, first] at made
      exact ih made

/-- A change that leaves the tree alone is made in any case. -/
theorem applyAll_cons_of_tree {change : Change} (keeps : state.tree.apply change = .ok state.tree)
    (changes : List Change) :
    state.applyAll (change :: changes) =
      State.applyAll { state with session := state.session.apply change } changes := by
  rw [applyAll_cons, State.apply_eq, keeps]
  rfl

theorem applyAll_mount {name : String} (typable : Path.isEntryName name = true) (node : Node)
    (changes : List Change) :
    state.applyAll (.mount Path.root name node :: changes) =
      State.applyAll { state with tree := state.tree.putChild name node } changes := by
  rw [applyAll_cons, State.apply, Tree.mount_root typable]
  rfl

theorem applyAll_unmount {name : String} {node : Node}
    (held : NameMap.find? state.tree.children name = some node) (changes : List Change) :
    state.applyAll (.unmount Path.root name :: changes) =
      State.applyAll { state with tree := state.tree.dropChild name } changes := by
  rw [applyAll_cons, State.apply, Tree.unmount_root held]
  rfl

end State

end StoryShell
