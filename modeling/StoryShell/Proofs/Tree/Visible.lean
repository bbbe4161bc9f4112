/-
# The visible part of a tree

What is left of a tree when every hidden node below the root is taken out, with all that
is under it, is its visible part. Names lead somewhere in it exactly when they lead there
in the whole tree with nothing hidden on the way. So two trees with one visible part
agree on every directory in sight, and the plain walks of both, which are full walks of
that part, are alike.
-/

import StoryShell.Proofs.Tree.Descendants

namespace StoryShell

namespace Node

mutual

/-- A node without the hidden nodes below it and what is under them. -/
def visible : Node → Node
  | .directory children hidden => .directory (visibleChildren children) hidden
  | .file content hidden => .file content hidden
  | .executable entry content hidden => .executable entry content hidden

/-- The children that are not hidden, each without the hidden nodes below it. -/
def visibleChildren : List (String × Node) → List (String × Node)
  | [] => []
  | (name, child) :: rest =>
    if child.isHidden then visibleChildren rest
    else (name, child.visible) :: visibleChildren rest

end

variable {node found shown : Node} {names : List String} {children : List (String × Node)}

theorem visible_directory (children : Children) (hidden : Bool) :
    (Node.directory children hidden).visible = .directory (visibleChildren children) hidden := by
  rw [visible]

@[simp]
theorem isDirectory_visible (node : Node) : node.visible.isDirectory = node.isDirectory := by
  cases node <;> simp [visible, isDirectory]

@[simp]
theorem suffix_visible (node : Node) : node.visible.suffix = node.suffix := by
  cases node <;> simp [visible, suffix]

/-- What is visible of some children is what is visible of each that is not hidden. -/
theorem visibleChildren_eq (children : List (String × Node)) :
    visibleChildren children =
      (children.filter fun entry => !entry.2.isHidden).map fun entry =>
        (entry.1, entry.2.visible) := by
  induction children with
  | nil => rfl
  | cons entry rest ih =>
    obtain ⟨name, child⟩ := entry
    rw [visibleChildren, ih]
    cases concealed : child.isHidden <;> simp [concealed]

/-- The visible part of a node is a directory only if the node is. -/
theorem exists_directory_of_visible {shownChildren : Children} {hidden : Bool}
    (same : node.visible = .directory shownChildren hidden) :
    ∃ children, node = .directory children hidden ∧ visibleChildren children = shownChildren := by
  cases node with
  | directory children mark =>
    rw [visible, directory.injEq] at same
    obtain ⟨same, rfl⟩ := same
    exact ⟨children, rfl, same⟩
  | file content mark => simp [visible] at same
  | executable entry content mark => simp [visible] at same

/-! ### Look-ups in the visible part -/

/-- In a map in order, the child under a name is visible unless it is hidden. -/
theorem find?_visibleChildren (increasing : NameMap.Ordered children) (name : String) :
    NameMap.find? (visibleChildren children) name =
      ((NameMap.find? children name).filter fun child => !child.isHidden).map visible := by
  induction children with
  | nil => rfl
  | cons entry rest ih =>
    obtain ⟨key, child⟩ := entry
    obtain ⟨before, increasing⟩ := NameMap.ordered_cons.mp increasing
    have later := ih increasing
    rw [visibleChildren, NameMap.find?_cons]
    by_cases here : key = name
    · subst here
      -- The names after a hidden child are other ones, so nothing takes its place.
      rw [NameMap.find?_eq_none_of_before before] at later
      cases concealed : child.isHidden with
      | true => simpa [Option.filter_some, concealed] using later
      | false => simp [Option.filter_some, concealed, NameMap.find?_cons]
    · rw [if_neg here, ← later]
      cases concealed : child.isHidden with
      | true => rfl
      | false => exact if_neg here

/-- Names lead somewhere in the visible part of a node exactly when they lead there in the node with
nothing hidden on their way; and they lead to what is visible of it. -/
theorem descend_visible_eq_ok (ordered : node.Ordered) :
    node.visible.descend names = .ok shown ↔
      ∃ found, node.descend names = .ok found ∧ node.InSight names ∧ found.visible = shown := by
  induction names generalizing node with
  | nil => simp [descend_nil, inSight_nil]
  | cons name rest ih =>
    cases node with
    | directory children hidden =>
      obtain ⟨increasing, inner⟩ := ordered_directory.mp ordered
      have seen := find?_visibleChildren increasing name
      rw [visible_directory]
      cases held : NameMap.find? children name with
      | none =>
        rw [held] at seen
        simp [descend_absent held, descend_absent seen]
      | some child =>
        rw [held] at seen
        rw [descend_held held, inSight_held held]
        cases concealed : child.isHidden with
        | true =>
          have missing : NameMap.find? (visibleChildren children) name = none := by
            rw [seen, Option.filter_some, concealed]
            rfl
          simp [descend_absent missing]
        | false =>
          have present : NameMap.find? (visibleChildren children) name = some child.visible := by
            rw [seen, Option.filter_some, concealed]
            rfl
          rw [descend_held present, ih (inner _ (NameMap.mem_of_find? held))]
          simp
    | file content hidden => simp [visible, descend]
    | executable entry content hidden => simp [visible, descend]

/-! ### Walks of the visible part -/

/-- A node that a walk meets, with what is visible of it. -/
def seen (located : Located) : Located :=
  (located.1, located.2.visible)

mutual

/-- The plain walk of a node is the full walk of its visible part. -/
theorem walk_visible (path : String) : ∀ node : Node,
    node.visible.walk true path = (node.walk false path).map seen
  | .directory children hidden => by
    rw [visible_directory, walk, walk, walkChildren_visible path children]
  | .file content hidden => by rw [visible, walk, walk, List.map_nil]
  | .executable entry content hidden => by rw [visible, walk, walk, List.map_nil]

theorem walkChildren_visible (path : String) : ∀ children : List (String × Node),
    walkChildren true path (visibleChildren children) =
      (walkChildren false path children).map seen
  | [] => by rw [visibleChildren, walkChildren, walkChildren, List.map_nil]
  | (name, child) :: rest => by
    have later := walkChildren_visible path rest
    have inner := walk_visible (Path.join path name) child
    rw [visibleChildren, walkChildren]
    cases concealed : child.isHidden with
    | true => simpa using later
    | false => simp [walkChildren, inner, later, seen]

end

end Node

namespace Tree

/-- Two trees of which the same is visible. The roots' own marks do not count. -/
def LooksLike (tree other : Tree) : Prop :=
  Node.visibleChildren tree.children = Node.visibleChildren other.children

/-- A path leads to a directory with nothing hidden on its way. The root's own mark does not
count. -/
def ShowsDirectory (tree : Tree) (path : String) : Prop :=
  ∃ names children hidden, Path.names? path = some names ∧
    tree.root.descend names = .ok (.directory children hidden) ∧ tree.root.InSight names

variable {tree other : Tree} {path : String}

/-- Where one of two trees that look alike shows a directory, both hold one, and the same is visible
of the two. -/
theorem LooksLike.find (alike : tree.LooksLike other) (ordered : tree.Ordered)
    (orderedOther : other.Ordered) (shows : tree.ShowsDirectory path) :
    ∃ children hidden others mark, tree.find path = .ok (.directory children hidden) ∧
      other.find path = .ok (.directory others mark) ∧
      Node.visibleChildren children = Node.visibleChildren others := by
  obtain ⟨names, children, hidden, spelled, reached, sight⟩ := shows
  have find_eq : ∀ tree : Tree, tree.find path = tree.root.descend names := by
    intro tree
    rw [Tree.find, spelled]
  rw [find_eq, find_eq]
  cases names with
  | nil =>
    -- The roots may be marked differently.
    rw [Node.descend_nil, root, Except.ok.injEq, Node.directory.injEq] at reached
    obtain ⟨rfl, rfl⟩ := reached
    exact ⟨_, _, _, _, Node.descend_nil _, Node.descend_nil _, alike⟩
  | cons name rest =>
    have inVisible : tree.root.visible.descend (name :: rest) =
        .ok (.directory (Node.visibleChildren children) hidden) :=
      (Node.descend_visible_eq_ok ordered).mpr ⟨_, reached, sight, Node.visible_directory ..⟩
    have sameVisible : tree.root.visible.descend (name :: rest) =
        other.root.visible.descend (name :: rest) := by
      rw [root, root, Node.visible_directory, Node.visible_directory]
      exact Node.descend_congr (congrArg (NameMap.find? · name) alike) rest
    rw [sameVisible] at inVisible
    obtain ⟨found, reachedOther, -, shown⟩ := (Node.descend_visible_eq_ok orderedOther).mp inVisible
    obtain ⟨others, rfl, same⟩ := Node.exists_directory_of_visible shown
    exact ⟨children, hidden, others, hidden, reached, reachedOther, same.symm⟩

/-- The plain walks of trees that look alike meet the same, as far as it is visible. -/
theorem LooksLike.descendants (alike : tree.LooksLike other) :
    (tree.descendants false).map Node.seen = (other.descendants false).map Node.seen := by
  rw [Tree.descendants, Tree.descendants, ← Node.walk_visible, ← Node.walk_visible, root, root,
    Node.visible_directory, Node.visible_directory, Node.walk, Node.walk, alike]

end Tree

end StoryShell
