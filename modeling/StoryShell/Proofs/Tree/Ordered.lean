/-
# Trees stay in name order

A tree is ordered when the names of each of its directories increase strictly.
Building a folder yields an ordered node, and mounting an ordered node and
unmounting any node lead from ordered trees to ordered trees. So equal trees are
equal data, and a walk meets names in order.
-/

import StoryShell.Proofs.Tree.Rebuilding
import StoryShell.World

namespace StoryShell

namespace Node

/-- Some children are ordered when each of them is. -/
theorem orderedChildren_iff {children : List (String × Node)} :
    OrderedChildren children ↔ ∀ entry ∈ children, entry.2.Ordered := by
  induction children with
  | nil => simp [OrderedChildren]
  | cons entry rest ih =>
    obtain ⟨name, child⟩ := entry
    simp [OrderedChildren, ih]

/-- A directory is ordered when its names increase and its children are ordered. -/
theorem ordered_directory {children : Children} {hidden : Bool} :
    (Node.directory children hidden).Ordered ↔
      NameMap.Ordered children ∧ ∀ entry ∈ children, entry.2.Ordered := by
  rw [Ordered, orderedChildren_iff]

theorem ordered_file (content : String) (hidden : Bool) : (Node.file content hidden).Ordered := by
  simp [Ordered]

theorem ordered_executable (entry content : String) (hidden : Bool) :
    (Node.executable entry content hidden).Ordered := by
  simp [Ordered]

theorem Ordered.conceal {node : Node} (h : node.Ordered) : node.conceal.Ordered := by
  cases node with
  | directory children hidden => exact ordered_directory.mpr (ordered_directory.mp h)
  | file content hidden => exact ordered_file content true
  | executable entry content hidden => exact ordered_executable entry content true

/-- The children under the names that `put` leaves are the new one and those there before. -/
theorem ordered_put {children : Children} {hidden : Bool} {name : String} {node : Node}
    (h : (Node.directory children hidden).Ordered) (hnode : node.Ordered) :
    (Node.directory (NameMap.put children name node) hidden).Ordered := by
  obtain ⟨hnames, hchildren⟩ := ordered_directory.mp h
  refine ordered_directory.mpr ⟨hnames.put name node, fun entry hmem => ?_⟩
  rcases NameMap.mem_put hmem with rfl | hmem
  · exact hnode
  · exact hchildren entry hmem

theorem ordered_remove {children : Children} {hidden : Bool} {name : String}
    (h : (Node.directory children hidden).Ordered) :
    (Node.directory (NameMap.remove children name) hidden).Ordered := by
  obtain ⟨hnames, hchildren⟩ := ordered_directory.mp h
  refine ordered_directory.mpr ⟨hnames.remove name, fun entry hmem => ?_⟩
  exact hchildren entry (List.mem_filter.mp hmem).1

/-- A folder of ordered nodes is ordered, in whatever order its entries are written. -/
theorem ordered_folder {entries : List (String × Node)}
    (h : ∀ entry ∈ entries, entry.2.Ordered) : (Node.folder entries).Ordered := by
  have hfold : ∀ (entries : List (String × Node)) (children : Children),
      (∀ entry ∈ entries, entry.2.Ordered) → (Node.directory children false).Ordered →
      (Node.directory (entries.foldl (fun m entry => NameMap.put m entry.1 entry.2) children)
        false).Ordered := by
    intro entries
    induction entries with
    | nil => exact fun children _ hchildren => hchildren
    | cons entry rest ih =>
      intro children hentries hchildren
      refine ih _ (fun e he => hentries e (List.mem_cons_of_mem _ he)) ?_
      exact ordered_put hchildren (hentries entry List.mem_cons_self)
  exact hfold entries [] h (ordered_directory.mpr ⟨NameMap.ordered_nil, by simp⟩)

/-- Every node that names lead to from an ordered node is ordered. -/
theorem Ordered.descend {node found : Node} {names : List String} (h : node.Ordered)
    (hfound : node.descend names = .ok found) : found.Ordered := by
  induction names generalizing node with
  | nil =>
    rw [Node.descend_nil, Except.ok.injEq] at hfound
    exact hfound ▸ h
  | cons name rest ih =>
    cases node with
    | directory children hidden =>
      cases held : NameMap.find? children name with
      | none =>
        rw [Node.descend_absent held] at hfound
        cases hfound
      | some child =>
        rw [Node.descend_held held] at hfound
        exact ih ((ordered_directory.mp h).2 _ (NameMap.mem_of_find? held)) hfound
    | file content hidden => cases hfound
    | executable entry content hidden => cases hfound

end Node

/-- An edit that keeps ordered directories ordered keeps the whole tree so. -/
theorem Children.ordered_editAt {edit : Children → Children}
    (hedit : ∀ (children : Children) (hidden : Bool), (Node.directory children hidden).Ordered →
      (Node.directory (edit children) hidden).Ordered)
    {names : List String} {children edited : Children} {hidden : Bool}
    (h : (Node.directory children hidden).Ordered)
    (hok : Children.editAt edit names children = .ok edited) :
    (Node.directory edited hidden).Ordered := by
  induction names generalizing children edited hidden with
  | nil =>
    simp only [Children.editAt, Except.ok.injEq] at hok
    exact hok ▸ hedit children hidden h
  | cons name rest ih =>
    obtain ⟨inner, mark, changed, held, below, rfl⟩ := Children.editAt_cons hok
    have hinner := (Node.ordered_directory.mp h).2 _ (NameMap.mem_of_find? held)
    exact Node.ordered_put h (ih hinner below)

namespace Tree

theorem ordered_editAt {tree next : Tree} {parent : String} {edit : Children → Children}
    (hedit : ∀ (children : Children) (hidden : Bool), (Node.directory children hidden).Ordered →
      (Node.directory (edit children) hidden).Ordered)
    (h : tree.Ordered) (hok : tree.editAt parent edit = .ok next) : next.Ordered := by
  obtain ⟨names, children, -, made, rfl⟩ := editAt_ok hok
  exact Children.ordered_editAt hedit h made

/-- Mounting an ordered node keeps a tree ordered. -/
theorem Ordered.mount {tree next : Tree} {parent name : String} {node : Node}
    (h : tree.Ordered) (hnode : node.Ordered) (hok : tree.mount parent name node = .ok next) :
    next.Ordered :=
  ordered_editAt (fun _ _ hchildren => Node.ordered_put hchildren hnode) h
    (editAt_of_mount hok)

/-- Unmounting keeps a tree ordered. -/
theorem Ordered.unmount {tree next : Tree} {parent name : String} {node : Node}
    (h : tree.Ordered) (hok : tree.unmount parent name = .ok (node, next)) : next.Ordered := by
  obtain ⟨children, -, -, made⟩ := unmount_ok hok
  exact ordered_editAt (fun _ _ hchildren => Node.ordered_remove hchildren) h made

end Tree

namespace World

theorem ordered_documents : documents.Ordered := by
  refine Node.ordered_folder ?_
  simp [Node.textFile, Node.ordered_file, Node.conceal]

theorem ordered_inbox : inbox.Ordered := by
  refine Node.ordered_folder ?_
  simp [Node.textFile, Node.ordered_file]

/-- The home directory at the start is ordered. -/
theorem ordered_home : home.Ordered := by
  refine Node.ordered_folder ?_
  simp [ordered_documents, ordered_inbox, Node.ordered_folder, Node.textFile, Node.program,
    Node.ordered_file, Node.ordered_executable, Node.Ordered.conceal]

theorem ordered_share : share.Ordered := by
  simp [share, Node.ordered_folder, Node.textFile, Node.ordered_file]

theorem ordered_portalFiles : portalFiles.Ordered := by
  simp [portalFiles, Node.ordered_folder, Node.textFile, Node.ordered_file]

/-- Whatever a login reveals is ordered. -/
theorem ordered_reveal {name : String} {part : String × Node} (h : reveal? name = some part) :
    part.2.Ordered := by
  rw [reveal?] at h
  split at h
  · simp only [Option.some.injEq] at h
    subst h
    simp [journal, Node.ordered_folder, Node.textFile, Node.ordered_file, Node.Ordered.conceal]
  · split at h
    · simp only [Option.some.injEq] at h
      subst h
      simp [adminFiles, Node.ordered_folder, Node.textFile, Node.program, Node.ordered_file,
        Node.ordered_executable]
    · simp at h

end World

end StoryShell
