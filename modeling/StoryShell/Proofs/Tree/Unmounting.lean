/-
# Mounting and unmounting undo each other

Two edits of one directory are one edit, and an edit that leaves its directory as it
is leaves the whole tree as it is. So a node mounted under a new name can be unmounted
again, and a node that was unmounted can be mounted again where it was, and either way
the tree is the one before, hidden marks and all. Between the two, every path at or
below the entry that was taken out leads nowhere, and every path that is not on the way
to it gives what it gave before.

Trees are taken to be in name order. In a tree that is not, mounting where something
was may put it in another place of the list.
-/

import StoryShell.Proofs.Tree.Edits
import StoryShell.Proofs.Tree.Refusals
import StoryShell.Proofs.Tree.Ordered

namespace StoryShell

/-- An edit that leaves its directory as it is changes nothing on the way there either. -/
theorem Children.editAt_of_fixed {edit : Children → Children} {names : List String}
    {children inner : Children} {hidden mark : Bool}
    (ordered : (Node.directory children hidden).Ordered)
    (reached : (Node.directory children hidden).descend names = .ok (.directory inner mark))
    (fixed : edit inner = inner) : editAt edit names children = .ok children := by
  induction names generalizing children hidden with
  | nil =>
    rw [Node.descend_nil] at reached
    cases reached
    rw [editAt, fixed]
  | cons name rest ih =>
    cases held : NameMap.find? children name with
    | none =>
      rw [Node.descend_absent held] at reached
      cases reached
    | some child =>
      rw [Node.descend_held held] at reached
      cases child with
      | directory below belowMark =>
        obtain ⟨increasing, inside⟩ := Node.ordered_directory.mp ordered
        have unchanged := ih (inside _ (NameMap.mem_of_find? held)) reached
        rw [editAt_held held, unchanged]
        exact congrArg Except.ok (increasing.put_of_find? held)
      | file content belowMark | executable entry content belowMark =>
        -- The way would have to end here, and at a directory.
        cases rest with
        | nil =>
          rw [Node.descend_nil] at reached
          cases reached
        | cons next more => cases reached

namespace Tree

variable {tree after : Tree} {parent name : String} {edit : Children → Children}

/-! ### Editing one directory twice -/

theorem editAt_editAt (made : tree.editAt parent edit = .ok after) (later : Children → Children) :
    after.editAt parent later = tree.editAt parent (later ∘ edit) := by
  obtain ⟨names, children, spelled, below, rfl⟩ := editAt_ok made
  simp only [editAt, spelled, Children.editAt_editAt below]

theorem editAt_of_fixed {children : Children} (ordered : tree.Ordered)
    (listed : tree.list parent = .ok children) (fixed : edit children = children) :
    tree.editAt parent edit = .ok tree := by
  obtain ⟨hidden, found⟩ := find_of_list listed
  obtain ⟨names, spelled, reached⟩ := exists_names_of_find found
  have unchanged := Children.editAt_of_fixed ordered reached fixed
  simp only [editAt, spelled, unchanged]

/-- After an edit the edited children are listed. -/
theorem list_of_editAt (made : tree.editAt parent edit = .ok after) :
    ∃ children, tree.list parent = .ok children ∧ after.list parent = .ok (edit children) := by
  obtain ⟨names, edited, spelled, below, rfl⟩ := editAt_ok made
  obtain ⟨children, mark, found, later⟩ := Children.descend_editAt below tree.hidden
  have now := later []
  rw [List.append_nil, Node.descend_nil] at now
  refine ⟨children, ?_, ?_⟩
  · rw [list_of_names spelled, root, Node.contents_of_directory found]
    rfl
  · rw [list_of_names spelled, root, Node.contents_of_directory now]
    rfl

theorem Ordered.list {children : Children} (ordered : tree.Ordered)
    (listed : tree.list parent = .ok children) : NameMap.Ordered children := by
  obtain ⟨hidden, found⟩ := find_of_list listed
  obtain ⟨names, -, reached⟩ := exists_names_of_find found
  exact (Node.ordered_directory.mp (Node.Ordered.descend ordered reached)).1

/-! ### What is undone -/

variable {node : Node}

/-- What was mounted under a new name can be unmounted, and then nothing has happened. -/
theorem unmount_of_mount (ordered : tree.Ordered)
    (mounted : tree.mount parent name node = .ok after)
    (new : ∀ children, tree.list parent = .ok children → name ∉ NameMap.names children) :
    after.unmount parent name = .ok (node, tree) := by
  have made := editAt_of_mount mounted
  obtain ⟨children, listed, listedAfter⟩ := list_of_editAt made
  have absent : NameMap.find? children name = none := by
    have missing := new children listed
    rwa [NameMap.mem_names_iff, ne_eq, Decidable.not_not] at missing
  have restored : after.editAt parent (NameMap.remove · name) = .ok tree := by
    rw [editAt_editAt made]
    exact editAt_of_fixed ordered listed ((ordered.list listed).remove_put absent node)
  exact unmount_of_held listedAfter (NameMap.find?_put_self ..) restored

/-- What was unmounted can be mounted where it was, and then nothing has happened. -/
theorem mount_of_unmount (ordered : tree.Ordered) (typable : Path.isEntryName name = true)
    (unmounted : tree.unmount parent name = .ok (node, after)) :
    after.mount parent name node = .ok tree := by
  obtain ⟨children, listed, held, made⟩ := unmount_ok unmounted
  rw [mount_of_typable typable, editAt_editAt made]
  exact editAt_of_fixed ordered listed ((ordered.list listed).put_remove held)

/-! ### What is left after unmounting -/

section Regions

variable {children : Children} {names : List String}
  (made : tree.children.editAt (NameMap.remove · name) names = .ok children)

include made

/-- The entry that was taken out is no longer there, nor is anything below it. -/
theorem descend_unmounted (rest : List String) :
    ({ tree with children } : Tree).root.descend (names ++ name :: rest) = .error .absent := by
  obtain ⟨inner, mark, -, below⟩ := Children.descend_editAt made tree.hidden
  have absent : NameMap.find? (NameMap.remove inner name) name = none := by
    rw [NameMap.find?_remove, if_pos rfl]
  calc (Node.directory children tree.hidden).descend (names ++ name :: rest)
    _ = (Node.directory (NameMap.remove inner name) mark).descend (name :: rest) := below _
    _ = .error .absent := Node.descend_absent absent rest

/-- Off the way to the entry that was taken out nothing changes. -/
theorem descend_apart_from_unmounted {path : List String} (notBelow : ¬ names ++ [name] <+: path)
    (notAbove : ¬ path <+: names) :
    ({ tree with children } : Tree).root.descend path = tree.root.descend path := by
  have keeps : ∀ (inner : Children) other, name ≠ other →
      NameMap.find? (NameMap.remove inner name) other = NameMap.find? inner other := by
    intro inner other different
    rw [NameMap.find?_remove, if_neg different]
  exact Children.descend_editAt_apart keeps made notBelow notAbove tree.hidden

end Regions

/-- Mounting and unmounting are inverse to each other on trees in name order. A node mounted under a
name that its directory did not have is what unmounting the name gives back, together with the tree
before. A node that was unmounted can be mounted under its name again, if the name can be typed at
all, and gives the tree before. After an unmount every path at or below the entry is refused because
there is nothing, and every path that neither is there nor leads to the parent gives exactly what it
gave before. -/
theorem mount_and_unmount_undo_each_other (tree : Tree) (ordered : tree.Ordered)
    (parent name : String) (node : Node) (after : Tree) :
    (tree.mount parent name node = .ok after →
      (∀ children, tree.list parent = .ok children → name ∉ NameMap.names children) →
      after.unmount parent name = .ok (node, tree)) ∧
    (tree.unmount parent name = .ok (node, after) →
      (Path.isEntryName name = true → after.mount parent name node = .ok tree) ∧
      ∃ names, Path.names? parent = some names ∧
        (∀ path rest, Path.names? path = some (names ++ name :: rest) →
          after.lookup path = .error (.noSuchPath path)) ∧
        ∀ path, (∀ other, Path.names? path = some other →
            ¬ names ++ [name] <+: other ∧ ¬ other <+: names) →
          after.lookup path = tree.lookup path) := by
  refine ⟨unmount_of_mount ordered, fun unmounted => ?_⟩
  refine ⟨fun typable => mount_of_unmount ordered typable unmounted, ?_⟩
  obtain ⟨-, -, -, made⟩ := unmount_ok unmounted
  obtain ⟨names, children, spelled, removed, rfl⟩ := editAt_ok made
  refine ⟨names, spelled, ?_, ?_⟩
  · intro path rest spelled
    rw [lookup_of_names spelled, descend_unmounted removed]
    rfl
  · intro path apart
    cases spelled : Path.names? path with
    | none => rw [lookup_of_outside spelled, lookup_of_outside spelled]
    | some other =>
      obtain ⟨notBelow, notAbove⟩ := apart other spelled
      rw [lookup_of_names spelled, lookup_of_names spelled,
        descend_apart_from_unmounted removed notBelow notAbove]

/-- A study with a hidden cabinet. -/
def study : Tree :=
  { children := [("cabinet", .directory [("deeds", .directory [("will", .textFile "signed")] false),
      ("ring", .textFile "gold")] true), ("desk", .textFile "oak")] }

/-- A map laid into the cabinet comes out again. The deeds come out with the will among them; until
they are put back nobody finds the will, the ring is where it was, and then nothing has happened. -/
theorem mount_and_unmount_undo_in_study :
    (∃ after, study.mount "~//cabinet/" "map" (.textFile "inked") = .ok after ∧
      after.unmount "~//cabinet/" "map" = .ok (.textFile "inked", study)) ∧
    ∃ deeds after, study.unmount "~/cabinet" "deeds" = .ok (deeds, after) ∧
      after.mount "~/cabinet" "deeds" deeds = .ok study ∧
      after.lookup "~/cabinet/deeds/will" = .error (.noSuchPath "~/cabinet/deeds/will") ∧
      after.lookup "~/cabinet/ring" = study.lookup "~/cabinet/ring" ∧
      after.lookup "~/desk/drawer" = study.lookup "~/desk/drawer" := by
  have ordered : study.Ordered := by
    simp only [Tree.Ordered, root, study, Node.textFile, Node.Ordered, Node.OrderedChildren,
      NameMap.Ordered]
    decide
  have mounted : study.mount "~//cabinet/" "map" (.textFile "inked") = .ok
      { children := [("cabinet", .directory [("deeds", .directory [("will", .textFile "signed")]
          false), ("map", .textFile "inked"), ("ring", .textFile "gold")] true),
          ("desk", .textFile "oak")] } := by
    rfl
  have unmounted : study.unmount "~/cabinet" "deeds" = .ok
      (.directory [("will", .textFile "signed")] false,
        { children := [("cabinet", .directory [("ring", .textFile "gold")] true),
            ("desk", .textFile "oak")] }) := by
    rfl
  obtain ⟨again, -⟩ := study.mount_and_unmount_undo_each_other ordered "~//cabinet/" "map" _ _
  obtain ⟨-, back⟩ := study.mount_and_unmount_undo_each_other ordered "~/cabinet" "deeds" _ _
  obtain ⟨whole, names, spelled, below, apart⟩ := back unmounted
  have parent : names = ["cabinet"] := Option.some.inj (spelled.symm.trans (by decide))
  subst parent
  refine ⟨⟨_, mounted, again mounted ?_⟩, _, _, unmounted, whole (by decide), ?_, ?_, ?_⟩
  · intro children listed
    cases listed
    decide
  · exact below "~/cabinet/deeds/will" ["will"] (by decide)
  · apply apart
    intro other read
    have ring : other = ["cabinet", "ring"] := Option.some.inj (read.symm.trans (by decide))
    subst ring
    decide
  · apply apart
    intro other read
    have drawer : other = ["desk", "drawer"] := Option.some.inj (read.symm.trans (by decide))
    subst drawer
    decide

end Tree

end StoryShell
