/-
# Names that can be typed

A name is accepted for a new entry exactly if typing it in a directory leads one step
down, to the child of that name: not elsewhere, as `~` and `..` do, and not to where one
is. The path that it then leads to is the one that joining the name to the directory's
path spells, so what has been mounted is found at once by whoever stands in the
directory and types its name.
-/

import StoryShell.Proofs.Completion
import StoryShell.Proofs.Tree.Mounting
import StoryShell.Proofs.Tree.Refusals

namespace StoryShell

namespace Path

open StoryShell.Text

variable {names : List String} {name : String}

/-- The name of an entry leads one step down. -/
theorem follow_typable (typable : isEntryName name = true) (names : List String) :
    follow names name = names ++ [name] := by
  have entry : follow names ("" ++ name) = follow names "" ++ [name] :=
    follow_entry names (.inl rfl) typable
  have stays : follow names "" = names := rfl
  rwa [String.empty_append, stays] at entry

/-- No other name does. -/
theorem typable_of_follow (proper : ∀ name ∈ names, IsProper name)
    (single : follow names name = names ++ [name]) : isEntryName name = true := by
  rw [isEntryName_iff]
  constructor
  · apply proper_follow proper name
    rw [single]
    exact List.mem_append_right names (List.mem_singleton_self name)
  · rintro rfl
    have home : follow names root = [] := rfl
    rw [home] at single
    exact List.append_ne_nil_of_right_ne_nil names (List.cons_ne_nil root []) single.symm

/-- The segments of a name typed in a canonical directory are those of the directory and the name
itself exactly if it is the name of an entry. -/
theorem pieces_resolve_eq_iff (proper : ∀ name ∈ names, IsProper name) :
    pieces '/' (resolve name (render names)) = pieces '/' (render names) ++ [name] ↔
      isEntryName name = true := by
  have segments := segments_of_proper proper
  rw [resolve, namesOf_render segments, pieces_render segments,
    pieces_render (segments_follow segments name), List.cons_append, List.cons.injEq,
    eq_self, true_and]
  exact ⟨typable_of_follow proper, fun typable => follow_typable typable names⟩

theorem resolve_typable (proper : ∀ name ∈ names, IsProper name)
    (typable : isEntryName name = true) :
    resolve name (render names) = join (render names) name := by
  have segments := segments_of_proper proper
  rw [resolve, namesOf_render segments, follow_typable typable, join_render segments]

end Path

/-- What has been mounted is looked up by its name from the directory that it is in. -/
theorem View.lookup_of_mount {names : List String} (proper : ∀ name ∈ names, Path.IsProper name)
    {tree : Tree} {name : String} {node : Node} {view : View}
    (mounted : tree.mount (Path.render names) name node = .ok view.tree)
    (here : view.session.cwd = Path.render names) :
    view.lookup name = .ok (Path.join (Path.render names) name, node) := by
  have typable := Tree.typable_of_mount mounted
  have segments := Path.segments_of_proper proper
  have below : ∀ other ∈ names ++ [name], Path.IsSegment other :=
    List.forall_mem_append.mpr
      ⟨segments, List.forall_mem_singleton.mpr (Path.isEntryName_iff.mp typable).1.1⟩
  obtain ⟨spelled, children, same, made, after⟩ := Tree.editAt_ok (Tree.editAt_of_mount mounted)
  rw [Path.names?_render segments] at same
  cases same
  have resolved : view.resolve name = Path.join (Path.render names) name := by
    rw [resolve, here, Path.resolve_typable proper typable]
  have found : view.tree.find (Path.join (Path.render names) name) = .ok node := by
    rw [Path.join_render segments, Tree.find_render below, after,
      Tree.descend_mounted made, Node.descend_nil]
  rw [lookup, nodeAt, resolved, found]
  rfl

namespace Tree

/-- Whoever types a name in a canonical directory is led to its segments and the name itself exactly
if the name is not empty, holds no slash, and is none of `.`, `..` and `~`. These are exactly the
names that mounting accepts in a directory that is there. Then the path is the directory's with the
name joined to it, and once a node has been mounted, looking up the name from the directory finds
that path and the node. -/
theorem mountable_names_lead_to_children {cwd : String} (canonical : Path.IsCanonical cwd)
    (name : String) :
    let leadsToChild :=
      Text.pieces '/' (Path.resolve name cwd) = Text.pieces '/' cwd ++ [name]
    (leadsToChild ↔
      name ≠ "" ∧ '/' ∉ name.toList ∧ name ≠ "." ∧ name ≠ ".." ∧ name ≠ "~") ∧
    (leadsToChild → Path.resolve name cwd = Path.join cwd name) ∧
    (∀ (tree : Tree) (children : Children) (node : Node), tree.list cwd = .ok children →
      ((∃ after, tree.mount cwd name node = .ok after) ↔ leadsToChild)) ∧
    ∀ (tree : Tree) (node : Node) (view : View), tree.mount cwd name node = .ok view.tree →
      view.session.cwd = cwd → view.lookup name = .ok (Path.join cwd name, node) := by
  obtain ⟨names, proper, rfl⟩ := canonical
  intro leadsToChild
  have accepted : leadsToChild ↔ Path.isEntryName name = true := Path.pieces_resolve_eq_iff proper
  refine ⟨?_, ?_, ?_, ?_⟩
  · rw [accepted, Path.isEntryName_iff, Path.IsProper, Path.IsSegment, Path.root]
    simp only [and_assoc]
  · intro leads
    exact Path.resolve_typable proper (accepted.mp leads)
  · intro tree children node listed
    rw [accepted]
    constructor
    · rintro ⟨after, mounted⟩
      exact typable_of_mount mounted
    · intro typable
      rw [mount_of_typable typable]
      exact exists_editAt listed _
  · intro tree node view mounted here
    exact View.lookup_of_mount proper mounted here

/-- A shelf on which a box is put whose name begins with a tilde. -/
def shelfView : View :=
  { state :=
      { session := { cwd := "~/shelf" }
        tree := { children := [("shelf", .folder [("~box", .textFile "pins")])] } }
    config := {}
    history := {} }

/-- From the shelf the box is found by its name, and the path to it is spelled in one way. Its name
with a slash behind it leads there too, but is no name that a box could have. -/
theorem mountable_names_lead_to_children_on_shelf :
    shelfView.lookup "~box" = .ok ("~/shelf/~box", .textFile "pins") ∧
      Path.resolve "~box" "~/shelf" = "~/shelf/~box" ∧
      Path.resolve "~box/" "~/shelf" = "~/shelf/~box" ∧
      ¬ ∃ after, shelfView.tree.mount "~/shelf" "~box/" (.textFile "pins") = .ok after := by
  have canonical : Path.IsCanonical "~/shelf" :=
    ⟨["shelf"], by simp [Path.IsProper, Path.IsSegment], by decide⟩
  obtain ⟨leads, joined, -, found⟩ := mountable_names_lead_to_children canonical "~box"
  obtain ⟨leadsNot, -, accepts, -⟩ := mountable_names_lead_to_children canonical "~box/"
  have mounted : Tree.mount { children := [("shelf", .folder [])] } "~/shelf" "~box"
      (.textFile "pins") = .ok shelfView.tree := by
    rfl
  have spelled : Path.join "~/shelf" "~box" = "~/shelf/~box" := by decide
  rw [← spelled]
  refine ⟨found _ _ shelfView mounted rfl, joined (leads.mpr (by decide)), by decide, ?_⟩
  rw [accepts shelfView.tree _ _ rfl, leadsNot]
  decide

end Tree

end StoryShell
