/-
# Reading after mounting

A mount decides what every path leads to afterwards. At and below the mounted entry
it is what the node itself leads to; a directory on the way there keeps its hidden
mark and all children but the next one on the way; and every other path, a path
that leads nowhere included, gives what it gave before.
-/

import StoryShell.Proofs.Tree.Rebuilding

namespace StoryShell.Tree

variable {tree after : Tree} {parent name : String} {node : Node} {names : List String}

section Regions

variable {children : Children}
  (made : tree.children.editAt (NameMap.put · name node) names = .ok children)

include made

/-- The mounted entry and everything below it is the node. -/
theorem descend_mounted (rest : List String) :
    ({ tree with children } : Tree).root.descend (names ++ name :: rest) = node.descend rest := by
  obtain ⟨inner, mark, -, below⟩ := Children.descend_editAt made tree.hidden
  calc (Node.directory children tree.hidden).descend (names ++ name :: rest)
    _ = (Node.directory (NameMap.put inner name node) mark).descend (name :: rest) := below _
    _ = node.descend rest := Node.descend_held (NameMap.find?_put_self ..) rest

/-- On the way to the mounted entry a directory changes in the next child only. -/
theorem descend_toward_mounted {above below : List String} {next : String}
    (way : names ++ [name] = above ++ next :: below) :
    ∃ inner mark changed, tree.root.descend above = .ok (.directory inner mark) ∧
      ({ tree with children } : Tree).root.descend above =
        .ok (.directory (NameMap.put inner next changed) mark) := by
  rcases List.eq_nil_or_concat below with rfl | ⟨later, last, rfl⟩
  · -- The path is the parent itself, and the next name is the mounted one.
    obtain ⟨rfl, same⟩ := List.append_inj' way rfl
    cases same
    obtain ⟨inner, mark, found, below⟩ := Children.descend_editAt made tree.hidden
    refine ⟨inner, mark, node, found, ?_⟩
    have here := below []
    rwa [List.append_nil, Node.descend_nil] at here
  · have longer : names ++ [name] = (above ++ next :: later) ++ [last] := by
      rw [way, List.concat_eq_append, List.append_assoc, List.cons_append]
    obtain ⟨rfl, -⟩ := List.append_inj' longer rfl
    exact Children.descend_editAt_above made tree.hidden

/-- Off the way to the mounted entry nothing changes. -/
theorem descend_apart_from_mounted {path : List String} (notBelow : ¬ names ++ [name] <+: path)
    (notAbove : ¬ path <+: names) :
    ({ tree with children } : Tree).root.descend path = tree.root.descend path := by
  have keeps : ∀ inner other, name ≠ other →
      NameMap.find? (NameMap.put inner name node) other = NameMap.find? inner other := by
    intro inner other different
    exact NameMap.find?_put_of_ne different inner node
  exact Children.descend_editAt_apart keeps made notBelow notAbove tree.hidden

end Regions

/-- After a mount every path at or below the new entry leads where the node leads, every directory
from the root to the parent has the children it had but for the one on the way to the entry, every
other path gives exactly what it gave before, and the root is a directory with the mark it had. -/
theorem lookup_after_mount (mounted : tree.mount parent name node = .ok after) :
    ∃ names, Path.names? parent = some names ∧
      (∀ path rest, Path.names? path = some (names ++ name :: rest) →
        after.lookup path = (node.descend rest).mapError (Miss.failure path)) ∧
      (∀ path above next below, Path.names? path = some above →
        names ++ [name] = above ++ next :: below →
          ∃ children hidden changed, tree.lookup path = .ok (.directory children hidden) ∧
            after.lookup path = .ok (.directory (NameMap.put children next changed) hidden)) ∧
      (∀ path, (∀ other, Path.names? path = some other →
          ¬ names ++ [name] <+: other ∧ ¬ other <+: names) →
        after.lookup path = tree.lookup path) ∧
      ∃ children, after.root = .directory children tree.hidden := by
  obtain ⟨names, children, spelled, made, rfl⟩ := editAt_ok (editAt_of_mount mounted)
  refine ⟨names, spelled, ?_, ?_, ?_, children, rfl⟩
  · intro path rest spelled
    rw [lookup_of_names spelled, descend_mounted made]
  · intro path above next below spelled way
    obtain ⟨inner, mark, changed, before, now⟩ := descend_toward_mounted made way
    refine ⟨inner, mark, changed, ?_, ?_⟩
    · rw [lookup_of_names spelled, before]
      rfl
    · rw [lookup_of_names spelled, now]
      rfl
  · intro path apart
    cases spelled : Path.names? path with
    | none => rw [lookup_of_outside spelled, lookup_of_outside spelled]
    | some other =>
      obtain ⟨notBelow, notAbove⟩ := apart other spelled
      rw [lookup_of_names spelled, lookup_of_names spelled,
        descend_apart_from_mounted made notBelow notAbove]

/-- A desk with a hidden drawer. -/
def furnishedRoom : Tree :=
  { children := [("desk", .directory [("drawer", .directory [] true)] false),
      ("desk.txt", .textFile "oak")] }

/-- A key put into the drawer leads nowhere further; the desk stays, and what is not on the way to
the key, or no path at all, is as before. -/
theorem lookup_after_mount_in_drawer :
    ∃ after, furnishedRoom.mount "~//desk/drawer/" "key" (.textFile "brass") = .ok after ∧
      after.lookup "~/desk//drawer/key/tag" = .error (.notADirectory "~/desk//drawer/key/tag") ∧
      (∃ children hidden changed, furnishedRoom.lookup "~/desk" = .ok (.directory children hidden) ∧
        after.lookup "~/desk" = .ok (.directory (NameMap.put children "drawer" changed) hidden)) ∧
      after.lookup "~/desk.txt" = furnishedRoom.lookup "~/desk.txt" ∧
      after.lookup "desk" = furnishedRoom.lookup "desk" := by
  have mounted : furnishedRoom.mount "~//desk/drawer/" "key" (.textFile "brass") = .ok
      { children := [("desk", .directory [("drawer", .directory [("key", .textFile "brass")] true)]
          false), ("desk.txt", .textFile "oak")] } := by
    rfl
  obtain ⟨names, spelled, below, toward, apart, -⟩ := lookup_after_mount mounted
  have parent : names = ["desk", "drawer"] :=
    Option.some.inj (spelled.symm.trans (by decide))
  subst parent
  refine ⟨_, mounted, ?_, ?_, ?_, ?_⟩
  · exact below "~/desk//drawer/key/tag" ["tag"] (by decide)
  · exact toward "~/desk" ["desk"] "drawer" ["key"] (by decide) rfl
  · apply apart
    intro other read
    have file : other = ["desk.txt"] := Option.some.inj (read.symm.trans (by decide))
    subst file
    decide
  · apply apart
    intro other read
    have outside : Path.names? "desk" = none := by decide
    rw [outside] at read
    cases read

end StoryShell.Tree
