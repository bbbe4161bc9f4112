/-
# What is refused of a directory is refused by all

Listing a directory, mounting into it and unmounting from it fail exactly when its
children cannot be read, and with the same failure; and beyond that each of the two
edits has one reason of its own, a name that cannot be typed and a child that is not
there. A change that is refused leaves the tree as it was.
-/

import StoryShell.Change
import StoryShell.Proofs.NameMap
import StoryShell.Proofs.Tree.Rebuilding

namespace StoryShell

namespace Tree

variable {tree : Tree} {parent name : String} {failure : Failure}

/-- A look-up fails for one of three reasons, and names the whole path. -/
theorem failure_of_lookup (missed : tree.lookup parent = .error failure) :
    failure = .noSuchPath parent ∨ failure = .notADirectory parent ∨
      failure = .invalidPath parent := by
  rw [lookup] at missed
  cases found : tree.find parent with
  | ok node => rw [found] at missed; cases missed
  | error miss =>
    rw [found] at missed
    cases missed
    cases miss with
    | absent => exact .inl rfl
    | notADirectory => exact .inr (.inl rfl)
    | outside => exact .inr (.inr rfl)

/-- Listing the directory at a path, unmounting from it and mounting a node into it under a name
that can be typed all fail in the same way. -/
structure Refuses (tree : Tree) (parent name : String) (node : Node) (failure : Failure) : Prop where
  list : tree.list parent = .error failure
  unmount : tree.unmount parent name = .error failure
  mount : Path.isEntryName name = true → tree.mount parent name node = .error failure

/-- What cannot be listed can be neither unmounted from nor mounted into. -/
theorem refuses_of_list (unlisted : tree.list parent = .error failure) (node : Node) :
    tree.Refuses parent name node failure where
  list := unlisted
  unmount := unmount_of_missed unlisted
  mount := by
    intro typable
    rw [mount_of_typable typable]
    exact editAt_eq_error_iff.mpr unlisted

end Tree

/-- A change of the tree that is refused leaves the state as it was. -/
theorem State.commit_of_refused {state : State} {change : Change} {failure : Failure}
    (refused : state.tree.apply change = .error failure) :
    state.commit [change] = (some failure, state) := by
  have stopped : state.applyAll [change] = .error failure := by
    rw [applyAll, List.foldlM_cons, State.apply_eq, refused]
    rfl
  rw [commit, stopped]

namespace Tree

/-- Look-ups, listings, mounts and unmounts are refused alike. A name that cannot be typed is
refused before anything else. A path that starts elsewhere than at the root is invalid for all four.
A look-up that fails names the path, and listing, unmounting and mounting fail in the same way; so
they do where it finds no directory, for that reason. In a directory, listing gives its children,
mounting succeeds under every name that can be typed, and unmounting succeeds for every child and
for nothing else. Nothing that is refused changes the tree. -/
theorem operations_fail_alike (tree : Tree) (parent name : String) (node : Node) :
    (Path.isEntryName name = true ↔
      name ≠ "" ∧ '/' ∉ name.toList ∧ name ≠ "." ∧ name ≠ ".." ∧ name ≠ "~") ∧
    (¬ Path.isEntryName name = true → tree.mount parent name node = .error (.invalidPath name)) ∧
    (∀ first rest, Text.fullPieces '/' parent = first :: rest → first ≠ "~" →
      tree.lookup parent = .error (.invalidPath parent) ∧
        tree.Refuses parent name node (.invalidPath parent)) ∧
    (∀ failure, tree.lookup parent = .error failure →
      (failure = .noSuchPath parent ∨ failure = .notADirectory parent ∨
        failure = .invalidPath parent) ∧
        tree.Refuses parent name node failure) ∧
    (∀ found, tree.lookup parent = .ok found → found.isDirectory = false →
      tree.Refuses parent name node (.notADirectory parent)) ∧
    (∀ children hidden, tree.lookup parent = .ok (.directory children hidden) →
      tree.list parent = .ok children ∧
        ((∃ after, tree.mount parent name node = .ok after) ↔ Path.isEntryName name = true) ∧
        ((∃ found after, tree.unmount parent name = .ok (found, after)) ↔
          name ∈ NameMap.names children) ∧
        (name ∉ NameMap.names children →
          tree.unmount parent name = .error (.noSuchPath (Path.join parent name)))) ∧
    ∀ change failure session, tree.apply change = .error failure →
      State.commit ⟨session, tree⟩ [change] = (some failure, ⟨session, tree⟩) := by
  refine ⟨?_, fun untypable => mount_of_not_typable untypable node, ?_, ?_, ?_, ?_,
    fun _ _ _ refused => State.commit_of_refused refused⟩
  · rw [Path.isEntryName_iff, Path.IsProper, Path.IsSegment, Path.root]
    simp only [and_assoc]
  · intro first rest cut elsewhere
    have outside : Path.names? parent = none := by
      rw [Path.names?, cut]
      exact if_neg elsewhere
    have missed : tree.lookup parent = .error (.invalidPath parent) := lookup_of_outside outside
    exact ⟨missed, refuses_of_list (list_of_missed missed) node⟩
  · intro failure missed
    exact ⟨failure_of_lookup missed, refuses_of_list (list_of_missed missed) node⟩
  · intro found reached leaf
    exact refuses_of_list (list_of_leaf reached leaf) node
  · intro children hidden reached
    have listed := list_of_directory reached
    have absent : name ∉ NameMap.names children →
        tree.unmount parent name = .error (.noSuchPath (Path.join parent name)) := by
      intro missing
      rw [NameMap.mem_names_iff, ne_eq, Decidable.not_not] at missing
      exact unmount_of_absent listed missing
    refine ⟨listed, ⟨?_, ?_⟩, ⟨?_, ?_⟩, absent⟩
    · rintro ⟨after, mounted⟩
      exact typable_of_mount mounted
    · intro typable
      rw [mount_of_typable typable]
      exact exists_editAt listed _
    · rintro ⟨found, after, unmounted⟩
      by_contra missing
      rw [absent missing] at unmounted
      cases unmounted
    · intro member
      obtain ⟨child, held⟩ := Option.ne_none_iff_exists'.mp (NameMap.mem_names_iff.mp member)
      obtain ⟨after, unmounted⟩ := exists_unmount listed held
      exact ⟨child, after, unmounted⟩

/-- A workshop with a bench, on which a plane lies, and a plan of it. -/
def workshop : Tree :=
  { children := [("bench", .directory [("plane", .textFile "sharp")] false),
      ("plan", .textFile "oak")] }

/-- A saw is refused alike outside of the workshop, in a room that is not there and on the page of a
plan. On the bench there is a place for it, and none to take it from. -/
theorem operations_fail_alike_in_workshop :
    workshop.Refuses "bench" "saw" (.textFile "blunt") (.invalidPath "bench") ∧
      workshop.Refuses "~/attic/box" "saw" (.textFile "blunt") (.noSuchPath "~/attic/box") ∧
      workshop.Refuses "~/plan" "saw" (.textFile "blunt") (.notADirectory "~/plan") ∧
      workshop.unmount "~//bench/" "saw" = .error (.noSuchPath "~//bench/saw") ∧
      (∃ after, workshop.mount "~//bench/" "saw" (.textFile "blunt") = .ok after) ∧
      workshop.mount "~/attic/box" ".." (.textFile "blunt") = .error (.invalidPath "..") := by
  obtain ⟨-, -, outside, -⟩ := operations_fail_alike workshop "bench" "saw" (.textFile "blunt")
  obtain ⟨-, -, -, missed, -⟩ :=
    operations_fail_alike workshop "~/attic/box" "saw" (.textFile "blunt")
  obtain ⟨-, -, -, -, leaf, -⟩ := operations_fail_alike workshop "~/plan" "saw" (.textFile "blunt")
  obtain ⟨-, -, -, -, -, directory, -⟩ :=
    operations_fail_alike workshop "~//bench/" "saw" (.textFile "blunt")
  obtain ⟨-, untypable, -⟩ := operations_fail_alike workshop "~/attic/box" ".." (.textFile "blunt")
  have cut : Text.fullPieces '/' "bench" = ["bench"] := by decide
  obtain ⟨-, mounts, -, absent⟩ := directory [("plane", .textFile "sharp")] false rfl
  refine ⟨(outside "bench" [] cut (by decide)).2, (missed _ rfl).2, leaf _ rfl rfl, ?_,
    mounts.mpr (by decide), untypable (by decide)⟩
  rw [absent (by decide)]
  exact congrArg (Except.error ∘ Failure.noSuchPath) (by decide)

end Tree

end StoryShell
