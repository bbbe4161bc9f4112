/-
# Mounts that do not meet

Two mounts are independent when neither entry is the other one or lies on the way to
it. Their ways may share directories, part inside one, or one may lead through the
parent of the other. Where the ways part, each mount puts one child into the children
of one directory, and under a different name; before that both do the same. So each
mount succeeds or is refused, and for the same reason, whether it comes first or
second, and both orders end in the same tree. Two mounts of one entry are the later
one.

That both orders give one tree, and not only the same look-ups, needs trees in name
order.
-/

import StoryShell.Proofs.Changes
import StoryShell.Proofs.Tree.Mounting
import StoryShell.Proofs.Tree.Refusals
import StoryShell.Proofs.Tree.Ordered

namespace StoryShell

/-! ### Two ways through one tree -/

namespace Children

variable {names others : List String} {name other : String} {x y : Node}
  {children edited left right : Children} {hidden : Bool}

/-- A mount puts one child into the root, under the first name of its way, and asks for nothing but
the child that was there. -/
theorem editAt_put_eq (made : editAt (NameMap.put · name x) names children = .ok edited) :
    ∃ first value, (names ++ [name]).head? = some first ∧
      edited = NameMap.put children first value ∧
      ∀ siblings, NameMap.find? siblings first = NameMap.find? children first →
        editAt (NameMap.put · name x) names siblings = .ok (NameMap.put siblings first value) := by
  cases names with
  | nil =>
    rw [editAt] at made
    cases made
    exact ⟨name, x, rfl, rfl, fun siblings _ => rfl⟩
  | cons first rest =>
    obtain ⟨inner, mark, changed, held, below, rfl⟩ := editAt_cons made
    refine ⟨first, .directory changed mark, rfl, rfl, ?_⟩
    intro siblings same
    rw [editAt_held (same.trans held), below]
    rfl

/-- Mounts whose ways part at the root. -/
theorem exists_both_of_head_ne (increasing : NameMap.Ordered children)
    (parts : (names ++ [name]).head? ≠ (others ++ [other]).head?)
    (made : editAt (NameMap.put · name x) names children = .ok left)
    (madeOther : editAt (NameMap.put · other y) others children = .ok right) :
    ∃ both, editAt (NameMap.put · other y) others left = .ok both ∧
      editAt (NameMap.put · name x) names right = .ok both := by
  obtain ⟨first, value, head, rfl, anywhere⟩ := editAt_put_eq made
  obtain ⟨second, value', head', rfl, anywhere'⟩ := editAt_put_eq madeOther
  have different : first ≠ second := by
    rintro rfl
    exact parts (head.trans head'.symm)
  refine ⟨NameMap.put (NameMap.put children first value) second value', ?_, ?_⟩
  · exact anywhere' _ (NameMap.find?_put_of_ne different ..)
  · rw [increasing.put_comm different]
    exact anywhere _ (NameMap.find?_put_of_ne (Ne.symm different) ..)

/-- Independent mounts that can both be made can be made one after the other, and the order does not
matter. -/
theorem exists_both (ordered : (Node.directory children hidden).Ordered)
    (notBelow : ¬ names ++ [name] <+: others ++ [other])
    (notAbove : ¬ others ++ [other] <+: names ++ [name])
    (made : editAt (NameMap.put · name x) names children = .ok left)
    (madeOther : editAt (NameMap.put · other y) others children = .ok right) :
    ∃ both, editAt (NameMap.put · other y) others left = .ok both ∧
      editAt (NameMap.put · name x) names right = .ok both := by
  -- Along the two ways together: they part at the root, or go on in the same child.
  induction names generalizing others children left right hidden with
  | nil =>
    obtain ⟨increasing, -⟩ := Node.ordered_directory.mp ordered
    apply exists_both_of_head_ne increasing _ made madeOther
    intro same
    exact notBelow (List.singleton_prefix_iff_head?_eq_some.mpr same.symm)
  | cons first rest ih =>
    obtain ⟨increasing, inside⟩ := Node.ordered_directory.mp ordered
    cases others with
    | nil =>
      apply exists_both_of_head_ne increasing _ made madeOther
      intro same
      exact notAbove (List.singleton_prefix_iff_head?_eq_some.mpr same)
    | cons second more =>
      by_cases same : first = second
      · subst same
        rw [List.cons_append, List.cons_append, List.cons_prefix_cons] at notBelow notAbove
        obtain ⟨inner, mark, changed, held, below, rfl⟩ := editAt_cons made
        obtain ⟨inner', mark', changed', held', below', rfl⟩ := editAt_cons madeOther
        rw [held] at held'
        cases held'
        obtain ⟨both, afterFirst, afterSecond⟩ := ih (inside _ (NameMap.mem_of_find? held))
          (fun within => notBelow ⟨rfl, within⟩) (fun within => notAbove ⟨rfl, within⟩) below below'
        refine ⟨NameMap.put children first (.directory both mark), ?_, ?_⟩
        · rw [editAt_held (NameMap.find?_put_self ..), afterFirst]
          exact congrArg Except.ok (NameMap.put_put ..)
        · rw [editAt_held (NameMap.find?_put_self ..), afterSecond]
          exact congrArg Except.ok (NameMap.put_put ..)
      · apply exists_both_of_head_ne increasing _ made madeOther
        intro heads
        exact same (Option.some.inj heads)

end Children

namespace Tree

/-- Neither of two entries, each given by its directory and its name, is the other one or on the way
to it. A path that starts outside the tree gives no entry. -/
def Apart (parent name parent' name' : String) : Prop :=
  ∀ names others, Path.names? parent = some names → Path.names? parent' = some others →
    ¬ names ++ [name] <+: others ++ [name'] ∧ ¬ others ++ [name'] <+: names ++ [name]

variable {tree after left right : Tree} {parent name parent' name' : String} {x y : Node}
  {failure : Failure}

theorem Apart.symm (apart : Apart parent name parent' name') : Apart parent' name' parent name :=
  fun names others spelled spelled' => (apart others names spelled' spelled).symm

/-! ### A refused mount stays refused -/

/-- What cannot be listed cannot be listed after a mount elsewhere: a directory on the way to the
new entry can be listed before and after, and off the way nothing changes. -/
theorem list_refused_after_mount (apart : Apart parent name parent' name')
    (mounted : tree.mount parent' name' y = .ok after)
    (refused : tree.list parent = .error failure) : after.list parent = .error failure := by
  cases spelled : Path.names? parent with
  | none =>
    rw [list_of_missed (lookup_of_outside spelled)] at refused ⊢
    exact refused
  | some names =>
    obtain ⟨others, children, spelled', made, rfl⟩ := editAt_ok (editAt_of_mount mounted)
    obtain ⟨-, notBelow⟩ := apart names others spelled spelled'
    rw [list_of_names spelled] at refused ⊢
    by_cases onTheWay : names <+: others
    · obtain ⟨below, rfl⟩ := onTheWay
      obtain ⟨next, later, split⟩ : ∃ next later, below ++ [name'] = next :: later :=
        List.exists_cons_of_ne_nil (List.append_ne_nil_of_right_ne_nil below (by simp))
      have way : (names ++ below) ++ [name'] = names ++ next :: later := by
        rw [List.append_assoc, split]
      obtain ⟨inner, mark, changed, found, -⟩ := descend_toward_mounted made way
      rw [Node.contents_of_directory found] at refused
      cases refused
    · have unchanged := descend_apart_from_mounted made
        (fun within => notBelow (within.trans (List.prefix_append names [name]))) onTheWay
      rwa [Node.contents_congr unchanged]

theorem mount_refused_after_mount (apart : Apart parent name parent' name')
    (mounted : tree.mount parent' name' y = .ok after)
    (refused : tree.mount parent name x = .error failure) :
    after.mount parent name x = .error failure := by
  by_cases typable : Path.isEntryName name = true
  · rw [mount_of_typable typable, editAt_eq_error_iff] at refused ⊢
    exact list_refused_after_mount apart mounted refused
  · rw [mount_of_not_typable typable] at refused ⊢
    exact refused

/-! ### Mounts that succeed -/

theorem editAt_of_names {names : List String} {children : Children} {edit : Children → Children}
    (spelled : Path.names? parent = some names)
    (made : tree.children.editAt edit names = .ok children) :
    tree.editAt parent edit = .ok { tree with children } := by
  simp only [editAt, spelled, made]

/-- Independent mounts that both succeed succeed in either order, with the same result. -/
theorem exists_both_mounts (ordered : tree.Ordered) (apart : Apart parent name parent' name')
    (mounted : tree.mount parent name x = .ok left)
    (mounted' : tree.mount parent' name' y = .ok right) :
    ∃ both, left.mount parent' name' y = .ok both ∧ right.mount parent name x = .ok both := by
  obtain ⟨names, children, spelled, made, rfl⟩ := editAt_ok (editAt_of_mount mounted)
  obtain ⟨others, children', spelled', made', rfl⟩ := editAt_ok (editAt_of_mount mounted')
  obtain ⟨notBelow, notAbove⟩ := apart names others spelled spelled'
  obtain ⟨both, afterFirst, afterSecond⟩ :=
    Children.exists_both ordered notBelow notAbove made made'
  refine ⟨{ tree with children := both }, ?_, ?_⟩
  · rw [mount_of_typable (typable_of_mount mounted')]
    exact editAt_of_names spelled' afterFirst
  · rw [mount_of_typable (typable_of_mount mounted)]
    exact editAt_of_names spelled afterSecond

/-- The entry is what the later of two mounts made of it. -/
theorem mount_again (same : Path.names? parent = Path.names? parent')
    (mounted : tree.mount parent name x = .ok left)
    (mountedAgain : left.mount parent' name y = .ok after) :
    tree.mount parent' name y = .ok after := by
  obtain ⟨names, children, spelled, made, rfl⟩ := editAt_ok (editAt_of_mount mounted)
  have typable := typable_of_mount mountedAgain
  rw [mount_of_typable typable, editAt, ← same, spelled] at mountedAgain ⊢
  simpa only [Children.editAt_editAt made, Function.comp_def, NameMap.put_put] using mountedAgain

end Tree

namespace State

variable {state : State} {parent name parent' name' : String} {x y : Node}

theorem commit_mount {after : Tree} (mounted : state.tree.mount parent name x = .ok after) :
    state.commit [.mount parent name x] = (none, { state with tree := after }) :=
  commit_one_iff.mpr ⟨mounted, rfl⟩

theorem commit_mount_refused {failure : Failure}
    (refused : state.tree.mount parent name x = .error failure) :
    state.commit [.mount parent name x] = (some failure, state) :=
  commit_of_refused refused

/-- Two mounts of entries of which neither is the other or on the way to it can be made in either
order, each on the state that the other left: each fails as it would have failed alone, and the
states at the end are equal. Of two mounts of one entry that both succeed only the later counts. -/
theorem independent_mounts_commute (state : State) (ordered : state.tree.Ordered)
    (parent name parent' name' : String) (x y : Node) :
    (Tree.Apart parent name parent' name' →
      ∃ both,
        (state.commit [.mount parent name x]).2.commit [.mount parent' name' y] =
          ((state.commit [.mount parent' name' y]).1, both) ∧
        (state.commit [.mount parent' name' y]).2.commit [.mount parent name x] =
          ((state.commit [.mount parent name x]).1, both)) ∧
    (Path.names? parent = Path.names? parent' → name = name' → ∀ middle last,
      state.commit [.mount parent name x] = (none, middle) →
      middle.commit [.mount parent' name' y] = (none, last) →
        state.commit [.mount parent' name' y] = (none, last)) := by
  constructor
  · intro apart
    cases first : state.tree.mount parent name x with
    | error failure =>
      rw [commit_mount_refused first]
      cases second : state.tree.mount parent' name' y with
      | error failure' =>
        rw [commit_mount_refused second, commit_mount_refused first]
        exact ⟨state, rfl, rfl⟩
      | ok right =>
        rw [commit_mount second]
        have still : right.mount parent name x = .error failure :=
          Tree.mount_refused_after_mount apart second first
        exact ⟨_, rfl, commit_mount_refused still⟩
    | ok left =>
      rw [commit_mount first]
      cases second : state.tree.mount parent' name' y with
      | error failure =>
        have still : left.mount parent' name' y = .error failure :=
          Tree.mount_refused_after_mount apart.symm first second
        rw [commit_mount_refused second]
        exact ⟨_, commit_mount_refused still, commit_mount first⟩
      | ok right =>
        obtain ⟨both, afterFirst, afterSecond⟩ :=
          Tree.exists_both_mounts ordered apart first second
        rw [commit_mount second]
        exact ⟨{ state with tree := both }, commit_mount afterFirst, commit_mount afterSecond⟩
  · rintro same rfl middle last committed committedAgain
    obtain ⟨mounted, kept⟩ := commit_one_iff.mp committed
    obtain ⟨mountedAgain, keptAgain⟩ := commit_one_iff.mp committedAgain
    have direct : state.tree.mount parent' name y = .ok last.tree :=
      Tree.mount_again same mounted mountedAgain
    exact commit_one_iff.mpr ⟨direct, keptAgain.trans kept⟩

/-- A kitchen with a table and a recipe. -/
def kitchen : State :=
  { tree :=
      { children := [("recipe", .textFile "stir"),
          ("table", .directory [("plate", .textFile "blue")] false)] } }

/-- A cup on the table and a lamp in the kitchen do not meet, though the way to the cup leads
through the place of the lamp. A spoon laid into the recipe is refused before and after the cup is
put on the table. A second cup takes the place of the first, however the table is spelled. -/
theorem independent_mounts_commute_in_kitchen :
    kitchen.tree.Ordered ∧
      (∃ both,
        (kitchen.commit [.mount "~/table" "cup" (.textFile "tea")]).2.commit
            [.mount "~" "lamp" (.folder [])] = (none, both) ∧
          (kitchen.commit [.mount "~" "lamp" (.folder [])]).2.commit
            [.mount "~/table" "cup" (.textFile "tea")] = (none, both)) ∧
      (kitchen.commit [.mount "~/table" "cup" (.textFile "tea")]).2.commit
          [.mount "~/recipe" "spoon" (.folder [])] =
        (some (.notADirectory "~/recipe"),
          (kitchen.commit [.mount "~/table" "cup" (.textFile "tea")]).2) ∧
      kitchen.commit [.mount "~//table/" "cup" (.textFile "milk")] =
        ((kitchen.commit [.mount "~/table" "cup" (.textFile "tea")]).2.commit
          [.mount "~//table/" "cup" (.textFile "milk")]) := by
  have ordered : kitchen.tree.Ordered := by
    simp only [Tree.Ordered, Tree.root, kitchen, Node.textFile, Node.Ordered, Node.OrderedChildren,
      NameMap.Ordered]
    decide
  have table : Path.names? "~/table" = some ["table"] := by decide
  have apart : Tree.Apart "~/table" "cup" "~" "lamp" := by
    intro names others spelled spelled'
    obtain rfl : names = ["table"] := Option.some.inj (spelled.symm.trans table)
    obtain rfl : others = [] := Option.some.inj (spelled'.symm.trans (by decide))
    decide
  have apart' : Tree.Apart "~/table" "cup" "~/recipe" "spoon" := by
    intro names others spelled spelled'
    obtain rfl : names = ["table"] := Option.some.inj (spelled.symm.trans table)
    obtain rfl : others = ["recipe"] := Option.some.inj (spelled'.symm.trans (by decide))
    decide
  obtain ⟨commute, -⟩ := independent_mounts_commute kitchen ordered "~/table" "cup" "~" "lamp"
    (.textFile "tea") (.folder [])
  obtain ⟨refused, -⟩ := independent_mounts_commute kitchen ordered "~/table" "cup" "~/recipe"
    "spoon" (.textFile "tea") (.folder [])
  obtain ⟨-, again⟩ := independent_mounts_commute kitchen ordered "~/table" "cup" "~//table/" "cup"
    (.textFile "tea") (.textFile "milk")
  obtain ⟨after, second, first⟩ := refused apart'
  -- The refused spoon leaves the state, so both orders end with the cup on the table.
  have here : after = (kitchen.commit [.mount "~/table" "cup" (.textFile "tea")]).2 :=
    (congrArg Prod.snd first).symm
  refine ⟨ordered, commute apart, ?_, ?_⟩
  · rw [second, here]
    rfl
  · exact again (by decide) rfl _ _ rfl rfl

end State

end StoryShell
