/-
# Changes of the tree and changes of the session

A list of changes is two streams put together: changes of the tree, and changes of
the session. Neither kind reads or writes what the other does, and only the tree
can refuse one. So making the list comes to making the changes of the tree on the
tree and those of the session on the session, in whatever way the two streams were
put together; and what is refused, and why, is a matter of the tree alone.
-/

import StoryShell.Proofs.Changes

namespace StoryShell

/-- Whether a change is one of the tree. -/
def Change.isOfTree : Change → Bool
  | mount _ _ _ | unmount _ _ => true
  | setCwd _ | logIn _ _ | logOut | countFailure | setFlag _ _ | clearFlag _ => false

/-- The changes of the tree in a list, in order. -/
def treeStream (changes : List Change) : List Change :=
  changes.filter Change.isOfTree

/-- The changes of the session in a list, in order. -/
def sessionStream (changes : List Change) : List Change :=
  changes.filter fun change => !change.isOfTree

/-- The tree after changes made in order, or the failure of the first one that is refused. -/
def Tree.applyAll (tree : Tree) (changes : List Change) : Except Failure Tree :=
  changes.foldlM Tree.apply tree

variable {change : Change}

/-! ### One change -/

theorem Session.apply_of_tree (ofTree : change.isOfTree = true) (session : Session) :
    session.apply change = session := by
  cases change with
  | mount parent name node | unmount parent name => rfl
  | setCwd path | logIn username level | logOut | countFailure | setFlag name value
  | clearFlag name => cases ofTree

/-- Every tree allows a change of the session, and stays as it is. -/
theorem Tree.apply_of_session (ofSession : change.isOfTree = false) (tree : Tree) :
    tree.apply change = .ok tree := by
  cases change with
  | mount parent name node | unmount parent name => cases ofSession
  | setCwd path | logIn username level | logOut | countFailure | setFlag name value
  | clearFlag name => rfl

/-! ### The streams of a list -/

theorem Tree.applyAll_cons (tree : Tree) (change : Change) (changes : List Change) :
    tree.applyAll (change :: changes) = tree.apply change >>= (·.applyAll changes) :=
  List.foldlM_cons ..

theorem treeStream_cons_of_tree (ofTree : change.isOfTree = true) (changes : List Change) :
    treeStream (change :: changes) = change :: treeStream changes :=
  List.filter_cons_of_pos ofTree

theorem treeStream_cons_of_session (ofSession : change.isOfTree = false) (changes : List Change) :
    treeStream (change :: changes) = treeStream changes :=
  List.filter_cons_of_neg (Bool.eq_false_iff.mp ofSession)

theorem sessionStream_cons_of_tree (ofTree : change.isOfTree = true) (changes : List Change) :
    sessionStream (change :: changes) = sessionStream changes :=
  List.filter_cons_of_neg (by simp [ofTree])

theorem sessionStream_cons_of_session (ofSession : change.isOfTree = false)
    (changes : List Change) :
    sessionStream (change :: changes) = change :: sessionStream changes :=
  List.filter_cons_of_pos (by simp [ofSession])

namespace State

variable {state other : State}

/-- Making changes comes to making those of the tree on the tree and, if none is refused, those of
the session on the session. -/
theorem applyAll_eq_streams (state : State) (changes : List Change) :
    state.applyAll changes =
      (state.tree.applyAll (treeStream changes)).map fun tree =>
        { session := (sessionStream changes).foldl Session.apply state.session, tree } := by
  induction changes generalizing state with
  | nil => rfl
  | cons change rest ih =>
    rw [applyAll_cons]
    cases kind : change.isOfTree with
    | true =>
      rw [treeStream_cons_of_tree kind, sessionStream_cons_of_tree kind, Tree.applyAll_cons,
        apply_eq, Session.apply_of_tree kind]
      cases state.tree.apply change with
      | error failure => rfl
      | ok tree => exact ih { state with tree }
    | false =>
      rw [treeStream_cons_of_session kind, sessionStream_cons_of_session kind, apply_eq,
        Tree.apply_of_session kind, List.foldl_cons]
      exact ih { state with session := state.session.apply change }

/-- The failure of a list of changes is that of its changes of the tree. -/
theorem commit_fst (state : State) (changes : List Change) :
    (state.commit changes).1 =
      match state.tree.applyAll (treeStream changes) with
      | .ok _ => none
      | .error failure => some failure := by
  rw [commit, applyAll_eq_streams]
  cases state.tree.applyAll (treeStream changes) <;> rfl

/-- The tree after a list of changes is what its changes of the tree make of it. -/
theorem tree_commit (state : State) (changes : List Change) :
    (state.commit changes).2.tree =
      match state.tree.applyAll (treeStream changes) with
      | .ok tree => tree
      | .error _ => state.tree := by
  rw [commit, applyAll_eq_streams]
  cases state.tree.applyAll (treeStream changes) <;> rfl

/-- The session after a list of changes that are made is what its changes of the session make of
it. -/
theorem session_commit (made : (state.commit changes).1 = none) :
    (state.commit changes).2.session =
      (sessionStream changes).foldl Session.apply state.session := by
  rw [commit, applyAll_eq_streams] at made ⊢
  cases ran : state.tree.applyAll (treeStream changes) with
  | error failure =>
    rw [ran] at made
    cases made
  | ok tree => rfl

/-- The two streams of a list do not interfere. Lists that put the same streams together in
different ways are made or refused alike, with the same failure and the same state at the end.
Whether a list is made, why not, and the tree at the end depend on its changes of the tree and the
tree only; and if it is made, the session at the end depends on its other changes and the session
only. -/
theorem streams_do_not_interfere (state other : State) (changes others : List Change) :
    (treeStream changes = treeStream others → sessionStream changes = sessionStream others →
      state.commit changes = state.commit others) ∧
    (state.tree = other.tree → treeStream changes = treeStream others →
      (state.commit changes).1 = (other.commit others).1 ∧
        (state.commit changes).2.tree = (other.commit others).2.tree) ∧
    (state.session = other.session → sessionStream changes = sessionStream others →
      (state.commit changes).1 = none → (other.commit others).1 = none →
        (state.commit changes).2.session = (other.commit others).2.session) := by
  refine ⟨?_, ?_, ?_⟩
  · intro sameTree sameSession
    rw [commit, commit, applyAll_eq_streams, applyAll_eq_streams, sameTree, sameSession]
  · intro tree same
    rw [commit_fst, commit_fst, tree_commit, tree_commit, tree, same]
    exact ⟨rfl, rfl⟩
  · intro session same made madeToo
    rw [session_commit made, session_commit madeToo, session, same]

/-- A box is put into the attic and taken away again while somebody logs in. -/
def visit : List Change :=
  [.mount "~" "attic" (.folder []), .logIn "ada" .user, .mount "~/attic" "box" (.textFile "hats"),
    .setFlag "seen" (.bool true), .unmount "~/attic" "box", .setCwd "~/attic"]

/-- The same with everything that concerns the session done first. -/
def tidyVisit : List Change :=
  [.logIn "ada" .user, .setFlag "seen" (.bool true), .setCwd "~/attic",
    .mount "~" "attic" (.folder []), .mount "~/attic" "box" (.textFile "hats"),
    .unmount "~/attic" "box"]

/-- A start over a tree that has an attic already, if only as a file. -/
def atticState : State :=
  { tree := { children := [("attic", .textFile "")] } }

/-- Both visits end alike, whoever is there before them. Over the other tree they are made too, and
leave the same session. -/
theorem streams_do_not_interfere_in_attic :
    State.commit {} visit = State.commit {} tidyVisit ∧
      (State.commit {} visit).2.tree =
        (State.commit { session := { username := some "bob" } } tidyVisit).2.tree ∧
      (State.commit {} visit).1 = none ∧
      (State.commit {} visit).2.session = (atticState.commit tidyVisit).2.session := by
  obtain ⟨same, -, -⟩ := streams_do_not_interfere {} {} visit tidyVisit
  obtain ⟨-, tree, -⟩ :=
    streams_do_not_interfere {} { session := { username := some "bob" } } visit tidyVisit
  obtain ⟨-, -, session⟩ := streams_do_not_interfere {} atticState visit tidyVisit
  exact ⟨same rfl rfl, (tree rfl rfl).2, rfl, session rfl rfl rfl rfl⟩

end State

end StoryShell
