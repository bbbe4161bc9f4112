/-
# Changes

Commands do not write to the session or the tree. They ask for changes, and the
terminal makes them: all of those that one command asks for, or none. A change of
the session always succeeds; a change of the tree may be refused.
-/

import StoryShell.Session
import StoryShell.Tree.Basic

namespace StoryShell

/-- A change that a command asks for. -/
inductive Change
  /-- Go to a directory, given by its canonical path. -/
  | setCwd (path : String)
  /-- Start a login, and count failed attempts anew. -/
  | logIn (username : String) (level : AccessLevel)
  /-- End the login. -/
  | logOut
  /-- Count one more failed attempt. -/
  | countFailure
  | setFlag (name : String) (value : FlagValue)
  | clearFlag (name : String)
  /-- Make `node` the child `name` of the directory at `parent`. -/
  | mount (parent name : String) (node : Node)
  /-- Take away the child `name` of the directory at `parent`. -/
  | unmount (parent name : String)

/-- What changes act on: a session and a tree. -/
structure State where
  session : Session := {}
  tree : Tree := {}

namespace State

/-- The state after a change. Only a change of the tree can be refused. -/
def apply (state : State) : Change → Except Failure State
  | .setCwd path => .ok { state with session := { state.session with cwd := path } }
  | .logIn username level =>
    .ok { state with
      session := { state.session with
        username := some username, level := some level, attempts := 0 } }
  | .logOut => .ok { state with session := { state.session with username := none, level := none } }
  | .countFailure =>
    .ok { state with
      session := { state.session with attempts := Session.oneMore state.session.attempts } }
  | .setFlag name value =>
    .ok { state with
      session := { state.session with flags := NameMap.put state.session.flags name value } }
  | .clearFlag name =>
    .ok { state with
      session := { state.session with flags := NameMap.remove state.session.flags name } }
  | .mount parent name node => do
    let tree ← state.tree.mount parent name node
    return { state with tree }
  | .unmount parent name => do
    let (_, tree) ← state.tree.unmount parent name
    return { state with tree }

/-- The state after changes made in order, or the failure of the first one that is refused. -/
def applyAll (state : State) (changes : List Change) : Except Failure State :=
  changes.foldlM apply state

theorem applyAll_nil (state : State) : state.applyAll [] = .ok state :=
  rfl

theorem applyAll_cons {state : State} (change : Change) (changes : List Change) :
    state.applyAll (change :: changes) = state.apply change >>= (·.applyAll changes) :=
  List.foldlM_cons ..

/-- Make changes, all or none: the failure if some change was refused, and the state afterwards,
which then is the state before. -/
def commit (state : State) (changes : List Change) : Option Failure × State :=
  match state.applyAll changes with
  | .ok next => (none, next)
  | .error failure => (some failure, state)

end State

/-! ### The parts of a change -/

/-- What a change makes of the session. Changes of the tree leave it as it is. -/
def Session.apply (session : Session) : Change → Session
  | .setCwd path => { session with cwd := path }
  | .logIn username level =>
    { session with username := some username, level := some level, attempts := 0 }
  | .logOut => { session with username := none, level := none }
  | .countFailure => { session with attempts := oneMore session.attempts }
  | .setFlag name value => { session with flags := NameMap.put session.flags name value }
  | .clearFlag name => { session with flags := NameMap.remove session.flags name }
  | .mount _ _ _ => session
  | .unmount _ _ => session

/-- What a change makes of the tree. Changes of the session leave it as it is. -/
def Tree.apply (tree : Tree) : Change → Except Failure Tree
  | .mount parent name node => tree.mount parent name node
  | .unmount parent name => (tree.unmount parent name).map Prod.snd
  | .setCwd _ => .ok tree
  | .logIn _ _ => .ok tree
  | .logOut => .ok tree
  | .countFailure => .ok tree
  | .setFlag _ _ => .ok tree
  | .clearFlag _ => .ok tree

/-- A change is made of the session and of the tree, each by itself. -/
theorem State.apply_eq (state : State) (change : Change) :
    state.apply change =
      (state.tree.apply change).map fun tree =>
        { session := state.session.apply change, tree } := by
  cases change with
  | setCwd | logIn | logOut | countFailure | setFlag | clearFlag => rfl
  | mount parent name node =>
    rw [apply, Tree.apply]
    cases state.tree.mount parent name node <;> rfl
  | unmount parent name =>
    rw [apply, Tree.apply]
    cases state.tree.unmount parent name <;> rfl

end StoryShell
