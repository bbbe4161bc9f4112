/-
# What a command sees

A command reads the session, the tree, the configuration and the history, and
changes none of them. Paths that a user types are resolved against the current
directory, and a failure names the path as it was typed.
-/

import StoryShell.Change
import StoryShell.History

namespace StoryShell

/-- What a command or an answer is given to read. -/
structure View where
  state : State
  config : Config
  history : History

namespace View

/-- The session as it stands. -/
def session (view : View) : Session := view.state.session

/-- The tree as it stands. -/
def tree (view : View) : Tree := view.state.tree

/-- The canonical path of a typed path. -/
def resolve (view : View) (path : String) : String :=
  Path.resolve path view.session.cwd

/-- The node at a typed path. A failure names the path as typed. -/
def nodeAt (view : View) (path : String) : Except Failure Node :=
  (view.tree.find (view.resolve path)).mapError (Miss.failure path)

/-- The canonical path of a typed path together with the node there. -/
def lookup (view : View) (path : String) : Except Failure (String × Node) := do
  let node ← view.nodeAt path
  return (view.resolve path, node)

/-- The name shown for the user: of the login, or the configured one without a login. -/
def username (view : View) : String :=
  view.session.username.getD view.config.user

end View

end StoryShell
