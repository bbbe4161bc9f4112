/-
# Session state

A session remembers where the user is, who has logged in at which level, how many
attempts have failed, and a set of named flags.
-/

import StoryShell.Config.Basic
import StoryShell.NameMap
import StoryShell.Path

namespace StoryShell

/-- The value of a flag. -/
inductive FlagValue
  | bool (value : Bool)
  | text (value : String)
  deriving DecidableEq, Repr

namespace FlagValue

/-- A flag counts as set when its value is true or a text that is not empty. -/
def isSet : FlagValue → Bool
  | bool value => value
  | text value => value ≠ ""

/-- The value as it is shown. -/
def shown : FlagValue → String
  | bool true => "true"
  | bool false => "false"
  | text value => value

end FlagValue

/-- The state of one user's session. -/
structure Session where
  /-- The current directory, as a canonical path. -/
  cwd : String := Path.root
  /-- Who has logged in. -/
  username : Option String := none
  /-- The level of the login. -/
  level : Option AccessLevel := none
  /-- The failed attempts since the last login that succeeded. -/
  attempts : Nat := 0
  flags : NameMap FlagValue := []
  deriving DecidableEq, Repr

namespace Session

/-- The number of failed attempts at which counting stops. -/
def attemptLimit : Nat := UInt32.size - 1

/-- One more than a number of failed attempts, unless counting has stopped. -/
def oneMore (attempts : Nat) : Nat :=
  min (attempts + 1) attemptLimit

/-- Whether a flag exists and counts as set. -/
def isSet (session : Session) (flag : String) : Bool :=
  (NameMap.find? session.flags flag).any FlagValue.isSet

end Session

end StoryShell
