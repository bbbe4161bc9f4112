/-
# Configuration

A configuration names the user, lists the credentials that a login accepts and
holds the secrets of the two network services. Every setting has a default, and
the defaults tell the built-in story. A configuration is accepted when the user
is one word and no username has two credentials.
-/

import StoryShell.Failure
import StoryShell.Text.Blank
import StoryShell.Text.Quoted

namespace StoryShell

/-- What a login entitles to, from least to most. -/
inductive AccessLevel
  | user
  | admin
  | root
  deriving DecidableEq, Repr

namespace AccessLevel

/-- The name of a level. -/
def label : AccessLevel → String
  | user => "user"
  | admin => "admin"
  | root => "root"

/-- The position of a level in the order. -/
def rank : AccessLevel → Nat
  | user => 0
  | admin => 1
  | root => 2

instance : LE AccessLevel := ⟨fun low high => low.rank ≤ high.rank⟩

instance (low high : AccessLevel) : Decidable (low ≤ high) :=
  inferInstanceAs (Decidable (low.rank ≤ high.rank))

/-- The level of a name. -/
def ofLabel? (name : String) : Option AccessLevel :=
  [user, admin, root].find? (·.label = name)

end AccessLevel

/-- A username and the password that goes with it. -/
structure Credential where
  username : String
  password : String
  level : AccessLevel := .user
  /-- The name of a part of the world that a login makes visible. -/
  reveal : Option String := none
  deriving DecidableEq, Repr

/-- Settings of the login. -/
structure LoginConfig where
  /-- The number of failed attempts from which on the hint is shown. Attempts are not limited. -/
  hintAfter : Nat := 3
  hint : String := "hint: the bird on the sticky note under the keyboard"
  credentials : List Credential :=
    [{ username := "alex", password := "nightjar", reveal := some "journal" },
     { username := "admin", password := "letmein", level := .admin, reveal := some "admin" }]
  deriving DecidableEq, Repr

/-- The secrets of the file share. -/
structure ShareConfig where
  employeeId : String := "MC-4471"
  accessCode : String := "orchid"
  deriving DecidableEq, Repr

/-- The secrets of the employee portal, and the access it grants. -/
structure PortalConfig where
  username : String := "alex.m"
  password : String := "s3cur3"
  token : String := "884213"
  access : String := "staff"
  deriving DecidableEq, Repr

/-- The configuration of a terminal. -/
structure Config where
  /-- The name of a user who has not logged in. -/
  user : String := "alex"
  hostname : String := "veneer"
  login : LoginConfig := {}
  share : ShareConfig := {}
  portal : PortalConfig := {}
  deriving DecidableEq, Repr

namespace Config

/-- The first credential of a username. -/
def credential? (config : Config) (username : String) : Option Credential :=
  config.login.credentials.find? (·.username = username)

/-- The first name in a list that has occurred before. -/
def firstRepeated? (seen : List String) : List String → Option String
  | [] => none
  | name :: rest => if name ∈ seen then some name else firstRepeated? (name :: seen) rest

/-- Why a configuration is refused, if it is. -/
def problem? (config : Config) : Option Failure :=
  if Text.allBlank config.user then
    some (.configuration "user must not be empty")
  else if config.user.toList.any Text.isBlank then
    some (.configuration ("user must be a single word: " ++ Text.quoted config.user))
  else
    (firstRepeated? [] (config.login.credentials.map (·.username))).map fun name =>
      .configuration ("duplicate credential for " ++ name)

/-- The configuration itself when it is accepted. -/
def validate (config : Config) : Except Failure Config :=
  match config.problem? with
  | some failure => .error failure
  | none => .ok config

end Config

end StoryShell
