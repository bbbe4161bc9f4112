/-
# Reading a configuration

A configuration is read from a table of settings. A setting that is missing has
its default and one that nobody knows is passed over, but one of the wrong kind
or out of range makes the whole configuration unreadable. A group of settings may
also be written as a list, in the order in which the group names them.
-/

import StoryShell.Config.Basic
import StoryShell.Config.Setting

namespace StoryShell

/-- The form a table of settings was written in. -/
inductive SettingsForm
  | toml
  | json
  deriving DecidableEq, Repr

namespace SettingsForm

/-- Whether a list may hold more than the group it stands for has settings. -/
def allowsSurplus : SettingsForm → Bool
  | toml => true
  | json => false

/-- Whether a setting stands for nothing, as the value of a name that needs none. -/
def isUnit (form : SettingsForm) (setting : Setting) : Bool :=
  match form, setting with
  | toml, .list [] => true
  | toml, .table [] => true
  | json, .null => true
  | _, _ => false

/-- Whether a setting stands for the absence of a value. -/
def isAbsent (form : SettingsForm) (setting : Setting) : Bool :=
  match form, setting with
  | json, .null => true
  | _, _ => false

end SettingsForm

namespace Setting

variable {α : Type}

/-- A group of settings as a table, given the names that its list form goes by. A date counts as a
table of nothing that a group knows. -/
def group? (form : SettingsForm) (names : List String) : Setting → Option (List (String × Setting))
  | table entries => some entries
  | list items =>
    if items.length ≤ names.length || form.allowsSurplus then some (names.zip items) else none
  | date => some []
  | _ => none

/-- A setting of a group, its default when the group leaves it out. -/
def field (entries : List (String × Setting)) (name : String) (read : Setting → Option α)
    (missing : Option α) : Option α :=
  match entries.lookup name with
  | some setting => read setting
  | none => missing

/-- A text. -/
def text? : Setting → Option String
  | text value => some value
  | _ => none

/-- A count of attempts. -/
def count? : Setting → Option Nat
  | integer value => if 0 ≤ value ∧ value < UInt32.size then some value.toNat else none
  | _ => none

/-- An access level: its name, or a table from its name to nothing. -/
def level? (form : SettingsForm) : Setting → Option AccessLevel
  | text name => AccessLevel.ofLabel? name
  | table [(name, value)] => if form.isUnit value then AccessLevel.ofLabel? name else none
  | _ => none

/-- A text that may be absent. -/
def optionalText? (form : SettingsForm) (setting : Setting) : Option (Option String) :=
  if form.isAbsent setting then some none else setting.text?.map some

/-- A credential. Its username and password have no defaults. -/
def credential? (form : SettingsForm) (setting : Setting) : Option Credential := do
  let entries ← setting.group? form ["username", "password", "level", "reveal"]
  let username ← field entries "username" text? none
  let password ← field entries "password" text? none
  let level ← field entries "level" (level? form) (some .user)
  let reveal ← field entries "reveal" (optionalText? form) (some none)
  return { username, password, level, reveal }

/-- A list of credentials. -/
def credentials? (form : SettingsForm) : Setting → Option (List Credential)
  | list items => items.mapM (credential? form)
  | _ => none

/-- The settings of the login. -/
def login? (form : SettingsForm) (setting : Setting) : Option LoginConfig := do
  let entries ← setting.group? form ["hint_after", "hint", "credentials"]
  let default : LoginConfig := {}
  let hintAfter ← field entries "hint_after" count? (some default.hintAfter)
  let hint ← field entries "hint" text? (some default.hint)
  let credentials ← field entries "credentials" (credentials? form) (some default.credentials)
  return { hintAfter, hint, credentials }

/-- The settings of the file share. -/
def share? (form : SettingsForm) (setting : Setting) : Option ShareConfig := do
  let entries ← setting.group? form ["employee_id", "access_code"]
  let default : ShareConfig := {}
  let employeeId ← field entries "employee_id" text? (some default.employeeId)
  let accessCode ← field entries "access_code" text? (some default.accessCode)
  return { employeeId, accessCode }

/-- The settings of the portal. -/
def portal? (form : SettingsForm) (setting : Setting) : Option PortalConfig := do
  let entries ← setting.group? form ["username", "password", "token", "access"]
  let default : PortalConfig := {}
  let username ← field entries "username" text? (some default.username)
  let password ← field entries "password" text? (some default.password)
  let token ← field entries "token" text? (some default.token)
  let access ← field entries "access" text? (some default.access)
  return { username, password, token, access }

/-- The configuration that settings describe, accepted or not. -/
def config? (form : SettingsForm) (setting : Setting) : Option Config := do
  let entries ← setting.group? form ["user", "hostname", "login", "megacorp", "portal"]
  let default : Config := {}
  let user ← field entries "user" text? (some default.user)
  let hostname ← field entries "hostname" text? (some default.hostname)
  let login ← field entries "login" (login? form) (some default.login)
  let share ← field entries "megacorp" (share? form) (some default.share)
  let portal ← field entries "portal" (portal? form) (some default.portal)
  return { user, hostname, login, share, portal }

end Setting

end StoryShell
