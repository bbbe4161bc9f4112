/-
# The network services

The company's file share and the employee portal. Each is connected by a
conversation that asks for its secrets one after the other and judges them all at
the end; a connection mounts the service's files in the home directory and
records itself in flags. Disconnecting undoes both, and leads the user home from
inside the files that go away.
-/

import StoryShell.Dialog
import StoryShell.Text.Blank
import StoryShell.View
import StoryShell.World

namespace StoryShell.Network

/-- The flag that is set while the share is connected. -/
def shareFlag : String := "megacorp.connected"

/-- The flag that is set while the portal is connected. -/
def portalFlag : String := "portal.connected"

/-- The flag that holds what the portal grants access to. -/
def accessFlag : String := "portal.access"

/-- The changes of a connection: files appear in the home directory, and flags are set. -/
def connection (name : String) (files : Node) (flags : List (String × FlagValue)) : List Change :=
  .mount Path.root name files :: flags.map fun (flag, value) => .setFlag flag value

/-- What disconnecting a service comes to. -/
def disconnection (name : String) (flags : List String) (view : View) : Outcome :=
  let home :=
    if Path.isWithin view.session.cwd (Path.join Path.root name) then [.setCwd Path.root] else []
  { output := [.system ("disconnected from " ++ name)]
    changes := .unmount Path.root name :: flags.map .clearFlag ++ home }

/-! ### The file share -/

/-- Begin to connect the share. -/
def connectShare (view : View) : Except Failure Outcome :=
  if view.session.isSet shareFlag then .error (.alreadyConnected World.shareName)
  else .ok (.ask ⟨"megacorp-connect", "employee id: ", false, .shareEmployee⟩)

/-- Take the employee id and ask for the access code. -/
def askShareCode (employeeId : String) : Outcome :=
  .ask ⟨"megacorp-connect", "access code: ", true, .shareCode (Text.trim employeeId)⟩

/-- Judge an employee id and an access code. -/
def checkShare (employeeId code : String) (view : View) : Except Failure Outcome :=
  let expected := view.config.share
  if employeeId = expected.employeeId ∧ code = expected.accessCode then
    .ok
      { output :=
          [.system ("connected to MegaCorp file share as " ++ employeeId),
           .system ("share mounted at ~/" ++ World.shareName)]
        changes := connection World.shareName World.share [(shareFlag, .bool true)] }
  else .error (.authenticationFailed employeeId)

/-- Disconnect the share. -/
def disconnectShare (view : View) : Except Failure Outcome :=
  if view.session.isSet shareFlag then
    .ok (disconnection World.shareName [shareFlag] view)
  else .error (.notConnected World.shareName)

/-! ### The employee portal -/

/-- The portal's answer to the question whether it is connected. -/
def portalStatus (view : View) : String :=
  match NameMap.find? view.session.flags accessFlag with
  | some access =>
    if view.session.isSet portalFlag then "portal: connected (access: " ++ access.shown ++ ")"
    else "portal: not connected"
  | none => "portal: not connected"

/-- The portal's program. Only its first argument counts. -/
def portal (arguments : List String) (view : View) : Except Failure Outcome :=
  let connected := view.session.isSet portalFlag
  match arguments with
  | [] =>
    if connected then .error (.alreadyConnected World.portalName)
    else .ok (.ask ⟨"portal", "username: ", false, .portalUsername⟩)
  | "--help" :: _ => .ok { output := Batch.ofText World.portalBanner }
  | "--status" :: _ => .ok (.say [portalStatus view])
  | "--disconnect" :: _ =>
    if connected then .ok (disconnection World.portalName [portalFlag, accessFlag] view)
    else .error (.notConnected World.portalName)
  | option :: _ => .error (.invalidOption option)

/-- Take the username and ask for the password. -/
def askPortalPassword (username : String) : Outcome :=
  .ask ⟨"portal", "password: ", true, .portalPassword (Text.trim username)⟩

/-- Take the password and ask for the token. -/
def askPortalToken (username password : String) : Outcome :=
  .ask ⟨"portal", "token: ", false, .portalToken username password⟩

/-- Judge a username, a password and a token. -/
def checkPortal (username password token : String) (view : View) : Except Failure Outcome :=
  let expected := view.config.portal
  if username = expected.username ∧ password = expected.password ∧
      Text.trim token = expected.token then
    .ok
      { output :=
          [.system ("portal: signed in as " ++ username),
           .system ("access: " ++ expected.access),
           .system ("portal files mounted at ~/" ++ World.portalName)]
        changes :=
          connection World.portalName World.portalFiles
            [(portalFlag, .bool true), (accessFlag, .text expected.access)] }
  else .error (.authenticationFailed username)

end StoryShell.Network
