/-
# The user's account

Telling who the user is, logging in and out, and the audit program, which only a
user with administrative access may run. A failed login is an ordinary outcome:
it prints an error and counts the attempt.
-/

import StoryShell.Dialog
import StoryShell.View
import StoryShell.World

namespace StoryShell.Account

/-- Tell who the user is, and at which level a login has been made. -/
def identify (view : View) : Outcome :=
  let level := match view.session.level with
    | some level => ["access level: " ++ level.label]
    | none => []
  .say (("user: " ++ view.username) :: level)

/-- The question for the password of a username. -/
def passwordPrompt (username : String) : Prompt :=
  { origin := "login"
    question := "password for " ++ username ++ ": "
    masked := true
    dialog := .loginPassword username }

/-- Ask for the password of the username that the first argument gives, or of the configured
user. -/
def login (arguments : List String) (view : View) : Outcome :=
  .ask (passwordPrompt (arguments.head?.getD view.config.user))

/-- The credential that a username and a password are right for. -/
def accepted? (config : Config) (username password : String) : Option Credential :=
  (config.credential? username).filter (·.password = password)

/-- What comes of a wrong password: an error, the hint once enough attempts have failed, and one
more failed attempt. -/
def refuse (username : String) (view : View) : Outcome :=
  let login := view.config.login
  let attempts := Session.oneMore view.session.attempts
  let hint := if login.hintAfter ≤ attempts then [.system login.hint] else []
  { output := .error ("login: " ++ (Failure.authenticationFailed username).message) :: hint
    changes := [.countFailure] }

/-- What comes of the right password: the login, and the part of the world that the credential
reveals. -/
def welcome (username : String) (credential : Credential) : Outcome :=
  let revealed := credential.reveal.bind World.reveal?
  { output :=
      [.system ("welcome, " ++ username),
       .system ("access level: " ++ credential.level.label)] ++
        (revealed.map fun _ =>
          OutputLine.system "new files are available in your home directory").toList
    changes :=
      .logIn username credential.level ::
        (revealed.map fun part => Change.mount Path.root part.1 part.2).toList }

/-- What an answer to the question for a password comes to. -/
def checkPassword (username password : String) (view : View) : Outcome :=
  match accepted? view.config username password with
  | some credential => welcome username credential
  | none => refuse username view

/-- End the login. -/
def logout (view : View) : Except Failure Outcome :=
  match view.session.username with
  | none => .error .notLoggedIn
  | some username =>
    .ok { output := [.system ("goodbye, " ++ username)], changes := [.logOut] }

/-- The log that the audit reads. -/
def accessLog : String := "~/admin/access.log"

/-- Whether the user may run the audit. -/
def mayAudit (session : Session) : Bool :=
  session.level.any (AccessLevel.admin ≤ ·)

/-- The entries of a log: its lines that are not blank. -/
def logEntries (content : String) : List String :=
  (Text.dropReturns (Text.lines content)).filter fun line => !Text.allBlank line

/-- The review of a log: how many entries there are, and which ones tell of something unknown. -/
def review (content : String) : List String :=
  let entries := logEntries content
  let flagged := entries.filter (Text.contains · "unknown")
  (toString entries.length ++ " entries reviewed, " ++ toString flagged.length ++ " flagged") ::
    flagged.map ("  ! " ++ ·)

/-- Review the access log. -/
def audit (view : View) : Except Failure Outcome :=
  if mayAudit view.session then do
    let node ← view.tree.lookup accessLog
    return .say (review (node.content?.getD ""))
  else .error (.permissionDenied accessLog)

end StoryShell.Account
