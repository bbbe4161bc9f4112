/-
# Commands

A command has a name, a few words for the help, and a behaviour: one of the
terminal's own, or a script. Running a command with arguments, or answering the
question of a conversation, reads a view of the session and yields an outcome.
-/

import StoryShell.Builtin.Account
import StoryShell.Builtin.Files
import StoryShell.Builtin.Network
import StoryShell.Builtin.Search

namespace StoryShell

/-- What the terminal's own commands and programs do. -/
inductive Builtin
  | ls
  | cd
  | pwd
  | cat
  | echo
  | whoami
  | history
  | find
  | grep
  | login
  | logout
  | connectShare
  | disconnectShare
  | audit
  | portal
  deriving DecidableEq, Repr

/-- What a command does. -/
inductive Behaviour
  | builtin (which : Builtin)
  | scripted (script : Script)

/-- A command, with what the help tells about it. -/
structure Command where
  name : String
  description : String := ""
  usage : String := ""
  category : String := "general"
  behaviour : Behaviour

namespace Builtin

/-- A line of the history listing. -/
def historyLine (position : Nat) (line : String) : String :=
  "  " ++ Text.padLeft 4 (toString position) ++ "  " ++ line

/-- The history as it may be shown, numbered from one. -/
def historyListing (history : History) : List String :=
  if history.entries = [] then ["(no history)"]
  else (history.shown.zipIdx 1).map fun (line, position) => historyLine position line

/-- What running a built-in command comes to. -/
def run (which : Builtin) (arguments : List String) (view : View) : Except Failure Outcome :=
  match which with
  | ls => Files.list arguments view
  | cd => Files.enter arguments view
  | pwd => .ok (Files.tell view)
  | cat => Files.print arguments view
  | echo => .ok (.say [Text.glue ' ' arguments])
  | whoami => .ok (Account.identify view)
  | history => .ok (.say (historyListing view.history))
  | find => Search.find arguments view
  | grep => Search.grep arguments view
  | login => .ok (Account.login arguments view)
  | logout => Account.logout view
  | connectShare => Network.connectShare view
  | disconnectShare => Network.disconnectShare view
  | audit => Account.audit view
  | portal => Network.portal arguments view

/-- The command under which a behaviour is found. -/
def command : Builtin → Command
  | ls => ⟨"ls", "List directory contents", "ls [-a|--all] [path]", "filesystem", .builtin ls⟩
  | cd => ⟨"cd", "Change working directory", "cd [path]", "filesystem", .builtin cd⟩
  | pwd => ⟨"pwd", "Print working directory", "pwd", "filesystem", .builtin pwd⟩
  | cat => ⟨"cat", "Display file contents", "cat <file...>", "filesystem", .builtin cat⟩
  | echo => ⟨"echo", "Print text", "echo [text...]", "general", .builtin echo⟩
  | whoami => ⟨"whoami", "Show the current user", "whoami", "security", .builtin whoami⟩
  | history => ⟨"history", "Show submitted lines", "history", "general", .builtin history⟩
  | find => ⟨"find", "Search names and file contents", "find <pattern>", "search", .builtin find⟩
  | grep =>
    ⟨"grep", "Print lines of a file containing a pattern", Search.grepUsage, "search",
      .builtin grep⟩
  | login => ⟨"login", "Sign in to this terminal", "login [username]", "security", .builtin login⟩
  | logout => ⟨"logout", "End the login session", "logout", "security", .builtin logout⟩
  | connectShare =>
    ⟨"megacorp-connect", "Connect to the MegaCorp file share", "megacorp-connect", "network",
      .builtin connectShare⟩
  | disconnectShare =>
    ⟨"megacorp-disconnect", "Disconnect from the MegaCorp file share", "megacorp-disconnect",
      "network", .builtin disconnectShare⟩
  | audit =>
    ⟨"audit", "Review the access log for unknown hosts", "./audit.sh", "general", .builtin audit⟩
  | portal =>
    ⟨"portal", "MegaCorp employee portal client",
      "./portal.sh [--status | --disconnect | --help]", "network", .builtin portal⟩

/-- The behaviours that are reached by name. -/
def namedCommands : List Builtin :=
  [ls, cd, pwd, cat, echo, whoami, history, find, grep, login, logout, connectShare,
   disconnectShare]

/-- The behaviours that executables of the tree run. -/
def programs : List Builtin :=
  [audit, portal]

end Builtin

namespace Command

/-- What running a command with arguments comes to. The texts of a script are filled with the
arguments, separated by commas. -/
def run (command : Command) (arguments : List String) (view : View) : Except Failure Outcome :=
  match command.behaviour with
  | .builtin which => which.run arguments view
  | .scripted script => script.perform (Text.glue ',' arguments)

end Command

namespace Dialog

/-- What an answer comes to. Plain answers lose the blank characters around them, passwords and
codes do not. -/
def answer (dialog : Dialog) (line : String) (view : View) : Except Failure Outcome :=
  match dialog with
  | loginPassword username => .ok (Account.checkPassword username line view)
  | shareEmployee => .ok (Network.askShareCode line)
  | shareCode employeeId => Network.checkShare employeeId line view
  | portalUsername => .ok (Network.askPortalPassword line)
  | portalPassword username => .ok (Network.askPortalToken username line)
  | portalToken username password => Network.checkPortal username password line view
  | scripted next => next.perform line

end Dialog

/-- What an answer to a prompt comes to. -/
def Prompt.answer (prompt : Prompt) (line : String) (view : View) : Except Failure Outcome :=
  prompt.dialog.answer line view

end StoryShell
