/-
# Failures

The reasons for which a command, a change or a configuration is refused. Each
names its cause and what it concerns; the wording lives in one function.
-/

namespace StoryShell

/-- Why something was refused. -/
inductive Failure
  | noSuchPath (path : String)
  | notADirectory (path : String)
  | isADirectory (path : String)
  | permissionDenied (path : String)
  | missingOperand
  | missingArguments (usage : String)
  | invalidOption (option : String)
  | invalidPath (path : String)
  | commandNotFound (name : String)
  | alreadyConnected (service : String)
  | notLoggedIn
  | notConnected (service : String)
  | authenticationFailed (who : String)
  | configuration (problem : String)
  /-- Something outside the terminal could not be read or written. -/
  | inputOutput (problem : String)
  deriving DecidableEq, Repr

namespace Failure

/-- The text that tells a user about the failure. -/
def message : Failure → String
  | noSuchPath path => path ++ ": No such file or directory"
  | notADirectory path => path ++ ": Not a directory"
  | isADirectory path => path ++ ": Is a directory"
  | permissionDenied path => path ++ ": Permission denied"
  | missingOperand => "missing operand"
  | missingArguments usage => "usage: " ++ usage
  | invalidOption option => "invalid option -- '" ++ option ++ "'"
  | invalidPath path => "invalid path: " ++ path
  | commandNotFound name => name ++ ": command not found"
  | alreadyConnected service => "already connected to " ++ service
  | notLoggedIn => "not logged in"
  | notConnected service => "not connected to " ++ service
  | authenticationFailed who => "authentication failed for " ++ who
  | configuration problem => "config error: " ++ problem
  | inputOutput problem => "I/O error: " ++ problem

/-- The failure with a function applied to what it concerns. -/
def mapSubject (f : String → String) : Failure → Failure
  | noSuchPath path => noSuchPath (f path)
  | notADirectory path => notADirectory (f path)
  | isADirectory path => isADirectory (f path)
  | permissionDenied path => permissionDenied (f path)
  | missingOperand => missingOperand
  | missingArguments usage => missingArguments (f usage)
  | invalidOption option => invalidOption (f option)
  | invalidPath path => invalidPath (f path)
  | commandNotFound name => commandNotFound (f name)
  | alreadyConnected service => alreadyConnected (f service)
  | notLoggedIn => notLoggedIn
  | notConnected service => notConnected (f service)
  | authenticationFailed who => authenticationFailed (f who)
  | configuration problem => configuration (f problem)
  | inputOutput problem => inputOutput (f problem)

/-- The report of a failure under the token that led to it. A command that was not found is named
by its own report. -/
def report (origin : String) : Failure → String
  | commandNotFound name => (commandNotFound name).message
  | failure => origin ++ ": " ++ failure.message

end Failure

end StoryShell
