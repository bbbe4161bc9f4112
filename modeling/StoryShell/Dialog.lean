/-
# Questions and what becomes of them

A command either finishes at once or asks a question. The next submitted line is
the answer, and it may lead to another question. What a question leads to is
data: a `Dialog` names the step of the conversation and what has been said
before. A command can also follow a `Script`, a prepared performance that ignores
the session and may ask questions to any depth.
-/

import StoryShell.Change
import StoryShell.Output
import StoryShell.Text.Quoted
import StoryShell.Text.Template

namespace StoryShell

/-- A prepared performance. Its texts are templates, filled with what the user gave: the arguments
of the command at first, and after a question the answer to it. -/
inductive Script
  | fail (failure : Failure)
  | finish (output : Batch) (changes : List Change)
  | ask (output : Batch) (changes : List Change) (origin question : String) (masked : Bool)
      (next : Script)

/-- The step of a conversation that an answer continues. -/
inductive Dialog
  /-- The answer is the password of `username` for this terminal. -/
  | loginPassword (username : String)
  /-- The answer is an employee id of the file share. -/
  | shareEmployee
  /-- The answer is the access code that goes with an employee id. -/
  | shareCode (employeeId : String)
  /-- The answer is a username of the portal. -/
  | portalUsername
  /-- The answer is the password of a username of the portal. -/
  | portalPassword (username : String)
  /-- The answer is the token that goes with a username and a password of the portal. -/
  | portalToken (username password : String)
  /-- The answer fills the next part of a script. -/
  | scripted (next : Script)

/-- A question waiting for the next submitted line. -/
structure Prompt where
  /-- The token that failures of the conversation are reported under. -/
  origin : String
  /-- The text shown before the answer. -/
  question : String
  /-- Whether the answer is a password, which is never shown. -/
  masked : Bool
  dialog : Dialog

namespace Prompt

/-- The question followed by the answer as it may be shown. -/
def echo (prompt : Prompt) (answer : String) : String :=
  prompt.question ++ if prompt.masked then Text.masked answer else answer

/-- The prompt with failures reported under another token. -/
def withOrigin (prompt : Prompt) (origin : String) : Prompt :=
  { prompt with origin }

/-- A description for diagnostics. It leaves out what the answer leads to. -/
def describe (prompt : Prompt) : String :=
  "PendingPrompt \x7b origin: " ++ Text.quoted prompt.origin ++
    ", text: " ++ Text.quoted prompt.question ++
    ", password_mode: " ++ (if prompt.masked then "true" else "false") ++ ", .. \x7d"

end Prompt

/-- What a command or an answer comes to: lines to print, changes to make, and the next question
if the conversation goes on. -/
structure Outcome where
  output : Batch := []
  changes : List Change := []
  prompt : Option Prompt := none

namespace Outcome

/-- An outcome that prints system lines. -/
def say (lines : List String) : Outcome :=
  { output := lines.map OutputLine.system }

/-- An outcome that only asks a question. -/
def ask (prompt : Prompt) : Outcome :=
  { prompt := some prompt }

end Outcome

namespace Script

/-- The lines of a batch with their texts filled. -/
def fillBatch (given : String) (batch : Batch) : Batch :=
  batch.map fun line => { line with text := Text.fill given line.text }

/-- What a script comes to with its texts filled. -/
def perform (given : String) : Script → Except Failure Outcome
  | fail failure => .error (failure.mapSubject (Text.fill given))
  | finish output changes => .ok { output := fillBatch given output, changes }
  | ask output changes origin question masked next =>
    .ok
      { output := fillBatch given output
        changes
        prompt := some ⟨origin, Text.fill given question, masked, .scripted next⟩ }

end Script

end StoryShell
