/-
# The program

The outer layer of the program: it reads the arguments, the environment, files
and the standard input, and prints what the library says is printed. Each line is
answered before the next one is read.
-/

import StoryShell.Cli.Transcript
import StoryShell.Config.File

namespace StoryShell.Cli

/-- The text of a file, if it can be read. -/
def fetchFile (path : String) : IO (Option String) := do
  try
    return some (← IO.FS.readFile path)
  catch _ =>
    return none

/-- The next line of a stream, read byte by byte so that no later line is waited for. -/
partial def nextLine (stream : IO.FS.Stream) (bytes : List UInt8) : IO (Option Text.RawLine) := do
  let chunk ← stream.read 1
  match chunk.toList with
  | [] => return if bytes = [] then none else some ⟨bytes.reverse, false⟩
  | byte :: _ =>
    if byte = 10 then return some ⟨bytes.reverse, true⟩
    else nextLine stream (byte :: bytes)

/-- Print what a report holds and end with its exit code. -/
def finish (report : Report) : IO UInt32 := do
  (← IO.getStdout).putStr report.stdout
  (← IO.getStderr).putStr report.stderr
  return report.exitCode.toUInt32

/-- Submit the lines of the standard input as they come. -/
partial def serveStream (records : Bool) (terminal : Terminal) : IO UInt32 := do
  let stdout ← IO.getStdout
  stdout.flush
  match ← nextLine (← IO.getStdin) [] with
  | none => return 0
  | some line =>
    match step? records terminal line with
    | none => finish (.failed "" inputProblem)
    | some (next, text) =>
      stdout.putStr text
      serveStream records next

end StoryShell.Cli

open StoryShell.Cli in
/-- Run the program with the arguments of the command line. -/
def main (arguments : List String) : IO UInt32 := do
  let request := Request.ofArguments (← IO.getEnv "VENEER_CONFIG") arguments
  let text ← match request.file? with
    | none => pure none
    | some path => fetchFile path
  match request.begin fun _ => text with
  | .error report => finish report
  | .ok (records, terminal) =>
    (← IO.getStdout).putStr (greeting records terminal)
    serveStream records terminal
