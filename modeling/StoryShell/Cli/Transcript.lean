/-
# A run of the program

A run reads its arguments, loads the configuration, and submits the lines of the
standard input one by one. What it prints is either a transcript, in which the
prompt comes before every line and the typed line is left out because it is on
the screen already, or a record for every output line.
-/

import StoryShell.Cli.Options
import StoryShell.Cli.Record
import StoryShell.Config.Format
import StoryShell.Terminal
import StoryShell.Text.ByteLines

namespace StoryShell.Cli

/-- What a run leaves behind. -/
structure Report where
  stdout : String := ""
  /-- The problem that ended the run. What caused it and what was logged are told beside it. -/
  problem : Option String := none
  exitCode : Nat := 0
  deriving DecidableEq, Repr

/-- A report of a problem that ends the run, after what has been printed. -/
def Report.failed (stdout problem : String) : Report :=
  { stdout, problem := some problem, exitCode := 1 }

/-- The problem as the standard error tells it, before its causes. -/
def Report.stderr (report : Report) : String :=
  match report.problem with
  | none => ""
  | some problem => "Error: " ++ problem ++ "\n"

/-- Lines of text, each ended by a line feed. -/
def unlines (lines : List String) : String :=
  lines.foldr (fun line rest => line ++ "\n" ++ rest) ""

/-- What is printed before the first line is read. -/
def greeting (records : Bool) (terminal : Terminal) : String :=
  if records then "" else terminal.promptText

/-- What is printed for the batch of a line, given the terminal afterwards. -/
def printed (records : Bool) (batch : Batch) (next : Terminal) : String :=
  if records then unlines (batch.map record)
  else unlines ((batch.filter (!·.isEcho)).map (·.text)) ++ next.promptText

/-- Submit a line as it was read: the terminal afterwards and what is printed, or nothing when the
line is not UTF-8. -/
def step? (records : Bool) (terminal : Terminal) (line : Text.RawLine) :
    Option (Terminal × String) :=
  line.text?.map fun text =>
    let (next, batch) := terminal.submit text
    (next, printed records batch next)

/-- Submit lines in order: what is printed, and whether a line that is not UTF-8 ended it. -/
def serveLines (records : Bool) (terminal : Terminal) : List Text.RawLine → String × Bool
  | [] => ("", false)
  | line :: rest =>
    match step? records terminal line with
    | none => ("", true)
    | some (next, text) =>
      let (later, broken) := serveLines records next rest
      (text ++ later, broken)

/-- The problem with an input that is not UTF-8. -/
def inputProblem : String := "failed to read stdin"

/-- Submit the lines of an input to a terminal. -/
def serve (records : Bool) (terminal : Terminal) (input : List UInt8) : Report :=
  let (text, broken) := serveLines records terminal (Text.rawLines input)
  let stdout := greeting records terminal ++ text
  if broken then .failed stdout inputProblem else { stdout }

/-- The problem with a configuration file that cannot be loaded, for whatever cause. -/
def loadProblem (path : String) : String :=
  "failed to load config from " ++ path

variable [Config.Format]

/-- The configuration of a run, or the problem that ends it. A configuration file is fetched by
its path, which fails when the file cannot be read. -/
def configOf (fetch : String → Option String) (options : Options) : Except String Config :=
  match options.config with
  | none => .ok {}
  | some path =>
    match fetch path with
    | none => .error (loadProblem path)
    | some text => (Config.ofText text).mapError fun _ => loadProblem path

/-- The terminal that a run starts with, or the problem that ends it. -/
def openTerminal (fetch : String → Option String) (options : Options) : Except String Terminal := do
  let config ← configOf fetch options
  (Terminal.start config).mapError Failure.message

/-- What a request comes to before any input is read: a report that ends the run, or whether
records are written and the terminal that serves the input. -/
def Request.begin (fetch : String → Option String) : Request → Except Report (Bool × Terminal)
  | help => .error { stdout := usage ++ "\n" }
  | refuse problem => .error (.failed "" problem)
  | run options =>
    match openTerminal fetch options with
    | .error problem => .error (.failed "" problem)
    | .ok terminal => .ok (options.records, terminal)

/-- A whole run. -/
def run (environment : Option String) (fetch : String → Option String) (arguments : List String)
    (input : List UInt8) : Report :=
  match (Request.ofArguments environment arguments).begin fetch with
  | .error report => report
  | .ok (records, terminal) => serve records terminal input

end StoryShell.Cli
