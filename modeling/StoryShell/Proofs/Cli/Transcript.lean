/-
# Both ways of running tell the same story

A run submits the lines of its input to a terminal one after another, and prints every
line of every batch as a record, or the prompts and the lines that are not echoes. The
records can be read back one by one, so nothing is lost and nothing is added; the
transcript consists of the prompts and of what the records of the same input say the
commands printed. An input with a line that is not UTF-8 is served up to that line.
-/

import StoryShell.Proofs.Cli.Records
import StoryShell.Proofs.Terminal.Echoing
import StoryShell.Proofs.Terminal.Playable
import StoryShell.Proofs.Text.ByteLines
import StoryShell.Proofs.Text.Pieces

namespace StoryShell

/-- The texts that a batch prints beside the echo: those of its system lines and its reports of
failure. -/
def Batch.said (batch : Batch) : List String :=
  (batch.filter fun line => line.kind = .system ∨ line.kind = .error).map (·.text)

theorem Batch.said_eq (batch : Batch) :
    said batch = (batch.filter (!·.isEcho)).map (·.text) := by
  rw [said]
  congr 1
  apply List.filter_congr
  intro line _
  rw [Bool.eq_iff_iff, decide_eq_true_iff, ← OutputLine.isEcho_eq_false, Bool.not_eq_true']

/-- The prompts of a run: the one before the first line and the one after each line. -/
def Terminal.prompts (terminal : Terminal) (lines : List String) : List String :=
  lines.inits.map fun typed => (terminal.run typed).1.promptText

namespace Terminal

variable (terminal : Terminal) (line : String) (lines : List String)

theorem prompts_cons :
    terminal.prompts (line :: lines) =
      terminal.promptText :: (terminal.submit line).1.prompts lines := by
  rw [prompts, List.inits_cons, List.map_cons, List.map_map]
  rfl

theorem prompts_eq_cons_tail :
    terminal.prompts lines = terminal.promptText :: (terminal.prompts lines).tail := by
  cases lines with
  | nil => rfl
  | cons line rest => rw [prompts_cons, List.tail_cons]

theorem length_batches : (terminal.run lines).2.length = lines.length := by
  induction lines generalizing terminal with
  | nil => rfl
  | cons line rest ih => rw [run_cons, List.length_cons, List.length_cons, ih]

end Terminal

namespace Cli

/-! ### What is printed -/

/-- What is printed while lines are submitted in order. -/
def transcript (records : Bool) (terminal : Terminal) : List String → String
  | [] => ""
  | line :: rest =>
    let (next, batch) := terminal.submit line
    printed records batch next ++ transcript records next rest

theorem unlines_cons (line : String) (rest : List String) :
    unlines (line :: rest) = line ++ String.singleton '\n' ++ unlines rest := rfl

theorem unlines_append (front back : List String) :
    unlines (front ++ back) = unlines front ++ unlines back := by
  induction front with
  | nil => exact String.empty_append.symm
  | cons line rest ih =>
    rw [List.cons_append, unlines_cons, unlines_cons, ih, ← String.append_assoc]

/-- A line feed behind each of some lines makes them the lines of a text, and leaves an empty one at
the end. -/
theorem lines_unlines {texts : List String} (single : ∀ text ∈ texts, '\n' ∉ text.toList) :
    Text.lines (unlines texts) = texts ++ [""] := by
  induction texts with
  | nil => rfl
  | cons text rest ih =>
    rw [List.forall_mem_cons] at single
    obtain ⟨unbroken, others⟩ := single
    have whole : Text.pieces '\n' text = [text] := by
      have cut := @Text.pieces_glue '\n' [text] (List.cons_ne_nil _ _) (by simpa using unbroken)
      rwa [Text.glue_singleton] at cut
    rw [Text.lines] at ih
    rw [unlines_cons, Text.lines, Text.pieces_append_separator, whole, ih others,
      List.singleton_append, List.cons_append]

theorem lines_unlines_record (batch : Batch) :
    Text.lines (unlines (batch.map record)) = batch.map record ++ [""] := by
  apply lines_unlines
  intro text member
  obtain ⟨line, -, rfl⟩ := List.mem_map.mp member
  exact newline_notMem_record line

theorem transcript_cons (records : Bool) (terminal : Terminal) (line : String)
    (rest : List String) :
    transcript records terminal (line :: rest) =
      printed records (terminal.submit line).2 (terminal.submit line).1 ++
        transcript records (terminal.submit line).1 rest := rfl

/-- With records a run prints the records of all lines of all batches. -/
theorem transcript_records (terminal : Terminal) (lines : List String) :
    transcript true terminal lines = unlines ((terminal.run lines).2.flatten.map record) := by
  induction lines generalizing terminal with
  | nil => rfl
  | cons line rest ih =>
    rw [transcript_cons, ih, Terminal.run_cons, List.flatten_cons, List.map_append, unlines_append]
    rfl

/-- Without records a run prints, for each line, what its batch says and the prompt after it. -/
theorem transcript_plain (terminal : Terminal) (lines : List String) :
    transcript false terminal lines =
      String.join (List.zipWith (fun batch prompt => unlines (Batch.said batch) ++ prompt)
        (terminal.run lines).2 (terminal.prompts lines).tail) := by
  induction lines generalizing terminal with
  | nil => rfl
  | cons line rest ih =>
    rw [transcript_cons, ih, Terminal.run_cons, Terminal.prompts_cons, List.tail_cons,
      (terminal.submit line).1.prompts_eq_cons_tail rest, List.tail_cons, List.zipWith_cons_cons,
      String.join_cons, Batch.said_eq]
    rfl

/-- The lines that have a text are submitted, up to the first one that has none. -/
theorem serveLines_eq (records : Bool) (terminal : Terminal) (lines : List Text.RawLine) :
    serveLines records terminal lines =
      (transcript records terminal (Text.decodeLines lines).1, (Text.decodeLines lines).2) := by
  induction lines generalizing terminal with
  | nil => rfl
  | cons line rest ih =>
    rw [serveLines, step?, Text.decodeLines]
    cases line.text? with
    | none => rfl
    | some text => simp only [Option.map_some, ih, transcript_cons]

theorem serve_of_reads {input : List UInt8} {lines : List String} {broken : Bool}
    (h : Text.Reads input lines broken) (records : Bool) (terminal : Terminal) :
    serve records terminal input =
      { stdout := greeting records terminal ++ transcript records terminal lines
        problem := if broken then some inputProblem else none
        exitCode := if broken then 1 else 0 } := by
  rw [serve, serveLines_eq, h.decodeLines_eq]
  cases broken <;> rfl

/-- With records, the lines of what is printed are the records. -/
theorem lines_serve_records {input : List UInt8} {lines : List String} {broken : Bool}
    (h : Text.Reads input lines broken) (terminal : Terminal) :
    Text.lines (serve true terminal input).stdout =
      (terminal.run lines).2.flatten.map record ++ [""] := by
  rw [serve_of_reads h, greeting, if_pos rfl, String.empty_append, transcript_records,
    lines_unlines_record]

theorem ofRecord?_comp_record : ofRecord? ∘ record = some :=
  funext ofRecord?_record

/-- How a failure is told changes no success. -/
theorem mapError_eq_ok {α ε ε' : Type} {result : Except ε α} {tell : ε → ε'} {value : α} :
    result.mapError tell = .ok value ↔ result = .ok value := by
  cases result <;> simp [Except.mapError]

section Formats

variable [Config.Format]

theorem openTerminal_of_accepted {fetch : String → Option String} {options : Options}
    {config : Config} {start : Terminal} (loaded : configOf fetch options = .ok config)
    (accepted : Terminal.start config = .ok start) : openTerminal fetch options = .ok start := by
  rw [openTerminal, loaded]
  exact mapError_eq_ok.mpr accepted

theorem run_of_accepted {environment : Option String} {fetch : String → Option String}
    {arguments : List String} {options : Options} {config : Config} {start : Terminal}
    (asked : Request.ofArguments environment arguments = .run options)
    (loaded : configOf fetch options = .ok config) (accepted : Terminal.start config = .ok start)
    (input : List UInt8) :
    run environment fetch arguments input = serve options.records start input := by
  have opened := openTerminal_of_accepted loaded accepted
  simp only [run, asked, Request.begin, opened]

/-- A run asks for the text of one file at most, and its report depends on no other. -/
theorem run_eq_run_fetched (environment : Option String) (fetch : String → Option String)
    (arguments : List String) (input : List UInt8) :
    run environment fetch arguments input =
      run environment (fun _ => (Request.ofArguments environment arguments).file?.bind fetch)
        arguments input := by
  rw [run, run]
  cases Request.ofArguments environment arguments with
  | help => rfl
  | refuse problem => rfl
  | run options =>
    have same : configOf fetch options = configOf (fun _ => options.config.bind fetch) options := by
      rw [configOf, configOf]
      cases options.config with
      | none => rfl
      | some path => rfl
    rw [Request.begin, openTerminal, same]
    rfl

/-- Whatever the configuration that is accepted at the start, a run takes the lines of its input in
order, up to the end or up to the first one that is not UTF-8, and prints what the terminal answers.
With records, every line of its output but the empty one after the last line feed can be read, and
read one by one these are the lines of the batches, with their kinds and their texts. Without
records, the output is the prompt at the start and then, for each line, what its batch says, in lines
of their own, and the prompt after it; and what the batches say is what the records of the system and
of failures say when the same input is run with records. A run fails exactly if it meets a line that
is not UTF-8, and what it has printed of the lines before stays printed. -/
theorem run_is_faithful_transcript {config : Config} {start : Terminal}
    (accepted : Terminal.start config = .ok start) (input : List UInt8) :
    (∃ lines broken, Text.Reads input lines broken) ∧
    ∀ lines broken, Text.Reads input lines broken →
      let batches := (start.run lines).2
      ∃ records : List (List String),
        batches.length = lines.length ∧
        records.map (·.map ofRecord?) = batches.map (·.map some) ∧
        records.map (fun part => Batch.said (part.filterMap ofRecord?)) = batches.map Batch.said ∧
        ∀ environment fetch arguments options,
          Request.ofArguments environment arguments = .run options →
          configOf fetch options = .ok config →
          let report := run environment fetch arguments input
          (options.records = true → Text.lines report.stdout = records.flatten ++ [""]) ∧
          (options.records = false →
            report.stdout = start.promptText ++
              String.join (List.zipWith (fun batch prompt => unlines (Batch.said batch) ++ prompt)
                batches (start.prompts lines).tail)) ∧
          report.exitCode = (if broken then 1 else 0) ∧
          report.problem = (if broken then some "failed to read stdin" else none) := by
  refine ⟨Text.exists_reads input, ?_⟩
  intro lines broken reads batches
  refine ⟨batches.map (·.map record), start.length_batches lines, ?_, ?_, ?_⟩
  · rw [List.map_map]
    apply List.map_congr_left
    intro batch _
    rw [Function.comp_apply, List.map_map, ofRecord?_comp_record]
  · rw [List.map_map]
    apply List.map_congr_left
    intro batch _
    rw [Function.comp_apply, List.filterMap_map, ofRecord?_comp_record, List.filterMap_some]
  · intro environment fetch arguments options asked loaded report
    have served : report = serve options.records start input :=
      run_of_accepted asked loaded accepted input
    have outcome := serve_of_reads reads options.records start
    refine ⟨?_, ?_, ?_, ?_⟩
    · intro records
      rw [served, records, lines_serve_records reads, List.map_flatten]
    · intro plain
      rw [served, outcome, plain, transcript_plain]
      rfl
    · rw [served, outcome]
    · rw [served, outcome]
      rfl

end Formats

theorem start_default :
    Terminal.start {} = .ok (Terminal.onTree {} World.atStart .builtins) :=
  Terminal.start_of_accepted rfl

/-- A format that knows three texts: an empty one, one that names the user, and one that leaves the
user without a name. -/
@[reducible]
def plainFormat : Config.Format where
  read? text :=
    if text = "" then some {}
    else if text = "user = \"ada\"" then some { user := "ada" }
    else if text = "user = \"\"" then some { user := "" }
    else none

/-- Two commands, the first one ended by a carriage return and a line feed, then a line that is not
UTF-8, and another command behind it. -/
def garbledInput : List UInt8 :=
  Text.utf8 "pwd\r\n\t\"sea legs\"\n" ++ [0xff, 10] ++ Text.utf8 "pwd\n"

/-- The two commands are answered in both ways of running, and the last one is not. -/
theorem run_is_faithful_transcript_until_garbled :
    ∃ start, Terminal.start {} = .ok start ∧
      Text.Reads garbledInput ["pwd", "\t\"sea legs\""] true ∧
      (@run plainFormat none (fun _ => none) [] garbledInput).stdout =
        "~ $ ~\n~ $ sea legs: command not found\n~ $ " ∧
      (@run plainFormat none (fun _ => none) [] garbledInput).problem =
        some "failed to read stdin" ∧
      (@run plainFormat none (fun _ => none) [] garbledInput).exitCode = 1 ∧
      ∃ records,
        Text.lines
            (@run plainFormat (some "day.toml") (fun _ => some "") ["--json"] garbledInput).stdout =
          records ++ [""] ∧
        records.map ofRecord? =
          [some ⟨.commandEcho, "~ $ pwd"⟩, some ⟨.system, "~"⟩,
            some ⟨.commandEcho, "~ $ \t\"sea legs\""⟩,
            some ⟨.error, "sea legs: command not found"⟩] := by
  have reads : Text.Reads garbledInput ["pwd", "\t\"sea legs\""] true := by decide
  have batches : ((Terminal.onTree {} World.atStart .builtins).run ["pwd", "\t\"sea legs\""]).2 =
      [[⟨.commandEcho, "~ $ pwd"⟩, ⟨.system, "~"⟩],
        [⟨.commandEcho, "~ $ \t\"sea legs\""⟩, ⟨.error, "sea legs: command not found"⟩]] := rfl
  have prompts : (Terminal.onTree {} World.atStart .builtins).prompts ["pwd", "\t\"sea legs\""] =
      ["~ $ ", "~ $ ", "~ $ "] := rfl
  obtain ⟨-, told⟩ := @run_is_faithful_transcript plainFormat _ _ start_default garbledInput
  obtain ⟨records, -, read, -, runs⟩ := told _ _ reads
  obtain ⟨-, plain, exit, problem⟩ := runs none (fun _ => none) [] {} rfl rfl
  obtain ⟨printed, -⟩ := runs (some "day.toml") (fun _ => some "") ["--json"]
    { records := true, config := some "day.toml" } rfl rfl
  refine ⟨_, start_default, reads, ?_, problem, exit, records.flatten, printed rfl, ?_⟩
  · rw [plain rfl, batches, prompts]
    rfl
  · rw [List.map_flatten, read, batches]
    rfl

/-- The lines of a text, each without a carriage return at its end, whether a line feed comes after
it or not. -/
def bareLines (s : String) : List String :=
  (if (Text.lines s).getLast? = some "" then (Text.lines s).dropLast else Text.lines s).map
    Text.dropReturn

/-- A carriage return that ends the input belongs to the last line, and is submitted with it. -/
theorem last_return_is_submitted :
    ¬ ∀ (format : Config.Format) (text : String) (start : Terminal),
      Terminal.start {} = .ok start →
      ∃ records : List String,
        Text.lines (@run format none (fun _ => none) ["--json"] (Text.utf8 text)).stdout =
          records ++ [""] ∧
        records.map ofRecord? = (start.run (bareLines text)).2.flatten.map some := by
  intro claimed
  let start := Terminal.onTree {} World.atStart .builtins
  obtain ⟨records, printed, read⟩ := claimed plainFormat "pwd\r" start start_default
  have reads : Text.Reads (Text.utf8 "pwd\r") ["pwd\r"] false := .last (by decide) (by decide)
  have served : @run plainFormat none (fun _ => none) ["--json"] (Text.utf8 "pwd\r") =
      serve true start (Text.utf8 "pwd\r") :=
    @run_of_accepted plainFormat _ _ _ { records := true } _ _ rfl rfl start_default _
  have bare : bareLines "pwd\r" = ["pwd"] := rfl
  rw [served, lines_serve_records reads] at printed
  rw [← List.append_cancel_right printed, List.map_map, ofRecord?_comp_record, bare,
    Terminal.run_cons, Terminal.run_cons, List.flatten_cons, List.flatten_cons] at read
  -- The first line of either batch is the echo, and the two echoes differ in the carriage return.
  have echoes : start.echo "pwd\r" = start.echo "pwd" := by
    obtain ⟨rest, typed⟩ := start.exists_batch_eq "pwd\r"
    obtain ⟨others, bare⟩ := start.exists_batch_eq "pwd"
    rw [typed, bare] at read
    exact Option.some.inj (List.cons.inj read).1
  have same : start.promptText ++ "pwd\r" = start.promptText ++ "pwd" :=
    congrArg OutputLine.text echoes
  exact absurd ((String.append_right_inj _).mp same) (by decide)

end Cli

end StoryShell
