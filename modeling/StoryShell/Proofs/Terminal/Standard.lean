/-
# Terminals with the built-in commands

A terminal is standard when its table holds exactly the built-in commands and it
asks no questions but theirs. Every line keeps it so, and whatever a line comes
to is one of the known requests. What one line keeps, a run keeps, and a run of a
standard terminal is told by the logins that succeed in it.
-/

import StoryShell.Proofs.Builtin.Requests

namespace StoryShell

theorem Builtin.command_run (which : Builtin) (arguments : List String) (view : View) :
    which.command.run arguments view = which.run arguments view := by
  cases which <;> rfl

namespace CommandTable

/-- Every command and program of a table has a property. -/
def Forall (table : CommandTable) (property : Command → Prop) : Prop :=
  (∀ entry ∈ table.commands, property entry.2) ∧ ∀ entry ∈ table.programs, property entry.2

variable {table : CommandTable} {property : Command → Prop} {command : Command} {view : View}
  {arguments : List String} {outcome : Outcome}

theorem Forall.register (h : table.Forall property) (hcommand : property command) :
    (table.register command).Forall property := by
  refine ⟨?_, h.2⟩
  intro entry hentry
  rcases NameMap.mem_put hentry with rfl | hentry
  · exact hcommand
  · exact h.1 entry hentry

theorem Forall.registerProgram (h : table.Forall property) (hcommand : property command) :
    (table.registerProgram command).Forall property := by
  refine ⟨h.1, ?_⟩
  intro entry hentry
  rcases NameMap.mem_put hentry with rfl | hentry
  · exact hcommand
  · exact h.2 entry hentry

/-- Adding built-in commands one after the other, in whatever way keeps the property. -/
theorem Forall.foldl_command {add : CommandTable → Command → CommandTable}
    (keeps : ∀ table command, table.Forall property → property command →
      (add table command).Forall property)
    (hcommand : ∀ which, property (Builtin.command which)) (added : List Builtin)
    (h : table.Forall property) :
    (added.foldl (fun table which => add table which.command) table).Forall property := by
  induction added generalizing table with
  | nil => exact h
  | cons which rest ih => exact ih (keeps table which.command h (hcommand which))

/-- The built-in table holds nothing but built-in commands. -/
theorem forall_builtins :
    builtins.Forall fun command => ∃ which, command = Builtin.command which := by
  have empty : CommandTable.Forall {} fun command => ∃ which, command = Builtin.command which :=
    ⟨by simp, by simp⟩
  have named := empty.foldl_command (fun _ _ => Forall.register) (fun which => ⟨which, rfl⟩)
    Builtin.namedCommands
  exact named.foldl_command (fun _ _ => Forall.registerProgram) (fun which => ⟨which, rfl⟩)
    Builtin.programs

theorem help_ok (h : table.help arguments = .ok outcome) : ∃ lines, outcome = .say lines := by
  cases arguments with
  | nil => cases h; exact ⟨_, rfl⟩
  | cons name rest =>
    rw [help] at h
    cases found : table.find? name with
    | some command => rw [found] at h; cases h; exact ⟨_, rfl⟩
    | none =>
      simp only [found] at h
      by_cases isHelp : Text.asciiLower name = helpName
      · rw [if_pos isHelp] at h; cases h; exact ⟨_, rfl⟩
      · rw [if_neg isHelp] at h; cases h

/-- A word that does something is the help or the name of a command that does it. -/
theorem dispatch_ok {name : String} (h : table.dispatch name arguments view = .ok outcome) :
    (∃ lines, outcome = .say lines) ∨
      Text.asciiLower name ≠ helpName ∧
        ∃ command, table.find? name = some command ∧ command.run arguments view = .ok outcome := by
  rw [dispatch] at h
  by_cases isHelp : Text.asciiLower name = helpName
  · rw [if_pos isHelp] at h
    exact .inl (help_ok h)
  · rw [if_neg isHelp] at h
    cases found : table.find? name with
    | none => rw [found] at h; cases h
    | some command => rw [found] at h; exact .inr ⟨isHelp, command, rfl, h⟩

theorem programAt_ok {token : String} (h : table.programAt token view = .ok command) :
    ∃ entry, NameMap.find? table.programs entry = some command := by
  obtain ⟨node, -, h⟩ := exists_of_bind_ok h
  cases node with
  | directory children hidden => cases h
  | file content hidden => cases h
  | executable entry content hidden =>
    cases found : NameMap.find? table.programs entry with
    | none => simp [found] at h
    | some program =>
      simp only [found, Except.ok.injEq] at h
      exact ⟨entry, h ▸ found⟩

/-- A path that leads to an executable runs the program that the executable is bound to. -/
theorem programAt_of_executable {token entry content : String} {hidden : Bool}
    (leads : view.nodeAt token = .ok (.executable entry content hidden))
    (bound : NameMap.find? table.programs entry = some command) :
    table.programAt token view = .ok command := by
  rw [programAt, leads]
  simp only [bind, Except.bind, bound]

end CommandTable

/-- The program that an executable is bound to. -/
def Node.entry? : Node → Option String
  | directory _ _ => none
  | file _ _ => none
  | executable entry _ _ => some entry

theorem View.nodeAt_executable {view : View} {path entry : String}
    (h : (view.nodeAt path).toOption.bind Node.entry? = some entry) :
    ∃ content hidden, view.nodeAt path = .ok (.executable entry content hidden) := by
  cases found : view.nodeAt path with
  | error failure =>
    rw [found] at h
    cases h
  | ok node =>
    rw [found] at h
    cases node with
    | directory children hidden | file content hidden => cases h
    | executable entry' content hidden =>
      cases h
      exact ⟨content, hidden, rfl⟩

namespace Terminal

/-- A terminal with exactly the built-in commands that asks no questions but theirs. -/
structure IsStandard (terminal : Terminal) : Prop where
  table : terminal.table = .builtins
  pending : ∀ prompt ∈ terminal.pending, prompt.IsStandard

theorem isStandard_onTree (config : Config) (tree : Tree) :
    (onTree config tree .builtins).IsStandard :=
  ⟨rfl, by simp [onTree]⟩

variable {terminal : Terminal} {line : String}

/-- A line runs a built-in command with some arguments: no question is pending, and the first word
is the path of a program or the name of a command with that behaviour. -/
def Runs (terminal : Terminal) (line : String) (which : Builtin) (arguments : List String) : Prop :=
  terminal.pending = none ∧
    ∃ name, Words.ofLine line = name :: arguments ∧
      if isPathToken name then
        terminal.table.programAt name (terminal.record line).view = .ok which.command
      else
        Text.asciiLower name ≠ CommandTable.helpName ∧
          terminal.table.find? name = some which.command

/-- A path to an executable that is bound to a built-in program runs the program. -/
theorem runs_of_executable {token entry content : String} {arguments : List String} {hidden : Bool}
    {which : Builtin} (idle : terminal.pending = none)
    (words : Words.ofLine line = token :: arguments) (path : isPathToken token = true)
    (leads : terminal.view.nodeAt token = .ok (.executable entry content hidden))
    (bound : NameMap.find? terminal.table.programs entry = some which.command) :
    terminal.Runs line which arguments := by
  refine ⟨idle, token, words, ?_⟩
  rw [if_pos path]
  exact CommandTable.programAt_of_executable leads bound

/-- The name of a built-in command runs it. -/
theorem runs_of_name {name : String} {arguments : List String} {which : Builtin}
    (idle : terminal.pending = none) (words : Words.ofLine line = name :: arguments)
    (notPath : isPathToken name = false) (notHelp : Text.asciiLower name ≠ CommandTable.helpName)
    (found : terminal.table.find? name = some which.command) :
    terminal.Runs line which arguments := by
  refine ⟨idle, name, words, ?_⟩
  rw [notPath]
  exact ⟨notHelp, found⟩

/-- What an idle terminal makes of a line is a listing of the help or what a built-in command can come
to. -/
theorem exists_runs (h : terminal.IsStandard) (idle : terminal.pending = none) {outcome : Outcome}
    (found : terminal.outcome? line = some (.ok outcome)) :
    (∃ lines, outcome = .say lines) ∨
      ∃ which arguments, terminal.Runs line which arguments ∧
        which.Yields arguments (terminal.record line).view outcome := by
  cases words : Words.ofLine line with
  | nil => simp [outcome?, idle, words] at found
  | cons name arguments =>
    simp only [outcome?, idle, words] at found
    by_cases path : isPathToken name = true
    · rw [if_pos path, Option.some.injEq] at found
      obtain ⟨command, program, ran⟩ := exists_of_bind_ok found
      obtain ⟨entry, bound⟩ := CommandTable.programAt_ok program
      rw [h.table] at bound
      obtain ⟨which, rfl⟩ := CommandTable.forall_builtins.2 _ (NameMap.mem_of_find? bound)
      rw [Builtin.command_run] at ran
      refine .inr ⟨which, arguments, ⟨idle, name, words, ?_⟩, Builtin.run_yields ran⟩
      rw [if_pos path]
      exact program
    · rw [if_neg path, Option.some.injEq] at found
      rcases CommandTable.dispatch_ok found with listed | ⟨notHelp, command, named, ran⟩
      · exact .inl listed
      · have held := named
        rw [h.table] at held
        obtain ⟨which, rfl⟩ := CommandTable.forall_builtins.1 _ (NameMap.mem_of_find? held)
        rw [Builtin.command_run] at ran
        refine .inr ⟨which, arguments, ⟨idle, name, words, ?_⟩, Builtin.run_yields ran⟩
        rw [if_neg path]
        exact ⟨notHelp, named⟩

/-- Whatever a line comes to is one of the known requests. -/
theorem outcome?_isStandard (h : terminal.IsStandard) {outcome : Outcome}
    (found : terminal.outcome? line = some (.ok outcome)) :
    outcome.IsStandard (terminal.record line).view (terminal.loginBy? line) := by
  cases pending : terminal.pending with
  | some prompt =>
    have answered := (h.pending prompt pending).isSome
    simp only [outcome?, pending, Option.some.injEq] at found
    have login : terminal.loginBy? line = prompt.dialog.loginBy? terminal.config line := by
      rw [loginBy?, pending, Option.bind_some]
    rw [login]
    exact Dialog.answer_isStandard answered found
  | none =>
    have login : terminal.loginBy? line = none := by rw [loginBy?, pending, Option.bind_none]
    rw [login]
    rcases exists_runs h pending found with ⟨lines, rfl⟩ | ⟨which, arguments, -, yields⟩
    · exact Outcome.isStandard_say lines
    · exact yields.isStandard

/-- A line that runs a built-in command comes to what the command does. -/
theorem Runs.outcome? {which : Builtin} {arguments : List String}
    (h : terminal.Runs line which arguments) :
    terminal.outcome? line = some (which.run arguments (terminal.record line).view) := by
  obtain ⟨pending, name, words, leads⟩ := h
  rw [Terminal.outcome?]
  simp only [pending, words]
  by_cases path : isPathToken name = true
  · rw [if_pos path] at leads
    rw [if_pos path, CommandTable.execute, leads, ← Builtin.command_run]
    rfl
  · rw [if_neg path] at leads
    obtain ⟨notHelp, found⟩ := leads
    rw [if_neg path, CommandTable.dispatch, if_neg notHelp, found, ← Builtin.command_run]

/-- Only a line with an outcome can log in: the right password is never refused. -/
theorem loginBy?_eq_none (h : ∀ outcome, terminal.outcome? line ≠ some (.ok outcome)) :
    terminal.loginBy? line = none := by
  cases pending : terminal.pending with
  | none => rw [loginBy?, pending, Option.bind_none]
  | some prompt =>
    rw [loginBy?, pending, Option.bind_some]
    obtain ⟨origin, question, masked, dialog⟩ := prompt
    cases dialog with
    | loginPassword username =>
      exact absurd (by rw [outcome?, pending]; rfl)
        (h (Account.checkPassword username line (terminal.record line).view))
    | shareEmployee | shareCode _ | portalUsername | portalPassword _ | portalToken _ _
    | scripted _ => rfl

/-- A line without an outcome leads to the terminal as it was, with the line in its history and no
question pending. -/
theorem submit_eq_record (h : ∀ outcome, terminal.outcome? line ≠ some (.ok outcome)) :
    (terminal.submit line).1 = terminal.record line := by
  cases found : terminal.outcome? line with
  | none => rw [submit_of_wordless found]
  | some result =>
    cases result with
    | error failure => rw [submit_of_failed found]
    | ok outcome => exact absurd found (h outcome)

theorem IsStandard.submit (h : terminal.IsStandard) (line : String) :
    (terminal.submit line).1.IsStandard where
  table := (table_submit terminal line).trans h.table
  pending := by
    intro prompt pending
    obtain ⟨outcome, asked, found, asks, rfl⟩ := exists_asked pending
    exact ((outcome?_isStandard h found).asks asked asks).withOrigin _

/-! ### Runs -/

theorem run_cons (line : String) (lines : List String) :
    terminal.run (line :: lines) =
      (((terminal.submit line).1.run lines).1,
        (terminal.submit line).2 :: ((terminal.submit line).1.run lines).2) :=
  rfl

theorem run_append (lines others : List String) :
    terminal.run (lines ++ others) =
      (((terminal.run lines).1.run others).1,
        (terminal.run lines).2 ++ ((terminal.run lines).1.run others).2) := by
  induction lines generalizing terminal with
  | nil => rfl
  | cons line rest ih => rw [List.cons_append, run_cons, run_cons, ih, List.cons_append]

/-- What every line keeps, a run keeps. -/
theorem run_preserves {invariant : Terminal → Prop}
    (keeps : ∀ terminal line, invariant terminal → invariant (terminal.submit line).1)
    (start : invariant terminal) (lines : List String) : invariant (terminal.run lines).1 := by
  induction lines generalizing terminal with
  | nil => exact start
  | cons line rest ih => exact ih (keeps terminal line start)

/-- The credentials of the logins that succeed in a run, in order. -/
def logins (terminal : Terminal) : List String → List Credential
  | [] => []
  | line :: lines =>
    (terminal.loginBy? line).toList ++ (terminal.submit line).1.logins lines

/-- The same for what depends on the logins up to the line. -/
theorem run_keeps {invariant : List Credential → Terminal → Prop}
    (keeps : ∀ past terminal line, invariant past terminal →
      invariant (past ++ (terminal.loginBy? line).toList) (terminal.submit line).1)
    {past : List Credential} (start : invariant past terminal) (lines : List String) :
    invariant (past ++ terminal.logins lines) (terminal.run lines).1 := by
  induction lines generalizing terminal past with
  | nil =>
    rw [logins, List.append_nil]
    exact start
  | cons line rest ih =>
    have later := ih (keeps past terminal line start)
    rwa [List.append_assoc] at later

/-- The terminal that some lines lead to from a new one over a tree. -/
def reached (config : Config) (initial : Tree) (lines : List String) : Terminal :=
  ((onTree config initial .builtins).run lines).1

theorem reached_append (config : Config) (initial : Tree) (lines others : List String) :
    reached config initial (lines ++ others) = ((reached config initial lines).run others).1 := by
  rw [reached, run_append, reached]

theorem isStandard_reached (config : Config) (initial : Tree) (lines : List String) :
    (reached config initial lines).IsStandard :=
  run_preserves (fun _ line h => h.submit line) (isStandard_onTree config initial) lines

theorem config_reached (config : Config) (initial : Tree) (lines : List String) :
    (reached config initial lines).config = config :=
  run_preserves (fun terminal line h => (config_submit terminal line).trans h) rfl lines

end Terminal

end StoryShell
