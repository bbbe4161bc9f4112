/-
# A table answers to the names that it lists

A table grows by registering commands and programs, one after the other. Among the
commands whose names differ in case at most the last one counts, and it is what runs
under each of these spellings. The completions list every name that something is
found under, in lower case and in order, and no other name is found. Only the help
stands apart: the table answers it itself, so a command registered under its name is
listed beside it and never run. Programs have no part in any of this.
-/

import Mathlib.Data.List.Nodup
import StoryShell.CommandTable
import StoryShell.Proofs.NameMap

namespace StoryShell

/-- Something that is added to a table. -/
inductive Registration
  | command (command : Command)
  | program (program : Command)

namespace Registration

/-- The command that is added under its name. -/
def command? : Registration → Option Command
  | .command registered => some registered
  | .program _ => none

/-- The program that is added under its name. -/
def program? : Registration → Option Command
  | .command _ => none
  | .program registered => some registered

/-- The commands among some registrations, in order. -/
def commands (registrations : List Registration) : List Command :=
  registrations.filterMap command?

/-- The programs among some registrations, in order. -/
def programs (registrations : List Registration) : List Command :=
  registrations.filterMap program?

end Registration

namespace CommandTable

/-- The table with one more registration. -/
def add (table : CommandTable) : Registration → CommandTable
  | .command command => table.register command
  | .program program => table.registerProgram program

/-- The table that some registrations lead to from the empty one. -/
def ofRegistrations (registrations : List Registration) : CommandTable :=
  registrations.foldl add {}

/-- The last of some commands whose name is `key` in lower case. -/
def latest? (commands : List Command) (key : String) : Option Command :=
  commands.reverse.find? fun command => Text.asciiLower command.name = key

/-- A name is that of the help or of a registered command, whatever the case of its letters. -/
def Answers (registrations : List Registration) (name : String) : Prop :=
  Text.asciiLower name = helpName ∨
    ∃ command ∈ Registration.commands registrations,
      Text.asciiLower command.name = Text.asciiLower name

variable {table : CommandTable} {registrations : List Registration} {command : Command}
  {name key start : String}

/-! ### Tables as maps of what was registered -/

theorem foldl_add (table : CommandTable) (registrations : List Registration) :
    registrations.foldl add table =
      { commands := (Registration.commands registrations).foldl (fun commands command =>
          NameMap.put commands (Text.asciiLower command.name) command) table.commands
        programs := (Registration.programs registrations).foldl (fun programs program =>
          NameMap.put programs program.name program) table.programs } := by
  induction registrations generalizing table with
  | nil => rfl
  | cons registration rest ih =>
    rw [List.foldl_cons, ih]
    cases registration <;> rfl

/-- A table is the maps of what was registered, of which the last under a name counts. -/
theorem ofRegistrations_eq (registrations : List Registration) :
    ofRegistrations registrations =
      { commands := NameMap.ofEntries ((Registration.commands registrations).map fun command =>
          (Text.asciiLower command.name, command))
        programs := NameMap.ofEntries ((Registration.programs registrations).map fun program =>
          (program.name, program)) } := by
  rw [NameMap.ofEntries, NameMap.ofEntries, List.foldl_map, List.foldl_map]
  exact foldl_add {} registrations

/-! ### The command that counts -/

theorem latest?_append (commands others : List Command) (key : String) :
    latest? (commands ++ others) key = (latest? others key).or (latest? commands key) := by
  rw [latest?, List.reverse_append, List.find?_append]
  rfl

theorem latest?_eq_none {commands : List Command} :
    latest? commands key = none ↔ ∀ command ∈ commands, Text.asciiLower command.name ≠ key := by
  simp [latest?]

/-- Among the commands with one name the one counts after which no other follows. -/
theorem latest?_of_last {commands others : List Command}
    (last : ∀ other ∈ others, Text.asciiLower other.name ≠ Text.asciiLower command.name) :
    latest? (commands ++ command :: others) (Text.asciiLower command.name) = some command := by
  have itself : latest? [command] (Text.asciiLower command.name) = some command := by
    simp [latest?]
  rw [List.append_cons, latest?_append, latest?_eq_none.mpr last, Option.none_or, latest?_append,
    itself, Option.some_or]

/-- What is found under a key is the last command registered with it. -/
theorem find?_commands (registrations : List Registration) (key : String) :
    NameMap.find? (ofRegistrations registrations).commands key =
      latest? (Registration.commands registrations) key := by
  rw [ofRegistrations_eq]
  dsimp only
  induction Registration.commands registrations using List.reverseRecOn with
  | nil => rfl
  | append_singleton commands last ih =>
    rw [List.map_append, List.map_singleton, NameMap.ofEntries_concat, NameMap.find?_put, ih,
      latest?_append]
    by_cases same : Text.asciiLower last.name = key <;> simp [latest?, same]

theorem find?_ofRegistrations (registrations : List Registration) (name : String) :
    (ofRegistrations registrations).find? name =
      latest? (Registration.commands registrations) (Text.asciiLower name) :=
  find?_commands registrations _

theorem ordered_ofRegistrations (registrations : List Registration) :
    NameMap.Ordered (ofRegistrations registrations).commands := by
  rw [ofRegistrations_eq]
  exact NameMap.ordered_ofEntries _

/-- The keys of a table are the names of the registered commands in lower case. -/
theorem mem_names_ofRegistrations :
    key ∈ NameMap.names (ofRegistrations registrations).commands ↔
      ∃ command ∈ Registration.commands registrations, key = Text.asciiLower command.name := by
  rw [NameMap.mem_names_iff, find?_commands, ne_eq, latest?_eq_none]
  simp [eq_comm]

/-- Programs leave no trace among the commands. -/
theorem commands_withoutPrograms (registrations : List Registration) :
    (ofRegistrations registrations).commands =
      (ofRegistrations ((Registration.commands registrations).map .command)).commands := by
  have same : Registration.commands ((Registration.commands registrations).map .command) =
      Registration.commands registrations := by
    rw [Registration.commands, List.filterMap_map]
    exact List.filterMap_some
  rw [ofRegistrations_eq, ofRegistrations_eq, same]

/-! ### Running -/

/-- A command runs under each spelling of its name until another one takes the name, unless it is
the name of the help. -/
theorem dispatch_of_last {before after : List Registration}
    (last : ∀ other ∈ Registration.commands after,
      Text.asciiLower other.name ≠ Text.asciiLower command.name)
    (notHelp : Text.asciiLower command.name ≠ helpName)
    (same : Text.asciiLower name = Text.asciiLower command.name) (arguments : List String)
    (view : View) :
    (ofRegistrations (before ++ .command command :: after)).dispatch name arguments view =
      command.run arguments view := by
  have commands : Registration.commands (before ++ .command command :: after) =
      Registration.commands before ++ command :: Registration.commands after :=
    List.filterMap_append
  have found : (ofRegistrations (before ++ .command command :: after)).find? name =
      some command := by
    rw [find?_ofRegistrations, commands, same, latest?_of_last last]
  rw [dispatch, if_neg (same ▸ notHelp), found]

theorem dispatch_of_not_answers (unknown : ¬ Answers registrations name) (arguments : List String)
    (view : View) :
    (ofRegistrations registrations).dispatch name arguments view =
      .error (.commandNotFound name) := by
  obtain ⟨notHelp, unregistered⟩ := not_or.mp unknown
  have absent : (ofRegistrations registrations).find? name = none := by
    rw [find?_ofRegistrations, latest?_eq_none]
    intro command registered same
    exact unregistered ⟨command, registered, same⟩
  rw [dispatch, if_neg notHelp, absent]

/-- Only the commands of a table count for what is run by name. -/
theorem dispatch_congr_commands {other : CommandTable} (same : table.commands = other.commands) :
    table.dispatch = other.dispatch := by
  cases table
  cases other
  cases same
  rfl

/-! ### Listing -/

theorem pairwise_mergeSort (names : List String) : names.mergeSort.Pairwise (· ≤ ·) := by
  have sorted : names.mergeSort.Pairwise fun first second => decide (first ≤ second) = true := by
    apply List.pairwise_mergeSort
    · intro first second third
      simpa using String.le_trans
    · intro first second
      simpa using String.le_total first second
  simpa using sorted

/-- The completions increase; at most the help is listed twice, if a command has its name. -/
theorem pairwise_completions (ordered : NameMap.Ordered table.commands) (start : String) :
    (table.completions start).Pairwise fun first second =>
      first < second ∨
        first = helpName ∧ second = helpName ∧ helpName ∈ NameMap.names table.commands := by
  rw [List.pairwise_iff_forall_sublist]
  intro first second sub
  have notAfter : first ≤ second :=
    List.pairwise_iff_forall_sublist.mp (pairwise_mergeSort _) sub
  by_cases same : first = second
  · subst same
    have listed : 2 ≤ (table.completions start).count first := List.replicate_sublist_iff.mp sub
    have once : (NameMap.names table.commands).count first ≤ 1 :=
      List.nodup_iff_count_le_one.mp ordered.nodup_names first
    have fewer : (table.completions start).count first ≤
        (NameMap.names table.commands ++ [helpName]).count first := by
      rw [completions, (List.mergeSort_perm _ _).count_eq]
      exact List.filter_sublist.count_le first
    rw [List.count_append, List.count_singleton] at fewer
    by_cases help : helpName = first
    · subst help
      have listedToo : helpName ∈ NameMap.names table.commands :=
        List.count_pos_iff.mp (by simp at fewer; omega)
      exact .inr ⟨rfl, rfl, listedToo⟩
    · simp [help] at fewer
      omega
  · exact .inl (Std.lt_of_le_of_ne notAfter same)

theorem mem_completions :
    name ∈ (ofRegistrations registrations).completions start ↔
      Text.startsWith name (Text.asciiLower start) = true ∧
        (name = helpName ∨
          ∃ command ∈ Registration.commands registrations,
            name = Text.asciiLower command.name) := by
  rw [completions, List.mem_mergeSort, List.mem_filter, List.mem_append, List.mem_singleton,
    mem_names_ofRegistrations, and_comm, or_comm]

/-- Something answers to a name exactly if it is listed in lower case. -/
theorem answers_iff_mem_completions :
    Answers registrations name ↔
      Text.asciiLower name ∈ (ofRegistrations registrations).completions "" := by
  rw [mem_completions, Answers]
  simp [Text.startsWith, Text.asciiLower, eq_comm]

/-! ### The views together -/

/-- Whatever was registered in whatever order, a command whose name is not that of the help runs
under every spelling of its name until another one takes the name, and every spelling of `help` is
answered by the table. The completions of a beginning are in order and, the help apart, each once:
the names in lower case that start with it and belong to the help or to a command. So something
answers to a name exactly if it is listed in lower case; every other name is not found, and leaving
out the programs changes nothing that is run by name. -/
theorem views_agree_with_dispatch (registrations : List Registration) :
    let table := ofRegistrations registrations
    (∀ before command after, registrations = before ++ .command command :: after →
        (∀ other ∈ Registration.commands after,
          Text.asciiLower other.name ≠ Text.asciiLower command.name) →
        Text.asciiLower command.name ≠ helpName →
        ∀ name, Text.asciiLower name = Text.asciiLower command.name → ∀ arguments view,
          table.dispatch name arguments view = command.run arguments view) ∧
      (∀ name, Text.asciiLower name = helpName → ∀ arguments view,
        table.dispatch name arguments view = table.help arguments) ∧
      (∀ start,
        ((∀ command ∈ Registration.commands registrations,
            Text.asciiLower command.name ≠ helpName) →
          (table.completions start).Pairwise (· < ·)) ∧
        ((table.completions start).Pairwise fun first second =>
          first < second ∨ first = helpName ∧ second = helpName) ∧
        ∀ name, name ∈ table.completions start ↔
          Text.startsWith name (Text.asciiLower start) = true ∧
            (name = helpName ∨
              ∃ command ∈ Registration.commands registrations,
                name = Text.asciiLower command.name)) ∧
      (∀ name, Answers registrations name ↔ Text.asciiLower name ∈ table.completions "") ∧
      (∀ name, ¬ Answers registrations name → ∀ arguments view,
        table.dispatch name arguments view = .error (.commandNotFound name)) ∧
      ∀ name arguments view, table.dispatch name arguments view =
        (ofRegistrations ((Registration.commands registrations).map .command)).dispatch name
          arguments view := by
  intro table
  have increasing : ∀ start, (table.completions start).Pairwise fun first second =>
      first < second ∨
        first = helpName ∧ second = helpName ∧ helpName ∈ NameMap.names table.commands :=
    pairwise_completions (ordered_ofRegistrations registrations)
  refine ⟨?_, ?_, ?_, ?_, ?_, ?_⟩
  · rintro before command after rfl last notHelp name same arguments view
    exact dispatch_of_last last notHelp same arguments view
  · intro name help arguments view
    exact if_pos help
  · intro start
    refine ⟨?_, ?_, fun name => mem_completions⟩
    · intro unregistered
      apply (increasing start).imp
      rintro first second (less | ⟨-, -, listed⟩)
      · exact less
      · obtain ⟨command, registered, same⟩ := mem_names_ofRegistrations.mp listed
        exact absurd same.symm (unregistered command registered)
    · apply (increasing start).imp
      rintro first second (less | ⟨help, helpToo, -⟩)
      · exact .inl less
      · exact .inr ⟨help, helpToo⟩
  · exact fun name => answers_iff_mem_completions
  · intro name unknown arguments view
    exact dispatch_of_not_answers unknown arguments view
  · intro name arguments view
    rw [dispatch_congr_commands (commands_withoutPrograms registrations)]

/-- A table in which one command took over the name of another, with a program in between. -/
def lanterns : List Registration :=
  [.command { name := "Lamp", behaviour := .scripted (.finish [.system "dark"] []) },
   .program { name := "lamps", behaviour := .scripted (.finish [.system "smoke"] []) },
   .command { name := "LAMP", behaviour := .scripted (.finish [.system "light"] []) },
   .command { name := "lantern", behaviour := .builtin .pwd }]

/-- The later lamp is lit under every spelling, and the program is neither listed nor found. -/
theorem lanterns_answer_as_listed :
    let table := ofRegistrations lanterns
    let view : View := ⟨{}, {}, {}⟩
    table.dispatch "lAmP" [] view = .ok { output := [.system "light"] } ∧
      (table.completions "LA").Pairwise (· < ·) ∧ "lamp" ∈ table.completions "LA" ∧
      "lamps" ∉ table.completions "LA" ∧
      table.dispatch "lamps" [] view = .error (.commandNotFound "lamps") := by
  intro table view
  obtain ⟨runs, -, lists, -, unknown, -⟩ := views_agree_with_dispatch lanterns
  obtain ⟨increasing, -, listed⟩ := lists "LA"
  let lamp : Command :=
    { name := "LAMP", behaviour := .scripted (.finish [.system "light"] []) }
  have light : lamp.run [] view = .ok { output := [.system "light"] } := rfl
  have lit := runs (lanterns.take 2) lamp (lanterns.drop 3) rfl (by decide) (by decide) "lAmP"
    (by decide) [] view
  have noHelp : ∀ command ∈ Registration.commands lanterns,
      Text.asciiLower command.name ≠ helpName := by
    decide
  have nobody : ¬ Answers lanterns "lamps" := by
    rw [Answers]
    decide
  refine ⟨lit.trans light, increasing noHelp, ?_, ?_, unknown "lamps" nobody [] view⟩
  · rw [listed]
    decide
  · rw [listed]
    decide

/-- A command that was registered under the name of the help. -/
def lighthouse : Command where
  name := "Help"
  behaviour := .scripted (.finish [.system "land ahoy"] [])

/-- A command under the name of the help does not run, and the name is listed twice. -/
theorem registered_help_does_not_run :
    (¬ ∀ (before : List Registration) (command : Command) (after : List Registration),
      (∀ other ∈ Registration.commands after,
        Text.asciiLower other.name ≠ Text.asciiLower command.name) →
      ∀ name, Text.asciiLower name = Text.asciiLower command.name → ∀ arguments view,
        (ofRegistrations (before ++ .command command :: after)).dispatch name arguments view =
          command.run arguments view) ∧
      ¬ ∀ registrations start, ((ofRegistrations registrations).completions start).Pairwise
        (· < ·) := by
  constructor
  · intro runs
    have ran := runs [] lighthouse [] (by decide) "help" (by decide) ["lighthouse"] ⟨{}, {}, {}⟩
    have failed : (ofRegistrations [.command lighthouse]).dispatch "help" ["lighthouse"]
        ⟨{}, {}, {}⟩ = .error (.commandNotFound "lighthouse") := rfl
    rw [List.nil_append, failed] at ran
    cases ran
  · intro increasing
    have once : ((ofRegistrations [.command lighthouse]).completions "he").Nodup := by
      apply (increasing _ _).imp
      intro first second less same
      exact String.lt_irrefl first (same ▸ less)
    rw [completions, (List.mergeSort_perm _ _).nodup_iff] at once
    revert once
    decide

end CommandTable

end StoryShell
