/-
# The overview lists everything once

The overview of a table is a count, a section for each category, and a closing line.
Nothing that was registered and still counts is lost, listed twice or filed under a
category of another, whatever was registered in whatever order; and the help itself
has its row among them, even beside a command of the same name. Sections stand in
the order of their categories. Their headings need not: the bracket that closes a
category comes after most characters with which a longer one may go on.
-/

import Mathlib.Data.List.Perm.Basic
import StoryShell.Proofs.CommandTable

namespace StoryShell.CommandTable

/-- A section of the overview: a category, and the rows that are filed under it. -/
structure HelpSection where
  category : String
  rows : List HelpRow

namespace HelpSection

/-- The line over a section. -/
def heading (filed : HelpSection) : String :=
  "  [" ++ filed.category ++ "]"

/-- A section as it is printed. -/
def lines (filed : HelpSection) : List String :=
  filed.heading :: filed.rows.map HelpRow.line

end HelpSection

/-- The overview of some sections as it is printed. -/
def printed (sections : List HelpSection) : List String :=
  ["Commands (" ++ toString (sections.flatMap (·.rows)).length ++ "):"] ++
    sections.flatMap HelpSection.lines ++
    ["Type 'help <command>' for details. Run programs with ./name."]

/-- The commands that count: of those whose names differ in case at most, the last. -/
def counting : List Command → List Command
  | [] => []
  | command :: later =>
    if ∃ other ∈ later, Text.asciiLower other.name = Text.asciiLower command.name then
      counting later
    else command :: counting later

/-- Some sections list the commands of a table, whatever the order of the sections. -/
structure Lists (registrations : List Registration) (sections : List HelpSection) : Prop where
  /-- There is a section for the category of each command that counts, and for that of the help. -/
  category_iff : ∀ category, category ∈ sections.map (·.category) ↔
    category = "general" ∨
      ∃ command ∈ counting (Registration.commands registrations), command.category = category
  /-- Rows stand in the section of their own category. -/
  filed : ∀ filed ∈ sections, ∀ row ∈ filed.rows, row.category = filed.category
  sorted : ∀ filed ∈ sections, filed.rows.Pairwise fun first second => first.name ≤ second.name
  /-- The rows are that of the help and those of the commands that count, each once. -/
  complete : (sections.flatMap (·.rows)).Perm
    (helpRow :: (counting (Registration.commands registrations)).map HelpRow.ofCommand)

/-- The section of a category. -/
def sectionOf (rows : List HelpRow) (category : String) : HelpSection :=
  ⟨category, sortRows (rows.filter (·.category = category))⟩

/-- The sections of the overview. -/
def sections (table : CommandTable) : List HelpSection :=
  (categories table.helpRows).map (sectionOf table.helpRows)

variable {table : CommandTable} {registrations : List Registration} {command : Command}
  {commands : List Command} {rows : List HelpRow} {category key : String}

/-! ### The commands that count -/

theorem latest?_cons (first : Command) (later : List Command) (key : String) :
    latest? (first :: later) key =
      (latest? later key).or (if Text.asciiLower first.name = key then some first else none) := by
  have alone : latest? [first] key =
      if Text.asciiLower first.name = key then some first else none := by
    simp [latest?, List.find?_singleton]
  rw [← alone]
  exact latest?_append [first] later key

/-- A command counts exactly if it is the latest one with its name. -/
theorem mem_counting :
    command ∈ counting commands ↔
      latest? commands (Text.asciiLower command.name) = some command := by
  induction commands with
  | nil => simp [counting, latest?]
  | cons first later ih =>
    rw [counting, latest?_cons]
    by_cases same : Text.asciiLower first.name = Text.asciiLower command.name
    · rw [if_pos same, same]
      by_cases taken : ∃ other ∈ later, Text.asciiLower other.name = Text.asciiLower command.name
      · obtain ⟨last, found⟩ : ∃ last, latest? later (Text.asciiLower command.name) = some last := by
          rw [← Option.ne_none_iff_exists', ne_eq, latest?_eq_none]
          simpa using taken
        rw [if_pos taken, ih, found, Option.some_or]
      · have none : latest? later (Text.asciiLower command.name) = none := by
          rw [latest?_eq_none]
          simpa using taken
        rw [if_neg taken, List.mem_cons, ih, none, Option.none_or]
        simp [eq_comm]
    · have other : command ≠ first := by
        rintro rfl
        exact same rfl
      rw [if_neg same, Option.or_none, ← ih]
      split <;> simp [other]

theorem nodup_counting (commands : List Command) :
    ((counting commands).map fun command => Text.asciiLower command.name).Nodup := by
  induction commands with
  | nil => exact List.nodup_nil
  | cons first later ih =>
    rw [counting]
    split
    · exact ih
    · next alone =>
      rw [List.map_cons, List.nodup_cons]
      refine ⟨?_, ih⟩
      intro again
      obtain ⟨other, counts, same⟩ := List.mem_map.mp again
      have follows : other ∈ later := by
        have := List.mem_of_find?_eq_some (mem_counting.mp counts)
        simpa using this
      exact alone ⟨other, follows, same⟩

theorem mem_commands_ofRegistrations :
    (key, command) ∈ (ofRegistrations registrations).commands ↔
      latest? (Registration.commands registrations) key = some command := by
  rw [← NameMap.find?_eq_some (ordered_ofRegistrations registrations).nodup_names, find?_commands]

/-- A command is kept under its name in lower case. -/
theorem key_of_mem (held : (key, command) ∈ (ofRegistrations registrations).commands) :
    key = Text.asciiLower command.name := by
  have found := List.find?_some (mem_commands_ofRegistrations.mp held)
  exact (of_decide_eq_true found).symm

/-- A table holds exactly the commands that count. -/
theorem commands_perm_counting (registrations : List Registration) :
    ((ofRegistrations registrations).commands.map Prod.snd).Perm
      (counting (Registration.commands registrations)) := by
  have keys : ((ofRegistrations registrations).commands.map Prod.snd).map
      (fun command => Text.asciiLower command.name) =
        NameMap.names (ofRegistrations registrations).commands := by
    rw [List.map_map, NameMap.names]
    apply List.map_congr_left
    rintro ⟨key, command⟩ held
    exact (key_of_mem held).symm
  have distinct : ((ofRegistrations registrations).commands.map Prod.snd).Nodup := by
    apply List.Nodup.of_map
    rw [keys]
    exact (ordered_ofRegistrations registrations).nodup_names
  rw [List.perm_ext_iff_of_nodup distinct (List.Nodup.of_map _ (nodup_counting _))]
  intro command
  rw [mem_counting, ← mem_commands_ofRegistrations, List.mem_map]
  constructor
  · rintro ⟨⟨key, command⟩, held, rfl⟩
    rwa [key_of_mem held] at held
  · intro held
    exact ⟨_, held, rfl⟩

/-! ### Filing -/

theorem sortRows_perm (rows : List HelpRow) : (sortRows rows).Perm rows :=
  List.mergeSort_perm ..

theorem byName_trans (first second third : HelpRow) :
    decide (first.name ≤ second.name) = true → decide (second.name ≤ third.name) = true →
      decide (first.name ≤ third.name) = true := by
  simpa using String.le_trans

theorem byName_total (first second : HelpRow) :
    (decide (first.name ≤ second.name) || decide (second.name ≤ first.name)) = true := by
  simpa using String.le_total first.name second.name

theorem pairwise_sortRows (rows : List HelpRow) :
    (sortRows rows).Pairwise fun first second => first.name ≤ second.name := by
  have sorted : (sortRows rows).Pairwise fun first second =>
      decide (first.name ≤ second.name) = true :=
    List.pairwise_mergeSort byName_trans byName_total rows
  simpa using sorted

theorem mem_categories :
    category ∈ categories rows ↔ ∃ row ∈ rows, row.category = category := by
  rw [categories, NameMap.mem_names_ofEntries]
  simp

theorem pairwise_categories (rows : List HelpRow) : (categories rows).Pairwise (· < ·) :=
  NameMap.ordered_ofEntries _

theorem nodup_categories (rows : List HelpRow) : (categories rows).Nodup :=
  NameMap.Ordered.nodup_names (NameMap.ordered_ofEntries _)

/-- Rows filed under different categories, none of which is left out, are all rows. -/
theorem filed_perm {categories : List String} (distinct : categories.Nodup)
    (covered : ∀ row ∈ rows, row.category ∈ categories) :
    (categories.flatMap fun category => rows.filter (·.category = category)).Perm rows := by
  induction categories generalizing rows with
  | nil =>
    have empty : rows = [] := List.eq_nil_iff_forall_not_mem.mpr fun row filed =>
      List.not_mem_nil (covered row filed)
    rw [empty, List.flatMap_nil]
  | cons category others ih =>
    obtain ⟨fresh, distinct⟩ := List.nodup_cons.mp distinct
    -- The rows of the other categories are found among those that are not of the first.
    let left := rows.filter fun row => !decide (row.category = category)
    have elsewhere : ∀ other ∈ others,
        rows.filter (·.category = other) = left.filter (·.category = other) := by
      intro other later
      have different : other ≠ category := by
        rintro rfl
        exact fresh later
      rw [List.filter_filter]
      apply List.filter_congr
      intro row _
      grind
    have coveredToo : ∀ row ∈ left, row.category ∈ others := by
      intro row filed
      obtain ⟨known, different⟩ := List.mem_filter.mp filed
      have apart : row.category ≠ category := by simpa using different
      exact List.mem_of_ne_of_mem apart (covered row known)
    rw [List.flatMap_cons, List.flatMap_congr elsewhere]
    exact ((ih distinct coveredToo).append_left _).trans (List.filter_append_perm ..)

/-! ### The overview as a whole -/

/-- The sections hold the rows of the overview, each of them once. -/
theorem rows_sections_perm (table : CommandTable) :
    (table.sections.flatMap (·.rows)).Perm table.helpRows := by
  have sorted : (table.sections.flatMap (·.rows)).Perm
      ((categories table.helpRows).flatMap fun category =>
        table.helpRows.filter (·.category = category)) := by
    rw [sections, List.flatMap_map]
    exact List.Perm.flatMap_left _ fun category _ => sortRows_perm _
  have covered : ∀ row ∈ table.helpRows, row.category ∈ categories table.helpRows :=
    fun row filed => mem_categories.mpr ⟨row, filed, rfl⟩
  exact sorted.trans (filed_perm (nodup_categories _) covered)

theorem categories_sections (table : CommandTable) :
    table.sections.map (·.category) = categories table.helpRows := by
  rw [sections, List.map_map]
  exact List.map_id _

/-- The rows of the overview are that of the help and those of the commands that count. -/
theorem helpRows_perm (registrations : List Registration) :
    (ofRegistrations registrations).helpRows.Perm
      (helpRow :: (counting (Registration.commands registrations)).map HelpRow.ofCommand) := by
  have rows := (commands_perm_counting registrations).map HelpRow.ofCommand
  rw [List.map_map] at rows
  exact rows.cons helpRow

theorem overview_eq (table : CommandTable) : table.overview = printed table.sections := by
  rw [printed, (rows_sections_perm table).length_eq, overview, sections, List.flatMap_map]
  rfl

/-- The sections of a table list its commands. -/
theorem lists_sections (registrations : List Registration) :
    Lists registrations (ofRegistrations registrations).sections where
  category_iff category := by
    have rows := helpRows_perm registrations
    rw [categories_sections, mem_categories]
    simp only [rows.mem_iff, List.mem_cons, List.mem_map, exists_eq_or_imp,
      exists_exists_and_eq_and]
    exact or_congr_left eq_comm
  filed := by
    intro filed hfiled row hrow
    obtain ⟨category, -, rfl⟩ := List.mem_map.mp hfiled
    have member := (sortRows_perm _).mem_iff.mp hrow
    exact of_decide_eq_true (List.mem_filter.mp member).2
  sorted := by
    intro filed hfiled
    obtain ⟨category, -, rfl⟩ := List.mem_map.mp hfiled
    exact pairwise_sortRows _
  complete := (rows_sections_perm _).trans (helpRows_perm registrations)

/-- A row is printed as four blanks, the name, filled up with blanks to twenty characters, a blank
and the description. -/
theorem toList_line (row : HelpRow) :
    row.line.toList =
      List.replicate 4 ' ' ++ row.name.toList ++ List.replicate (20 - row.name.length) ' ' ++
        ' ' :: row.description.toList := by
  simp [HelpRow.line, Text.padRight, String.length_toList]

/-- The help without arguments prints the overview of sections that list everything once: after the
number of rows, the sections in the order of their categories, and a closing line. -/
theorem overview_lists_everything_once (registrations : List Registration) (view : View) :
    ∃ sections, Lists registrations sections ∧
      (sections.map (·.category)).Pairwise (· < ·) ∧
      (ofRegistrations registrations).dispatch "help" [] view = .ok (.say (printed sections)) ∧
      ∀ row : HelpRow, row.line.toList =
        List.replicate 4 ' ' ++ row.name.toList ++ List.replicate (20 - row.name.length) ' ' ++
          ' ' :: row.description.toList := by
  refine ⟨(ofRegistrations registrations).sections, lists_sections registrations, ?_, ?_,
    toList_line⟩
  · rw [categories_sections]
    exact pairwise_categories _
  · have answered : (ofRegistrations registrations).dispatch "help" [] view =
        .ok (.say (ofRegistrations registrations).overview) := rfl
    rw [answered, overview_eq]

/-! ### Headings -/

/-- Whether a line of the overview is a heading: no other line starts with two blanks and a
bracket. -/
def isHeading (line : String) : Bool :=
  Text.startsWith line "  ["

theorem isHeading_heading (filed : HelpSection) : isHeading filed.heading = true := by
  simp [isHeading, Text.startsWith, HelpSection.heading]

theorem isHeading_line (row : HelpRow) : isHeading row.line = false := by
  rw [isHeading, Text.startsWith, toList_line]
  rfl

theorem isHeading_count (count : String) : isHeading ("Commands (" ++ count ++ "):") = false := by
  rw [isHeading, Text.startsWith, String.toList_append, String.toList_append]
  rfl

/-- Of a section only the first line is a heading. -/
theorem filter_isHeading_lines (filed : HelpSection) :
    filed.lines.filter isHeading = [filed.heading] := by
  have rows : (filed.rows.map HelpRow.line).filter isHeading = [] := by
    rw [List.filter_eq_nil_iff]
    intro line hline
    obtain ⟨row, -, rfl⟩ := List.mem_map.mp hline
    simp [isHeading_line]
  rw [HelpSection.lines, List.filter_cons_of_pos (isHeading_heading filed), rows]

theorem filter_isHeading (sections : List HelpSection) :
    (printed sections).filter isHeading = sections.map HelpSection.heading := by
  have closing : isHeading "Type 'help <command>' for details. Run programs with ./name." =
      false := by
    decide
  rw [printed, List.filter_append, List.filter_append, List.filter_flatMap]
  simp only [isHeading_count, closing, filter_isHeading_lines, List.filter_cons,
    List.filter_nil, Bool.false_eq_true, if_false, List.nil_append, List.append_nil]
  exact List.map_eq_flatMap.symm

/-- Two commands of which one has a category that goes on where the other's ends. -/
def dials : List Registration :=
  [.command { name := "ping", category := "net", behaviour := .scripted (.finish [] []) },
   .command { name := "scan", category := "net 2", behaviour := .scripted (.finish [] []) }]

/-- The headings of the sections need not increase: `net` comes before `net 2`, but a blank before
the bracket. -/
theorem headings_need_not_increase :
    ¬ ∀ (registrations : List Registration) (view : View),
      ∃ sections, Lists registrations sections ∧
        (sections.map HelpSection.heading).Pairwise (· < ·) ∧
        (ofRegistrations registrations).dispatch "help" [] view =
          .ok (.say (printed sections)) := by
  intro increase
  obtain ⟨sections, -, increasing, answered⟩ := increase dials ⟨{}, {}, {}⟩
  have said : (ofRegistrations dials).dispatch "help" [] ⟨{}, {}, {}⟩ =
      .ok (.say (printed (ofRegistrations dials).sections)) := by
    rw [← overview_eq]
    rfl
  have same : printed sections = printed (ofRegistrations dials).sections := by
    rw [said] at answered
    have outputs := congrArg Outcome.output (Except.ok.inj answered)
    exact (List.map_injective_iff.mpr fun _ _ text => congrArg OutputLine.text text) outputs.symm
  have headings : sections.map HelpSection.heading =
      ["  [general]", "  [net]", "  [net 2]"] := by
    rw [← filter_isHeading, same, filter_isHeading]
    rfl
  rw [headings] at increasing
  revert increasing
  decide

end StoryShell.CommandTable
