/-
# Printing files, and lines of them

A file is printed line by line, and nothing is lost: its lines with a line feed between
any two are the file again. Several files are printed one after the other if all of them
can be read; otherwise the first that cannot be read decides, and no file is printed. A
search of a file prints some of the lines that printing it does, in their order, each
with its position among all of them if positions are asked for.
-/

import StoryShell.Command
import StoryShell.Proofs.Text.Pieces

namespace StoryShell

/-! ### Going through a list until something fails -/

section Traversal

variable {α β ε : Type _} {f : α → Except ε β}

/-- Where everything succeeds, so does the whole, with the results one by one. -/
theorem exists_mapM_eq_ok {list : List α} (all : ∀ x ∈ list, ∃ y, f x = .ok y) :
    ∃ results, list.mapM f = .ok results ∧ list.map f = results.map .ok := by
  induction list with
  | nil => exact ⟨[], rfl, rfl⟩
  | cons x rest ih =>
    obtain ⟨first, later⟩ := List.forall_mem_cons.mp all
    obtain ⟨y, given⟩ := first
    obtain ⟨results, made, pointwise⟩ := ih later
    refine ⟨y :: results, ?_, ?_⟩
    · rw [List.mapM_cons, given, made]
      rfl
    · rw [List.map_cons, List.map_cons, given, pointwise]

/-- The first failure is the failure of the whole. -/
theorem mapM_eq_error {before after : List α} {x : α} {failure : ε}
    (fine : ∀ y ∈ before, ∃ z, f y = .ok z) (fails : f x = .error failure) :
    (before ++ x :: after).mapM f = .error failure := by
  obtain ⟨results, made, -⟩ := exists_mapM_eq_ok fine
  rw [List.mapM_append, made, List.mapM_cons, fails]
  rfl

end Traversal

/-! ### Reading what an argument names -/

/-- An argument is the path of a file or an executable, and this is what it holds. -/
def View.Reads (view : View) (argument content : String) : Prop :=
  ∃ path node, view.lookup argument = .ok (path, node) ∧ node.content? = some content

variable {view : View} {argument content pattern : String}

theorem View.lookup_eq (view : View) (argument : String) :
    view.lookup argument =
      (view.nodeAt argument).map fun node => (view.resolve argument, node) := by
  rw [lookup]
  cases view.nodeAt argument <;> rfl

theorem View.Reads.exists_node (reads : view.Reads argument content) :
    ∃ node, view.nodeAt argument = .ok node ∧ node.content? = some content := by
  obtain ⟨path, node, looked, held⟩ := reads
  rw [lookup_eq] at looked
  cases found : view.nodeAt argument with
  | error failure =>
    rw [found] at looked
    cases looked
  | ok other =>
    rw [found] at looked
    obtain ⟨-, rfl⟩ := Prod.mk.inj (Except.ok.inj looked)
    exact ⟨_, rfl, held⟩

namespace Files

theorem contentLines_of_reads (reads : view.Reads argument content) :
    contentLines view argument = .ok (Text.lines content) := by
  obtain ⟨node, found, held⟩ := reads.exists_node
  simp only [contentLines, found, bind, Except.bind, held]

/-- What cannot be printed is missing, or it is a directory. -/
theorem contentLines_of_unread (unread : ¬ ∃ content, view.Reads argument content) :
    ∃ failure, contentLines view argument = .error failure ∧
      (view.lookup argument = .error failure ∨
        (∃ path node, view.lookup argument = .ok (path, node) ∧ node.isDirectory = true) ∧
          failure = .isADirectory argument) := by
  have looks := view.lookup_eq argument
  cases found : view.nodeAt argument with
  | error failure =>
    rw [found] at looks
    refine ⟨failure, ?_, .inl looks⟩
    simp only [contentLines, found, bind, Except.bind]
  | ok node =>
    rw [found] at looks
    cases node with
    | directory children hidden =>
      refine ⟨.isADirectory argument, ?_, .inr ⟨⟨_, _, looks, rfl⟩, rfl⟩⟩
      simp only [contentLines, found, bind, Except.bind, Node.content?]
    | file content hidden => exact absurd ⟨content, _, _, looks, rfl⟩ unread
    | executable entry content hidden => exact absurd ⟨content, _, _, looks, rfl⟩ unread

theorem print_eq {files : List String} (given : files ≠ []) (view : View) :
    print files view =
      (files.mapM (contentLines view)).map fun texts => .say texts.flatten := by
  cases files with
  | nil => exact absurd rfl given
  | cons file rest =>
    rw [print]
    cases (file :: rest).mapM (contentLines view) <;> rfl

theorem print_singleton (view : View) (file : String) :
    print [file] view = (contentLines view file).map .say := by
  rw [print_eq (List.cons_ne_nil file []), List.mapM_cons, List.mapM_nil]
  cases contentLines view file with
  | error failure => rfl
  | ok texts => simp [bind, Except.bind, pure, Except.pure, Except.map]

end Files

namespace Search

/-- Whether a pattern occurs in a printed line, both in lower case. -/
def matchesLine (pattern : String) (line : OutputLine) : Bool :=
  Text.contains (Text.lowercase line.text) (Text.lowercase pattern)

/-- A printed line with its position before it. -/
def numbered (entry : OutputLine × Nat) : OutputLine :=
  { entry.1 with text := toString entry.2 ++ ":" ++ entry.1.text }

/-- The matching lines are chosen from the lines of the file with their positions. -/
theorem matchingLines_eq (pattern content : String) :
    matchingLines pattern content =
      (((Text.lines content).zipIdx 1).filter fun entry =>
        Text.containsIgnoringCase entry.1 pattern).map Prod.swap := by
  rw [matchingLines]
  induction (Text.lines content).zipIdx 1 with
  | nil => rfl
  | cons entry rest ih =>
    obtain ⟨line, position⟩ := entry
    rw [List.filterMap_cons, List.filter_cons, ih]
    by_cases occurs : Text.containsIgnoringCase line pattern = true
    · simp only [occurs, if_true, List.map_cons, Prod.swap_prod_mk]
    · simp only [occurs, Bool.false_eq_true, if_false]

theorem map_snd_matchingLines (pattern content : String) :
    (matchingLines pattern content).map Prod.snd =
      (Text.lines content).filter (Text.containsIgnoringCase · pattern) := by
  have lines : ((Text.lines content).zipIdx 1).map Prod.fst = Text.lines content :=
    List.zipIdx_map_fst 1 _
  rw [matchingLines_eq, List.map_map, ← lines, List.filter_map, lines]
  simp only [Function.comp_def, Prod.snd_swap]

theorem matchesLine_system (pattern : String) :
    matchesLine pattern ∘ OutputLine.system = (Text.containsIgnoringCase · pattern) := by
  funext line
  rw [Function.comp_apply, matchesLine, OutputLine.system, Text.containsIgnoringCase]

/-- A search of a file with two operands, and `-n` anywhere among them or not at all, prints the
matching lines of the file. -/
theorem grep_of_operands {arguments : List String} {path content : String} {node : Node}
    (plain : Arguments.isOption pattern = false) (plainPath : Arguments.isOption path = false)
    (given : arguments.filter (· ≠ "-n") = [pattern, path])
    (found : view.nodeAt path = .ok node) (held : node.content? = some content) :
    grep arguments view =
      .ok (.say ((matchingLines pattern content).map (lineReport (arguments.contains "-n")))) := by
  have members : ∀ argument ∈ arguments, argument = "-n" ∨ Arguments.isOption argument = false := by
    intro argument member
    by_cases numbers : argument = "-n"
    · exact .inl numbers
    · have operand : argument ∈ arguments.filter (· ≠ "-n") :=
        List.mem_filter.mpr ⟨member, decide_eq_true numbers⟩
      simp only [given, List.mem_cons, List.not_mem_nil, or_false] at operand
      rcases operand with rfl | rfl
      · exact .inr plain
      · exact .inr plainPath
  have known : Arguments.unknownOption? ["-n"] arguments = none := by
    rw [Arguments.unknownOption?, List.find?_eq_none]
    intro argument member
    rcases members argument member with rfl | operand
    · decide
    · simp [operand]
  have operands : Arguments.operands arguments = [pattern, path] := by
    rw [← given]
    apply List.filter_congr
    intro argument member
    rcases members argument member with rfl | operand
    · decide
    · have other : argument ≠ "-n" := by
        rintro rfl
        exact absurd operand (by decide)
      simp [operand, other]
  have numbered : Arguments.gives ["-n"] arguments = arguments.contains "-n" := by
    rw [Arguments.gives, Bool.eq_iff_iff, List.any_eq_true, List.contains_iff_mem]
    simp
  rw [grep, known, operands]
  simp only [found, bind, Except.bind, held, numbered]
  rfl

theorem grep_of_read {path content : String} {node : Node}
    (plain : Arguments.isOption pattern = false) (plainPath : Arguments.isOption path = false)
    (found : view.nodeAt path = .ok node) (held : node.content? = some content) :
    grep [pattern, path] view =
      .ok (.say ((Text.lines content).filter (Text.containsIgnoringCase · pattern))) := by
  have other : ∀ argument, Arguments.isOption argument = false → argument ≠ "-n" := by
    rintro argument plain rfl
    exact absurd plain (by decide)
  have first := other pattern plain
  have second := other path plainPath
  have given : [pattern, path].filter (· ≠ "-n") = [pattern, path] := by
    simp [first, second]
  have unnumbered : [pattern, path].contains "-n" = false := by
    simp [first.symm, second.symm]
  rw [grep_of_operands plain plainPath given found held, unnumbered, ← map_snd_matchingLines]
  rfl

end Search

/-! ### Printing and searching together -/

namespace Files

open Search

/-- An argument names something that can be printed. -/
def Readable (view : View) (argument : String) : Prop :=
  ∃ content, view.Reads argument content

variable {files before : List String} {bad : String} {outcome : Outcome}

theorem run_cat_of_reads (reads : view.Reads argument content) :
    Builtin.cat.run [argument] view = .ok (.say (Text.lines content)) := by
  rw [Builtin.run, print_singleton, contentLines_of_reads reads]
  rfl

/-- What can be printed one by one is printed together. -/
theorem exists_run_cat (given : files ≠ []) (readable : ∀ file ∈ files, Readable view file) :
    ∃ batches : List Batch,
      files.map (fun file => Builtin.cat.run [file] view) =
        batches.map (fun batch => .ok { output := batch }) ∧
      Builtin.cat.run files view = .ok { output := batches.flatten } := by
  have each : ∀ file ∈ files, ∃ texts, contentLines view file = .ok texts := by
    intro file member
    obtain ⟨content, reads⟩ := readable file member
    exact ⟨_, contentLines_of_reads reads⟩
  obtain ⟨texts, made, pointwise⟩ := exists_mapM_eq_ok each
  refine ⟨texts.map fun lines => lines.map .system, ?_, ?_⟩
  · have alone : (fun file => Builtin.cat.run [file] view) =
        Except.map .say ∘ contentLines view := by
      funext file
      exact print_singleton view file
    rw [alone, ← List.map_map, pointwise, List.map_map, List.map_map]
    rfl
  · rw [Builtin.run, print_eq given, made, ← List.map_flatten]
    rfl

/-- The first that cannot be printed decides. -/
theorem exists_run_cat_eq_error (fine : ∀ file ∈ before, Readable view file)
    (unread : ¬ Readable view bad) (after : List String) :
    ∃ failure, Builtin.cat.run (before ++ bad :: after) view = .error failure ∧
      Builtin.cat.run [bad] view = .error failure ∧
      (view.lookup bad = .error failure ∨
        (∃ path node, view.lookup bad = .ok (path, node) ∧ node.isDirectory = true) ∧
          failure = .isADirectory bad) := by
  obtain ⟨failure, fails, why⟩ := contentLines_of_unread unread
  have each : ∀ file ∈ before, ∃ texts, contentLines view file = .ok texts := by
    intro file member
    obtain ⟨content, reads⟩ := fine file member
    exact ⟨_, contentLines_of_reads reads⟩
  refine ⟨failure, ?_, ?_, why⟩
  · rw [Builtin.run, print_eq (by simp), mapM_eq_error each fails]
    rfl
  · rw [Builtin.run, print_singleton, fails]
    rfl

theorem readable_of_run_cat (printed : Builtin.cat.run files view = .ok outcome) :
    ∀ file ∈ files, Readable view file := by
  classical
  intro file member
  refine Classical.byContradiction fun unread => ?_
  -- The first file that cannot be printed would have stopped the others.
  cases first : files.find? fun file => decide (¬ Readable view file) with
  | none => exact List.find?_eq_none.mp first file member (decide_eq_true unread)
  | some bad =>
    obtain ⟨isBad, before, after, rfl, fine⟩ := List.find?_eq_some_iff_append.mp first
    have earlier : ∀ other ∈ before, Readable view other := by
      intro other listed
      simpa using fine other listed
    obtain ⟨failure, fails, -⟩ :=
      exists_run_cat_eq_error earlier (of_decide_eq_true isBad) after
    rw [printed] at fails
    cases fails

/-- Files are printed if each of them can be read, and then as they are printed one by one. If there
is one that cannot be read, the first of them fails as it does alone. The lines of one file, with a
line feed between any two, are its content. A search of a file prints those of its lines that match,
and with `-n` among its arguments each behind its position among all lines. -/
theorem printing_loses_nothing (view : View) :
    (∀ files : List String, files ≠ [] →
      ((∃ outcome, Builtin.cat.run files view = .ok outcome) ↔
        ∀ file ∈ files, Readable view file) ∧
      ((∀ file ∈ files, Readable view file) →
        ∃ batches : List Batch,
          files.map (fun file => Builtin.cat.run [file] view) =
            batches.map (fun batch => .ok { output := batch }) ∧
          Builtin.cat.run files view = .ok { output := batches.flatten })) ∧
    (∀ before bad after, (∀ file ∈ before, Readable view file) → ¬ Readable view bad →
      ∃ failure, Builtin.cat.run (before ++ bad :: after) view = .error failure ∧
        Builtin.cat.run [bad] view = .error failure ∧
        (view.lookup bad = .error failure ∨
          (∃ path node, view.lookup bad = .ok (path, node) ∧ node.isDirectory = true) ∧
            failure = .isADirectory bad)) ∧
    (∀ file content, view.Reads file content →
      ∃ texts, Builtin.cat.run [file] view = .ok (.say texts) ∧
        Text.glue '\n' texts = content ∧ texts.length = content.toList.count '\n' + 1) ∧
    ∀ pattern file, Arguments.isOption pattern = false → Arguments.isOption file = false →
      Readable view file →
        ∃ printed : Batch, Builtin.cat.run [file] view = .ok { output := printed } ∧
          Builtin.grep.run [pattern, file] view =
            .ok { output := printed.filter (matchesLine pattern) } ∧
          ∀ arguments : List String, "-n" ∈ arguments →
            arguments.filter (· ≠ "-n") = [pattern, file] →
            Builtin.grep.run arguments view =
              .ok { output := ((printed.zipIdx 1).filter fun entry =>
                matchesLine pattern entry.1).map numbered } := by
  refine ⟨?_, ?_, ?_, ?_⟩
  · intro files given
    refine ⟨⟨?_, ?_⟩, exists_run_cat given⟩
    · rintro ⟨outcome, printed⟩
      exact readable_of_run_cat printed
    · intro readable
      obtain ⟨batches, -, printed⟩ := exists_run_cat given readable
      exact ⟨_, printed⟩
  · intro before bad after fine unread
    exact exists_run_cat_eq_error fine unread after
  · intro file content reads
    exact ⟨_, run_cat_of_reads reads, Text.glue_pieces content, Text.length_pieces content⟩
  · rintro pattern file plain plainFile ⟨content, reads⟩
    obtain ⟨node, found, held⟩ := reads.exists_node
    refine ⟨(Text.lines content).map .system, run_cat_of_reads reads, ?_, ?_⟩
    · rw [Builtin.run, grep_of_read plain plainFile found held, List.filter_map,
        matchesLine_system, Outcome.say]
    · intro arguments member given
      have asked : arguments.contains "-n" = true := List.contains_iff_mem.mpr member
      have chosen : (fun entry : OutputLine × Nat => matchesLine pattern entry.1) ∘
            Prod.map OutputLine.system id =
          fun entry => Text.containsIgnoringCase entry.1 pattern := by
        funext entry
        exact congrFun (matchesLine_system pattern) entry.1
      rw [Builtin.run, grep_of_operands plain plainFile given found held, asked, matchingLines_eq,
        List.zipIdx_map, List.filter_map, chosen, Outcome.say, List.map_map, List.map_map,
        List.map_map]
      rfl

/-- A larder with a list, a bell that is an executable, and a shelf. -/
def larder : View :=
  { state := { tree := { children := [("bell", .executable "ring" "rings for milk" false),
      ("list", .textFile "Milk\n\nmilk and eggs"), ("shelf", .directory [] false)] } }
    config := {}
    history := {} }

/-- The list and the bell are printed together, the shelf stops everything, and the blank line of
the list counts. -/
theorem printing_loses_nothing_in_larder :
    Readable larder "list" ∧ Readable larder "bell" ∧ ¬ Readable larder "shelf" ∧
      Builtin.cat.run ["list", "bell"] larder =
        .ok (.say ["Milk", "", "milk and eggs", "rings for milk"]) ∧
      Builtin.cat.run ["list", "shelf", "attic"] larder = .error (.isADirectory "shelf") ∧
      Builtin.grep.run ["MILK", "-n", "list"] larder =
        .ok (.say ["1:Milk", "3:milk and eggs"]) := by
  obtain ⟨together, stops, -, selects⟩ := printing_loses_nothing larder
  have list : larder.Reads "list" "Milk\n\nmilk and eggs" := ⟨_, _, rfl, rfl⟩
  have bell : larder.Reads "bell" "rings for milk" := ⟨_, _, rfl, rfl⟩
  have shelf : larder.lookup "shelf" = .ok ("~/shelf", .directory [] false) := rfl
  have unread : ¬ Readable larder "shelf" := by
    rintro ⟨content, path, node, looked, held⟩
    cases shelf.symm.trans looked
    cases held
  refine ⟨⟨_, list⟩, ⟨_, bell⟩, unread, ?_, ?_, ?_⟩
  · obtain ⟨batches, pointwise, printed⟩ :=
      (together ["list", "bell"] (by simp)).2 (by simp [Readable, Exists.intro _ list,
        Exists.intro _ bell])
    simp only [List.map_cons, List.map_nil, run_cat_of_reads list, run_cat_of_reads bell]
      at pointwise
    rcases batches with _ | ⟨first, _ | ⟨second, _ | ⟨third, rest⟩⟩⟩
    · cases pointwise
    · cases pointwise
    · obtain ⟨rfl, rfl⟩ := pointwise
      exact printed
    · cases pointwise
  · obtain ⟨failure, fails, -, why⟩ :=
      stops ["list"] "shelf" ["attic"] (by simp [Readable, Exists.intro _ list]) unread
    rcases why with missed | ⟨-, rfl⟩
    · cases shelf.symm.trans missed
    · exact fails
  · obtain ⟨printed, alone, -, numbers⟩ := selects "MILK" "list" (by decide) (by decide) ⟨_, list⟩
    obtain rfl := (Outcome.mk.inj (Except.ok.inj ((run_cat_of_reads list).symm.trans alone))).1
    exact numbers _ (by decide) (by decide)

end Files

end StoryShell
