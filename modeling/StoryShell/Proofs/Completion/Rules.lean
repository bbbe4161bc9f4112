/-
# Completion by rules

What completing a line does is written here as rules that do not say how the candidates
are found: a line is cut at its last blank character and the word after it at its last
slash, and it is left alone unless just one name is offered for what stands there. These
rules settle every line. A line that was completed is left alone the next time: its last
word ends in a name that is offered for itself, so that no other one can be the only one
that is. This needs names without blank characters and slashes, since otherwise the
completed line is cut elsewhere.
-/

import StoryShell.Proofs.CommandTable
import StoryShell.Proofs.Completion
import StoryShell.Proofs.Text.Lowercase
import StoryShell.Proofs.Tree.Unmounting

namespace StoryShell

open StoryShell.Text

/-- A line is what ends in its last blank character, and the word after it. -/
structure Words.IsCut (line head word : String) : Prop where
  whole : line = head ++ word
  unbroken : word.toList.any isBlank = false
  ends : head = "" ∨ ∃ before c, head = before ++ String.singleton c ∧ isBlank c = true

/-- A word is a directory as it is written, and the beginning of a name in it. -/
structure Path.IsCut (word directory start : String) : Prop where
  whole : word = directory ++ start
  directoryPart : Path.IsDirectoryPart directory
  unbroken : '/' ∉ start.toList

variable {line head word directory start name : String}

theorem Words.IsCut.cutLast_eq (cut : Words.IsCut line head word) :
    Words.cutLast line.toList = (head.toList, word.toList) := by
  obtain ⟨rfl, unbroken, ends⟩ := cut
  rw [String.toList_append]
  apply cut_append isBlank
  · intro c member
    exact Bool.eq_false_iff.mpr (List.any_eq_false.mp unbroken c member)
  · rcases ends with rfl | ⟨before, c, rfl, blank⟩
    · exact .inl rfl
    · exact .inr ⟨before.toList, c, by simp, blank⟩

theorem Words.exists_isCut (line : String) : ∃ head word, Words.IsCut line head word := by
  obtain ⟨whole, unbroken, ends⟩ := Words.cutLast_whole line.toList
  refine ⟨String.ofList (Words.cutLast line.toList).1, String.ofList (Words.cutLast line.toList).2,
    ?_, ?_, ?_⟩
  · rw [← String.ofList_append, ← whole, String.ofList_toList]
  · rw [String.toList_ofList, List.any_eq_false]
    intro c member
    exact Bool.eq_false_iff.mp (unbroken c member)
  · rcases ends with empty | ⟨before, c, cut, blank⟩
    · exact .inl (congrArg String.ofList empty)
    · refine .inr ⟨String.ofList before, c, ?_, blank⟩
      rw [cut, String.ofList_append]
      rfl

theorem Path.IsCut.cutLast_eq (cut : Path.IsCut word directory start) :
    Path.cutLast word.toList = (directory.toList, start.toList) := by
  obtain ⟨rfl, part, unbroken⟩ := cut
  rw [String.toList_append]
  apply cut_append (· == '/')
  · intro c member
    exact beq_false_of_ne fun slash => unbroken (slash ▸ member)
  · rcases part with rfl | ⟨path, rfl⟩
    · exact .inl rfl
    · exact .inr ⟨path.toList, '/', by simp, rfl⟩

/-- What is appended to a line belongs to the name that its last word ends in. -/
theorem Words.IsCut.append_entry (cut : Words.IsCut line head word)
    (inside : Path.IsCut word directory start) (added : String) :
    line ++ added = head ++ (directory ++ (start ++ added)) := by
  rw [cut.whole, inside.whole, String.append_assoc, String.append_assoc]

theorem Path.exists_isCut (word : String) : ∃ directory start, Path.IsCut word directory start := by
  obtain ⟨whole, part⟩ := Path.cutLast_whole word.toList
  have unbroken := (cut_after_last (· == '/') word.toList).2.1
  refine ⟨_, String.ofList (Path.cutLast word.toList).2, ?_, part, ?_⟩
  · rw [← String.ofList_append, whole, String.ofList_toList]
  · rw [String.toList_ofList]
    intro member
    exact absurd (unbroken '/' member) (by decide)

namespace CommandTable

variable {registrations : List Registration}

/-- The names that the first word is completed to are in lower case. -/
theorem asciiLower_of_mem_completions
    (member : name ∈ (ofRegistrations registrations).completions word) :
    asciiLower name = name := by
  obtain ⟨-, rfl | ⟨command, -, rfl⟩⟩ := mem_completions.mp member
  · decide
  · exact asciiLower_asciiLower command.name

theorem unbroken_of_mem_completions
    (clean : ∀ command ∈ Registration.commands registrations,
      command.name.toList.any isBlank = false)
    (member : name ∈ (ofRegistrations registrations).completions word) :
    name.toList.any isBlank = false := by
  obtain ⟨-, rfl | ⟨command, registered, rfl⟩⟩ := mem_completions.mp member
  · decide
  · exact any_isBlank_asciiLower (clean command registered)

/-- The only command that a word begins is the only one that its name begins, if any is. -/
theorem eq_of_completions_eq {other : String}
    (only : (ofRegistrations registrations).completions word = [name])
    (again : (ofRegistrations registrations).completions name = [other]) :
    other = name := by
  have member : name ∈ (ofRegistrations registrations).completions word :=
    only ▸ List.mem_singleton_self name
  have memberAgain : other ∈ (ofRegistrations registrations).completions name :=
    again ▸ List.mem_singleton_self other
  have small := asciiLower_of_mem_completions member
  rw [mem_completions] at member memberAgain
  rw [small] at memberAgain
  have also : other ∈ (ofRegistrations registrations).completions word :=
    mem_completions.mpr ⟨startsWith_trans memberAgain.1 member.1, memberAgain.2⟩
  rw [only] at also
  exact List.mem_singleton.mp also

end CommandTable

namespace Terminal

variable {terminal : Terminal} {registrations : List Registration} {result only : String}

/-- An entry of a directory is offered for the beginning of its name; a hidden one only for a
beginning with a dot. -/
def Offers (terminal : Terminal) (directory start name : String) : Prop :=
  ∃ children node, terminal.view.tree.list (terminal.view.resolve directory) = .ok children ∧
    (name, node) ∈ children ∧ startsWith name start = true ∧
    (node.isHidden = true → startsWith start "." = true)

/-- Just one entry is offered. -/
def OffersOnly (terminal : Terminal) (directory start name : String) : Prop :=
  terminal.Offers directory start name ∧
    ∀ other, terminal.Offers directory start other → other = name

/-- What a line is completed to. The first word becomes the only command that it begins in any case
of letters. A later word is prolonged to the name of the only entry that is offered in the directory
that it points into. Otherwise the line stays. -/
inductive CompletesTo (terminal : Terminal) (line : String) : String → Prop
  | pending (asked : terminal.isAwaiting = true) : CompletesTo terminal line line
  | command {head word name : String} (idle : terminal.isAwaiting = false)
      (cut : Words.IsCut line head word) (first : allBlank head = true)
      (only : terminal.table.completions word = [name])
      (begins : startsWith name (asciiLower word) = true) :
      CompletesTo terminal line (head ++ name)
  | noCommand {head word : String} (idle : terminal.isAwaiting = false)
      (cut : Words.IsCut line head word) (first : allBlank head = true)
      (none : ∀ name, terminal.table.completions word ≠ [name]) : CompletesTo terminal line line
  | entry {head word directory start added : String} (idle : terminal.isAwaiting = false)
      (cut : Words.IsCut line head word) (later : allBlank head = false)
      (inside : Path.IsCut word directory start)
      (only : terminal.OffersOnly directory start (start ++ added)) :
      CompletesTo terminal line (line ++ added)
  | noEntry {head word directory start : String} (idle : terminal.isAwaiting = false)
      (cut : Words.IsCut line head word) (later : allBlank head = false)
      (inside : Path.IsCut word directory start)
      (none : ∀ name, ¬ terminal.OffersOnly directory start name) : CompletesTo terminal line line

/-! ### What is offered -/

theorem mem_pathCandidates_iff (inside : Path.IsCut word directory start) :
    only ∈ terminal.pathCandidates word ↔
      ∃ name, terminal.Offers directory start name ∧ only = directory ++ name := by
  rw [mem_pathCandidates inside.cutLast_eq, String.ofList_toList, String.ofList_toList]
  constructor
  · rintro ⟨children, listed, ⟨name, node⟩, member, fitting, rfl⟩
    simp only [fits, Bool.and_eq_true, Bool.or_eq_true, Bool.not_eq_true'] at fitting
    refine ⟨name, ⟨children, node, listed, member, fitting.1, fun hidden => ?_⟩, rfl⟩
    exact fitting.2.resolve_right (by simp [hidden])
  · rintro ⟨name, ⟨children, node, listed, member, begins, shown⟩, rfl⟩
    refine ⟨children, listed, (name, node), member, ?_, rfl⟩
    simp only [fits, Bool.and_eq_true, Bool.or_eq_true, Bool.not_eq_true']
    exact ⟨begins, by cases hidden : node.isHidden <;> simp [hidden, shown]⟩

theorem nodup_pathCandidates (ordered : terminal.view.tree.Ordered) (word : String) :
    (terminal.pathCandidates word).Nodup := by
  rcases cut : Path.cutLast word.toList with ⟨typed, start⟩
  have sees : terminal.state.tree = terminal.view.tree := rfl
  delta pathCandidates
  simp only [cut, sees]
  cases listed : terminal.view.tree.list (terminal.view.resolve (String.ofList typed)) with
  | error failure => exact List.nodup_nil
  | ok children =>
    have names : ((children.filter (fits (String.ofList start))).map Prod.fst).Nodup :=
      (ordered.list listed).nodup_names.sublist (List.filter_sublist.map _)
    have longer : ((children.filter (fits (String.ofList start))).map
        fun entry => String.ofList typed ++ entry.1).Nodup := by
      rw [← Function.comp_def (String.ofList typed ++ ·) Prod.fst, ← List.map_map]
      exact names.map fun _ _ => (String.append_right_inj _).mp
    exact longer

/-- There is just one candidate if just one entry is offered. -/
theorem pathCandidates_eq_singleton_iff (ordered : terminal.view.tree.Ordered)
    (inside : Path.IsCut word directory start) :
    terminal.pathCandidates word = [only] ↔
      ∃ name, terminal.OffersOnly directory start name ∧ only = directory ++ name := by
  rw [← List.perm_singleton,
    List.perm_ext_iff_of_nodup (nodup_pathCandidates ordered word) (List.nodup_singleton only)]
  simp only [mem_pathCandidates_iff inside, List.mem_singleton]
  constructor
  · intro same
    obtain ⟨name, offered, rfl⟩ := (same only).mpr rfl
    refine ⟨name, ⟨offered, fun other also => ?_⟩, rfl⟩
    exact String.append_right_inj _ |>.mp ((same _).mp ⟨other, also, rfl⟩)
  · rintro ⟨name, ⟨offered, unique⟩, rfl⟩ candidate
    constructor
    · rintro ⟨other, also, rfl⟩
      rw [unique other also]
    · rintro rfl
      exact ⟨name, offered, rfl⟩

/-! ### The rules settle every line -/

theorem complete_of_candidates (idle : terminal.isAwaiting = false)
    (cut : Words.IsCut line head word) (one : terminal.candidates head word = [only]) :
    terminal.complete line = head ++ only := by
  rw [complete, idle, cut.cutLast_eq]
  simp only [String.ofList_toList, one]
  rfl

theorem complete_of_no_candidate (idle : terminal.isAwaiting = false)
    (cut : Words.IsCut line head word) (none : ∀ only, terminal.candidates head word ≠ [only]) :
    terminal.complete line = line := by
  rw [complete, idle, cut.cutLast_eq]
  -- The one case that changes the line is the one that `none` rules out.
  simp only [String.ofList_toList, ite_self]

theorem candidates_first (first : allBlank head = true) (word : String) :
    terminal.candidates head word = terminal.table.completions word :=
  if_pos first

theorem candidates_later (later : allBlank head = false) (word : String) :
    terminal.candidates head word = terminal.pathCandidates word := by
  rw [candidates, later]
  exact if_neg Bool.false_ne_true

/-- Each rule says what completing does. -/
theorem CompletesTo.complete_eq (ordered : terminal.view.tree.Ordered)
    (rule : terminal.CompletesTo line result) : terminal.complete line = result := by
  cases rule with
  | pending asked => rw [complete, if_pos asked]
  | command idle cut first only begins =>
    exact complete_of_candidates idle cut ((candidates_first first _).trans only)
  | noCommand idle cut first none =>
    exact complete_of_no_candidate idle cut fun only => candidates_first first _ ▸ none only
  | entry idle cut later inside only =>
    rw [cut.append_entry inside]
    apply complete_of_candidates idle cut
    rw [candidates_later later, pathCandidates_eq_singleton_iff ordered inside]
    exact ⟨_, only, rfl⟩
  | noEntry idle cut later inside none =>
    apply complete_of_no_candidate idle cut
    intro only one
    rw [candidates_later later, pathCandidates_eq_singleton_iff ordered inside] at one
    obtain ⟨name, offered, -⟩ := one
    exact none name offered

/-- Some rule applies to each line. -/
theorem exists_completesTo (terminal : Terminal) (line : String) :
    ∃ result, terminal.CompletesTo line result := by
  cases asked : terminal.isAwaiting with
  | true => exact ⟨line, .pending asked⟩
  | false =>
    obtain ⟨head, word, cut⟩ := Words.exists_isCut line
    cases first : allBlank head with
    | true =>
      by_cases one : ∃ name, terminal.table.completions word = [name]
      · obtain ⟨name, only⟩ := one
        have member : name ∈ terminal.table.completions word := only ▸ List.mem_singleton_self name
        rw [CommandTable.completions, List.mem_mergeSort, List.mem_filter] at member
        exact ⟨_, .command asked cut first only member.2⟩
      · exact ⟨line, .noCommand asked cut first (not_exists.mp one)⟩
    | false =>
      obtain ⟨directory, start, inside⟩ := Path.exists_isCut word
      by_cases one : ∃ name, terminal.OffersOnly directory start name
      · obtain ⟨name, only⟩ := one
        obtain ⟨-, -, -, -, begins, -⟩ := only.1
        obtain ⟨added, rfl⟩ := startsWith_iff.mp begins
        exact ⟨_, .entry asked cut first inside only⟩
      · exact ⟨line, .noEntry asked cut first inside (not_exists.mp one)⟩

/-! ### A completed line is left alone -/

/-- A line whose last word is the only candidate for itself, if there is one, is left alone. -/
theorem complete_of_own_candidate (idle : terminal.isAwaiting = false)
    (cut : Words.IsCut line head word)
    (own : ∀ only, terminal.candidates head word = [only] → only = word) :
    terminal.complete line = line := by
  by_cases one : ∃ only, terminal.candidates head word = [only]
  · obtain ⟨only, one⟩ := one
    rw [complete_of_candidates idle cut one, own only one, ← cut.whole]
  · exact complete_of_no_candidate idle cut (not_exists.mp one)

/-- What is offered for the beginning of a name is offered for its whole name. -/
theorem Offers.self (offered : terminal.Offers directory start name) :
    terminal.Offers directory name name := by
  obtain ⟨children, node, listed, member, begins, shown⟩ := offered
  exact ⟨children, node, listed, member, startsWith_self name,
    fun hidden => startsWith_trans begins (shown hidden)⟩

theorem Offers.fits {suits : String → Prop} (named : terminal.view.tree.root.Named suits)
    (offered : terminal.Offers directory start name) : suits name := by
  obtain ⟨children, node, listed, member, -, -⟩ := offered
  exact Tree.fits_of_list named listed (List.mem_map_of_mem member)

/-- What a line is completed to is completed to itself, if no name is cut by a line or a path. -/
theorem CompletesTo.settled (ordered : terminal.view.tree.Ordered)
    (registered : terminal.table = CommandTable.ofRegistrations registrations)
    (named : terminal.view.tree.root.Named fun name =>
      '/' ∉ name.toList ∧ name.toList.any isBlank = false)
    (clean : ∀ command ∈ Registration.commands registrations,
      command.name.toList.any isBlank = false)
    (rule : terminal.CompletesTo line result) : terminal.complete result = result := by
  cases rule with
  | pending asked => exact (CompletesTo.pending asked).complete_eq ordered
  | @command head word name idle cut first only begins =>
    rw [registered] at only
    have member : name ∈ (CommandTable.ofRegistrations registrations).completions word :=
      only ▸ List.mem_singleton_self name
    have again : Words.IsCut (head ++ name) head name :=
      ⟨rfl, CommandTable.unbroken_of_mem_completions clean member, cut.ends⟩
    apply complete_of_own_candidate idle again
    intro other one
    rw [candidates_first first, registered] at one
    exact CommandTable.eq_of_completions_eq only one
  | noCommand idle cut first none =>
    exact (CompletesTo.noCommand idle cut first none).complete_eq ordered
  | @entry head word directory start added idle cut later inside only =>
    obtain ⟨apart, clear⟩ := only.1.fits named
    have unbroken : (directory ++ (start ++ added)).toList.any isBlank = false := by
      have typed := cut.unbroken
      rw [inside.whole, String.toList_append, List.any_append, Bool.or_eq_false_iff] at typed
      rw [String.toList_append, List.any_append, typed.1, clear, Bool.or_false]
    have again : Words.IsCut (head ++ (directory ++ (start ++ added))) head
        (directory ++ (start ++ added)) := ⟨rfl, unbroken, cut.ends⟩
    have insideAgain : Path.IsCut (directory ++ (start ++ added)) directory (start ++ added) :=
      ⟨rfl, inside.directoryPart, apart⟩
    rw [cut.append_entry inside]
    apply complete_of_own_candidate idle again
    intro other one
    rw [candidates_later later, pathCandidates_eq_singleton_iff ordered insideAgain] at one
    obtain ⟨name, ⟨-, unique⟩, rfl⟩ := one
    rw [unique _ only.1.self]
  | noEntry idle cut later inside none =>
    exact (CompletesTo.noEntry idle cut later inside none).complete_eq ordered

/-- The rules say for every line what completing it leads to. If the names of the tree hold no blank
characters and no slashes, and those of the commands no blank characters, completing a line again
changes nothing. -/
theorem completion_follows_rules (terminal : Terminal) (registrations : List Registration)
    (registered : terminal.table = CommandTable.ofRegistrations registrations)
    (ordered : terminal.view.tree.Ordered) :
    (∀ line result, terminal.complete line = result ↔ terminal.CompletesTo line result) ∧
      ((terminal.view.tree.root.Named fun name =>
          '/' ∉ name.toList ∧ name.toList.any isBlank = false) →
        (∀ command ∈ Registration.commands registrations,
          command.name.toList.any isBlank = false) →
        ∀ line, terminal.complete (terminal.complete line) = terminal.complete line) := by
  have follows : ∀ line, terminal.CompletesTo line (terminal.complete line) := by
    intro line
    obtain ⟨result, rule⟩ := exists_completesTo terminal line
    rwa [rule.complete_eq ordered]
  refine ⟨fun line result => ⟨?_, fun rule => rule.complete_eq ordered⟩, ?_⟩
  · rintro rfl
    exact follows line
  · intro named clean line
    exact (follows line).settled ordered registered named clean

/-- A terminal at a bench with a drawer, in which a knife is hidden. -/
def bench : Terminal :=
  onTree {} { children := [("drawer", .directory [(".knife", .file "sharp" true),
    ("pencil", .textFile "grey")] false)] } (.ofRegistrations CommandTable.lanterns)

/-- The lantern is completed in small letters, and the knife once its dot is typed; both stay. -/
theorem completion_follows_rules_at_bench :
    bench.complete " LAN" = " lantern" ∧ bench.complete " lantern" = " lantern" ∧
      bench.complete "cat ./drawer/." = "cat ./drawer/.knife" ∧
      bench.complete "cat ./drawer/.knife" = "cat ./drawer/.knife" := by
  have ordered : bench.view.tree.Ordered := by
    simp only [bench, onTree, view, View.tree, Tree.Ordered, Tree.root, Node.textFile,
      Node.Ordered, Node.OrderedChildren, NameMap.Ordered]
    decide
  have named : bench.view.tree.root.Named fun name =>
      '/' ∉ name.toList ∧ name.toList.any isBlank = false := by
    simp only [bench, onTree, view, View.tree, Tree.root, Node.textFile, Node.Named,
      Node.NamedChildren]
    decide
  obtain ⟨rules, again⟩ := completion_follows_rules bench CommandTable.lanterns rfl ordered
  have settled := again named (by decide)
  have cut : Words.IsCut " LAN" " " "LAN" :=
    ⟨by decide, by decide, .inr ⟨"", ' ', by decide, by decide⟩⟩
  have only : bench.table.completions "LAN" = ["lantern"] := by decide +kernel
  have lantern : bench.complete " LAN" = " lantern" :=
    (rules " LAN" (" " ++ "lantern")).mpr (.command rfl cut (by decide) only (by decide))
  have knife : bench.complete "cat ./drawer/." = "cat ./drawer/.knife" := by decide +kernel
  exact ⟨lantern, lantern ▸ settled " LAN", knife, knife ▸ settled "cat ./drawer/."⟩

end Terminal

end StoryShell
