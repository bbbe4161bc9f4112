/-
# A completed word is the entry that it names

Completing appends to a line. The line is cut at its last blank character, the word
after it at its last slash, and what comes back is the word with the rest of the name
of an entry. The path that stands there then leads to the entry, whatever was typed
before the name. The words of a line are cut by other rules, in which quotes and
backslashes count, so the path is the last word of the line only where what is
appended has none of these and no blank character.
-/

import Mathlib.Data.List.DropRight
import StoryShell.Completion
import StoryShell.Proofs.Path.Resolving
import StoryShell.Proofs.Tree.Descendants
import StoryShell.Proofs.Words

namespace StoryShell

/-! ### Cutting after the last of a kind -/

/-- A list is cut after the last element of a kind: none comes later, and one stands before the cut
unless there is none at all. -/
theorem cut_after_last {α : Type _} (ends : α → Bool) (list : List α) :
    let back := (list.reverse.takeWhile fun c => !ends c).reverse
    let front := list.take (list.length - back.length)
    list = front ++ back ∧ (∀ c ∈ back, ends c = false) ∧
      (front = [] ∨ ∃ before c, front = before ++ [c] ∧ ends c = true) := by
  intro back front
  have whole : list.rdropWhile (fun c => !ends c) ++ back = list :=
    List.rdropWhile_append_rtakeWhile
  have first : front = list.rdropWhile fun c => !ends c := by
    have cut : ∀ start rest all : List α, start ++ rest = all →
        all.take (all.length - rest.length) = start := by
      rintro start rest all rfl
      simp
    exact cut _ back list whole
  refine ⟨first ▸ whole.symm, ?_, ?_⟩
  · intro c member
    simpa using List.mem_rtakeWhile_imp member
  · rw [first]
    by_cases empty : list.rdropWhile (fun c => !ends c) = []
    · exact .inl empty
    · refine .inr ⟨_, _, (List.dropLast_append_getLast empty).symm, ?_⟩
      simpa using List.rdropWhile_last_not _ list empty

/-- There is only one such cut. -/
theorem cut_append {α : Type _} (ends : α → Bool) {front back : List α}
    (clean : ∀ c ∈ back, ends c = false)
    (stops : front = [] ∨ ∃ before c, front = before ++ [c] ∧ ends c = true) :
    let last := ((front ++ back).reverse.takeWhile fun c => !ends c).reverse
    ((front ++ back).take ((front ++ back).length - last.length), last) = (front, back) := by
  have stopped : front.reverse.takeWhile (fun c => !ends c) = [] := by
    rcases stops with rfl | ⟨before, c, rfl, ending⟩
    · rfl
    · rw [List.reverse_concat, List.takeWhile_cons, ending]
      rfl
  have passed : ∀ c ∈ back.reverse, (!ends c) = true := by
    intro c member
    rw [clean c (List.mem_reverse.mp member)]
    rfl
  have last : ((front ++ back).reverse.takeWhile fun c => !ends c).reverse = back := by
    rw [List.reverse_append, List.takeWhile_append_of_pos passed, stopped, List.append_nil,
      List.reverse_reverse]
  simp only [last, List.length_append, Nat.add_sub_cancel, List.take_left']

namespace Words

variable {line front rest : List Char} {c : Char}

theorem cutLast_whole (line : List Char) :
    line = (cutLast line).1 ++ (cutLast line).2 ∧
      (∀ c ∈ (cutLast line).2, Text.isBlank c = false) ∧
      ((cutLast line).1 = [] ∨
        ∃ before c, (cutLast line).1 = before ++ [c] ∧ Text.isBlank c = true) :=
  cut_after_last Text.isBlank line

/-- A line with an earlier word is cut after a blank character that some word stands before. -/
theorem exists_cutLast (earlier : line = front ++ c :: rest) (blank : Text.isBlank c = true)
    (worded : front.all Text.isBlank = false) :
    ∃ before separator last, line = before ++ separator :: last ∧
      Text.isBlank separator = true ∧ before.all Text.isBlank = false ∧
      (∀ c ∈ last, Text.isBlank c = false) ∧ cutLast line = (before ++ [separator], last) := by
  obtain ⟨whole, clean, ends⟩ := cutLast_whole line
  have cuts : c ∉ (cutLast line).2 := by
    intro member
    exact Bool.false_ne_true ((clean c member).symm.trans blank)
  -- The blank character comes before the cut, and so does the word that it ends.
  obtain ⟨more, head, tail⟩ : ∃ more, (cutLast line).1 = front ++ more ∧
      c :: rest = more ++ (cutLast line).2 := by
    rcases List.append_eq_append_iff.mp (whole.symm.trans earlier) with
      ⟨more, -, back⟩ | ⟨more, head, tail⟩
    · exact absurd (back ▸ List.mem_append_right more List.mem_cons_self) cuts
    · exact ⟨more, head, tail⟩
  have full : more ≠ [] := by
    rintro rfl
    rw [List.nil_append] at tail
    exact cuts (tail ▸ List.mem_cons_self)
  rcases ends with empty | ⟨before, separator, cut, blankEnd⟩
  · rw [head, List.append_eq_nil_iff] at empty
    exact absurd empty.2 full
  · have same : before = front ++ more.dropLast := by
      rw [head, ← List.dropLast_append_getLast full, ← List.append_assoc] at cut
      exact (List.append_inj' cut rfl).1.symm
    refine ⟨before, separator, (cutLast line).2, ?_, blankEnd, ?_, clean, Prod.ext cut rfl⟩
    · rw [List.append_cons, ← cut]
      exact whole
    · rw [same, List.all_append, worded, Bool.false_and]

/-- Nothing comes after the last blank character exactly when the line ends in one. -/
theorem last_eq_nil_iff {before last : List Char} (blank : Text.isBlank c = true)
    (clean : ∀ c ∈ last, Text.isBlank c = false) :
    last = [] ↔ ∃ others final, before ++ c :: last = others ++ [final] ∧
      Text.isBlank final = true := by
  constructor
  · rintro rfl
    exact ⟨before, c, rfl, blank⟩
  · rintro ⟨others, final, same, blankEnd⟩
    by_contra full
    rw [← List.dropLast_append_getLast full, ← List.cons_append, ← List.append_assoc] at same
    have ends : last.getLast full = final := List.singleton_inj.mp (List.append_inj' same rfl).2
    have unblank := clean _ (List.getLast_mem full)
    rw [ends, blankEnd] at unblank
    cases unblank

end Words

namespace Path

open StoryShell.Text

/-- A directory as it is written before the name of an entry: nothing, or a path and a slash. -/
def IsDirectoryPart (directory : String) : Prop :=
  directory = "" ∨ ∃ path, directory = path ++ "/"

/-- A path is cut after a directory as it is written before the name of an entry. -/
theorem cutLast_whole (path : List Char) :
    (cutLast path).1 ++ (cutLast path).2 = path ∧
      IsDirectoryPart (String.ofList (cutLast path).1) := by
  obtain ⟨whole, -, ends⟩ := cut_after_last (· == '/') path
  refine ⟨whole.symm, ?_⟩
  rcases ends with empty | ⟨before, c, cut, slash⟩
  · exact .inl (congrArg String.ofList empty)
  · refine .inr ⟨String.ofList before, ?_⟩
    rw [beq_iff_eq] at slash
    calc String.ofList (cutLast path).1
      _ = String.ofList (before ++ [c]) := congrArg String.ofList cut
      _ = String.ofList before ++ "/" := by rw [slash, String.ofList_append]

variable {directory name : String}

/-- Two paths that differ in their last pieces only are walked together until then. -/
theorem follow_append (names : List String) {path other last final : String} {front : List String}
    (full : front ≠ []) (cut : pieces '/' path = front ++ [last])
    (cutOther : pieces '/' other = front ++ [final]) :
    ∃ here, follow names path = step here last ∧ follow names other = step here final := by
  cases front with
  | nil => exact absurd rfl full
  | cons first more =>
    rw [List.cons_append] at cut cutOther
    by_cases rooted : first = root ∨ first = ""
    · refine ⟨walk [] more, ?_, ?_⟩
      · simp [follow, cut, rooted, walk]
      · simp [follow, cutOther, rooted, walk]
    · refine ⟨walk names (first :: more), ?_, ?_⟩
      · simp [follow, cut, rooted, walk]
      · simp [follow, cutOther, rooted, walk]

/-- The name of an entry, typed after a directory, leads from there to the entry. -/
theorem follow_entry (names : List String) (part : IsDirectoryPart directory)
    (typable : isEntryName name = true) :
    follow names (directory ++ name) = follow names directory ++ [name] := by
  obtain ⟨proper, notRoot⟩ := isEntryName_iff.mp typable
  have whole : pieces '/' name = [name] := by
    have cut : pieces '/' (glue '/' [name]) = [name] := by
      apply pieces_glue (List.cons_ne_nil name [])
      simpa using proper.1.2
    rwa [glue_singleton] at cut
  rcases part with rfl | ⟨path, rfl⟩
  · have first : ¬ (name = root ∨ (name = "" ∧ ([] : List String) ≠ [])) := by
      simp [notRoot]
    have named : follow names name = walk names [name] := by
      rw [follow, whole]
      exact if_neg first
    rw [String.empty_append, named]
    exact step_proper proper names
  · have cut : pieces '/' (path ++ "/" ++ "") = pieces '/' path ++ [""] :=
      pieces_append_separator path ""
    have cutName : pieces '/' (path ++ "/" ++ name) = pieces '/' path ++ [name] := by
      rw [← whole]
      exact pieces_append_separator path name
    obtain ⟨here, ends, endsName⟩ := follow_append names (pieces_ne_nil path) cut cutName
    rw [String.append_empty] at ends
    have stays : step here "" = here := if_pos (.inl rfl)
    rw [ends, endsName, stays, step_proper proper]

end Path

/-- The name of an entry, typed after the path of its directory, is looked up. -/
theorem View.lookup_entry {view : View} {directory name : String} {node : Node}
    {children : Children} (named : view.tree.root.Named fun name => Path.isEntryName name = true)
    (part : Path.IsDirectoryPart directory)
    (listed : view.tree.list (view.resolve directory) = .ok children)
    (member : (name, node) ∈ children) :
    ∃ found, view.lookup (directory ++ name) = .ok (view.resolve (directory ++ name), found) := by
  let names := Path.follow (Path.namesOf view.session.cwd) directory
  have segments : ∀ name ∈ names, Path.IsSegment name :=
    Path.segments_follow (fun _ => Path.isSegment_of_mem_namesOf) directory
  obtain ⟨hidden, here⟩ := Tree.find_of_list listed
  have reached : view.tree.root.descend names = .ok (.directory children hidden) :=
    (Tree.find_render segments view.tree).symm.trans here
  obtain ⟨child, below⟩ := Node.exists_descend_entry reached (List.mem_map_of_mem member)
  have typable : Path.isEntryName name = true := by
    apply named.forall_of_descend below
    simp
  have resolved : view.resolve (directory ++ name) = Path.render (names ++ [name]) :=
    congrArg Path.render (Path.follow_entry _ part typable)
  have found : view.tree.find (view.resolve (directory ++ name)) = .ok child := by
    rw [resolved, Tree.find_render, below]
    intro other member
    exact (Path.isEntryName_iff.mp (named.forall_of_descend below other member)).1.1
  refine ⟨child, ?_⟩
  rw [lookup, nodeAt, found]
  rfl

namespace Terminal

open StoryShell.Text

variable {terminal : Terminal} {line word only : String}

/-- A word may be completed to what is typed of a directory, followed by the name of an entry of it
that fits the rest of the word. -/
theorem mem_pathCandidates {typed start : List Char}
    (cut : Path.cutLast word.toList = (typed, start)) :
    only ∈ terminal.pathCandidates word ↔
      ∃ children, terminal.view.tree.list (terminal.view.resolve (String.ofList typed)) =
          .ok children ∧
        ∃ entry ∈ children, fits (String.ofList start) entry = true ∧
          only = String.ofList typed ++ entry.1 := by
  have sees : terminal.state.tree = terminal.view.tree := rfl
  delta pathCandidates
  simp only [cut, sees]
  cases terminal.view.tree.list (terminal.view.resolve (String.ofList typed)) with
  | error failure => simp
  | ok children =>
    simp only [List.mem_map, List.mem_filter, Except.ok.injEq, exists_eq_left', and_assoc,
      eq_comm (a := only)]

/-- What a word may be completed to starts with the word and is the path of an entry. -/
theorem lookup_of_mem_pathCandidates
    (named : terminal.view.tree.root.Named fun name => Path.isEntryName name = true)
    (candidate : only ∈ terminal.pathCandidates word) :
    ∃ added, only = word ++ added ∧
      ∃ node, terminal.view.lookup only = .ok (terminal.view.resolve only, node) := by
  obtain ⟨whole, part⟩ := Path.cutLast_whole word.toList
  rcases cut : Path.cutLast word.toList with ⟨typed, start⟩
  rw [cut] at whole part
  obtain ⟨children, listed, ⟨name, node⟩, member, fitting, rfl⟩ :=
    (mem_pathCandidates cut).mp candidate
  rw [fits, Bool.and_eq_true, startsWith_iff] at fitting
  obtain ⟨⟨added, longer⟩, -⟩ := fitting
  refine ⟨added, ?_, View.lookup_entry named part listed member⟩
  calc String.ofList typed ++ name
    _ = String.ofList typed ++ (String.ofList start ++ added) := congrArg _ longer
    _ = String.ofList (typed ++ start) ++ added := by rw [String.ofList_append, String.append_assoc]
    _ = word ++ added := by rw [whole, String.ofList_toList]

/-- After an earlier word, completing a line leaves it or appends what makes the path at its end
that of an entry. -/
theorem exists_complete_eq {head last : List Char} (idle : terminal.pending = none)
    (named : terminal.view.tree.root.Named fun name => Path.isEntryName name = true)
    (cut : Words.cutLast line.toList = (head, last)) (whole : line.toList = head ++ last)
    (worded : head.all isBlank = false) :
    ∃ added, terminal.complete line = line ++ added ∧
      (added ≠ "" → ∃ node, terminal.view.lookup (String.ofList last ++ added) =
        .ok (terminal.view.resolve (String.ofList last ++ added), node)) := by
  have typed : String.ofList head ++ String.ofList last = line := by
    rw [← String.ofList_append, ← whole, String.ofList_toList]
  have later : terminal.candidates (String.ofList head) (String.ofList last) =
      terminal.pathCandidates (String.ofList last) := by
    rw [candidates, allBlank, String.toList_ofList, worded]
    exact if_neg Bool.false_ne_true
  have answers : terminal.isAwaiting = false := by
    rw [isAwaiting, idle]
    rfl
  rw [complete, answers, cut, if_neg Bool.false_ne_true]
  simp only [later]
  split
  · rename_i only found
    have candidate : only ∈ terminal.pathCandidates (String.ofList last) :=
      found ▸ List.mem_singleton_self only
    obtain ⟨added, rfl, looked⟩ := lookup_of_mem_pathCandidates named candidate
    exact ⟨added, by rw [← String.append_assoc, typed], fun _ => looked⟩
  · exact ⟨"", String.append_empty.symm, nofun⟩

/-- In a tree of names that can be typed, completing a line that has an earlier word and nothing
quoted appends to it. What is appended makes the text after the last blank character of the line the
path of an entry, which a look-up finds. If all of it stands for itself on a line, the completed
line has the words of the line but for the last one, which is that path. -/
theorem completed_word_is_entry (idle : terminal.pending = none)
    (named : terminal.view.tree.root.Named fun name => Path.isEntryName name = true)
    (plain : line.toList.all Words.isPlain = true) {front rest : List Char} {c : Char}
    (earlier : line.toList = front ++ c :: rest) (blank : isBlank c = true)
    (worded : front.all isBlank = false) :
    ∃ words last added, words ≠ [] ∧
      Words.ofLine line = words ++ (if last = "" then [] else [last]) ∧
      (last = "" ↔ ∃ before separator, line.toList = before ++ [separator] ∧
        isBlank separator = true) ∧
      terminal.complete line = line ++ added ∧
      (added ≠ "" →
        (∃ node, terminal.view.lookup (last ++ added) =
          .ok (terminal.view.resolve (last ++ added), node)) ∧
        (added.toList.all Words.isBare = true →
          Words.ofLine (terminal.complete line) = words ++ [last ++ added])) := by
  obtain ⟨before, separator, last, whole, cuts, full, clean, cut⟩ :=
    Words.exists_cutLast earlier blank worded
  obtain ⟨plainBefore, -, plainLast⟩ : before.all Words.isPlain = true ∧
      Words.isPlain separator = true ∧ last.all Words.isPlain = true := by
    rw [whole, List.all_append, List.all_cons, Bool.and_eq_true, Bool.and_eq_true] at plain
    exact plain
  have bareLast := Words.all_isBare plainLast clean
  have written : line = String.ofList (before ++ separator :: last) := by
    rw [← whole, String.ofList_toList]
  have wordedHead : (before ++ [separator]).all isBlank = false := by
    rw [List.all_append, full, Bool.false_and]
  obtain ⟨added, completed, looked⟩ :=
    exists_complete_eq idle named cut (whole.trans (List.append_cons ..)) wordedHead
  refine ⟨Words.ofLine (String.ofList before), String.ofList last, added,
    Words.ofLine_ne_nil plainBefore full, ?_, ?_, completed, fun given => ⟨looked given, ?_⟩⟩
  · rw [written, Words.ofLine_append_of_blank plainBefore cuts, Words.ofLine_of_bare bareLast]
    simp only [String.ofList_eq_empty_iff]
  · rw [String.ofList_eq_empty_iff, whole]
    exact Words.last_eq_nil_iff cuts clean
  · intro bareAdded
    have bare : (last ++ added.toList).all Words.isBare = true := by
      rw [List.all_append, bareLast, bareAdded, Bool.and_self]
    have nonempty : last ++ added.toList ≠ [] := by
      intro empty
      exact given (String.toList_eq_nil_iff.mp (List.append_eq_nil_iff.mp empty).2)
    have longer : terminal.complete line =
        String.ofList (before ++ separator :: (last ++ added.toList)) := by
      rw [completed, written]
      apply String.toList_injective
      simp
    rw [longer, Words.ofLine_append_of_blank plainBefore cuts, Words.ofLine_of_bare bare,
      if_neg nonempty, String.ofList_append, String.ofList_toList]

/-- A terminal at a desk with a drawer, in which one of two pens is hidden. -/
def desk : Terminal :=
  onTree {} { children := [("drawer", .directory [("pen", .file "blue" true),
    ("pencil", .textFile "grey")] false), ("old letter", .textFile "dear")] } .builtins

theorem named_desk : desk.view.tree.root.Named fun name => Path.isEntryName name = true := by
  simp only [desk, onTree, view, View.tree, Tree.root, Node.textFile, Node.Named,
    Node.NamedChildren]
  decide

/-- The one pen in sight is completed, wherever its drawer is written to be. -/
theorem completed_word_is_entry_at_desk :
    desk.complete "cat -n ./drawer/p" = "cat -n ./drawer/pencil" ∧
      Words.ofLine "cat -n ./drawer/pencil" = ["cat", "-n", "./drawer/pencil"] ∧
      ∃ node, desk.view.lookup "./drawer/pencil" = .ok ("~/drawer/pencil", node) := by
  have earlier : "cat -n ./drawer/p".toList = "cat -n".toList ++ ' ' :: "./drawer/p".toList := rfl
  obtain ⟨words, last, added, -, read, ends, completed, reads⟩ :=
    completed_word_is_entry (rfl : desk.pending = none) named_desk (by decide) earlier (by decide)
      (by decide)
  have result : desk.complete "cat -n ./drawer/p" = "cat -n ./drawer/p" ++ "encil" := by
    decide +kernel
  obtain rfl : "encil" = added := String.append_right_inj _ |>.mp (result.symm.trans completed)
  have typed : last ≠ "" := by
    rw [ne_eq, ends]
    rintro ⟨before, separator, same, blank⟩
    have final := congrArg List.getLast? same
    rw [List.getLast?_concat] at final
    cases final
    exact absurd blank (by decide)
  have cut : Words.ofLine "cat -n ./drawer/p" = ["cat", "-n"] ++ ["./drawer/p"] := by
    decide +kernel
  rw [if_neg typed, cut] at read
  obtain ⟨rfl, same⟩ := List.append_inj' read rfl
  obtain rfl := List.singleton_inj.mp same
  obtain ⟨looked, cuts⟩ := reads (by decide)
  rw [result] at cuts
  exact ⟨result, cuts (by decide), looked⟩

/-- The name of a letter is completed as it is, and its second word leads nowhere. -/
theorem completed_blank_name_is_two_words :
    ¬ ∀ (terminal : Terminal) (line : String), terminal.pending = none →
      (terminal.view.tree.root.Named fun name => Path.isEntryName name = true) →
      line.toList.all Words.isPlain = true →
      (∃ front c rest, line.toList = front ++ c :: rest ∧ isBlank c = true ∧
        front.all isBlank = false) →
      terminal.complete line ≠ line →
      ∃ words last next, Words.ofLine line = words ++ (if last = "" then [] else [last]) ∧
        Words.ofLine (terminal.complete line) = words ++ [next] ∧
        ∃ node, terminal.view.lookup next = .ok (terminal.view.resolve next, node) := by
  intro holds
  have earlier : "cat old".toList = "cat".toList ++ ' ' :: "old".toList := rfl
  have result : desk.complete "cat old" = "cat old letter" := by decide +kernel
  obtain ⟨words, last, next, -, read, node, looked⟩ :=
    holds desk "cat old" rfl named_desk (by decide) ⟨_, _, _, earlier, by decide, by decide⟩
      (by rw [result]; decide)
  have cut : Words.ofLine "cat old letter" = ["cat", "old"] ++ ["letter"] := by decide +kernel
  rw [result, cut] at read
  obtain ⟨-, same⟩ := List.append_inj' read rfl
  obtain rfl := List.singleton_inj.mp same
  have missed : desk.view.lookup "letter" = .error (.noSuchPath "letter") := rfl
  rw [missed] at looked
  cases looked

end Terminal

end StoryShell
