/-
# Two searches, one answer

A search of the tree looks for a pattern in the whole content of a file, a search of the
file looks for it line by line. For a pattern on one line this is the same, because
lower-casing never looks over a line feed. The path that the first prints leads the second
to the file, from whatever directory. So a file is listed for its content exactly if some
line of it is printed, as far as the list can be read at all: a file may be named like
another one with the remark that its content matches, and is then listed as that one.
-/

import StoryShell.Proofs.Path.Resolving
import StoryShell.Proofs.Search

namespace StoryShell.Search

/-- What a search of the tree puts after the path of a file that matches by its content. -/
def remark : String := " (matches content)"

variable {pattern path : String} {names : List String} {name content : String} {hidden : Bool}
  {node : Node} {view : View} {entries : List (List String × Node)}

/-! ### The search of the file -/

theorem isOption_render (names : List String) :
    Arguments.isOption (Path.render names) = false := by
  obtain ⟨rest, same⟩ := Path.exists_render_eq names
  have dashed : Text.startsWith (Path.render names) "-" = false := by
    rw [same, Text.startsWith, String.toList_append]
    rfl
  rw [Arguments.isOption, dashed, Bool.false_and]

/-- The canonical path of a node leads to it from every directory. -/
theorem nodeAt_render (proper : ∀ name ∈ names, Path.IsProper name)
    (reached : view.tree.root.descend names = .ok node) :
    view.nodeAt (Path.render names) = .ok node := by
  rw [View.nodeAt, View.resolve, Path.resolve_render proper,
    Tree.find_render (Path.segments_of_proper proper), reached]
  rfl

/-- A search of a file prints something exactly if the pattern occurs in the file. -/
theorem exists_grep_render (oneLine : '\n' ∉ pattern.toList)
    (plain : Arguments.isOption pattern = false) (proper : ∀ name ∈ names, Path.IsProper name)
    (reached : view.tree.root.descend names = .ok (.file content hidden)) :
    ∃ printed : Batch,
      Builtin.grep.run [pattern, Path.render names] view = .ok { output := printed } ∧
        (printed ≠ [] ↔ Text.containsIgnoringCase content pattern = true) := by
  refine ⟨_, grep_of_read plain (isOption_render names) (nodeAt_render proper reached) rfl, ?_⟩
  rw [Text.containsIgnoringCase_eq_any_lines oneLine, List.any_eq_true, ne_eq,
    List.map_eq_nil_iff, List.filter_eq_nil_iff]
  simp

/-! ### The search of the tree -/

theorem render_remark (segments : ∀ name ∈ names, Path.IsSegment name) (name : String) :
    Path.render (names ++ [name]) ++ remark = Path.render (names ++ [name ++ remark]) := by
  rw [← Path.join_render segments, ← Path.join_render segments, Path.join, Path.join,
    String.append_assoc]

theorem isSegment_remark (segment : Path.IsSegment name) : Path.IsSegment (name ++ remark) := by
  obtain ⟨full, apart⟩ := segment
  refine ⟨fun empty => full (String.append_eq_empty_iff.mp empty).1, ?_⟩
  rw [String.toList_append, List.mem_append, not_or]
  exact ⟨apart, by decide⟩

/-- A node is listed for its content under the path of a file only if it is the file. -/
theorem contentLine_eq_iff {entry : List String × Node}
    (segments : ∀ name ∈ names, Path.IsSegment name)
    (segmentsToo : ∀ name ∈ entry.1, Path.IsSegment name) :
    contentLine entry = Path.render names ++ remark ↔ entry.1 = names := by
  rw [contentLine, Path.joinAll_root segmentsToo]
  constructor
  · intro same
    exact Path.render_injective segmentsToo segments (String.append_left_inj _ |>.mp same)
  · intro same
    rw [same, remark]

/-- A node is listed for its name as another one for its content if it is no directory and has the
name of the other with the remark. -/
theorem nameLine_eq_iff {entry : List String × Node}
    (segments : ∀ part ∈ names ++ [name], Path.IsSegment part)
    (segmentsToo : ∀ name ∈ entry.1, Path.IsSegment name) :
    nameLine entry = Path.render (names ++ [name]) ++ remark ↔
      entry.1 = names ++ [name ++ remark] ∧ entry.2.isDirectory = false := by
  obtain ⟨first, last⟩ := List.forall_mem_append.mp segments
  have longer : ∀ part ∈ names ++ [name ++ remark], Path.IsSegment part :=
    List.forall_mem_append.mpr
      ⟨first, by simpa using isSegment_remark (last name List.mem_cons_self)⟩
  rw [nameLine, Path.joinAll_root segmentsToo]
  cases directory : entry.2.isDirectory with
  | true =>
    -- The slash after a directory is not the last character of the remark.
    simp only [if_true, Bool.true_eq_false, and_false, iff_false]
    intro same
    have ends := congrArg (fun text => text.toList.getLast?) same
    simp [remark] at ends
  | false =>
    rw [if_neg Bool.false_ne_true, String.append_empty, render_remark first]
    constructor
    · intro same
      exact ⟨Path.render_injective segmentsToo longer same, rfl⟩
    · intro same
      rw [same.1]

theorem segments_of_mem_inside {entry : List String × Node}
    (named : view.tree.root.Named fun name => Path.isEntryName name = true)
    (member : entry ∈ view.tree.root.inside false) : ∀ part ∈ entry.1, Path.IsSegment part := by
  intro part listed
  exact (Path.isEntryName_iff.mp (named.forall_of_mem_inside member part listed)).1.1

/-- What is listed is the report of a visible node that matches. -/
theorem mem_reports_iff {line : String}
    (named : view.tree.root.Named fun name => Path.isEntryName name = true) :
    line ∈ reports pattern (view.tree.descendants false) ↔
      ∃ entry ∈ view.tree.root.inside false,
        (byName pattern entry = true ∧ nameLine entry = line) ∨
          byContent pattern entry = true ∧ contentLine entry = line := by
  have listed : reports pattern (view.tree.descendants false) =
      ((view.tree.root.inside false).filter (byName pattern)).map nameLine ++
        ((view.tree.root.inside false).filter (byContent pattern)).map contentLine := by
    rw [Tree.descendants, Node.walk_eq_joined]
    apply reports_joined
    · intro entry member
      exact Node.ne_nil_of_mem_inside (List.mem_map_of_mem member)
    · intro entry member part inName
      exact (segments_of_mem_inside named member part inName).2
  simp only [listed, List.mem_append, List.mem_map, List.mem_filter, and_assoc, ← exists_or,
    ← and_or_left]

/-- A search of the tree prints a path exactly if it is reported: the line that says that nothing
matches is not taken for one. -/
theorem exists_found (pattern : String) (view : View) {rest : String}
    (rooted : path = Path.root ++ rest) :
    ∃ found : Batch, Builtin.find.run [pattern] view = .ok { output := found } ∧
      (.system path ∈ found ↔ path ∈ reports pattern (view.tree.descendants false)) := by
  refine ⟨_, find_cons pattern [] view, ?_⟩
  have told : ∀ texts : List String, .system path ∈ texts.map OutputLine.system ↔ path ∈ texts := by
    intro texts
    simp [OutputLine.system]
  rw [told]
  by_cases none : reports pattern (view.tree.descendants false) = []
  · rw [if_pos none, none, List.mem_singleton]
    refine ⟨fun same => ?_, fun member => absurd member List.not_mem_nil⟩
    have first := congrArg (fun text => text.toList.head?) (rooted.symm.trans same)
    simp [Path.root] at first
  · rw [if_neg none]

theorem byName_concat : byName pattern (names ++ [name], node) =
    Text.containsIgnoringCase name pattern := by
  rw [byName, List.getLastD_concat, Text.containsIgnoringCase]

/-- What a search of the tree lists as a file with a matching content. -/
theorem exists_find (ordered : view.tree.Ordered)
    (named : view.tree.root.Named fun name => Path.isEntryName name = true)
    (reached : view.tree.root.descend (names ++ [name]) = .ok (.file content hidden))
    (sight : view.tree.root.InSight (names ++ [name]))
    (other : Text.containsIgnoringCase name pattern = false) :
    ∃ found : Batch, Builtin.find.run [pattern] view = .ok { output := found } ∧
      (.system (Path.render (names ++ [name]) ++ remark) ∈ found ↔
        Text.containsIgnoringCase content pattern = true ∨
        ∃ node, view.tree.root.descend (names ++ [name ++ remark]) = .ok node ∧
          view.tree.root.InSight (names ++ [name ++ remark]) ∧ node.isDirectory = false ∧
          Text.containsIgnoringCase (name ++ remark) pattern = true) := by
  have file : (names ++ [name], Node.file content hidden) ∈ view.tree.root.inside false :=
    (Node.mem_inside ordered).mpr ⟨by simp, reached, .inr sight⟩
  have segments := segments_of_mem_inside named file
  obtain ⟨rest, rooted⟩ := Path.exists_render_eq (names ++ [name])
  obtain ⟨found, ran, listed⟩ := exists_found pattern view
    (show Path.render (names ++ [name]) ++ remark = Path.root ++ (rest ++ remark) by
      rw [rooted, String.append_assoc])
  refine ⟨found, ran, listed.trans ((mem_reports_iff named).trans ?_)⟩
  constructor
  · rintro ⟨⟨place, node⟩, member, ⟨matched, line⟩ | ⟨matched, line⟩⟩
    · obtain ⟨rfl, plain⟩ :=
        (nameLine_eq_iff segments (segments_of_mem_inside named member)).mp line
      obtain ⟨-, found, shown⟩ := (Node.mem_inside ordered).mp member
      rw [byName_concat] at matched
      exact .inr ⟨node, found, by simpa using shown, plain, matched⟩
    · obtain rfl := (contentLine_eq_iff segments (segments_of_mem_inside named member)).mp line
      obtain ⟨-, found, -⟩ := (Node.mem_inside ordered).mp member
      rw [reached] at found
      obtain rfl := Except.ok.inj found
      obtain ⟨-, _, _, same, held⟩ := byContent_eq_true.mp matched
      cases same
      exact .inl held
  · rintro (held | ⟨node, found, shown, plain, matched⟩)
    · refine ⟨_, file, .inr ⟨?_, (contentLine_eq_iff segments segments).mpr rfl⟩⟩
      rw [byContent_eq_true, byName_concat]
      exact ⟨other, content, hidden, rfl, held⟩
    · have member : (names ++ [name ++ remark], node) ∈ view.tree.root.inside false :=
        (Node.mem_inside ordered).mpr ⟨by simp, found, .inr shown⟩
      refine ⟨_, member, .inl ⟨byName_concat.trans matched, ?_⟩⟩
      exact (nameLine_eq_iff segments (segments_of_mem_inside named member)).mpr ⟨rfl, plain⟩

/-- In a tree of names that can be typed, take a visible plain file whose name does not match a
pattern on one line. A search of the tree prints its path with the remark that its content matches
exactly if a search of the file by this path prints something, or if that line is the path of a
visible node of another kind than a directory whose own name matches. -/
theorem searches_agree_on_content (view : View) (pattern : String) (names : List String)
    (name content : String) (hidden : Bool) (ordered : view.tree.Ordered)
    (named : view.tree.root.Named fun name => Path.isEntryName name = true)
    (oneLine : '\n' ∉ pattern.toList) (plain : Arguments.isOption pattern = false)
    (reached : view.tree.root.descend (names ++ [name]) = .ok (.file content hidden))
    (sight : view.tree.root.InSight (names ++ [name]))
    (other : Text.containsIgnoringCase name pattern = false) :
    let path := Path.render (names ++ [name])
    ∃ found printed : Batch, Builtin.find.run [pattern] view = .ok { output := found } ∧
      Builtin.grep.run [pattern, path] view = .ok { output := printed } ∧
      (.system (path ++ remark) ∈ found ↔ printed ≠ [] ∨
        ∃ node, view.tree.root.descend (names ++ [name ++ remark]) = .ok node ∧
          view.tree.root.InSight (names ++ [name ++ remark]) ∧ node.isDirectory = false ∧
          Text.containsIgnoringCase (name ++ remark) pattern = true) := by
  intro path
  have proper : ∀ part ∈ names ++ [name], Path.IsProper part := fun part member =>
    (Path.isEntryName_iff.mp (named.forall_of_descend reached part member)).1
  obtain ⟨found, searched, listed⟩ := exists_find ordered named reached sight other
  obtain ⟨printed, read, matched⟩ := exists_grep_render oneLine plain proper reached
  exact ⟨found, printed, searched, read, listed.trans (or_congr_left matched.symm)⟩

/-- A cupboard with a recipe, seen from the shelf in it, and a file named like the recipe with a
remark. -/
def cupboard : View :=
  { state :=
      { session := { cwd := "~/shelf" }
        tree :=
          { children := [("recipe", .textFile "Flour\nMILK"),
              ("recipe (matches content)", .textFile "butter"),
              ("shelf", .directory [] false)] } }
    config := {}
    history := {} }

theorem ordered_cupboard : cupboard.tree.Ordered := by
  simp only [cupboard, View.tree, Tree.Ordered, Tree.root, Node.textFile, Node.Ordered,
    Node.OrderedChildren, NameMap.Ordered]
  decide

theorem named_cupboard : cupboard.tree.root.Named fun name => Path.isEntryName name = true := by
  simp only [cupboard, View.tree, Tree.root, Node.textFile, Node.Named, Node.NamedChildren]
  decide

/-- The milk in the second line of the recipe is found both ways. -/
theorem searches_agree_on_content_in_cupboard :
    Text.containsIgnoringCase "recipe" "milk" = false ∧
      ∃ found printed : Batch, Builtin.find.run ["milk"] cupboard = .ok { output := found } ∧
        Builtin.grep.run ["milk", "~/recipe"] cupboard = .ok { output := printed } ∧
        .system "~/recipe (matches content)" ∈ found ∧ printed = [.system "MILK"] := by
  have other : Text.containsIgnoringCase "recipe" "milk" = false := by decide
  obtain ⟨found, printed, searched, read, agree⟩ :=
    searches_agree_on_content cupboard "milk" [] "recipe" _ _ ordered_cupboard named_cupboard
      (by decide) (by decide) rfl (by decide) other
  have line : Builtin.grep.run ["milk", "~/recipe"] cupboard =
      .ok { output := [.system "MILK"] } := by
    rfl
  obtain rfl := (Outcome.mk.inj (Except.ok.inj (line.symm.trans read))).1
  exact ⟨other, found, _, searched, read, agree.mpr (.inl (List.cons_ne_nil _ _)), rfl⟩

/-- The file that is named like the recipe with a remark matches by its name and is listed as if the
recipe matched by its content. -/
theorem name_with_remark_misleads :
    ¬ ∀ (view : View) (pattern : String) (names : List String) (name content : String)
      (hidden : Bool), view.tree.Ordered →
      (view.tree.root.Named fun name => Path.isEntryName name = true) →
      '\n' ∉ pattern.toList → Arguments.isOption pattern = false →
      view.tree.root.descend (names ++ [name]) = .ok (.file content hidden) →
      view.tree.root.InSight (names ++ [name]) →
      Text.containsIgnoringCase name pattern = false →
      ∃ found printed : Batch, Builtin.find.run [pattern] view = .ok { output := found } ∧
        Builtin.grep.run [pattern, Path.render (names ++ [name])] view =
          .ok { output := printed } ∧
        (.system (Path.render (names ++ [name]) ++ remark) ∈ found ↔ printed ≠ []) := by
  intro agree
  obtain ⟨found, printed, searched, read, same⟩ :=
    agree cupboard "match" [] "recipe" _ _ ordered_cupboard named_cupboard (by decide) (by decide)
      rfl (by decide) (by decide)
  have listed : Builtin.find.run ["match"] cupboard =
      .ok { output := [.system "~/recipe (matches content)"] } := by
    rfl
  have silent : Builtin.grep.run ["match", "~/recipe"] cupboard = .ok { output := [] } := by
    rfl
  obtain rfl := (Outcome.mk.inj (Except.ok.inj (listed.symm.trans searched))).1
  obtain rfl := (Outcome.mk.inj (Except.ok.inj (silent.symm.trans read))).1
  exact same.mp (by decide) rfl

end StoryShell.Search
