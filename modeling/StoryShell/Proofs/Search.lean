/-
# What a search reports

A search for a name or a content goes through the visible nodes in the order of the
walk. It reads the name of a node off the last piece of its path, and as long as no name
holds a slash that is its name in the tree. So a search reports in two groups, each in
the order of the walk: first the nodes that match by name, then those other plain files
that match by content, and no node in both.

Both searches compare texts in lower case. They find what a text holds as it is written,
with one exception: a capital sigma that ends the pattern but not the word in the text is
another letter in the one than in the other, and the pattern may be missed.
-/

import StoryShell.Proofs.Builtin.Printing
import StoryShell.Proofs.Text.Lowercase
import StoryShell.Proofs.Tree.Descendants

namespace StoryShell

/-! ### The name at the end of a path -/

namespace Path

open StoryShell.Text

theorem lastName_join {name : String} (apart : '/' ∉ name.toList) (parent : String) :
    lastName (join parent name) = name := by
  have alone : pieces '/' (glue '/' [name]) = [name] := by
    apply pieces_glue (List.cons_ne_nil name [])
    simpa using apart
  rw [glue_singleton] at alone
  have cut : pieces '/' (join parent name) = pieces '/' (trimEnd '/' parent) ++ [name] := by
    rw [← alone]
    exact pieces_append_separator (trimEnd '/' parent) name
  rw [lastName, cut, List.getLast?_append, List.getLast?_singleton]
  rfl

theorem lastName_joinAll {names : List String} (full : names ≠ [])
    (apart : ∀ name ∈ names, '/' ∉ name.toList) (path : String) :
    lastName (joinAll path names) = names.getLastD "" := by
  rcases List.eq_nil_or_concat names with rfl | ⟨front, last, rfl⟩
  · exact absurd rfl full
  · rw [List.concat_eq_append] at apart ⊢
    have ends : joinAll path (front ++ [last]) = join (joinAll path front) last :=
      List.foldl_append ..
    rw [ends, lastName_join (apart last (by simp)), List.getLastD_concat]

end Path

namespace Search

/-! ### The two groups -/

/-- Whether a pattern occurs in the last of the names that lead to a node, both in lower case. -/
def byName (pattern : String) (entry : List String × Node) : Bool :=
  Text.contains (Text.lowercase (entry.1.getLastD "")) (Text.lowercase pattern)

/-- Whether a node is a plain file in whose content a pattern occurs, both in lower case, and does
not match by its name. -/
def byContent (pattern : String) (entry : List String × Node) : Bool :=
  match entry.2 with
  | .file content _ =>
    !byName pattern entry && Text.contains (Text.lowercase content) (Text.lowercase pattern)
  | .directory _ _ => false
  | .executable _ _ _ => false

/-- The path of a node, with a slash after it for a directory. -/
def nameLine (entry : List String × Node) : String :=
  Path.joinAll Path.root entry.1 ++ if entry.2.isDirectory then "/" else ""

/-- The path of a node, with a remark that its content matches. -/
def contentLine (entry : List String × Node) : String :=
  Path.joinAll Path.root entry.1 ++ " (matches content)"

variable {pattern : String} {entries : List (List String × Node)} {view : View}

theorem matchesName_joined {entry : List String × Node} (full : entry.1 ≠ [])
    (apart : ∀ name ∈ entry.1, '/' ∉ name.toList) :
    matchesName pattern (Node.joined Path.root entry) = byName pattern entry := by
  rw [matchesName, Node.joined, Path.lastName_joinAll full apart, Text.containsIgnoringCase, byName]

theorem byContent_eq_true {entry : List String × Node} : byContent pattern entry = true ↔
    byName pattern entry = false ∧ ∃ content hidden, entry.2 = .file content hidden ∧
      Text.contains (Text.lowercase content) (Text.lowercase pattern) = true := by
  obtain ⟨names, node⟩ := entry
  cases node <;> simp [byContent]

theorem byContent_eq (pattern : String) (entry : List String × Node) :
    byContent pattern entry =
      (!byName pattern entry && matchesContent pattern (Node.joined Path.root entry)) := by
  obtain ⟨names, node⟩ := entry
  cases node with
  | file content hidden =>
    simp only [byContent, Node.joined, matchesContent, Text.containsIgnoringCase]
  | directory children hidden | executable run content hidden =>
    exact (Bool.and_false _).symm

theorem reports_joined (full : ∀ entry ∈ entries, entry.1 ≠ [])
    (apart : ∀ entry ∈ entries, ∀ name ∈ entry.1, '/' ∉ name.toList) :
    reports pattern (entries.map (Node.joined Path.root)) =
      (entries.filter (byName pattern)).map nameLine ++
        (entries.filter (byContent pattern)).map contentLine := by
  have sameName : ∀ entry ∈ entries,
      matchesName pattern (Node.joined Path.root entry) = byName pattern entry :=
    fun entry member => matchesName_joined (full entry member) (apart entry member)
  have named : entries.filter (matchesName pattern ∘ Node.joined Path.root) =
      entries.filter (byName pattern) := by
    apply List.filter_congr
    intro entry member
    rw [Function.comp_apply, sameName entry member]
  have told : entries.filter ((fun located => !matchesName pattern located &&
        matchesContent pattern located) ∘ Node.joined Path.root) =
      entries.filter (byContent pattern) := by
    apply List.filter_congr
    intro entry member
    rw [Function.comp_apply, sameName entry member, byContent_eq]
  have nameLines : nameReport ∘ Node.joined Path.root = nameLine := by
    funext entry
    rw [Function.comp_apply, nameReport, nameLine, Node.joined]
  have contentLines : contentReport ∘ Node.joined Path.root = contentLine := by
    funext entry
    rw [Function.comp_apply, contentReport, contentLine, Node.joined]
  rw [reports, List.filter_map, List.filter_map, named, told, List.map_map, List.map_map,
    nameLines, contentLines]

/-- The answer of a search: the reports, or one line if there are none. -/
theorem find_cons (pattern : String) (others : List String) (view : View) :
    find (pattern :: others) view =
      .ok (.say (
        if reports pattern (view.tree.descendants false) = [] then
          ["no matches for '" ++ pattern ++ "'"]
        else reports pattern (view.tree.descendants false))) := by
  rw [find]
  cases reports pattern (view.tree.descendants false) <;> rfl

/-- No node is in both groups. -/
theorem nodup_groups (distinct : (entries.map Prod.fst).Nodup) (pattern : String) :
    ((entries.filter (byName pattern) ++ entries.filter (byContent pattern)).map
      Prod.fst).Nodup := by
  rw [List.map_append]
  refine List.Nodup.append (distinct.sublist (List.filter_sublist.map _))
    (distinct.sublist (List.filter_sublist.map _)) ?_
  intro names named told
  obtain ⟨entry, memberNamed, rfl⟩ := List.mem_map.mp named
  obtain ⟨other, memberTold, same⟩ := List.mem_map.mp told
  obtain ⟨member, name⟩ := List.mem_filter.mp memberNamed
  obtain ⟨memberToo, content⟩ := List.mem_filter.mp memberTold
  obtain rfl : other = entry := List.inj_on_of_nodup_map distinct memberToo member same
  exact absurd name (Bool.eq_false_iff.mp (byContent_eq_true.mp content).1)

/-- A search with a pattern meets every visible node once and reports it at most once. Of the nodes
that names lead to from the root with nothing hidden on the way it lists, in the order of the walk,
first the paths of those whose names match, directories with a slash, and then the paths of those
other plain files whose contents match. If there are none it says so in one line. -/
theorem find_reports_each_match_once (view : View) (pattern : String) (others : List String)
    (ordered : view.tree.Ordered)
    (apart : view.tree.root.Named fun name => '/' ∉ name.toList) :
    ∃ visible : List (List String × Node),
      (∀ names node, (names, node) ∈ visible ↔
        names ≠ [] ∧ view.tree.root.descend names = .ok node ∧ view.tree.root.InSight names) ∧
      (visible.map Prod.fst).Nodup ∧
      view.tree.descendants false =
        visible.map (fun entry => (Path.joinAll Path.root entry.1, entry.2)) ∧
      let named := visible.filter (byName pattern)
      let told := visible.filter (byContent pattern)
      Builtin.find.run (pattern :: others) view =
        .ok (.say (
          if ∀ entry ∈ visible, byName pattern entry = false ∧ byContent pattern entry = false then
            ["no matches for '" ++ pattern ++ "'"]
          else named.map nameLine ++ told.map contentLine)) ∧
      ((named ++ told).map Prod.fst).Nodup ∧
      ∀ entry ∈ told, ∃ content hidden, entry.2 = .file content hidden := by
  have members : ∀ names node, (names, node) ∈ view.tree.root.inside false ↔
      names ≠ [] ∧ view.tree.root.descend names = .ok node ∧ view.tree.root.InSight names := by
    intro names node
    rw [Node.mem_inside ordered]
    simp
  have walks : view.tree.descendants false =
      (view.tree.root.inside false).map (Node.joined Path.root) := Node.walk_eq_joined ..
  have distinct := Node.nodup_inside false ordered
  refine ⟨view.tree.root.inside false, members, distinct, walks, ?_⟩
  intro named told
  have reported : reports pattern (view.tree.descendants false) =
      named.map nameLine ++ told.map contentLine := by
    rw [walks]
    apply reports_joined
    · intro entry member
      exact Node.ne_nil_of_mem_inside (List.mem_map_of_mem member)
    · intro entry member
      exact apart.forall_of_mem_inside member
  refine ⟨?_, nodup_groups distinct pattern, ?_⟩
  · have silent : named.map nameLine ++ told.map contentLine = [] ↔
        ∀ entry ∈ view.tree.root.inside false,
          byName pattern entry = false ∧ byContent pattern entry = false := by
      simp only [named, told, List.append_eq_nil_iff, List.map_eq_nil_iff, List.filter_eq_nil_iff,
        Bool.not_eq_true]
      exact ⟨fun none entry member => ⟨none.1 entry member, none.2 entry member⟩,
        fun none => ⟨fun entry member => (none entry member).1,
          fun entry member => (none entry member).2⟩⟩
    rw [Builtin.run, find_cons, reported]
    simp only [silent]
  · intro entry member
    obtain ⟨-, content, hidden, file, -⟩ := byContent_eq_true.mp (List.mem_filter.mp member).2
    exact ⟨content, hidden, file⟩

/-- A wardrobe with a trap for moths, some notes, and a hidden drawer. -/
def wardrobe : Tree :=
  { children := [(".drawer", .directory [("moth.txt", .textFile "a moth")] true),
      ("Moth-trap", .program "trap" "catches every moth"),
      ("notes", .directory [("holes.txt", .textFile "Moth holes"), ("moths", .directory [] false)]
        false)] }

/-- What a search sees in the wardrobe. -/
def wardrobeView : View :=
  { state := { tree := wardrobe }, config := {}, history := {} }

/-- The trap and the directory are found by name, the notes by their content; the banner of the trap
does not count, and neither does the drawer. -/
theorem find_reports_each_match_once_in_wardrobe :
    wardrobe.Ordered ∧ (wardrobe.root.Named fun name => '/' ∉ name.toList) ∧
      ∃ visible : List (List String × Node),
        wardrobe.descendants false =
          visible.map (fun entry => (Path.joinAll Path.root entry.1, entry.2)) ∧
        ((visible.filter (byName "MOTH") ++ visible.filter (byContent "MOTH")).map
          Prod.fst).Nodup ∧
        Builtin.find.run ["MOTH"] wardrobeView =
          .ok (.say ["~/Moth-trap", "~/notes/moths/", "~/notes/holes.txt (matches content)"]) := by
  have ordered : wardrobe.Ordered := by
    simp only [Tree.Ordered, Tree.root, wardrobe, Node.textFile, Node.program, Node.Ordered,
      Node.OrderedChildren, NameMap.Ordered]
    decide
  have apart : wardrobe.root.Named fun name => '/' ∉ name.toList := by
    simp only [Tree.root, wardrobe, Node.textFile, Node.program, Node.Named, Node.NamedChildren]
    decide
  obtain ⟨visible, -, -, walked, -, once, -⟩ :=
    find_reports_each_match_once wardrobeView "MOTH" [] ordered apart
  have reported : reports "MOTH" (wardrobeView.tree.descendants false) =
      ["~/Moth-trap", "~/notes/moths/", "~/notes/holes.txt (matches content)"] := by
    rfl
  refine ⟨ordered, apart, visible, walked, once, ?_⟩
  rw [Builtin.run, find_cons, reported]
  rfl

/-! ### What is found as it is written -/

/-- A search of a file prints every line that matches. -/
theorem grep_of_matches {path line content : String} {node : Node}
    (plain : Arguments.isOption pattern = false) (plainPath : Arguments.isOption path = false)
    (found : view.nodeAt path = .ok node) (held : node.content? = some content)
    (member : line ∈ Text.lines content)
    (occurs : Text.containsIgnoringCase line pattern = true) :
    ∃ outcome, grep [pattern, path] view = .ok outcome ∧ .system line ∈ outcome.output :=
  ⟨_, grep_of_read plain plainPath found held,
    List.mem_map_of_mem (List.mem_filter.mpr ⟨member, occurs⟩)⟩

/-- A search of the tree prints every report. -/
theorem find_of_reported {line : String}
    (reported : line ∈ reports pattern (view.tree.descendants false)) :
    ∃ outcome, find [pattern] view = .ok outcome ∧ .system line ∈ outcome.output := by
  rw [find_cons, if_neg (List.ne_nil_of_mem reported)]
  exact ⟨_, rfl, List.mem_map_of_mem reported⟩

/-- A node that matches by its name or as a plain file by its content is reported. -/
theorem exists_reported {nodes : List Located} {located : Located} (member : located ∈ nodes)
    (occurs : matchesName pattern located = true ∨ matchesContent pattern located = true) :
    ∃ sign ∈ ["", "/", " (matches content)"], located.1 ++ sign ∈ reports pattern nodes := by
  by_cases named : matchesName pattern located = true
  · have first : nameReport located ∈ reports pattern nodes :=
      List.mem_append_left _ (List.mem_map_of_mem (List.mem_filter.mpr ⟨member, named⟩))
    cases directory : located.2.isDirectory with
    | true => exact ⟨"/", by simp, by simpa [nameReport, directory] using first⟩
    | false => exact ⟨"", by simp, by simpa [nameReport, directory] using first⟩
  · have content := occurs.resolve_left named
    refine ⟨" (matches content)", by simp, List.mem_append_right _ (List.mem_map.mpr ?_)⟩
    exact ⟨located, List.mem_filter.mpr ⟨member, by simp [named, content]⟩, rfl⟩

/-- A search finds a pattern that stands in a text: where its capital sigmas end words of the text
exactly if they end words of the pattern, and wherever it occurs if it has none. A file with the
pattern in one of its lines has that line printed, unless an argument is read as an option. A
visible node with the pattern in its name, and a plain file with it in its content, has its path
printed. -/
theorem finds_what_stands (view : View) (pattern : String) :
    (∀ path node content line, Arguments.isOption pattern = false →
      Arguments.isOption path = false → view.nodeAt path = .ok node →
      node.content? = some content → line ∈ Text.lines content → Text.StandsIn pattern line →
        ∃ outcome, Builtin.grep.run [pattern, path] view = .ok outcome ∧
          .system line ∈ outcome.output) ∧
    (∀ names name node, view.tree.Ordered → (∀ part ∈ names ++ [name], '/' ∉ part.toList) →
      view.tree.root.descend (names ++ [name]) = .ok node →
      view.tree.root.InSight (names ++ [name]) →
      (Text.StandsIn pattern name ∨
        ∃ content hidden, node = .file content hidden ∧ Text.StandsIn pattern content) →
        ∃ outcome, Builtin.find.run [pattern] view = .ok outcome ∧
          ∃ sign ∈ ["", "/", " (matches content)"],
            .system (Path.joinAll Path.root (names ++ [name]) ++ sign) ∈ outcome.output) ∧
    ('Σ' ∉ pattern.toList →
      ∀ text, Text.contains text pattern = true → Text.StandsIn pattern text) := by
  refine ⟨?_, ?_, fun plain text occurs => Text.standsIn_of_contains plain occurs⟩
  · intro path node content line plain plainPath found held member stands
    exact grep_of_matches plain plainPath found held member
      (Text.containsIgnoringCase_of_standsIn stands)
  · intro names name node ordered apart reached sight stands
    have listed : (names ++ [name], node) ∈ view.tree.root.inside false :=
      (Node.mem_inside ordered).mpr ⟨by simp, reached, .inr sight⟩
    have walked : Node.joined Path.root (names ++ [name], node) ∈ view.tree.descendants false := by
      rw [Tree.descendants, Node.walk_eq_joined]
      exact List.mem_map_of_mem listed
    have named : byName pattern (names ++ [name], node) =
        Text.containsIgnoringCase name pattern := by
      rw [byName, List.getLastD_concat, Text.containsIgnoringCase]
    have occurs : matchesName pattern (Node.joined Path.root (names ++ [name], node)) = true ∨
        matchesContent pattern (Node.joined Path.root (names ++ [name], node)) = true := by
      rcases stands with stands | ⟨content, hidden, rfl, stands⟩
      · rw [matchesName_joined (by simp) apart, named]
        exact .inl (Text.containsIgnoringCase_of_standsIn stands)
      · exact .inr (Text.containsIgnoringCase_of_standsIn stands)
    obtain ⟨sign, oneOf, reported⟩ := exists_reported walked occurs
    obtain ⟨outcome, found, printed⟩ := find_of_reported reported
    exact ⟨outcome, found, sign, oneOf, printed⟩

/-- A note in Greek capitals. -/
def note : View :=
  { state := { tree := { children := [("note.txt", .textFile "ΩΣ ΕΔΩ\nΩΣΤΕ")] } }
    config := {}
    history := {} }

/-- The first line holds the pattern as a word of its own, and it is found. -/
theorem finds_what_stands_in_note :
    Text.StandsIn "ΩΣ" "ΩΣ ΕΔΩ" ∧
      ∃ outcome, Builtin.grep.run ["ΩΣ", "note.txt"] note = .ok outcome ∧
        .system "ΩΣ ΕΔΩ" ∈ outcome.output := by
  have stands : Text.StandsIn "ΩΣ" "ΩΣ ΕΔΩ" := by
    refine ⟨[], " ΕΔΩ".toList, by decide, ?_⟩
    intro front back cut
    -- The only sigma of the pattern is its last letter.
    have letters : "ΩΣ".toList = ['Ω', 'Σ'] := by decide
    rw [letters] at cut
    rcases front with _ | ⟨first, _ | ⟨second, front⟩⟩
    · exact absurd (List.cons.inj cut).1 (by decide)
    · obtain ⟨rfl, rest⟩ := List.cons.inj cut
      obtain rfl := (List.cons.inj rest).2.symm
      rfl
    · simp at cut
  obtain ⟨greps, -, -⟩ := finds_what_stands note "ΩΣ"
  exact ⟨stands, greps "note.txt" _ _ "ΩΣ ΕΔΩ" (by decide) (by decide) rfl rfl (by decide) stands⟩

/-- In the second line the sigma does not end the word as it ends the pattern, and the line is
missed although it holds the pattern as it is written. -/
theorem inner_sigma_is_missed :
    ¬ ∀ (view : View) (pattern path : String) (node : Node) (content line : String),
      pattern ≠ "" → Arguments.isOption pattern = false → Arguments.isOption path = false →
      view.nodeAt path = .ok node → node.content? = some content → line ∈ Text.lines content →
      Text.contains line pattern = true →
        ∃ outcome, Builtin.grep.run [pattern, path] view = .ok outcome ∧
          .system line ∈ outcome.output := by
  intro finds
  obtain ⟨outcome, found, printed⟩ := finds note "ΩΣ" "note.txt" _ _ "ΩΣΤΕ" (by decide) (by decide)
    (by decide) rfl rfl (by decide) (by decide)
  have others : (Builtin.grep.run ["ΩΣ", "note.txt"] note).toOption.map (·.output) =
      some [.system "ΩΣ ΕΔΩ"] := by
    rfl
  rw [found] at others
  have output : outcome.output = [.system "ΩΣ ΕΔΩ"] := Option.some.inj others
  rw [output, List.mem_singleton] at printed
  exact absurd printed (by decide)

end Search

end StoryShell
