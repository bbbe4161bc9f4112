/-
# Hidden nodes do not leak

A search walks the tree and leaves out what is hidden with everything under it, a listing
leaves out hidden entries one by one, and completion does so unless the name it completes
starts with a dot. Each of the three comes to reading the visible part of the tree only:
over two trees that look alike a search reports the same, and so do a plain listing of a
directory in sight and a completion there. In particular a hidden entry does not keep the
only visible one from being completed.
-/

import StoryShell.Proofs.Completion
import StoryShell.Proofs.Tree.Visible

namespace StoryShell

/-! ### Searching -/

/-- A search reads no more of a node than what is visible of it. -/
theorem Search.reports_seen (pattern : String) (nodes : List Located) :
    reports pattern (nodes.map Node.seen) = reports pattern nodes := by
  have sameContent : ∀ located, matchesContent pattern (Node.seen located) =
      matchesContent pattern located := by
    rintro ⟨path, node⟩
    cases node <;> simp [Node.seen, Node.visible, matchesContent]
  have sameName : ∀ located, matchesName pattern (Node.seen located) =
      matchesName pattern located := fun _ => rfl
  have sameReport : ∀ located, nameReport (Node.seen located) = nameReport located := by
    simp [Node.seen, nameReport]
  have samePath : ∀ located, contentReport (Node.seen located) = contentReport located :=
    fun _ => rfl
  simp only [reports, List.filter_map, List.map_map, Function.comp_def, sameName, sameContent,
    sameReport, samePath]

/-- A search gives the same answer in trees that look alike. -/
theorem Search.find_of_looksLike {view other : View} (alike : view.tree.LooksLike other.tree)
    (arguments : List String) : find arguments view = find arguments other := by
  cases arguments with
  | nil => rfl
  | cons pattern rest =>
    have same : reports pattern (view.tree.descendants false) =
        reports pattern (other.tree.descendants false) := by
      rw [← reports_seen, alike.descendants, reports_seen]
    rw [find, find, same]

/-! ### Listing -/

/-- A plain listing shows the visible children, each with the sign of its kind. -/
theorem Files.listing_false (children : Children) :
    listing false children =
      (Node.visibleChildren children).map fun entry => entry.1 ++ entry.2.suffix := by
  rw [listing, Node.visibleChildren_eq, List.map_map]
  simp [Function.comp_def]

/-- A plain listing of a directory depends on its visible children only. -/
theorem Files.list_of_found {view : View} {arguments : List String} {children : Children}
    {hidden : Bool} (plain : Arguments.gives allOptions arguments = false)
    (found : view.tree.find (view.resolve ((Arguments.operands arguments).head?.getD ".")) =
      .ok (.directory children hidden)) :
    list arguments view =
      match Arguments.unknownOption? allOptions arguments with
      | some option => .error (.invalidOption option)
      | none => .ok (.say ((Node.visibleChildren children).map fun entry =>
          entry.1 ++ entry.2.suffix)) := by
  rw [list, ← listing_false, plain]
  cases Arguments.unknownOption? allOptions arguments with
  | some option => rfl
  | none =>
    have here : view.nodeAt ((Arguments.operands arguments).head?.getD ".") =
        .ok (.directory children hidden) := by
      rw [View.nodeAt, found]
      rfl
    simp only [here]
    rfl

/-! ### Completing -/

namespace Terminal

open StoryShell.Text

/-- The names that fit a beginning without a dot are visible ones. -/
theorem map_filter_fits {start : String} (undotted : startsWith start "." = false)
    (children : Children) :
    (children.filter (fits start)).map Prod.fst =
      ((Node.visibleChildren children).map Prod.fst).filter (startsWith · start) := by
  have both : children.filter (fits start) =
      (children.filter fun entry => !entry.2.isHidden).filter (startsWith ·.1 start) := by
    rw [List.filter_filter]
    apply List.filter_congr
    simp [fits, undotted]
  rw [both, Node.visibleChildren_eq, List.map_map, List.filter_map]
  rfl

/-- What a word may be completed to in a directory depends on its visible children only. -/
theorem pathCandidates_of_found {terminal : Terminal} {directory start : String}
    {children : Children} {hidden : Bool} (part : Path.IsDirectoryPart directory)
    (name : '/' ∉ start.toList) (undotted : startsWith start "." = false)
    (found : terminal.view.tree.find (terminal.view.resolve directory) =
      .ok (.directory children hidden)) :
    terminal.pathCandidates (directory ++ start) =
      (((Node.visibleChildren children).map Prod.fst).filter (startsWith · start)).map
        (directory ++ ·) := by
  have cut : Path.cutLast (directory ++ start).toList = (directory.toList, start.toList) := by
    rw [String.toList_append]
    apply cut_append (· == '/')
    · intro c member
      exact beq_false_of_ne fun same => name (same ▸ member)
    · rcases part with rfl | ⟨path, rfl⟩
      · exact .inl rfl
      · exact .inr ⟨path.toList, '/', by simp, rfl⟩
  have listed : terminal.state.tree.list (terminal.view.resolve directory) = .ok children := by
    have reached := Tree.lookup_eq_ok.mpr found
    change terminal.view.tree.list (terminal.view.resolve directory) = .ok children
    rw [Tree.list, reached]
    rfl
  delta pathCandidates
  simp only [cut, String.ofList_toList, listed]
  rw [← map_filter_fits undotted, List.map_map]
  rfl

/-- The terminal over another tree. -/
def withTree (terminal : Terminal) (tree : Tree) : Terminal :=
  { terminal with state := { terminal.state with tree } }

/-- Over two trees of which the same is visible, a terminal does the same for whoever does not ask
for what is hidden: a search for anything, a plain listing of a directory with nothing hidden on its
way, and the completion of a name without a leading dot in such a directory. -/
theorem hidden_nodes_do_not_leak (terminal : Terminal) {tree other : Tree} (ordered : tree.Ordered)
    (orderedOther : other.Ordered) (alike : tree.LooksLike other) :
    let here := terminal.withTree tree
    let there := terminal.withTree other
    (∀ arguments, Builtin.find.run arguments here.view = Builtin.find.run arguments there.view) ∧
    (∀ arguments, Arguments.gives Files.allOptions arguments = false →
      tree.ShowsDirectory
        (here.view.resolve ((Arguments.operands arguments).head?.getD ".")) →
      Builtin.ls.run arguments here.view = Builtin.ls.run arguments there.view) ∧
    ∀ before directory start : String,
      (before = "" ∨ ∃ front c, before = front ++ String.singleton c ∧ isBlank c = true) →
      (∀ c ∈ (directory ++ start).toList, isBlank c = false) →
      Path.IsDirectoryPart directory → '/' ∉ start.toList → startsWith start "." = false →
      tree.ShowsDirectory (here.view.resolve directory) →
      here.complete (before ++ (directory ++ start)) =
        there.complete (before ++ (directory ++ start)) := by
  intro here there
  refine ⟨?_, ?_, ?_⟩
  · intro arguments
    have looks : here.view.tree.LooksLike there.view.tree := alike
    exact Search.find_of_looksLike looks arguments
  · intro arguments plain shows
    obtain ⟨children, hidden, others, mark, found, foundOther, same⟩ :=
      alike.find ordered orderedOther shows
    have lists : Files.list arguments here.view = _ := Files.list_of_found plain found
    have listsOther : Files.list arguments there.view = _ := Files.list_of_found plain foundOther
    rw [Builtin.run, Builtin.run, lists, listsOther, same]
  · intro before directory start ends clean part name undotted shows
    obtain ⟨children, hidden, others, mark, found, foundOther, same⟩ :=
      alike.find ordered orderedOther shows
    have fitting : here.pathCandidates (directory ++ start) =
        there.pathCandidates (directory ++ start) := by
      have fits : here.pathCandidates (directory ++ start) = _ :=
        pathCandidates_of_found part name undotted found
      have fitsOther : there.pathCandidates (directory ++ start) = _ :=
        pathCandidates_of_found part name undotted foundOther
      rw [fits, fitsOther, same]
    have cut : Words.cutLast (before ++ (directory ++ start)).toList =
        (before.toList, (directory ++ start).toList) := by
      rw [String.toList_append]
      apply cut_append isBlank clean
      rcases ends with rfl | ⟨front, c, rfl, blank⟩
      · exact .inl rfl
      · exact .inr ⟨front.toList, c, by simp, blank⟩
    have candidates_eq : here.candidates before (directory ++ start) =
        there.candidates before (directory ++ start) := by
      rw [candidates, candidates, fitting]
      rfl
    rw [complete, complete, cut]
    simp only [String.ofList_toList, candidates_eq]
    rfl

/-- A cellar with a hidden safe, and with a hidden jar beside the jam. -/
def cellar : Tree :=
  { children := [(".safe", .directory [("gold", .textFile "a bar")] true),
      ("shelf", .directory [("jam", .textFile "plum"), ("jar", .file "empty" true)] false)] }

/-- The same cellar without the hidden things, itself marked as hidden. -/
def sweptCellar : Tree :=
  { children := [("shelf", .directory [("jam", .textFile "plum")] false)], hidden := true }

/-- The gold is not found, the jar is not listed, and the name of the jam is completed as if the jar
were not there. -/
theorem hidden_nodes_do_not_leak_in_cellar :
    let here := (onTree {} {} .builtins).withTree cellar
    let there := (onTree {} {} .builtins).withTree sweptCellar
    cellar.Ordered ∧ sweptCellar.Ordered ∧ cellar.LooksLike sweptCellar ∧
      cellar.ShowsDirectory (here.view.resolve "shelf/") ∧
      Builtin.find.run ["a"] here.view = Builtin.find.run ["a"] there.view ∧
      Builtin.ls.run ["shelf"] here.view = Builtin.ls.run ["shelf"] there.view ∧
      here.complete ("cat " ++ ("shelf/" ++ "ja")) = "cat shelf/jam" := by
  intro here there
  have ordered : cellar.Ordered := by
    simp only [Tree.Ordered, Tree.root, cellar, Node.textFile, Node.Ordered, Node.OrderedChildren,
      NameMap.Ordered]
    decide
  have orderedOther : sweptCellar.Ordered := by
    simp only [Tree.Ordered, Tree.root, sweptCellar, Node.textFile, Node.Ordered,
      Node.OrderedChildren, NameMap.Ordered]
    decide
  have alike : cellar.LooksLike sweptCellar := by
    simp [Tree.LooksLike, cellar, sweptCellar, Node.textFile, Node.visibleChildren, Node.visible,
      Node.isHidden]
  have shows : ∀ typed, here.view.resolve typed = "~/shelf" →
      cellar.ShowsDirectory (here.view.resolve typed) := by
    intro typed resolved
    rw [resolved]
    exact ⟨["shelf"], _, _, by decide, rfl, by decide⟩
  obtain ⟨finds, lists, completes⟩ :=
    hidden_nodes_do_not_leak (onTree {} {} .builtins) ordered orderedOther alike
  have clean : ∀ c ∈ ("shelf/" ++ "ja").toList, isBlank c = false := by
    have unbroken : ("shelf/" ++ "ja").toList.all (fun c => !isBlank c) = true := by decide
    simpa using unbroken
  have shelf := shows "shelf/" (by decide +kernel)
  have completed := completes "cat " "shelf/" "ja" (.inr ⟨"cat", ' ', by decide, by decide⟩)
    clean (.inr ⟨"shelf", by decide⟩) (by decide) (by decide) shelf
  refine ⟨ordered, orderedOther, alike, shelf, finds ["a"], ?_, ?_⟩
  · exact lists ["shelf"] (by decide) (shows _ (by decide +kernel))
  · exact completed.trans (by decide +kernel)

end Terminal

end StoryShell
