/-
# Edits of one directory

An edit changes the children of the directory that some names lead to, and rebuilds
the directories on the way there. Here it is told apart from what an edit may be
refused for and from what it gives besides: a function applied to the children of
that directory. So each directory on the way keeps its hidden mark and all its
children but the next one on the way; below the directory the edited children are
found; and every path off the way leads to what it led to before.
-/

import StoryShell.Proofs.NameMap
import StoryShell.Proofs.Tree.Descent

namespace StoryShell

/-- The children of a directory with a function applied to the children of the directory that
names lead to. Only the directories on the way change. -/
def Children.editAt (edit : Children → Children) : List String → Children → Except Miss Children
  | [], children => .ok (edit children)
  | name :: rest, children =>
    match NameMap.find? children name with
    | none => .error .absent
    | some (.directory inner hidden) => do
      let edited ← Children.editAt edit rest inner
      return NameMap.put children name (.directory edited hidden)
    | some (.file _ _) => .error .notADirectory
    | some (.executable _ _ _) => .error .notADirectory

/-- An edit below a child that is a directory edits that directory and puts it back. -/
theorem Children.editAt_held {children inner : Children} {name : String} {hidden : Bool}
    (held : NameMap.find? children name = some (.directory inner hidden))
    (edit : Children → Children) (names : List String) :
    editAt edit (name :: names) children =
      (editAt edit names inner).map fun changed =>
        NameMap.put children name (.directory changed hidden) := by
  simp only [editAt, held]
  cases editAt edit names inner with
  | error miss => rfl
  | ok changed => rfl

/-- An edit below a child finds a directory there and puts it back, edited. -/
theorem Children.editAt_cons {edit : Children → Children} {names : List String}
    {children edited : Children} {name : String}
    (made : editAt edit (name :: names) children = .ok edited) :
    ∃ inner hidden changed, NameMap.find? children name = some (.directory inner hidden) ∧
      editAt edit names inner = .ok changed ∧
      edited = NameMap.put children name (.directory changed hidden) := by
  cases held : NameMap.find? children name with
  | none =>
    simp only [editAt, held, reduceCtorEq] at made
  | some child =>
    cases child with
    | directory inner hidden =>
      rw [editAt_held held] at made
      cases below : editAt edit names inner with
      | error miss =>
        rw [below] at made
        cases made
      | ok changed =>
        rw [below] at made
        cases made
        exact ⟨inner, hidden, changed, rfl, below, rfl⟩
    | file content hidden | executable entry content hidden =>
      simp only [editAt, held, reduceCtorEq] at made

namespace Tree

/-- The tree with the children of the directory at `parent` changed. -/
def editAt (tree : Tree) (parent : String) (edit : Children → Children) : Except Failure Tree :=
  match Path.names? parent with
  | none => .error (.invalidPath parent)
  | some names =>
    match tree.children.editAt edit names with
    | .ok children => .ok { tree with children }
    | .error miss => .error (miss.failure parent)

/-- An edit that succeeds changes the directory that the parent's names lead to. -/
theorem editAt_ok {tree next : Tree} {parent : String} {edit : Children → Children}
    (made : tree.editAt parent edit = .ok next) :
    ∃ names children, Path.names? parent = some names ∧
      tree.children.editAt edit names = .ok children ∧ next = { tree with children } := by
  rw [editAt] at made
  cases spelled : Path.names? parent with
  | none =>
    rw [spelled] at made
    cases made
  | some names =>
    simp only [spelled] at made
    cases below : tree.children.editAt edit names with
    | error miss =>
      rw [below] at made
      cases made
    | ok children =>
      rw [below] at made
      cases made
      exact ⟨names, children, rfl, below, rfl⟩

end Tree

namespace Children

variable {edit : Children → Children} {names : List String} {children edited : Children}

/-- The edit happens in a directory, and what is below that directory is found in its edited
children. -/
theorem descend_editAt (made : editAt edit names children = .ok edited) (hidden : Bool) :
    ∃ inner mark, (Node.directory children hidden).descend names = .ok (.directory inner mark) ∧
      ∀ below, (Node.directory edited hidden).descend (names ++ below) =
        (Node.directory (edit inner) mark).descend below := by
  induction names generalizing children edited hidden with
  | nil =>
    rw [editAt] at made
    cases made
    exact ⟨children, hidden, Node.descend_nil _, fun below => rfl⟩
  | cons name rest ih =>
    obtain ⟨inner, mark, changed, held, below, rfl⟩ := editAt_cons made
    obtain ⟨target, targetMark, found, later⟩ := ih below mark
    refine ⟨target, targetMark, ?_, ?_⟩
    · rw [Node.descend_held held, found]
    · intro more
      rw [List.cons_append, Node.descend_held (NameMap.find?_put_self ..), later]

/-- A directory on the way to the edit is still there, with one child put in anew. -/
theorem descend_editAt_above {above below : List String} {next : String}
    (made : editAt edit (above ++ next :: below) children = .ok edited) (hidden : Bool) :
    ∃ inner mark changed,
      (Node.directory children hidden).descend above = .ok (.directory inner mark) ∧
      (Node.directory edited hidden).descend above =
        .ok (.directory (NameMap.put inner next changed) mark) := by
  induction above generalizing children edited hidden with
  | nil =>
    obtain ⟨inner, mark, changed, -, -, rfl⟩ := editAt_cons made
    exact ⟨children, hidden, .directory changed mark, Node.descend_nil _, Node.descend_nil _⟩
  | cons name rest ih =>
    obtain ⟨inner, mark, changed, held, below, rfl⟩ := editAt_cons made
    obtain ⟨target, targetMark, child, found, later⟩ := ih below mark
    refine ⟨target, targetMark, child, ?_, ?_⟩
    · rw [Node.descend_held held, found]
    · rw [Node.descend_held (NameMap.find?_put_self ..), later]

/-- Off the way to the edit nothing changes. -/
theorem descend_editAt_off {path : List String} (made : editAt edit names children = .ok edited)
    (notBelow : ¬ names <+: path) (notAbove : ¬ path <+: names) (hidden : Bool) :
    (Node.directory edited hidden).descend path = (Node.directory children hidden).descend path := by
  induction names generalizing children edited hidden path with
  | nil => exact absurd List.nil_prefix notBelow
  | cons name rest ih =>
    cases path with
    | nil => exact absurd List.nil_prefix notAbove
    | cons first more =>
      obtain ⟨inner, mark, changed, held, below, rfl⟩ := editAt_cons made
      by_cases same : name = first
      · subst same
        rw [Node.descend_held (NameMap.find?_put_self ..), Node.descend_held held]
        apply ih below
        · exact fun h => notBelow (List.cons_prefix_cons.mpr ⟨rfl, h⟩)
        · exact fun h => notAbove (List.cons_prefix_cons.mpr ⟨rfl, h⟩)
      · exact Node.descend_congr (NameMap.find?_put_of_ne same ..) more

/-- If the edit concerns one name only, every path changes at most on the way to that entry or
below it. -/
theorem descend_editAt_apart {name : String} {path : List String}
    (keeps : ∀ inner other, name ≠ other →
      NameMap.find? (edit inner) other = NameMap.find? inner other)
    (made : editAt edit names children = .ok edited) (notBelow : ¬ names ++ [name] <+: path)
    (notAbove : ¬ path <+: names) (hidden : Bool) :
    (Node.directory edited hidden).descend path = (Node.directory children hidden).descend path := by
  by_cases within : names <+: path
  · obtain ⟨more, rfl⟩ := within
    cases more with
    | nil =>
      rw [List.append_nil] at notAbove
      exact absurd (List.prefix_refl names) notAbove
    | cons first rest =>
      have different : name ≠ first := by
        rintro rfl
        exact notBelow ⟨rest, by rw [List.append_assoc, List.singleton_append]⟩
      obtain ⟨inner, mark, found, below⟩ := descend_editAt made hidden
      calc (Node.directory edited hidden).descend (names ++ first :: rest)
        _ = (Node.directory (edit inner) mark).descend (first :: rest) := below _
        _ = (Node.directory inner mark).descend (first :: rest) :=
          Node.descend_congr (keeps inner first different) rest
        _ = (Node.directory children hidden).descend (names ++ first :: rest) :=
          (Node.descend_append_of_found found).symm
  · exact descend_editAt_off made within notAbove hidden

/-- Two edits of one directory are one. -/
theorem editAt_editAt (made : editAt edit names children = .ok edited)
    (later : Children → Children) :
    editAt later names edited = editAt (later ∘ edit) names children := by
  induction names generalizing children edited with
  | nil =>
    rw [editAt] at made
    cases made
    rfl
  | cons name rest ih =>
    obtain ⟨inner, hidden, changed, held, below, rfl⟩ := editAt_cons made
    rw [editAt_held (NameMap.find?_put_self ..), editAt_held held, ih below]
    simp only [NameMap.put_put]

end Children

end StoryShell
