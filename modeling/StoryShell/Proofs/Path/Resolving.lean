/-
# What a typed path resolves to

Whatever is typed in a directory of whatever name, the result of resolving it is
`~`, or `~/` and full segments, so no look-up of it is refused for starting outside
the tree. It is what a stack of names holds at the end: a name is put on top, `..`
takes the top off if there is one, and `.` and nothing leave the stack alone. A
current directory without `.` and `..` in its name leads to a result without them,
and such a result resolves to itself everywhere.
-/

import StoryShell.Proofs.Path.Canonical
import StoryShell.Proofs.Tree.Descent
import StoryShell.View

namespace StoryShell

namespace Path

open StoryShell.Text

/-- What one segment makes of a stack of names, the innermost directory on top. -/
def stacked (stack : List String) : String → List String
  | "" => stack
  | "." => stack
  | ".." => stack.tail
  | name => name :: stack

/-- The names in a directory's path: its full segments, after a leading `~` if it has one. -/
def NamesBelow (directory : String) (names : List String) : Prop :=
  fullPieces '/' directory = root :: names ∨
    (fullPieces '/' directory = names ∧ names.head? ≠ some root)

/-- Where the walk along a typed path starts, and what is left of the path to walk along. The forms
`~`, `~/…` and `/…` start at the root, every other path starts in the current directory. -/
inductive Departs (cwd : String) : String → List String → String → Prop
  | home : Departs cwd "~" [] ""
  | fromTilde (rest : String) : Departs cwd ("~/" ++ rest) [] rest
  | fromSlash (rest : String) : Departs cwd ("/" ++ rest) [] rest
  | fromHere {path : String} {names : List String} (other : path ≠ "~")
      (noTilde : startsWith path "~/" = false) (noSlash : startsWith path "/" = false)
      (here : NamesBelow cwd names) : Departs cwd path names path

variable {path cwd rest : String} {start : List String}

/-! ### Reading the current directory -/

theorem namesBelow_namesOf (cwd : String) : NamesBelow cwd (namesOf cwd) := by
  rw [NamesBelow, namesOf]
  cases read : fullPieces '/' cwd with
  | nil => exact .inr ⟨rfl, by simp⟩
  | cons first others =>
    by_cases leading : first = root
    · simp [leading]
    · simp [leading]

theorem NamesBelow.eq_namesOf {names : List String} (h : NamesBelow cwd names) :
    namesOf cwd = names := by
  rw [namesOf]
  rcases h with read | ⟨read, different⟩
  · rw [read]
    exact if_pos rfl
  · rw [read]
    cases names with
    | nil => rfl
    | cons first others => exact if_neg fun leading => different (congrArg some leading)

/-- A name of the current directory is one of its segments. -/
theorem mem_fullPieces_of_mem_namesOf {name : String} (h : name ∈ namesOf cwd) :
    name ∈ fullPieces '/' cwd := by
  rcases namesBelow_namesOf cwd with read | ⟨read, -⟩
  · rw [read]
    exact List.mem_cons_of_mem _ h
  · rwa [read]

theorem isSegment_of_mem_namesOf {name : String} (h : name ∈ namesOf cwd) : IsSegment name := by
  have full := List.mem_filter.mp (mem_fullPieces_of_mem_namesOf h)
  exact ⟨of_decide_eq_true full.2, not_mem_of_mem_pieces full.1⟩

/-- Everything resolves to the printed form of some segments. -/
theorem segments_resolve (path cwd : String) :
    ∃ names, (∀ name ∈ names, IsSegment name) ∧ resolve path cwd = render names :=
  ⟨_, segments_follow (fun _ h => isSegment_of_mem_namesOf h) path, rfl⟩

/-! ### The walk on a stack -/

theorem step_reverse (stack : List String) (segment : String) :
    step stack.reverse segment = (stacked stack segment).reverse := by
  unfold stacked
  split
  · rfl
  · rfl
  · simp [step]
  · rename_i full stays climbs
    rw [step, if_neg (not_or.mpr ⟨full, stays⟩), if_neg climbs, List.reverse_cons]

theorem walk_reverse (stack segments : List String) :
    walk stack.reverse segments = (segments.foldl stacked stack).reverse := by
  induction segments generalizing stack with
  | nil => rfl
  | cons segment rest ih =>
    rw [List.foldl_cons, ← ih, ← step_reverse]
    rfl

/-! ### Where the walk starts -/

theorem pieces_fromTilde (rest : String) : pieces '/' ("~/" ++ rest) = root :: pieces '/' rest :=
  pieces_append_separator root rest

theorem pieces_fromSlash (rest : String) : pieces '/' ("/" ++ rest) = "" :: pieces '/' rest :=
  pieces_append_separator "" rest

/-- A path that neither is `~` nor starts with `~/` or `/` is walked from the current directory. -/
theorem follow_fromHere (names : List String) (other : path ≠ "~")
    (noTilde : startsWith path "~/" = false) (noSlash : startsWith path "/" = false) :
    follow names path = walk names (pieces '/' path) := by
  have whole : glue '/' (pieces '/' path) = path := glue_pieces path
  rw [follow]
  cases cut : pieces '/' path with
  | nil => exact absurd cut (pieces_ne_nil path)
  | cons first others =>
    rw [cut] at whole
    have longer : others ≠ [] → path = first ++ "/" ++ glue '/' others := by
      intro more
      calc path
        _ = glue '/' ([first] ++ others) := whole.symm
        _ = glue '/' [first] ++ "/" ++ glue '/' others :=
          glue_append (List.cons_ne_nil first []) more
        _ = first ++ "/" ++ glue '/' others := by rw [glue_singleton]
    apply if_neg
    rintro (rfl | ⟨rfl, more⟩)
    · by_cases more : others = []
      · subst more
        exact other whole.symm
      · have starts : startsWith path "~/" = true := startsWith_iff.mpr ⟨_, longer more⟩
        exact Bool.false_ne_true (noTilde.symm.trans starts)
    · have starts : startsWith path "/" = true := startsWith_iff.mpr ⟨_, longer more⟩
      exact Bool.false_ne_true (noSlash.symm.trans starts)

/-- Every path has one of the four forms. -/
theorem exists_departs (path cwd : String) : ∃ start rest, Departs cwd path start rest := by
  by_cases home : path = "~"
  · subst home
    exact ⟨_, _, .home⟩
  by_cases tilde : startsWith path "~/" = true
  · obtain ⟨rest, rfl⟩ := startsWith_iff.mp tilde
    exact ⟨_, _, .fromTilde rest⟩
  by_cases slash : startsWith path "/" = true
  · obtain ⟨rest, rfl⟩ := startsWith_iff.mp slash
    exact ⟨_, _, .fromSlash rest⟩
  · exact ⟨_, _, .fromHere home (Bool.eq_false_iff.mpr tilde) (Bool.eq_false_iff.mpr slash)
      (namesBelow_namesOf cwd)⟩

/-- The result of resolving is what the stack holds after the walk, from bottom to top. -/
theorem Departs.resolve_eq (departs : Departs cwd path start rest) :
    resolve path cwd = render ((pieces '/' rest).foldl stacked start.reverse).reverse := by
  rw [← walk_reverse, List.reverse_reverse, resolve]
  cases departs with
  | home => rfl
  | fromTilde =>
    rw [follow, pieces_fromTilde]
    simp
  | fromSlash =>
    rw [follow, pieces_fromSlash]
    simp [pieces_ne_nil]
  | fromHere other noTilde noSlash here =>
    rw [here.eq_namesOf, follow_fromHere start other noTilde noSlash]

/-! ### What a result looks like -/

/-- The printed form of some segments is `~`, or `~/` and more. -/
theorem render_startsWith (names : List String) :
    render names = root ∨ startsWith (render names) "~/" = true := by
  cases names with
  | nil => exact .inl render_nil
  | cons name rest =>
    have more : render ([] ++ name :: rest) = render [] ++ "/" ++ glue '/' (name :: rest) :=
      render_append (List.cons_ne_nil name rest)
    exact .inr (startsWith_iff.mpr ⟨_, more⟩)

theorem exists_render_eq (names : List String) : ∃ rest, render names = root ++ rest := by
  rcases render_startsWith names with same | starts
  · exact ⟨"", by rw [same, String.append_empty]⟩
  · obtain ⟨rest, same⟩ := startsWith_iff.mp starts
    exact ⟨"/" ++ rest, by rw [same, ← String.append_assoc]; rfl⟩

end Path

/-- A look-up that does not start outside the tree is never refused as an invalid path. -/
theorem Miss.failure_ne_invalidPath {found : Except Miss Node} (inside : found ≠ .error .outside)
    (path named : String) : found.mapError (Miss.failure path) ≠ .error (.invalidPath named) := by
  intro refused
  cases found with
  | ok node => cases refused
  | error miss =>
    cases miss with
    | absent => cases refused
    | notADirectory => cases refused
    | outside => exact inside rfl

/-- A resolved path never starts outside the tree. -/
theorem Tree.find_resolve_ne_outside (tree : Tree) (path cwd : String) :
    tree.find (Path.resolve path cwd) ≠ .error .outside := by
  obtain ⟨names, segments, result⟩ := Path.segments_resolve path cwd
  rw [result, Tree.find_render segments]
  exact Node.descend_ne_outside tree.root names

theorem View.lookup_ne_invalidPath (view : View) (path named : String) :
    view.lookup path ≠ .error (.invalidPath named) := by
  have found : view.nodeAt path ≠ .error (.invalidPath named) :=
    Miss.failure_ne_invalidPath
      (view.tree.find_resolve_ne_outside path view.session.cwd) path named
  rw [View.lookup]
  cases node : view.nodeAt path with
  | ok node => exact nofun
  | error failure =>
    intro refused
    injection refused with same
    exact found (node.trans (congrArg Except.error same))

namespace Path

open StoryShell.Text

/-- Resolving any path in a directory of any name yields `~` or a path that starts with `~/` and
has no empty segment, which no look-up calls invalid. It spells what the stack holds after the walk
from where the path departs. If the directory's name has no segment `.` or `..`, neither has the
result, and the result resolves to itself in every directory. -/
theorem resolve_is_canonical (path cwd : String) :
    (resolve path cwd = root ∨ startsWith (resolve path cwd) "~/" = true) ∧
      "" ∉ pieces '/' (resolve path cwd) ∧
      (∀ (tree : Tree) (named : String),
        tree.lookup (resolve path cwd) ≠ .error (.invalidPath named)) ∧
      (∀ (view : View) (named : String), view.session.cwd = cwd →
        view.lookup path ≠ .error (.invalidPath named)) ∧
      (∃ start rest, Departs cwd path start rest) ∧
      (∀ start rest, Departs cwd path start rest → resolve path cwd =
        render ((pieces '/' rest).foldl stacked start.reverse).reverse) ∧
      ((∀ segment ∈ fullPieces '/' cwd, segment ≠ "." ∧ segment ≠ "..") →
        (∀ segment ∈ pieces '/' (resolve path cwd), segment ≠ "." ∧ segment ≠ "..") ∧
          ∀ elsewhere, resolve (resolve path cwd) elsewhere = resolve path cwd) := by
  obtain ⟨names, segments, result⟩ := segments_resolve path cwd
  have cut : pieces '/' (resolve path cwd) = root :: names := by
    rw [result, pieces_render segments]
  refine ⟨result ▸ render_startsWith names, ?_, ?_, ?_, exists_departs path cwd,
    fun _ _ departs => departs.resolve_eq, ?_⟩
  · rw [cut]
    intro empty
    exact (isSegment_root_cons segments "" empty).1 rfl
  · intro tree named
    exact Miss.failure_ne_invalidPath (tree.find_resolve_ne_outside path cwd) _ named
  · intro view named _
    exact view.lookup_ne_invalidPath path named
  · intro undotted
    have proper : ∀ name ∈ namesOf cwd, IsProper name := by
      intro name hname
      exact ⟨isSegment_of_mem_namesOf hname, undotted name (mem_fullPieces_of_mem_namesOf hname)⟩
    have ends : ∀ name ∈ follow (namesOf cwd) path, IsProper name := proper_follow proper path
    refine ⟨?_, fun elsewhere => resolve_render ends elsewhere⟩
    intro segment hsegment
    rw [resolve, pieces_render (segments_of_proper ends)] at hsegment
    rcases List.mem_cons.mp hsegment with rfl | hsegment
    · decide
    · exact (ends segment hsegment).2

/-- A view from a directory whose path is written untidily. -/
def untidyView : View :=
  { state := { session := { cwd := "/~//a/b" }, tree := {} }, config := {}, history := {} }

/-- From there `..` climbs once, and the inner `~` is a name like any other. -/
theorem resolve_in_untidy_directory :
    untidyView.session.cwd = "/~//a/b" ∧
      (∀ named, untidyView.lookup "../c/./~//" ≠ .error (.invalidPath named)) ∧
      Departs "/~//a/b" "../c/./~//" ["a", "b"] "../c/./~//" ∧
      resolve "../c/./~//" "/~//a/b" = "~/a/c/~" ∧
      (∀ segment ∈ fullPieces '/' "/~//a/b", segment ≠ "." ∧ segment ≠ "..") ∧
      ∀ elsewhere, resolve "~/a/c/~" elsewhere = "~/a/c/~" := by
  obtain ⟨-, -, -, found, -, spells, stable⟩ := resolve_is_canonical "../c/./~//" "/~//a/b"
  have departs : Departs "/~//a/b" "../c/./~//" ["a", "b"] "../c/./~//" :=
    .fromHere (by decide) (by decide) (by decide) (.inl (by decide))
  have result : resolve "../c/./~//" "/~//a/b" = "~/a/c/~" :=
    (spells _ _ departs).trans (by decide)
  have undotted : ∀ segment ∈ fullPieces '/' "/~//a/b", segment ≠ "." ∧ segment ≠ ".." := by
    decide
  refine ⟨rfl, fun named => found untidyView named rfl, departs, result, undotted, ?_⟩
  intro elsewhere
  rw [← result]
  exact (stable undotted).2 elsewhere

end Path

end StoryShell
