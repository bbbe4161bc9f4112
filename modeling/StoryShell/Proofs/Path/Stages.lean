/-
# Going in stages

A path that is put together from two with a slash between them leads where the second
one leads from where the first one leads, as long as the first is not empty and the
second is walked from the current directory. Slashes at the end of the first path and
steps above the root make no difference, and neither does how the current directory's
name is written. So whoever gets somewhere by two `cd` gets there by one.

The converse is not claimed: the path as a whole may lead up again from a directory
that is not there.
-/

import StoryShell.Proofs.Builtin.Requests
import StoryShell.Proofs.Changes
import StoryShell.Proofs.Path.Resolving

namespace StoryShell

namespace Path

open StoryShell.Text

variable {first second : String}

theorem walk_append (names segments more : List String) :
    walk names (segments ++ more) = walk (walk names segments) more :=
  List.foldl_append

/-- The pieces of the second path are walked from where the first path leads. An empty first path
would turn the slash into one that starts at the root. -/
theorem follow_stages (full : first ≠ "") (names : List String) (second : String) :
    follow names (first ++ "/" ++ second) = walk (follow names first) (pieces '/' second) := by
  have cut : pieces '/' (first ++ "/" ++ second) = pieces '/' first ++ pieces '/' second :=
    pieces_append_separator first second
  have whole : glue '/' (pieces '/' first) = first := glue_pieces first
  rw [follow, cut, follow]
  cases typed : pieces '/' first with
  | nil => exact absurd typed (pieces_ne_nil first)
  | cons head rest =>
    -- An empty first piece is followed by others, with or without the second path.
    have more : head = "" → rest ≠ [] := by
      rintro rfl rfl
      rw [typed, glue_singleton] at whole
      exact full whole.symm
    have longer : rest ++ pieces '/' second ≠ [] :=
      List.append_ne_nil_of_right_ne_nil rest (pieces_ne_nil second)
    by_cases rooted : head = root ∨ head = ""
    · have here : head = root ∨ (head = "" ∧ rest ≠ []) :=
        rooted.imp_right fun empty => ⟨empty, more empty⟩
      have there : head = root ∨ (head = "" ∧ rest ++ pieces '/' second ≠ []) :=
        rooted.imp_right fun empty => ⟨empty, longer⟩
      simp only [List.cons_append, if_pos here, if_pos there, walk_append]
    · have here : ¬ (head = root ∨ (head = "" ∧ rest ≠ [])) :=
        fun other => rooted (other.imp_right And.left)
      have there : ¬ (head = root ∨ (head = "" ∧ rest ++ pieces '/' second ≠ [])) :=
        fun other => rooted (other.imp_right And.left)
      simp only [List.cons_append, if_neg here, if_neg there, ← walk_append]

/-- A path in two parts resolves in two stages. -/
theorem resolve_stages (full : first ≠ "") (other : second ≠ root)
    (noTilde : startsWith second "~/" = false) (noSlash : startsWith second "/" = false)
    (cwd : String) : resolve (first ++ "/" ++ second) cwd = resolve second (resolve first cwd) := by
  let middle := follow (namesOf cwd) first
  have segments : ∀ name ∈ middle, IsSegment name :=
    segments_follow (fun _ => isSegment_of_mem_namesOf) first
  calc resolve (first ++ "/" ++ second) cwd
    _ = render (walk middle (pieces '/' second)) := congrArg render (follow_stages full _ second)
    _ = render (follow middle second) := by rw [follow_fromHere middle other noTilde noSlash]
    _ = render (follow (namesOf (render middle)) second) := by rw [namesOf_render segments]

end Path

namespace View

/-- Going to a path with `cd` succeeds and leads to a state. -/
def GoesTo (view : View) (path : String) (next : State) : Prop :=
  ∃ outcome, Builtin.cd.run [path] view = .ok outcome ∧
    view.state.commit outcome.changes = (none, next)

variable {view later : View} {path : String} {next : State}

/-- One goes to the directories that there are, and only the current directory changes. -/
theorem goesTo_iff :
    view.GoesTo path next ↔
      (∃ children hidden, view.tree.find (view.resolve path) = .ok (.directory children hidden)) ∧
        next = { view.state with session := { view.session with cwd := view.resolve path } } := by
  constructor
  · rintro ⟨outcome, ran, made⟩
    obtain ⟨node, found, ran⟩ := exists_of_bind_ok ran
    cases node with
    | directory children hidden =>
      cases ran
      obtain ⟨sameTree, moved⟩ := State.commit_one_iff.mp made
      have kept : next.tree = view.state.tree := (Except.ok.inj sameTree).symm
      exact ⟨⟨children, hidden, nodeAt_ok found⟩, congrArg₂ State.mk moved kept⟩
    | file content hidden | executable entry content hidden => cases ran
  · rintro ⟨⟨children, hidden, found⟩, rfl⟩
    refine ⟨{ changes := [.setCwd (view.resolve path)] }, ?_, State.commit_one_iff.mpr ⟨rfl, rfl⟩⟩
    rw [Builtin.run, Files.enter, nodeAt, found]
    rfl

/-- From where one directory was gone to, another one is gone to by its path behind the first. -/
theorem GoesTo.trans {first second : String} (goes : view.GoesTo first later.state)
    (onward : later.GoesTo second next)
    (stages : view.resolve (first ++ "/" ++ second) =
      Path.resolve second (view.resolve first)) : view.GoesTo (first ++ "/" ++ second) next := by
  obtain ⟨-, middle⟩ := goesTo_iff.mp goes
  obtain ⟨reached, last⟩ := goesTo_iff.mp onward
  have sameTree : later.tree = view.tree := by simp only [tree, middle]
  have there : later.resolve second = view.resolve (first ++ "/" ++ second) := by
    have cwd : later.session.cwd = view.resolve first := by simp only [session, middle]
    rw [stages, resolve, cwd]
  rw [sameTree, there] at reached
  refine goesTo_iff.mpr ⟨reached, ?_⟩
  rw [last, there, session, middle]

end View

namespace Path

open StoryShell.Text

/-- Two paths put together with a slash between them lead, from everywhere, to where the second
leads from where the first leads: if the first is not empty, and the second does not start with `/`
or `~/` and is not `~`, slashes at its end aside. So whoever goes to the first and from there to the
second can go to both at once, and is left in the same state. -/
theorem going_in_stages {first second : String} (full : first ≠ "")
    (noSlash : startsWith second "/" = false) (noTilde : startsWith second "~/" = false)
    (notHome : trimEnd '/' second ≠ root) :
    (∀ cwd, resolve (first ++ "/" ++ second) cwd = resolve second (resolve first cwd)) ∧
    ∀ (view later : View) (last : State), view.GoesTo first later.state →
      later.GoesTo second last → view.GoesTo (first ++ "/" ++ second) last := by
  have other : second ≠ root := by
    rintro rfl
    exact notHome (by decide)
  have stages := resolve_stages full other noTilde noSlash
  exact ⟨stages, fun view _ _ goes onward => goes.trans onward (stages view.session.cwd)⟩

/-- A view of a house from one of its rooms. -/
def houseView (cwd : String) : View :=
  { state :=
      { session := { cwd }
        tree :=
          { children := [("attic", .folder []),
              ("cellar", .folder [("shelf", .folder [("jar", .textFile "honey")])])] } }
    config := {}
    history := {} }

/-- From the attic through the roof into the cellar, and there to the shelf. -/
theorem going_in_stages_from_attic :
    (houseView "~/attic").GoesTo "../../cellar//" (houseView "~/cellar").state ∧
      (houseView "~/cellar").GoesTo "./shelf//" (houseView "~/cellar/shelf").state ∧
      resolve "../../cellar///./shelf//" "~/attic" = "~/cellar/shelf" ∧
      (houseView "~/attic").GoesTo "../../cellar///./shelf//"
        (houseView "~/cellar/shelf").state := by
  have full : "../../cellar//" ≠ "" := by decide
  have noSlash : startsWith "./shelf//" "/" = false := by decide
  have noTilde : startsWith "./shelf//" "~/" = false := by decide
  have notHome : trimEnd '/' "./shelf//" ≠ root := by decide
  obtain ⟨stages, goes⟩ := going_in_stages full noSlash noTilde notHome
  have cellar : (houseView "~/attic").GoesTo "../../cellar//" (houseView "~/cellar").state :=
    View.goesTo_iff.mpr ⟨⟨_, _, rfl⟩, rfl⟩
  have shelf : (houseView "~/cellar").GoesTo "./shelf//" (houseView "~/cellar/shelf").state :=
    View.goesTo_iff.mpr ⟨⟨_, _, rfl⟩, rfl⟩
  refine ⟨cellar, shelf, ?_, goes _ _ _ cellar shelf⟩
  calc resolve "../../cellar///./shelf//" "~/attic"
    _ = resolve "./shelf//" (resolve "../../cellar//" "~/attic") := stages "~/attic"
    _ = "~/cellar/shelf" := by decide

end Path

end StoryShell
