/-
# The tree of a terminal stays in name order

A change puts one node into the tree, takes one out or leaves the tree alone, so an
ordered tree stays ordered if every node that is put in is ordered. The built-in
commands put in parts of the world only, and these are ordered. So the tree of a
terminal with the built-in commands is ordered at every moment if it was so at the
start, and the story's own tree is ordered at the start.
-/

import StoryShell.Proofs.Changes
import StoryShell.Proofs.Terminal.Echoing
import StoryShell.Proofs.Terminal.Frames
import StoryShell.Proofs.Tree.Ordered
import StoryShell.Proofs.World.Parts

namespace StoryShell

/-! ### Changes -/

/-- A change puts in ordered nodes only. -/
def Change.IsOrdered : Change → Prop
  | mount _ _ node => node.Ordered
  | _ => True

theorem Tree.Ordered.apply {tree next : Tree} {change : Change} (ordered : tree.Ordered)
    (fits : change.IsOrdered) (made : tree.apply change = .ok next) : next.Ordered := by
  cases change with
  | mount parent name node => exact ordered.mount fits made
  | unmount parent name =>
    rw [Tree.apply] at made
    cases taken : tree.unmount parent name with
    | error failure =>
      rw [taken] at made
      cases made
    | ok result =>
      rw [taken] at made
      cases made
      exact ordered.unmount taken
  | setCwd | logIn | logOut | countFailure | setFlag | clearFlag =>
    cases made
    exact ordered

theorem State.ordered_applyAll {state next : State} {changes : List Change}
    (ordered : state.tree.Ordered) (fit : ∀ change ∈ changes, change.IsOrdered)
    (made : state.applyAll changes = .ok next) : next.tree.Ordered := by
  induction changes generalizing state with
  | nil =>
    cases made
    exact ordered
  | cons change rest ih =>
    rw [applyAll_cons] at made
    obtain ⟨after, first, others⟩ := exists_of_bind_ok made
    have kept := ordered.apply (fit change List.mem_cons_self) (apply_eq_ok_iff.mp first).1
    exact ih kept (fun later member => fit later (List.mem_cons_of_mem _ member)) others

/-! ### What the built-in commands ask for -/

theorem Network.isOrdered_connection {name : String} {files : Node} (ordered : files.Ordered)
    (flags : List (String × FlagValue)) :
    ∀ change ∈ connection name files flags, change.IsOrdered := by
  intro change member
  rcases mem_connection member with rfl | ⟨flag, value, rfl⟩
  · exact ordered
  · trivial

theorem Network.isOrdered_disconnection (name : String) (flags : List String) (view : View) :
    ∀ change ∈ (disconnection name flags view).changes, change.IsOrdered := by
  intro change member
  rcases mem_disconnection member with rfl | ⟨flag, rfl⟩ | rfl <;> trivial

theorem Credential.ordered_revealed {credential : Credential} {part : String × Node}
    (revealed : credential.revealed? = some part) : part.2.Ordered := by
  obtain ⟨name, -, shown⟩ := Option.bind_eq_some_iff.mp revealed
  exact World.ordered_reveal shown

/-- Whatever a built-in command asks to be put in is ordered. -/
theorem Request.isOrdered {view : View} {login : Option Credential} {changes : List Change}
    (request : Request view login changes) : ∀ change ∈ changes, change.IsOrdered := by
  cases request with
  | nothing => exact fun change member => absurd member List.not_mem_nil
  | goes found | failsLogin | logsOut loggedIn =>
    intro change member
    rw [List.mem_singleton.mp member]
    trivial
  | @logsIn credential known =>
    intro change member
    rcases List.mem_cons.mp member with rfl | mounted
    · trivial
    · rw [Option.mem_toList, Option.map_eq_some_iff] at mounted
      obtain ⟨part, revealed, rfl⟩ := mounted
      exact credential.ordered_revealed revealed
  | connectsShare => exact Network.isOrdered_connection World.ordered_share _
  | connectsPortal => exact Network.isOrdered_connection World.ordered_portalFiles _
  | leavesShare connected | leavesPortal connected => exact Network.isOrdered_disconnection _ _ _

/-! ### Runs -/

namespace Terminal

variable {terminal : Terminal}

/-- A line keeps the tree ordered, whether its changes are made or refused. -/
theorem IsStandard.ordered_submit (standard : terminal.IsStandard)
    (ordered : terminal.state.tree.Ordered) (line : String) :
    (terminal.submit line).1.state.tree.Ordered := by
  by_cases settled : ∃ outcome, terminal.outcome? line = some (.ok outcome)
  · obtain ⟨outcome, found⟩ := settled
    cases made : terminal.state.applyAll outcome.changes with
    | error failure =>
      rw [submit_of_refused found made]
      exact ordered
    | ok next =>
      rw [submit_of_done found made]
      exact State.ordered_applyAll ordered
        (outcome?_isStandard standard found).requests.isOrdered made
  · rw [submit_eq_record fun outcome found => settled ⟨outcome, found⟩]
    exact ordered

theorem IsStandard.ordered_act (standard : terminal.IsStandard)
    (ordered : terminal.state.tree.Ordered) (action : Action) :
    (terminal.act action).state.tree.Ordered := by
  cases submits : action.submitted? with
  | none =>
    obtain ⟨cursor, moved⟩ := exists_act_eq terminal submits
    rw [moved]
    exact ordered
  | some line =>
    rw [eq_submit_of_submitted? submits]
    exact standard.ordered_submit ordered line

theorem IsStandard.ordered_perform (standard : terminal.IsStandard)
    (ordered : terminal.state.tree.Ordered) (actions : List Action) :
    (terminal.perform actions).state.tree.Ordered := by
  induction actions generalizing terminal with
  | nil => exact ordered
  | cons action rest ih => exact ih (standard.act action) (standard.ordered_act ordered action)

/-- However the terminal that a configuration starts is used, every directory of its tree stays in
name order. -/
theorem ordered_of_start {config : Config} {start : Terminal}
    (started : Terminal.start config = .ok start) (actions : List Action) :
    (start.perform actions).state.tree.Ordered := by
  obtain ⟨accepted, -, opened⟩ := exists_of_bind_ok started
  rw [World.ofNode_home] at opened
  cases opened
  exact (isStandard_onTree accepted World.atStart).ordered_perform World.ordered_home actions

end Terminal

end StoryShell
