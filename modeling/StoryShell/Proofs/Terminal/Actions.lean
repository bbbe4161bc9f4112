/-
# What is done at a terminal

Between two submitted lines a user may recall older lines and have a line completed
that is still being typed. Neither does anything but move the cursor of the history:
whatever else a terminal holds, the entries of the history included, only submitting
changes. So what is told of the lines submitted in a row holds with recall and
completion in between.
-/

import StoryShell.Completion
import StoryShell.Proofs.Recall
import StoryShell.Proofs.Terminal.Pipeline

namespace StoryShell

namespace Terminal

/-- What a user can do at a terminal. -/
inductive Action
  | submit (line : String)
  | recallBack
  | recallForward
  /-- Ask for the completion of a line that is still being typed. -/
  | complete (line : String)

/-- The line that an action submits. -/
def Action.submitted? : Action → Option String
  | submit line => some line
  | recallBack => none
  | recallForward => none
  | complete _ => none

/-- The lines that some actions submit, in order. -/
def Action.lines (actions : List Action) : List String :=
  actions.filterMap Action.submitted?

/-- The terminal after an action. Completing a line only reads. -/
def act (terminal : Terminal) : Action → Terminal
  | .submit line => (terminal.submit line).1
  | .recallBack => terminal.recallBack
  | .recallForward => terminal.recallForward
  | .complete _ => terminal

/-- The terminal after some actions in order. -/
def perform (terminal : Terminal) (actions : List Action) : Terminal :=
  actions.foldl act terminal

variable {terminal : Terminal} {action : Action}

/-- An action that submits nothing moves at most the cursor of the history. -/
theorem exists_act_eq (terminal : Terminal) (nothing : action.submitted? = none) :
    ∃ cursor, terminal.act action =
      { terminal with history := { terminal.history with cursor } } := by
  cases action with
  | submit line => cases nothing
  | recallBack =>
    obtain ⟨cursor, moved⟩ := terminal.history.exists_back_eq
    exact ⟨cursor, by rw [act, recallBack, moved]⟩
  | recallForward =>
    obtain ⟨cursor, moved⟩ := terminal.history.exists_forward_eq
    exact ⟨cursor, by rw [act, recallForward, moved]⟩
  | complete line => exact ⟨terminal.history.cursor, rfl⟩

theorem eq_submit_of_submitted? {line : String} (submits : action.submitted? = some line) :
    action = .submit line := by
  cases action with
  | submit other =>
    cases submits
    rfl
  | recallBack | recallForward | complete other => cases submits

end Terminal

end StoryShell
