/-
# What a line leaves alone

A session has several parts, and most changes leave most of them alone. What all
changes that a line asks for leave alone, the line leaves alone, whatever becomes
of it: its changes are made or refused, it fails, or it has no words.

The changes of a connection and of a disconnection are named here one by one, so
that what leaves a part alone is read off their kinds.
-/

import StoryShell.Proofs.Terminal.Moves

namespace StoryShell

variable {α : Type _} {part : Session → α}

/-- Some changes leave a part of every session as it is. -/
def LeaveAlone (part : Session → α) (changes : List Change) : Prop :=
  ∀ change ∈ changes, ∀ session : Session, part (session.apply change) = part session

theorem leaveAlone_nil : LeaveAlone part [] := by
  simp [LeaveAlone]

theorem leaveAlone_singleton {change : Change} :
    LeaveAlone part [change] ↔ ∀ session : Session, part (session.apply change) = part session := by
  simp [LeaveAlone]

theorem LeaveAlone.foldl {changes : List Change} (alone : LeaveAlone part changes)
    (session : Session) : part (changes.foldl Session.apply session) = part session := by
  induction changes generalizing session with
  | nil => rfl
  | cons change rest ih =>
    rw [List.foldl_cons, ih fun later member => alone later (List.mem_cons_of_mem _ member),
      alone change List.mem_cons_self]

theorem LeaveAlone.applyAll {changes : List Change} {state next : State}
    (alone : LeaveAlone part changes) (made : state.applyAll changes = .ok next) :
    part next.session = part state.session := by
  rw [State.session_applyAll made, alone.foldl]

namespace Network

variable {name : String} {change : Change}

theorem mem_connection {files : Node} {flags : List (String × FlagValue)}
    (member : change ∈ connection name files flags) :
    change = .mount Path.root name files ∨ ∃ flag value, change = .setFlag flag value := by
  rcases List.mem_cons.mp member with same | member
  · exact .inl same
  · obtain ⟨⟨flag, value⟩, -, rfl⟩ := List.mem_map.mp member
    exact .inr ⟨flag, value, rfl⟩

theorem mem_disconnection {flags : List String} {view : View}
    (member : change ∈ (disconnection name flags view).changes) :
    change = .unmount Path.root name ∨ (∃ flag, change = .clearFlag flag) ∨
      change = .setCwd Path.root := by
  rw [disconnection] at member
  rcases List.mem_append.mp member with member | member
  · rcases List.mem_cons.mp member with same | member
    · exact .inl same
    · obtain ⟨flag, -, rfl⟩ := List.mem_map.mp member
      exact .inr (.inl ⟨flag, rfl⟩)
  · split at member
    · exact .inr (.inr (List.mem_singleton.mp member))
    · cases member

/-- A connection leaves alone what the flags do not touch. -/
theorem leaveAlone_connection {files : Node} {flags : List (String × FlagValue)}
    (flag : ∀ flag value (session : Session),
      part (session.apply (.setFlag flag value)) = part session) :
    LeaveAlone part (connection name files flags) := by
  intro change member session
  rcases mem_connection member with rfl | ⟨which, value, rfl⟩
  · rfl
  · exact flag which value session

/-- A disconnection leaves alone what neither the flags nor the current directory touch. -/
theorem leaveAlone_disconnection {flags : List String} {view : View}
    (flag : ∀ flag (session : Session), part (session.apply (.clearFlag flag)) = part session)
    (home : ∀ session : Session, part (session.apply (.setCwd Path.root)) = part session) :
    LeaveAlone part (disconnection name flags view).changes := by
  intro change member session
  rcases mem_disconnection member with rfl | ⟨which, rfl⟩ | rfl
  · rfl
  · exact flag which session
  · exact home session

end Network

namespace Terminal

variable {terminal : Terminal} {line : String}

/-- A line leaves alone what all of its changes leave alone. -/
theorem part_submit (alone : ∀ outcome, terminal.outcome? line = some (.ok outcome) →
      LeaveAlone part outcome.changes) :
    part (terminal.submit line).1.state.session = part terminal.state.session := by
  by_cases settled : ∃ outcome, terminal.outcome? line = some (.ok outcome)
  · obtain ⟨outcome, found⟩ := settled
    cases made : terminal.state.applyAll outcome.changes with
    | error failure =>
      rw [submit_of_refused found made]
      rfl
    | ok next =>
      rw [submit_of_done found made]
      exact (alone outcome found).applyAll made
  · have silent : ∀ outcome, terminal.outcome? line ≠ some (.ok outcome) := by
      intro outcome found
      exact settled ⟨outcome, found⟩
    rw [submit_eq_record silent]
    rfl

end Terminal

end StoryShell
