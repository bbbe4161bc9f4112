/-
# Every batch begins with the only echo

The first line of a batch shows what the screen showed when the line was submitted: the
prompt as it was then, and the line behind it, or as many stars as the line has characters
if a password was asked for. With the built-in commands no other line is an echo, for
whatever a command prints, an answer leads to or a failure is told by is a line of the
system or a report. So a transcript, which leaves the echoes out, leaves out one line of
each batch.
-/

import StoryShell.Cli.Transcript
import StoryShell.Proofs.Terminal.Actions
import StoryShell.Proofs.Terminal.Standard

namespace StoryShell

/-- No line of a batch repeats what was typed. -/
def Batch.EchoFree (batch : Batch) : Prop :=
  ∀ line ∈ batch, line.kind = .system ∨ line.kind = .error

theorem OutputLine.isEcho_eq_false {line : OutputLine} :
    line.isEcho = false ↔ line.kind = .system ∨ line.kind = .error := by
  rw [isEcho]
  cases line.kind <;> simp

namespace Batch

theorem echoFree_system (texts : List String) : EchoFree (texts.map OutputLine.system) := by
  simp [EchoFree, OutputLine.system]

theorem echoFree_error (text : String) : EchoFree [OutputLine.error text] := by
  simp [EchoFree, OutputLine.error]

/-- Leaving the echoes out of a batch that begins with the only one leaves the others. -/
theorem EchoFree.filter_cons {echo : OutputLine} {rest : Batch} (free : EchoFree rest)
    (repeats : echo.isEcho = true) :
    (echo :: rest).filter OutputLine.isEcho = [echo] ∧
      (echo :: rest).filter (fun line => !line.isEcho) = rest := by
  have silent : ∀ line ∈ rest, line.isEcho = false := by
    intro line member
    exact OutputLine.isEcho_eq_false.mpr (free line member)
  constructor
  · rw [List.filter_cons_of_pos repeats, List.filter_eq_nil_iff.mpr]
    intro line member
    rw [silent line member]
    exact Bool.false_ne_true
  · rw [List.filter_cons_of_neg (by simp [repeats]), List.filter_eq_self]
    intro line member
    rw [silent line member]
    rfl

end Batch

open Batch

/-! ### What commands and answers print -/

variable {view : View} {outcome : Outcome} {arguments : List String}

theorem Builtin.Yields.echoFree {which : Builtin} (h : which.Yields arguments view outcome) :
    EchoFree outcome.output := by
  cases h with
  | tells speaks lines => exact echoFree_system lines
  | goes found => exact nofun
  | asksPassword => exact nofun
  | logsOut loggedIn => exact echoFree_system [_]
  | asksEmployee free => exact nofun
  | leavesShare connected => exact echoFree_system [_]
  | asksUsername bare free => exact nofun
  | leavesPortal connected => exact echoFree_system [_]

namespace Account

theorem echoFree_welcome (username : String) (credential : Credential) :
    EchoFree (welcome username credential).output := by
  cases revealed : credential.reveal.bind World.reveal? with
  | none =>
    simp only [welcome, revealed]
    exact echoFree_system [_, _]
  | some part =>
    simp only [welcome, revealed]
    exact echoFree_system [_, _, _]

theorem echoFree_refuse (username : String) (view : View) :
    EchoFree (refuse username view).output := by
  by_cases hints : view.config.login.hintAfter ≤ Session.oneMore view.session.attempts
  · simp [EchoFree, refuse, hints, OutputLine.error, OutputLine.system]
  · simp [EchoFree, refuse, hints, OutputLine.error]

theorem echoFree_checkPassword (username password : String) (view : View) :
    EchoFree (checkPassword username password view).output := by
  rw [checkPassword]
  cases accepted? view.config username password with
  | some credential => exact echoFree_welcome username credential
  | none => exact echoFree_refuse username view

end Account

theorem Network.echoFree_checkShare {employeeId code : String}
    (h : checkShare employeeId code view = .ok outcome) : EchoFree outcome.output := by
  rw [checkShare] at h
  split at h
  · cases h
    exact echoFree_system [_, _]
  · cases h

theorem Network.echoFree_checkPortal {username password token : String}
    (h : checkPortal username password token view = .ok outcome) : EchoFree outcome.output := by
  rw [checkPortal] at h
  split at h
  · cases h
    exact echoFree_system [_, _, _]
  · cases h

/-- An answer to one of the terminal's own questions prints no echo. -/
theorem Dialog.echoFree_answer {dialog : Dialog} {line : String}
    (standard : dialog.question?.isSome = true) (h : dialog.answer line view = .ok outcome) :
    EchoFree outcome.output := by
  cases dialog with
  | loginPassword username =>
    cases h
    exact Account.echoFree_checkPassword username line view
  | shareEmployee =>
    cases h
    exact nofun
  | shareCode employeeId => exact Network.echoFree_checkShare h
  | portalUsername =>
    cases h
    exact nofun
  | portalPassword username =>
    cases h
    exact nofun
  | portalToken username password => exact Network.echoFree_checkPortal h
  | scripted next => cases standard

namespace Terminal

variable {terminal : Terminal} {line : String}

/-! ### What a line prints -/

theorem outcome?_echoFree (h : terminal.IsStandard)
    (found : terminal.outcome? line = some (.ok outcome)) : EchoFree outcome.output := by
  cases pending : terminal.pending with
  | some prompt =>
    rw [outcome?_of_pending pending, Option.some.injEq] at found
    exact Dialog.echoFree_answer (h.pending prompt pending).isSome found
  | none =>
    rcases exists_runs h pending found with ⟨lines, rfl⟩ | ⟨which, arguments, -, yields⟩
    · exact echoFree_system lines
    · exact yields.echoFree

/-- The first line of a batch is the echo. -/
theorem exists_batch_eq (terminal : Terminal) (line : String) :
    ∃ rest, (terminal.submit line).2 = terminal.echo line :: rest :=
  ⟨_, rfl⟩

/-- With the built-in commands it is the only one, however the line ends. -/
theorem IsStandard.echoFree_tail (h : terminal.IsStandard) (line : String) :
    EchoFree (terminal.submit line).2.tail := by
  cases found : terminal.outcome? line with
  | none =>
    rw [submit_of_wordless found]
    exact nofun
  | some result =>
    cases result with
    | error failure =>
      rw [submit_of_failed found]
      exact echoFree_error _
    | ok outcome =>
      cases made : terminal.state.applyAll outcome.changes with
      | error failure =>
        rw [submit_of_refused found made]
        exact echoFree_error _
      | ok state =>
        rw [submit_of_done found made]
        exact outcome?_echoFree h found

theorem isEcho_echo (terminal : Terminal) (line : String) :
    (terminal.echo line).isEcho = true := by
  rw [echo]
  cases terminal.pending <;> rfl

/-- The echo is the prompt and the line behind it, masked if a password was asked for. -/
theorem echo_eq (terminal : Terminal) (line : String) :
    terminal.echo line =
      ⟨if terminal.isAwaiting then .inputEcho else .commandEcho,
        terminal.promptText ++
          if terminal.isMasked then String.ofList (List.replicate line.length '*') else line⟩ := by
  rw [← Text.masked_eq_replicate, echo, isAwaiting, isMasked, promptText]
  cases terminal.pending with
  | none => rfl
  | some prompt => rfl

/-! ### Terminals in use -/

theorem IsStandard.act (h : terminal.IsStandard) (action : Action) :
    (terminal.act action).IsStandard := by
  cases submits : action.submitted? with
  | none =>
    obtain ⟨cursor, moved⟩ := exists_act_eq terminal submits
    rw [moved]
    exact ⟨h.table, h.pending⟩
  | some line =>
    rw [eq_submit_of_submitted? submits]
    exact h.submit line

theorem IsStandard.perform (h : terminal.IsStandard) (actions : List Action) :
    (terminal.perform actions).IsStandard := by
  induction actions generalizing terminal with
  | nil => exact h
  | cons action rest ih => exact ih (h.act action)

/-- In whatever state a terminal is, a batch begins with what was on the screen: the prompt as it was
before, and the line, with a star for each character exactly if a password was asked for. It is an
echo of input exactly if a question was pending, and of a command otherwise. However a terminal with
the built-in commands was used, no other line of the batch is an echo, so a transcript prints all
lines of the batch but this one. -/
theorem batch_begins_with_echo :
    (∀ (terminal : Terminal) (line : String),
      ∃ rest, (terminal.submit line).2 =
        ⟨if terminal.isAwaiting then .inputEcho else .commandEcho,
          terminal.promptText ++
            if terminal.isMasked then String.ofList (List.replicate line.length '*') else line⟩ ::
          rest) ∧
    ∀ (config : Config) (tree : Tree) (actions : List Action) (line : String),
      let now := (onTree config tree .builtins).perform actions
      let next := (now.submit line).1
      let batch := (now.submit line).2
      (∀ printed ∈ batch.tail, printed.kind = .system ∨ printed.kind = .error) ∧
        batch.filter (·.isEcho) = [now.echo line] ∧
        Cli.printed false batch next =
          Cli.unlines (batch.tail.map (·.text)) ++ next.promptText := by
  refine ⟨?_, ?_⟩
  · intro terminal line
    rw [← echo_eq]
    exact exists_batch_eq terminal line
  · intro config tree actions line now next batch
    have standard : now.IsStandard := (isStandard_onTree config tree).perform actions
    have free : EchoFree batch.tail := standard.echoFree_tail line
    obtain ⟨rest, begins⟩ : ∃ rest, batch = now.echo line :: rest := exists_batch_eq now line
    rw [begins] at free ⊢
    rw [List.tail_cons] at free ⊢
    obtain ⟨echoes, others⟩ := free.filter_cons (isEcho_echo now line)
    refine ⟨free, echoes, ?_⟩
    rw [Cli.printed, if_neg Bool.false_ne_true, others]

end Terminal

end StoryShell
