/-
# The course of conversations

The terminal's own conversations have six steps. A step is told by its question
and by whether the answer is a password, and whatever the answer is, the step
alone decides whether the conversation goes on and with which question. So a
conversation is over after as many answers as its first step asks for, and until
then nothing that is typed is read as a command.
-/

import StoryShell.Proofs.Terminal.Standard
import StoryShell.Proofs.World.Parts

namespace StoryShell

/-! ### The steps -/

namespace Dialog

/-- Whether one of the terminal's own conversations begins with a step. -/
def opens : Dialog → Bool
  | loginPassword _ | shareEmployee | portalUsername => true
  | shareCode _ | portalPassword _ | portalToken _ _ | scripted _ => false

/-- The number of answers, from a step on, to the end of one of the terminal's own conversations. -/
def answersLeft : Dialog → Nat
  | portalUsername => 3
  | shareEmployee | portalPassword _ => 2
  | loginPassword _ | shareCode _ | portalToken _ _ => 1
  | scripted _ => 0

/-- The prompt of a step in a conversation that a token began. -/
def prompt? (origin : String) (dialog : Dialog) : Option Prompt :=
  dialog.question?.map fun question => ⟨origin, question.1, question.2, dialog⟩

variable {dialog step : Dialog} {line : String} {view : View} {outcome : Outcome}

/-- An answer that leads on does nothing but ask the next question. -/
theorem answer_of_next? (leads : dialog.next? line = some step) (view : View) :
    ∃ prompt, dialog.answer line view = .ok (.ask prompt) ∧
      ∀ origin, some (prompt.withOrigin origin) = step.prompt? origin := by
  cases dialog with
  | shareEmployee | portalUsername | portalPassword username =>
    cases leads
    exact ⟨_, rfl, fun _ => rfl⟩
  | loginPassword username | shareCode employeeId | portalToken username password
  | scripted next => cases leads

/-- The last answer of a conversation asks nothing. -/
theorem prompt_of_last (standard : dialog.question?.isSome = true)
    (last : dialog.next? line = none) (h : dialog.answer line view = .ok outcome) :
    outcome.prompt = none := by
  cases answer_yields standard h with
  | refuses wrong | welcomes right | connectsShare right | connectsPortal right => rfl
  | asks leads step asked =>
    rw [last] at leads
    cases leads

theorem answersLeft_of_next? (leads : dialog.next? line = some step) :
    dialog.answersLeft = step.answersLeft + 1 := by
  cases dialog with
  | shareEmployee | portalUsername | portalPassword username => cases leads; rfl
  | loginPassword username | shareCode employeeId | portalToken username password
  | scripted next => cases leads

theorem answersLeft_of_last (standard : dialog.question?.isSome = true)
    (last : dialog.next? line = none) : dialog.answersLeft = 1 := by
  cases dialog with
  | loginPassword username | shareCode employeeId | portalToken username password => rfl
  | shareEmployee | portalUsername | portalPassword username => cases last
  | scripted next => cases standard

theorem answersLeft_le (dialog : Dialog) : dialog.answersLeft ≤ 3 := by
  cases dialog <;> simp only [answersLeft] <;> decide

end Dialog

namespace Terminal

variable {terminal : Terminal} {prompt : Prompt} {step : Dialog} {line : String}

/-! ### One line -/

/-- An answer that leads on changes nothing and prints only its echo. -/
theorem submit_of_next? (pending : terminal.pending = some prompt)
    (leads : prompt.dialog.next? line = some step) :
    terminal.submit line =
      ({ terminal.record line with pending := step.prompt? prompt.origin },
        [terminal.echo line]) := by
  obtain ⟨asked, answered, asks⟩ := Dialog.answer_of_next? leads (terminal.record line).view
  have found : terminal.outcome? line = some (.ok (.ask asked)) := by
    rw [outcome?_of_pending pending, Prompt.answer, answered]
  have made : terminal.state.applyAll (Outcome.ask asked).changes = .ok terminal.state := rfl
  rw [submit_of_done found made, originOf_of_pending pending, ← asks]
  rfl

/-- After the last answer the terminal is idle, whatever came of it. -/
theorem pending_of_last (h : terminal.IsStandard) (pending : terminal.pending = some prompt)
    (last : prompt.dialog.next? line = none) : (terminal.submit line).1.pending = none := by
  cases later : (terminal.submit line).1.pending with
  | none => rfl
  | some other =>
    obtain ⟨outcome, asked, found, asks, -⟩ := exists_asked later
    rw [outcome?_of_pending pending, Option.some.injEq, Prompt.answer] at found
    rw [Dialog.prompt_of_last (h.pending prompt pending).isSome last found] at asks
    cases asks

/-- A conversation begins with one of three questions. -/
theorem opens_of_idle (h : terminal.IsStandard) (idle : terminal.pending = none)
    (asked : (terminal.submit line).1.pending = some prompt) : prompt.dialog.opens = true := by
  obtain ⟨outcome, first, found, asks, rfl⟩ := exists_asked asked
  rcases exists_runs h idle found with ⟨lines, rfl⟩ | ⟨which, arguments, -, yields⟩
  · cases asks
  · cases yields with
    | asksPassword | asksEmployee free | asksUsername bare free => cases asks; rfl
    | tells speaks lines | goes reached | logsOut loggedIn | leavesShare connected
    | leavesPortal connected => cases asks

/-- An answer is settled as it was typed. -/
theorem submit_of_pending (pending : terminal.pending = some prompt) (line : String) :
    terminal.submit line =
      let settled := (terminal.record line).settle prompt.origin
        (prompt.answer line (terminal.record line).view)
      (settled.1, terminal.echo line :: settled.2) := by
  simp only [submit, pending]

/-- While a question is pending the table of commands is not read. -/
theorem submit_blind_to_table (pending : terminal.pending = some prompt) (line : String)
    (table : CommandTable) :
    Terminal.submit { terminal with table } line =
      ({ (terminal.submit line).1 with table }, (terminal.submit line).2) := by
  have settled : ∀ result : Except Failure Outcome,
      Terminal.settle { terminal.record line with table } prompt.origin result =
        ({ ((terminal.record line).settle prompt.origin result).1 with table },
          ((terminal.record line).settle prompt.origin result).2) := by
    intro result
    cases result with
    | error failure => rfl
    | ok outcome =>
      simp only [settle]
      cases (terminal.record line).state.applyAll outcome.changes <;> rfl
  have echoed : Terminal.echo { terminal with table } line = terminal.echo line := by
    simp only [echo, pending]
  have asked : Terminal.pending { terminal with table } = some prompt := pending
  rw [submit_of_pending asked, submit_of_pending pending, echoed]
  exact congrArg (fun next : Terminal × Batch => (next.1, terminal.echo line :: next.2))
    (settled (prompt.answer line (terminal.record line).view))

/-! ### Answers to the end -/

/-- The number of answers to the end of the conversation that a terminal is in. -/
def answersLeft (terminal : Terminal) : Nat :=
  (terminal.pending.map (·.dialog.answersLeft)).getD 0

theorem answersLeft_of_pending (pending : terminal.pending = some prompt) :
    terminal.answersLeft = prompt.dialog.answersLeft := by
  rw [answersLeft, pending]
  rfl

theorem answersLeft_le (terminal : Terminal) : terminal.answersLeft ≤ 3 := by
  cases pending : terminal.pending with
  | none => rw [answersLeft, pending]; decide
  | some prompt => rw [answersLeft_of_pending pending]; exact prompt.dialog.answersLeft_le

/-- Every answer brings the end of the conversation nearer. -/
theorem answersLeft_submit (h : terminal.IsStandard) (pending : terminal.pending = some prompt)
    (line : String) : terminal.answersLeft = (terminal.submit line).1.answersLeft + 1 := by
  have standard := (h.pending prompt pending).isSome
  rw [answersLeft_of_pending pending]
  cases leads : prompt.dialog.next? line with
  | none =>
    rw [answersLeft, pending_of_last h pending leads, Dialog.answersLeft_of_last standard leads]
    rfl
  | some step =>
    obtain ⟨asked, -, asks⟩ := Dialog.answer_of_next? leads (terminal.record line).view
    have later : (terminal.submit line).1.pending = some (asked.withOrigin prompt.origin) := by
      rw [submit_of_next? pending leads, asks]
    have same : asked.dialog = step := by
      obtain ⟨question, -, made⟩ := Option.map_eq_some_iff.mp (asks prompt.origin).symm
      exact (congrArg Prompt.dialog made).symm
    rw [answersLeft_of_pending later, Dialog.answersLeft_of_next? leads, ← same]
    rfl

/-- As many answers as are left end the conversation. -/
theorem idle_after_answers (h : terminal.IsStandard) (answers : List String)
    (all : answers.length = terminal.answersLeft) :
    (terminal.run answers).1.pending = none := by
  induction answers generalizing terminal with
  | nil =>
    cases pending : terminal.pending with
    | none => exact pending
    | some prompt =>
      have counted := answersLeft_submit h pending ""
      rw [← all] at counted
      cases counted
  | cons line rest ih =>
    apply ih (h.submit line)
    cases pending : terminal.pending with
    | none =>
      rw [answersLeft, pending] at all
      cases all
    | some prompt =>
      rw [answersLeft_submit h pending line] at all
      exact Nat.succ.inj all

/-- In every state that a run reaches, the terminal is idle or shows the question of one of the six
steps, masked if the answer is a password. Every answer is handed to the step as it was typed and
never to the table of commands. It leads to the next step, with no change and nothing printed but
its echo, or it ends the conversation. A conversation begins with a login, an employee id or a
username, and it is over within three answers. -/
theorem conversations_run_their_course (config : Config) (initial : Tree) (lines : List String) :
    let now := reached config initial lines
    (∀ prompt, now.pending = some prompt →
        prompt.dialog.question? = some (now.promptText, now.isMasked) ∧
          ∀ line,
            (match prompt.dialog.next? line with
              | some step =>
                (now.submit line).1.state = now.state ∧ (now.submit line).2 = [now.echo line] ∧
                  (now.submit line).1.pending = step.prompt? prompt.origin
              | none => (now.submit line).1.pending = none) ∧
            (now.submit line =
              let settled := (now.record line).settle prompt.origin
                (prompt.dialog.answer line (now.record line).view)
              (settled.1, now.echo line :: settled.2)) ∧
            ∀ table, Terminal.submit { now with table } line =
              ({ (now.submit line).1 with table }, (now.submit line).2)) ∧
      (now.pending = none → ∀ line prompt, (now.submit line).1.pending = some prompt →
        prompt.dialog.opens = true) ∧
      ∀ answers : List String, answers.length = 3 →
        ∃ k ≤ 3, (now.run (answers.take k)).1.pending = none := by
  intro now
  have standard : now.IsStandard := isStandard_reached config initial lines
  refine ⟨?_, ?_, ?_⟩
  · intro prompt pending
    have shown : (now.promptText, now.isMasked) = (prompt.question, prompt.masked) := by
      rw [promptText, isMasked, pending]
      rfl
    refine ⟨shown ▸ standard.pending prompt pending, ?_⟩
    intro line
    refine ⟨?_, submit_of_pending pending line, submit_blind_to_table pending line⟩
    cases leads : prompt.dialog.next? line with
    | none => exact pending_of_last standard pending leads
    | some step =>
      have submitted := submit_of_next? pending leads
      rw [submitted]
      exact ⟨rfl, rfl, rfl⟩
  · intro idle line prompt asked
    exact opens_of_idle standard idle asked
  · intro answers three
    have enough := answersLeft_le now
    refine ⟨now.answersLeft, enough, ?_⟩
    apply idle_after_answers standard
    rw [List.length_take, three, Nat.min_eq_left enough]

/-- A command typed as the portal's password is masked and leads to the question for the token. -/
theorem portal_takes_command_for_password :
    let asked := reached {} World.atStart ["./bin/portal.sh", " alex.m "]
    (asked.promptText, asked.isMasked) = ("password: ", true) ∧
      (asked.submit "cd bin").2 = [⟨.inputEcho, "password: ******"⟩] ∧
      (asked.submit "cd bin").1.promptText = "token: " := by
  intro asked
  obtain ⟨steps, -, -⟩ :=
    conversations_run_their_course {} World.atStart ["./bin/portal.sh", " alex.m "]
  have awaits : asked.pending.isSome = true := by decide +kernel
  obtain ⟨prompt, pending⟩ := Option.isSome_iff_exists.mp awaits
  obtain ⟨shown, answers⟩ := steps prompt pending
  have question : (asked.promptText, asked.isMasked) = ("password: ", true) := by decide +kernel
  obtain ⟨leads, -⟩ := answers "cd bin"
  have told : prompt.dialog.question? = some ("password: ", true) := shown.trans (by rw [question])
  cases dialog : prompt.dialog with
  | portalPassword username =>
    rw [dialog] at leads
    obtain ⟨-, printed, later⟩ := leads
    refine ⟨question, ?_, ?_⟩
    · rw [printed]
      decide +kernel
    · rw [promptText, later]
      rfl
  | loginPassword username =>
    rw [dialog] at told
    simp [Dialog.question?, String.ext_iff] at told
  | shareEmployee | shareCode employeeId | portalUsername | portalToken username password
  | scripted next =>
    rw [dialog] at told
    simp [Dialog.question?] at told

end Terminal

end StoryShell
