/-
# Who a conversation speaks for

A conversation begins with a line submitted while no question is pending, and the
first word of that line names it to the end. Each question may come with a name of
its own, and a script may ask as many as it likes; the name is replaced every time.
So whatever goes wrong after an answer, be it the answer itself or a change that it
asks for, is reported under the word that was typed first.
-/

import StoryShell.Proofs.Terminal.Actions

namespace StoryShell

/-- Whether the report of a failure names its cause without being told who failed. -/
def Failure.namesItself : Failure → Bool
  | .commandNotFound _ => true
  | _ => false

theorem Failure.report_eq (origin : String) (failure : Failure) :
    failure.report origin =
      if failure.namesItself then failure.message else origin ++ ": " ++ failure.message := by
  cases failure <;> rfl

namespace Terminal

/-- The last line that some actions submit while no question is pending. -/
def lastCommand? (terminal : Terminal) : List Action → Option String
  | [] => none
  | action :: rest =>
    ((terminal.act action).lastCommand? rest).or
      (if terminal.isAwaiting then none else action.submitted?)

/-- A question is pending only under the first word of the command. -/
def SpeaksFor (terminal : Terminal) (command : Option String) : Prop :=
  ∀ prompt, terminal.pending = some prompt →
    ∃ line arguments, command = some line ∧ Words.ofLine line = prompt.origin :: arguments

variable {terminal : Terminal} {prompt : Prompt} {command : Option String} {line : String}

/-- A line without words asks nothing, so the name of a conversation is a word. -/
theorem ofLine_of_asked (idle : terminal.pending = none) {outcome : Outcome}
    (found : terminal.outcome? line = some (.ok outcome)) :
    ∃ arguments, Words.ofLine line = terminal.originOf line :: arguments := by
  rw [originOf, idle]
  cases words : Words.ofLine line with
  | nil =>
    rw [outcome?, idle, words] at found
    cases found
  | cons name arguments => exact ⟨arguments, rfl⟩

theorem SpeaksFor.submit (speaks : terminal.SpeaksFor command) (line : String) :
    (terminal.submit line).1.SpeaksFor
      ((if terminal.isAwaiting then none else some line).or command) := by
  intro prompt asks
  obtain ⟨outcome, asked, found, -, rfl⟩ := exists_asked asks
  cases pending : terminal.pending with
  | none =>
    obtain ⟨arguments, words⟩ := ofLine_of_asked pending found
    refine ⟨line, arguments, ?_, words⟩
    rw [isAwaiting, pending]
    rfl
  | some earlier =>
    -- The answer's own question takes over the name of the one that was answered.
    obtain ⟨first, arguments, begun, words⟩ := speaks earlier pending
    refine ⟨first, arguments, ?_, ?_⟩
    · rw [isAwaiting, pending, begun]
      rfl
    · rw [words, originOf_of_pending pending]
      rfl

theorem SpeaksFor.act (speaks : terminal.SpeaksFor command) (action : Action) :
    (terminal.act action).SpeaksFor
      ((if terminal.isAwaiting then none else action.submitted?).or command) := by
  cases submits : action.submitted? with
  | none =>
    obtain ⟨cursor, moved⟩ := exists_act_eq terminal submits
    rw [moved, ite_self, Option.none_or]
    exact speaks
  | some line =>
    rw [eq_submit_of_submitted? submits]
    exact speaks.submit line

theorem SpeaksFor.perform (speaks : terminal.SpeaksFor command) (actions : List Action) :
    (terminal.perform actions).SpeaksFor ((terminal.lastCommand? actions).or command) := by
  induction actions generalizing terminal command with
  | nil => exact speaks
  | cons action rest ih =>
    have later := ih (speaks.act action)
    rwa [← Option.or_assoc] at later

/-- An answer fails: it is refused itself, or a change that it asks for is. -/
def Fails (terminal : Terminal) (prompt : Prompt) (answer : String) (failure : Failure) : Prop :=
  let result := prompt.answer answer (terminal.record answer).view
  result = .error failure ∨
    ∃ outcome, result = .ok outcome ∧ terminal.state.applyAll outcome.changes = .error failure

theorem Fails.batch (pending : terminal.pending = some prompt) {answer : String} {failure : Failure}
    (fails : terminal.Fails prompt answer failure) :
    (terminal.submit answer).2 =
      [terminal.echo answer, .error (failure.report prompt.origin)] := by
  have found := outcome?_of_pending pending answer
  rcases fails with refused | ⟨outcome, answered, refused⟩
  · rw [refused] at found
    rw [submit_of_failed found, reportOf, missesProgram_of_pending pending,
      originOf_of_pending pending]
    rfl
  · rw [answered] at found
    rw [submit_of_refused found refused, originOf_of_pending pending]

/-- Whatever table a terminal has and however it was used, a pending question carries the first word
of the last line that was submitted while none was pending, as it was typed. So an answer that
fails is reported under that word, unless a command was not found, which the report names. -/
theorem conversation_keeps_first_word (config : Config) (tree : Tree) (table : CommandTable)
    (actions : List Action) (prompt : Prompt) :
    let start := onTree config tree table
    let now := start.perform actions
    now.pending = some prompt →
      ∃ line word arguments, start.lastCommand? actions = some line ∧
        Words.ofLine line = word :: arguments ∧ prompt.origin = word ∧
        ∀ answer failure, now.Fails prompt answer failure →
          (now.submit answer).2 = [now.echo answer, .error <|
            if failure.namesItself then failure.message
            else word ++ ": " ++ failure.message] := by
  intro start now pending
  have nobody : start.SpeaksFor none := nofun
  obtain ⟨line, arguments, begun, words⟩ := nobody.perform actions prompt pending
  rw [Option.or_none] at begun
  refine ⟨line, prompt.origin, arguments, begun, words, rfl, ?_⟩
  intro answer failure fails
  rw [fails.batch pending, Failure.report_eq]

/-- A riddle of two questions that each claim to come from somebody else, after which something is
taken away that is not there. -/
def riddle : Command where
  name := "riddle"
  behaviour := .scripted
    (.ask [] [] "sphinx" "first? " false
      (.ask [] [] "oracle" "then? " true (.finish [.system "well done"] [.unmount "~" "cake"])))

/-- The riddle ends in a report under the word as it was typed. -/
theorem riddle_keeps_first_word :
    let start := onTree {} {} (CommandTable.register {} riddle)
    let now := start.perform [.submit "riddle", .submit "", .submit "x", .submit "RIDDLE me",
      .complete "this", .submit "ls"]
    ∃ prompt, now.pending = some prompt ∧ prompt.origin = "RIDDLE" ∧
      now.Fails prompt "cake" (.noSuchPath "~/cake") ∧
      (now.submit "cake").2 = [⟨.inputEcho, "then? ****"⟩,
        .error "RIDDLE: ~/cake: No such file or directory"] := by
  intro start now
  let asked : Prompt := ⟨"RIDDLE", "then? ", true, .scripted
    (.finish [.system "well done"] [.unmount "~" "cake"])⟩
  have pending : now.pending = some asked := rfl
  obtain ⟨line, word, arguments, -, -, same, reports⟩ :=
    conversation_keeps_first_word {} {} (CommandTable.register {} riddle) _ asked pending
  have fails : now.Fails asked "cake" (.noSuchPath "~/cake") := .inr ⟨_, rfl, rfl⟩
  refine ⟨asked, pending, rfl, fails, ?_⟩
  have printed := reports "cake" _ fails
  rw [← same] at printed
  rw [printed]
  decide +kernel

end Terminal

end StoryShell
