/-
# A line is settled as a whole

Submitting a line does what a caller could do by hand: find out what the line
comes to, make the changes that were asked for, and only then print and ask on.
This module writes that pipeline down and shows that submitting follows it on
every route: idle or with a question pending, through a command or an executable,
and out through each of the early exits. Whatever goes wrong on the way, the
session and the tree stay as they were and one line tells of it.
-/

import StoryShell.Terminal

namespace StoryShell.Terminal

/-! ### The pipeline by hand -/

/-- What a line comes to, found out by hand: nothing if it has no words, otherwise what the pending
question makes of it or what its first word runs. The history holds the line by then. -/
def outcome? (terminal : Terminal) (line : String) : Option (Except Failure Outcome) :=
  let view := (terminal.record line).view
  match terminal.pending with
  | some prompt => some (prompt.answer line view)
  | none =>
    match Words.ofLine line with
    | [] => none
    | name :: arguments =>
      if isPathToken name then some (terminal.table.execute name arguments view)
      else some (terminal.table.dispatch name arguments view)

/-- The token that began the conversation a line belongs to. -/
def originOf (terminal : Terminal) (line : String) : String :=
  match terminal.pending with
  | some prompt => prompt.origin
  | none => (Words.ofLine line).headD ""

/-- Whether a line is the path of an executable that leads to no program. -/
def missesProgram (terminal : Terminal) (line : String) : Bool :=
  match terminal.pending, Words.ofLine line with
  | none, name :: _ =>
    isPathToken name && !(terminal.table.programAt name (terminal.record line).view).isOk
  | _, _ => false

/-- What is told of a failure that a line comes to. -/
def reportOf (terminal : Terminal) (line : String) (failure : Failure) : String :=
  if terminal.missesProgram line then failure.message
  else failure.report (terminal.originOf line)

/-- A terminal on which a line has left no trace but its entry in the history. -/
def Untouched (terminal next : Terminal) : Prop :=
  next.state = terminal.state ∧ next.pending = none

variable {terminal : Terminal} {line : String} {prompt : Prompt}

theorem outcome?_of_pending (pending : terminal.pending = some prompt) (line : String) :
    terminal.outcome? line = some (prompt.answer line (terminal.record line).view) := by
  rw [outcome?, pending]

theorem originOf_of_pending (pending : terminal.pending = some prompt) (line : String) :
    terminal.originOf line = prompt.origin := by
  rw [originOf, pending]

theorem missesProgram_of_pending (pending : terminal.pending = some prompt) (line : String) :
    terminal.missesProgram line = false := by
  rw [missesProgram, pending]

/-! ### Every way a line can end -/

theorem settle_error (origin : String) (failure : Failure) :
    terminal.settle origin (.error failure) =
      (terminal, [.error (failure.report origin)]) :=
  rfl

theorem settle_refused {origin : String} {outcome : Outcome} {failure : Failure}
    (refused : terminal.state.applyAll outcome.changes = .error failure) :
    terminal.settle origin (.ok outcome) = (terminal, [.error (failure.report origin)]) := by
  simp only [settle, refused]

theorem settle_done {origin : String} {outcome : Outcome} {state : State}
    (made : terminal.state.applyAll outcome.changes = .ok state) :
    terminal.settle origin (.ok outcome) =
      ({ terminal with state, pending := outcome.prompt.map (·.withOrigin origin) },
        outcome.output) := by
  simp only [settle, made]

/-- Away from paths that lead to no program, a line that comes to something is settled under its
token. Running an executable by hand and finding its program first are the same thing here. -/
theorem submit_eq_settle {result : Except Failure Outcome}
    (found : terminal.outcome? line = some result) (runs : terminal.missesProgram line = false) :
    terminal.submit line =
      (((terminal.record line).settle (terminal.originOf line) result).1,
        terminal.echo line ::
          ((terminal.record line).settle (terminal.originOf line) result).2) := by
  cases pending : terminal.pending with
  | some prompt =>
    simp only [outcome?, pending, Option.some.injEq] at found
    subst found
    simp only [submit, originOf, pending]
  | none =>
    cases words : Words.ofLine line with
    | nil => simp [outcome?, pending, words] at found
    | cons name arguments =>
      simp only [outcome?, pending, words] at found
      simp only [missesProgram, pending, words] at runs
      simp only [submit, originOf, pending, words, carryOut, List.headD_cons]
      by_cases path : isPathToken name = true
      · rw [if_pos path, Option.some.injEq] at found
        rw [if_pos path]
        rw [path, Bool.true_and, Bool.not_eq_false'] at runs
        cases program : terminal.table.programAt name (terminal.record line).view with
        | error failure => rw [program] at runs; simp [Except.isOk, Except.toBool] at runs
        | ok command =>
          have runsIt : result = command.run arguments (terminal.record line).view := by
            rw [← found, CommandTable.execute, program]
            rfl
          have same : (terminal.record line).table.programAt name (terminal.record line).view =
              .ok command := program
          rw [same, runsIt]
      · rw [if_neg path, Option.some.injEq] at found
        rw [if_neg path, ← found]
        rfl

theorem submit_of_missesProgram (misses : terminal.missesProgram line = true) :
    ∃ failure, terminal.outcome? line = some (.error failure) ∧
      terminal.submit line =
        (terminal.record line, [terminal.echo line, .error failure.message]) := by
  cases pending : terminal.pending with
  | some prompt => simp [missesProgram, pending] at misses
  | none =>
    cases words : Words.ofLine line with
    | nil => simp [missesProgram, pending, words] at misses
    | cons name arguments =>
      simp only [missesProgram, pending, words, Bool.and_eq_true, Bool.not_eq_true'] at misses
      obtain ⟨path, absent⟩ := misses
      cases program : terminal.table.programAt name (terminal.record line).view with
      | ok command => rw [program] at absent; simp [Except.isOk, Except.toBool] at absent
      | error failure =>
        have same : (terminal.record line).table.programAt name (terminal.record line).view =
            .error failure := program
        refine ⟨failure, ?_, ?_⟩
        · simp only [outcome?, pending, words, if_pos path, CommandTable.execute, program]
          rfl
        · simp only [submit, pending, words, carryOut, if_pos path, same]

theorem submit_of_wordless (wordless : terminal.outcome? line = none) :
    terminal.submit line = (terminal.record line, [terminal.echo line]) := by
  cases pending : terminal.pending with
  | some prompt => simp [outcome?, pending] at wordless
  | none =>
    cases words : Words.ofLine line with
    | nil => simp only [submit, pending, words, carryOut]
    | cons name arguments =>
      simp only [outcome?, pending, words] at wordless
      split at wordless <;> cases wordless

theorem submit_of_failed {failure : Failure}
    (failed : terminal.outcome? line = some (.error failure)) :
    terminal.submit line =
      (terminal.record line,
        [terminal.echo line, .error (terminal.reportOf line failure)]) := by
  cases misses : terminal.missesProgram line with
  | true =>
    obtain ⟨other, failedToo, submitted⟩ := submit_of_missesProgram misses
    rw [failed, Option.some.injEq, Except.error.injEq] at failedToo
    rw [submitted, reportOf, if_pos misses, failedToo]
  | false =>
    rw [submit_eq_settle failed misses, settle_error, reportOf, misses]
    rfl

/-- A path that leads to no program fails, so a line with an outcome does not miss its program. -/
theorem missesProgram_of_ok {outcome : Outcome}
    (found : terminal.outcome? line = some (.ok outcome)) :
    terminal.missesProgram line = false := by
  cases misses : terminal.missesProgram line with
  | false => rfl
  | true =>
    obtain ⟨failure, failed, -⟩ := submit_of_missesProgram misses
    rw [found] at failed
    cases failed

theorem submit_of_refused {outcome : Outcome} {failure : Failure}
    (found : terminal.outcome? line = some (.ok outcome))
    (refused : terminal.state.applyAll outcome.changes = .error failure) :
    terminal.submit line =
      (terminal.record line,
        [terminal.echo line, .error (failure.report (terminal.originOf line))]) := by
  rw [submit_eq_settle found (missesProgram_of_ok found)]
  have settled : (terminal.record line).settle (terminal.originOf line) (.ok outcome) =
      (terminal.record line, [.error (failure.report (terminal.originOf line))]) :=
    settle_refused refused
  rw [settled]

theorem submit_of_done {outcome : Outcome} {state : State}
    (found : terminal.outcome? line = some (.ok outcome))
    (made : terminal.state.applyAll outcome.changes = .ok state) :
    terminal.submit line =
      ({ terminal.record line with
          state
          pending := outcome.prompt.map (·.withOrigin (terminal.originOf line)) },
        terminal.echo line :: outcome.output) := by
  rw [submit_eq_settle found (missesProgram_of_ok found)]
  have settled : (terminal.record line).settle (terminal.originOf line) (.ok outcome) =
      ({ terminal.record line with
          state
          pending := outcome.prompt.map (·.withOrigin (terminal.originOf line)) },
        outcome.output) :=
    settle_done made
  rw [settled]

/-- Whatever a line comes to, only the state and the pending question depend on it. -/
theorem exists_submit_eq (terminal : Terminal) (line : String) :
    ∃ state pending, (terminal.submit line).1 = { terminal.record line with state, pending } := by
  cases found : terminal.outcome? line with
  | none => exact ⟨terminal.state, none, by rw [submit_of_wordless found]; rfl⟩
  | some result =>
    cases result with
    | error failure => exact ⟨terminal.state, none, by rw [submit_of_failed found]; rfl⟩
    | ok outcome =>
      cases made : terminal.state.applyAll outcome.changes with
      | error failure => exact ⟨terminal.state, none, by rw [submit_of_refused found made]; rfl⟩
      | ok state => exact ⟨state, _, by rw [submit_of_done found made]⟩

theorem config_submit (terminal : Terminal) (line : String) :
    (terminal.submit line).1.config = terminal.config := by
  obtain ⟨state, pending, submitted⟩ := exists_submit_eq terminal line
  rw [submitted]
  rfl

/-- A question is pending after a line only because the line's outcome asks it. -/
theorem exists_asked (pending : (terminal.submit line).1.pending = some prompt) :
    ∃ outcome asked, terminal.outcome? line = some (.ok outcome) ∧ outcome.prompt = some asked ∧
      prompt = asked.withOrigin (terminal.originOf line) := by
  have recorded : (terminal.record line).pending = none := rfl
  cases found : terminal.outcome? line with
  | none =>
    rw [submit_of_wordless found, recorded] at pending
    cases pending
  | some result =>
    cases result with
    | error failure =>
      rw [submit_of_failed found, recorded] at pending
      cases pending
    | ok outcome =>
      cases made : terminal.state.applyAll outcome.changes with
      | error failure =>
        rw [submit_of_refused found made, recorded] at pending
        cases pending
      | ok state =>
        rw [submit_of_done found made] at pending
        obtain ⟨asked, asks, rfl⟩ := Option.map_eq_some_iff.mp pending
        exact ⟨outcome, asked, rfl, asks, rfl⟩

theorem table_submit (terminal : Terminal) (line : String) :
    (terminal.submit line).1.table = terminal.table := by
  obtain ⟨state, pending, submitted⟩ := exists_submit_eq terminal line
  rw [submitted]
  rfl

/-! ### Submitting follows the pipeline -/

/-- Submitting a line is all or nothing. If it comes to an outcome whose changes are made, they are
all that happens to the session and the tree, the batch is the echo and the outcome's output, and
its question is pending under the token that began the conversation. Otherwise nothing happens, no
question is pending, and the batch is the echo and one line that tells of the failure, or the echo
alone for a line without words. In every case the line joins the history as it was typed, marked
secret exactly if a password was asked for, and recall ends. -/
theorem submit_all_or_nothing (terminal : Terminal) (line : String) :
    let next := (terminal.submit line).1
    let batch := (terminal.submit line).2
    (match terminal.outcome? line with
      | none => Untouched terminal next ∧ batch = [terminal.echo line]
      | some (.error failure) =>
        Untouched terminal next ∧
          batch = [terminal.echo line, .error (terminal.reportOf line failure)]
      | some (.ok outcome) =>
        match terminal.state.applyAll outcome.changes with
        | .error failure =>
          Untouched terminal next ∧
            batch = [terminal.echo line, .error (failure.report (terminal.originOf line))]
        | .ok state =>
          next.state = state ∧
            batch = terminal.echo line :: outcome.output ∧
            next.pending = outcome.prompt.map (·.withOrigin (terminal.originOf line))) ∧
      next.history = ⟨terminal.history.entries ++ [⟨line, terminal.isMasked⟩], none⟩ ∧
      next.table = terminal.table ∧ next.config = terminal.config := by
  intro next batch
  cases found : terminal.outcome? line with
  | none =>
    have submitted := submit_of_wordless found
    simp only [next, batch, submitted]
    exact ⟨⟨⟨rfl, rfl⟩, trivial⟩, rfl, rfl, rfl⟩
  | some result =>
    cases result with
    | error failure =>
      have submitted := submit_of_failed found
      simp only [next, batch, submitted]
      exact ⟨⟨⟨rfl, rfl⟩, trivial⟩, rfl, rfl, rfl⟩
    | ok outcome =>
      cases made : terminal.state.applyAll outcome.changes with
      | error failure =>
        have submitted := submit_of_refused found made
        simp only [next, batch, submitted, made]
        exact ⟨⟨⟨rfl, rfl⟩, trivial⟩, rfl, rfl, rfl⟩
      | ok state =>
        have submitted := submit_of_done found made
        simp only [next, batch, submitted, made]
        exact ⟨⟨trivial, trivial, trivial⟩, rfl, rfl, rfl⟩

/-- The pending question is not the outcome's own: a conversation begun in capitals goes on, and
fails, under the token as it was typed and not under the name the command gave its question. -/
theorem pending_keeps_typed_token :
    ¬ ∀ (terminal : Terminal) (line : String) (outcome : Outcome) (state : State),
      terminal.outcome? line = some (.ok outcome) →
      terminal.state.applyAll outcome.changes = .ok state →
      (terminal.submit line).1.pending = outcome.prompt := by
  intro kept
  let asked : Prompt := ⟨"megacorp-connect", "employee id: ", false, .shareEmployee⟩
  have same := kept {} "MEGACORP-CONNECT" (.ask asked) {} rfl rfl
  have origins : some "MEGACORP-CONNECT" = some "megacorp-connect" :=
    congrArg (·.map Prompt.origin) same
  exact absurd origins (by decide)

end StoryShell.Terminal
