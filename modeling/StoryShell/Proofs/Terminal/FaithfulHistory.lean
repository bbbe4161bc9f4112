/-
# The history is what was submitted

However a terminal was used, its history holds the submitted lines in order, as they
were typed, and knows of each whether a password was asked for at that moment. What
may be shown of it follows from these two: a line as it is, or a star for each of its
characters. The command that prints the history prints exactly this, numbered from
one, and its own line comes last.
-/

import StoryShell.Proofs.Terminal.Actions
import StoryShell.Proofs.Terminal.Standard

namespace StoryShell

namespace History

variable {history : History}

theorem length_shown : history.shown.length = history.lines.length := by
  rw [shown, lines, List.length_map, List.length_map]

/-- The line at a place is shown as it is unless it was secret. -/
theorem getElem?_shown (k : Nat) :
    history.shown[k]? = (history.lines[k]?).map fun line =>
      if history.isSecret k then Text.masked line else line := by
  rw [shown, lines, isSecret, List.getElem?_map, List.getElem?_map]
  cases history.entries[k]? with
  | none => rfl
  | some entry => rfl

theorem isSecret_eq_true {k : Nat} :
    history.isSecret k = true ↔
      ∃ entry, history.entries[k]? = some entry ∧ entry.secret = true := by
  rw [isSecret, Option.any_eq_true]

theorem isSecret_of_length_le {k : Nat} (past : history.lines.length ≤ k) :
    history.isSecret k = false := by
  rw [lines, List.length_map] at past
  rw [isSecret, List.getElem?_eq_none past]
  rfl

end History

namespace Terminal

/-- The entries that some actions add to the history: for each submitted line, whether a password
was asked for just before it. -/
def entered (terminal : Terminal) : List Action → List HistoryEntry
  | [] => []
  | action :: rest =>
    (action.submitted?.map fun line => ⟨line, terminal.isMasked⟩).toList ++
      (terminal.act action).entered rest

variable {terminal : Terminal} {line : String} {actions : List Action}

theorem history_submit (terminal : Terminal) (line : String) :
    (terminal.submit line).1.history = terminal.history.record line terminal.isMasked := by
  obtain ⟨state, pending, submitted⟩ := exists_submit_eq terminal line
  rw [submitted]
  rfl

theorem entries_act (terminal : Terminal) (action : Action) :
    (terminal.act action).history.entries = terminal.history.entries ++
      (action.submitted?.map fun line => ⟨line, terminal.isMasked⟩).toList := by
  cases submits : action.submitted? with
  | none =>
    obtain ⟨cursor, moved⟩ := exists_act_eq terminal submits
    rw [moved]
    exact (List.append_nil _).symm
  | some line =>
    rw [eq_submit_of_submitted? submits, act, history_submit]
    rfl

theorem entries_perform (terminal : Terminal) (actions : List Action) :
    (terminal.perform actions).history.entries =
      terminal.history.entries ++ terminal.entered actions := by
  induction actions generalizing terminal with
  | nil => exact (List.append_nil _).symm
  | cons action rest ih =>
    have later := ih (terminal.act action)
    rw [entries_act, List.append_assoc] at later
    exact later

/-! ### Places in the history are moments of the run -/

theorem lines_entered (terminal : Terminal) (actions : List Action) :
    (terminal.entered actions).map (·.line) = Action.lines actions := by
  induction actions generalizing terminal with
  | nil => rfl
  | cons action rest ih =>
    rw [entered, Action.lines, List.map_append, ih]
    cases submits : action.submitted? with
    | none =>
      rw [List.filterMap_cons_none submits]
      rfl
    | some line =>
      rw [List.filterMap_cons_some submits]
      rfl

theorem length_entered (terminal : Terminal) (actions : List Action) :
    (terminal.entered actions).length = (Action.lines actions).length := by
  rw [← lines_entered terminal, List.length_map]

theorem entered_append (terminal : Terminal) (actions others : List Action) :
    terminal.entered (actions ++ others) =
      terminal.entered actions ++ (terminal.perform actions).entered others := by
  induction actions generalizing terminal with
  | nil => rfl
  | cons action rest ih =>
    rw [List.cons_append, entered, ih, entered, List.append_assoc]
    rfl

/-- An action submits the line that makes an entry, and before it the actions that make the entries
before. -/
theorem getElem?_entered {k : Nat} {entry : HistoryEntry} :
    (terminal.entered actions)[k]? = some entry ↔
      ∃ before after, actions = before ++ .submit entry.line :: after ∧
        (Action.lines before).length = k ∧ (terminal.perform before).isMasked = entry.secret := by
  constructor
  · intro found
    induction actions generalizing terminal k with
    | nil => cases found
    | cons action rest ih =>
      rw [entered] at found
      cases submits : action.submitted? with
      | none =>
        rw [submits] at found
        obtain ⟨before, after, cut, count, masked⟩ := ih found
        refine ⟨action :: before, after, by rw [cut, List.cons_append], ?_, masked⟩
        rw [Action.lines, List.filterMap_cons_none submits]
        exact count
      | some line =>
        rw [submits] at found
        cases k with
        | zero =>
          cases found
          exact ⟨[], rest, by rw [eq_submit_of_submitted? submits]; rfl, rfl, rfl⟩
        | succ k =>
          obtain ⟨before, after, cut, count, masked⟩ := ih found
          refine ⟨action :: before, after, by rw [cut, List.cons_append], ?_, masked⟩
          rw [Action.lines, List.filterMap_cons_some submits, List.length_cons]
          exact congrArg Nat.succ count
  · rintro ⟨before, after, rfl, count, masked⟩
    have place : (terminal.entered before).length = k := by
      rw [length_entered, count]
    rw [entered_append, List.getElem?_append_right (Nat.le_of_eq place), place, Nat.sub_self]
    calc ((terminal.perform before).entered (.submit entry.line :: after))[0]?
      _ = some ⟨entry.line, (terminal.perform before).isMasked⟩ := rfl
      _ = some entry := by rw [masked]

/-! ### The command that prints the history -/

/-- The command prints the history with its own line as the last one. -/
theorem submit_history {arguments : List String} (runs : terminal.Runs line .history arguments) :
    (terminal.submit line).2 = terminal.echo line ::
      (((terminal.submit line).1.history.shown.zipIdx 1).map fun (shown, number) =>
        OutputLine.system ("  " ++ Text.padLeft 4 (toString number) ++ "  " ++ shown)) := by
  have outcome : terminal.outcome? line =
      some (.ok (.say (Builtin.historyListing (terminal.record line).history))) := runs.outcome?
  have submitted := submit_of_done outcome rfl
  have full : (terminal.record line).history.entries ≠ [] :=
    List.append_ne_nil_of_right_ne_nil _ (List.cons_ne_nil _ [])
  rw [submitted, Outcome.say, Builtin.historyListing, if_neg full, List.map_map]
  rfl

/-! ### The whole history -/

/-- However a terminal was used, its history is the submitted lines in order. A line is secret
exactly if a password was asked for just before it, and no line past the end is. The lines are
shown as they are, or, if secret, as a star for each character. The command that prints the history
prints one line for each submitted one, its own included: the number, from one, and the line as it
may be shown. -/
theorem history_is_faithful (config : Config) (tree : Tree) (table : CommandTable)
    (actions : List Action) :
    let start := onTree config tree table
    let now := start.perform actions
    let lines := Action.lines actions
    now.history.lines = lines ∧
      (∀ k, now.history.isSecret k = true ↔
        ∃ before line after, actions = before ++ .submit line :: after ∧
          (Action.lines before).length = k ∧ (start.perform before).isMasked = true) ∧
      (∀ k, lines.length ≤ k → now.history.isSecret k = false) ∧
      now.history.shown.length = lines.length ∧
      (∀ k, now.history.shown[k]? = (lines[k]?).map fun line =>
        if now.history.isSecret k then String.ofList (List.replicate line.length '*') else line) ∧
      ∀ line arguments, now.Runs line .history arguments →
        let shown := (now.submit line).1.history.shown
        (now.submit line).1.history.lines = lines ++ [line] ∧
          shown.length = lines.length + 1 ∧
          (now.submit line).2 = now.echo line :: ((shown.zipIdx 1).map fun (entry, number) =>
            .system ("  " ++ Text.padLeft 4 (toString number) ++ "  " ++ entry)) := by
  intro start now lines
  have entries : now.history.entries = start.entered actions := entries_perform start actions
  have kept : now.history.lines = lines := by
    rw [History.lines, entries, lines_entered]
  refine ⟨kept, ?_, ?_, ?_, ?_, ?_⟩
  · intro k
    rw [History.isSecret_eq_true, entries]
    constructor
    · rintro ⟨entry, found, secret⟩
      obtain ⟨before, after, cut, count, masked⟩ := getElem?_entered.mp found
      exact ⟨before, entry.line, after, cut, count, masked.trans secret⟩
    · rintro ⟨before, line, after, cut, count, masked⟩
      exact ⟨⟨line, true⟩, getElem?_entered.mpr ⟨before, after, cut, count, masked⟩, rfl⟩
  · intro k past
    exact History.isSecret_of_length_le (kept ▸ past)
  · rw [History.length_shown, kept]
  · intro k
    simp only [History.getElem?_shown, kept, Text.masked_eq_replicate]
  · intro line arguments runs shown
    have grown : (now.submit line).1.history.lines = lines ++ [line] := by
      rw [history_submit, ← kept]
      exact List.map_append
    refine ⟨grown, ?_, submit_history runs⟩
    rw [History.length_shown, grown, List.length_append]
    rfl

/-- What a user did who mistyped a password, asked for an old line and a completion on the way, and
submitted an empty line. -/
def fumbling : List Action :=
  [.submit "login", .recallBack, .submit "secret", .complete "cat r", .submit "", .recallForward]

theorem history_is_faithful_when_fumbling :
    let now := (onTree {} {} .builtins).perform fumbling
    (Action.lines fumbling)[1]? = some "secret" ∧ now.history.shown[1]? = some "******" ∧
      now.Runs "history" .history [] ∧
      (now.submit "history").2 =
        [⟨.commandEcho, "~ $ history"⟩, .system "     1  login", .system "     2  ******",
          .system "     3  ", .system "     4  history"] := by
  intro now
  obtain ⟨-, secret, -, -, shows, prints⟩ :=
    history_is_faithful {} {} .builtins fumbling
  have submits : (Action.lines fumbling)[1]? = some "secret" := rfl
  have asked : now.history.isSecret 1 = true :=
    (secret 1).mpr ⟨[.submit "login", .recallBack], "secret", _, rfl, rfl, by decide +kernel⟩
  have runs : now.Runs "history" .history [] := by
    have words : Words.ofLine "history" = ["history"] := by decide +kernel
    have idle : now.pending = none := Option.isNone_iff_eq_none.mp (by decide +kernel)
    exact runs_of_name idle words (by decide +kernel) (by decide +kernel) rfl
  obtain ⟨-, -, printed⟩ := prints "history" [] runs
  refine ⟨submits, ?_, runs, ?_⟩
  · rw [shows, submits, Option.map_some, if_pos asked]
    decide +kernel
  · rw [printed]
    decide +kernel

end Terminal

end StoryShell
