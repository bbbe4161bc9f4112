/-
# What commands see of the history and of wrong passwords

A command reads the history only as it may be shown, where a password is as many
stars as it has characters. And of two wrong passwords a conversation makes the
same: the login and the share refuse both at once, while the portal keeps what
was typed until the token arrives and then refuses it. So two outcomes can differ
in one place only, the wrong password that a question for the portal's token
carries on.
-/

import StoryShell.Proofs.Builtin.Requests

namespace StoryShell

/-! ### The history as commands see it -/

theorem Text.masked_congr {line other : String} (same : line.length = other.length) :
    Text.masked line = Text.masked other := by
  rw [masked_eq_replicate, masked_eq_replicate, same]

namespace History

variable {history other : History}

theorem shown_record (history : History) (line : String) (secret : Bool) :
    (history.record line secret).shown =
      history.shown ++ [if secret then Text.masked line else line] := by
  rw [shown, record, List.map_append]
  rfl

theorem entries_eq_nil_iff : history.entries = [] ↔ history.shown = [] := by
  rw [shown, List.map_eq_nil_iff]

end History

variable {view : View} {history : History} {config : Config}

theorem Builtin.historyListing_congr {other : History} (shown : other.shown = history.shown) :
    historyListing other = historyListing history := by
  rw [historyListing, historyListing, shown]
  by_cases empty : history.entries = []
  · have emptyToo : other.entries = [] := by
      rw [History.entries_eq_nil_iff, shown, ← History.entries_eq_nil_iff]
      exact empty
    rw [if_pos empty, if_pos emptyToo]
  · have fullToo : other.entries ≠ [] := by
      rw [ne_eq, History.entries_eq_nil_iff, shown, ← History.entries_eq_nil_iff]
      exact empty
    rw [if_neg empty, if_neg fullToo]

/-- Only the history as it may be shown counts for a built-in command. -/
theorem Builtin.run_congr (shown : history.shown = view.history.shown) (which : Builtin)
    (arguments : List String) :
    which.run arguments { view with history } = which.run arguments view := by
  cases which with
  | history =>
    rw [run, run]
    rw [historyListing_congr shown]
  | ls | cd | pwd | cat | echo | whoami | find | grep | login | logout | connectShare
  | disconnectShare | audit | portal => rfl

theorem Command.run_congr (shown : history.shown = view.history.shown) (command : Command)
    (arguments : List String) :
    command.run arguments { view with history } = command.run arguments view := by
  rw [run, run]
  cases command.behaviour with
  | builtin which => exact Builtin.run_congr shown which arguments
  | scripted script => rfl

theorem CommandTable.dispatch_congr (shown : history.shown = view.history.shown)
    (table : CommandTable) (name : String) (arguments : List String) :
    table.dispatch name arguments { view with history } = table.dispatch name arguments view := by
  rw [dispatch, dispatch]
  by_cases isHelp : Text.asciiLower name = helpName
  · rw [if_pos isHelp, if_pos isHelp]
  · rw [if_neg isHelp, if_neg isHelp]
    cases table.find? name with
    | some command => exact Command.run_congr shown command arguments
    | none => rfl

/-- An answer is judged without the history. -/
theorem Dialog.answer_congr (dialog : Dialog) (line : String) :
    dialog.answer line { view with history } = dialog.answer line view := by
  cases dialog <;> rfl

/-! ### Two wrong passwords -/

/-- The text that makes an answer right, if the answer is a password. -/
def Dialog.secret? (config : Config) : Dialog → Option String
  | loginPassword username => (config.credential? username).map (·.password)
  | shareCode _ => some config.share.accessCode
  | portalPassword _ => some config.portal.password
  | shareEmployee => none
  | portalUsername => none
  | portalToken _ _ => none
  | scripted _ => none

/-- Two conversations that go on alike: they are the same, or both carry a wrong password to the
token of the portal. -/
inductive Dialog.Alike (config : Config) : Dialog → Dialog → Prop
  | same (dialog : Dialog) : Dialog.Alike config dialog dialog
  | token {username password other : String} (wrong : password ≠ config.portal.password)
      (otherWrong : other ≠ config.portal.password) :
      Dialog.Alike config (.portalToken username password) (.portalToken username other)

/-- Two prompts that look the same and go on alike. -/
structure Prompt.Alike (config : Config) (first second : Prompt) : Prop where
  origin : second.origin = first.origin
  question : second.question = first.question
  masked : second.masked = first.masked
  dialog : first.dialog.Alike config second.dialog

/-- Two outcomes that differ at most in how their questions go on. -/
structure Outcome.Alike (config : Config) (first second : Outcome) : Prop where
  output : second.output = first.output
  changes : second.changes = first.changes
  prompt : Option.Rel (Prompt.Alike config) first.prompt second.prompt

/-- Two results that fail with the same failure or come to outcomes that are alike. -/
inductive ResultsAlike (config : Config) :
    Except Failure Outcome → Except Failure Outcome → Prop
  | error (failure : Failure) : ResultsAlike config (.error failure) (.error failure)
  | ok {first second : Outcome} (alike : first.Alike config second) :
      ResultsAlike config (.ok first) (.ok second)

theorem Prompt.Alike.refl (prompt : Prompt) : prompt.Alike config prompt :=
  ⟨rfl, rfl, rfl, .same prompt.dialog⟩

theorem Prompt.Alike.withOrigin {first second : Prompt} (h : first.Alike config second)
    (origin : String) : (first.withOrigin origin).Alike config (second.withOrigin origin) :=
  ⟨rfl, h.question, h.masked, h.dialog⟩

/-- Prompts that may be absent are both absent or alike. -/
theorem Prompt.Alike.cases {first second : Option Prompt}
    (h : Option.Rel (Prompt.Alike config) first second) :
    (first = none ∧ second = none) ∨
      ∃ prompt asked, first = some prompt ∧ second = some asked ∧ prompt.Alike config asked := by
  cases h with
  | none => exact .inl ⟨rfl, rfl⟩
  | some alike => exact .inr ⟨_, _, rfl, rfl, alike⟩

theorem Prompt.Alike.map_withOrigin {first second : Option Prompt}
    (h : Option.Rel (Prompt.Alike config) first second) (origin : String) :
    Option.Rel (Prompt.Alike config) (first.map (·.withOrigin origin))
      (second.map (·.withOrigin origin)) := by
  cases h with
  | none => exact .none
  | some alike => exact .some (alike.withOrigin origin)

theorem ResultsAlike.refl (result : Except Failure Outcome) :
    ResultsAlike config result result := by
  cases result with
  | error failure => exact .error failure
  | ok outcome =>
    refine .ok ⟨rfl, rfl, ?_⟩
    cases outcome.prompt with
    | none => exact .none
    | some prompt => exact .some (.refl prompt)

theorem Account.accepted?_eq_none {username line : String}
    (wrong : ∀ secret ∈ (Dialog.loginPassword username).secret? config, line ≠ secret) :
    Account.accepted? config username line = none := by
  cases accepted : Account.accepted? config username line with
  | none => rfl
  | some credential =>
    obtain ⟨known, right⟩ := Account.accepted?_eq_some.mp accepted
    have secret : credential.password ∈ (Dialog.loginPassword username).secret? config := by
      rw [Dialog.secret?, known]
      rfl
    exact absurd right.symm (wrong _ secret)

theorem Network.checkPortal_wrong {username password : String} (token : String)
    (wrong : password ≠ view.config.portal.password) :
    Network.checkPortal username password token view = .error (.authenticationFailed username) := by
  rw [Network.checkPortal]
  apply if_neg
  rintro ⟨-, right, -⟩
  exact wrong right

theorem Network.checkShare_wrong {employeeId code : String}
    (wrong : code ≠ view.config.share.accessCode) :
    Network.checkShare employeeId code view = .error (.authenticationFailed employeeId) := by
  rw [Network.checkShare]
  apply if_neg
  rintro ⟨-, right⟩
  exact wrong right

/-- Conversations that go on alike make alike results of one answer. -/
theorem Dialog.Alike.answer {first second : Dialog} (view : View)
    (h : first.Alike view.config second) (line : String) :
    ResultsAlike view.config (first.answer line view) (second.answer line view) := by
  cases h with
  | same dialog => exact .refl _
  | token wrong otherWrong =>
    rw [Dialog.answer, Dialog.answer, Network.checkPortal_wrong line wrong,
      Network.checkPortal_wrong line otherWrong]
    exact .error _

/-- A conversation that asks for a password carries none yet. -/
theorem Dialog.Alike.eq_of_masked {first second : Dialog} {question : String}
    (h : first.Alike config second) (asks : first.question? = some (question, true)) :
    second = first := by
  cases h with
  | same => rfl
  | token => cases asks

/-- Two wrong answers to a question for a password have alike results. -/
theorem Dialog.answer_wrong (view : View) {dialog : Dialog} {question line other : String}
    (asks : dialog.question? = some (question, true))
    (wrong : ∀ secret ∈ dialog.secret? view.config, line ≠ secret)
    (otherWrong : ∀ secret ∈ dialog.secret? view.config, other ≠ secret) :
    ResultsAlike view.config (dialog.answer line view) (dialog.answer other view) := by
  cases dialog with
  | loginPassword username =>
    rw [answer, answer, Account.checkPassword, Account.checkPassword,
      Account.accepted?_eq_none wrong, Account.accepted?_eq_none otherWrong]
    exact .refl _
  | shareCode employeeId =>
    rw [answer, answer, Network.checkShare_wrong (wrong _ rfl),
      Network.checkShare_wrong (otherWrong _ rfl)]
    exact .error _
  | portalPassword username =>
    have alike : (Dialog.portalToken username line).Alike view.config
        (.portalToken username other) := .token (wrong _ rfl) (otherWrong _ rfl)
    exact .ok ⟨rfl, rfl, .some ⟨rfl, rfl, rfl, alike⟩⟩
  | shareEmployee | portalUsername | portalToken _ _ => cases asks
  | scripted next => cases asks

end StoryShell
