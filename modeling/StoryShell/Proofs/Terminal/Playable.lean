/-
# What an accepted configuration promises

A configuration names secrets, and the terminal that starts with it can be opened
with them. There are two exceptions, which no check of the configuration
excludes. Ids, usernames and tokens of the services are compared with answers
that have lost the blank characters around them, so a configured one that has
some never matches. And no line has an empty word, so nobody can ask to log in
under an empty username.
-/

import StoryShell.Proofs.Terminal.Connecting
import StoryShell.Proofs.Terminal.LoginInForce
import StoryShell.Proofs.Words

namespace StoryShell.Terminal

/-! ### Configured secrets, typed as they are -/

/-- The configured secrets of the share connect it. -/
def AdmitsShare (terminal : Terminal) : Prop :=
  let share := terminal.config.share
  (terminal.run ["megacorp-connect", share.employeeId, share.accessCode]).1.state.session.isSet
    Network.shareFlag = true

/-- The configured secrets of the portal connect it. -/
def AdmitsPortal (terminal : Terminal) : Prop :=
  let portal := terminal.config.portal
  (terminal.run ["./bin/portal.sh", portal.username, portal.password,
    portal.token]).1.state.session.isSet Network.portalFlag = true

/-- There is a line after which the password of a credential logs in with it. -/
def AdmitsLogin (terminal : Terminal) (credential : Credential) : Prop :=
  ∃ line, (terminal.run [line, credential.password]).1.state.session.login =
    (some credential.username, some credential.level)

variable {terminal : Terminal} {line username : String} {arguments : List String}
  {prompt : Prompt} {credential : Credential} {config : Config}

theorem admitsShare_iff (standard : terminal.IsStandard) (idle : terminal.pending = none)
    (free : terminal.state.session.isSet Network.shareFlag = false) :
    terminal.AdmitsShare ↔
      Text.trim terminal.config.share.employeeId = terminal.config.share.employeeId :=
  ((runs_connectShare standard idle).connectShare free _ _).set.trans (ShareConfig.accepts_self _)

theorem admitsPortal_iff (standard : terminal.IsStandard) (idle : terminal.pending = none)
    (free : terminal.state.session.isSet Network.portalFlag = false) {content : String}
    {hidden : Bool}
    (leads : terminal.view.nodeAt "./bin/portal.sh" = .ok (.executable "portal" content hidden)) :
    terminal.AdmitsPortal ↔
      Text.trim terminal.config.portal.username = terminal.config.portal.username ∧
        Text.trim terminal.config.portal.token = terminal.config.portal.token := by
  have words : Words.ofLine "./bin/portal.sh" = ["./bin/portal.sh"] := by rfl
  have path : isPathToken "./bin/portal.sh" = true := by rfl
  have connects := (runs_portal standard idle words path leads).connectPortal free
  exact (connects _ _ _).set.trans (PortalConfig.accepts_self _)

/-! ### Logging in -/

/-- The right password logs in. -/
theorem LogsIn.login_eq (logsIn : terminal.LogsIn line credential)
    (standard : terminal.IsStandard) :
    (terminal.submit line).1.state.session.login =
      (some credential.username, some credential.level) := by
  rcases login_submit standard line with ⟨other, otherIn, shown⟩ | ⟨-, nobody, -⟩ |
    ⟨-, nobody, -⟩
  · have same : some other = some credential := by
      rw [← loginBy?_eq_some.mpr otherIn, loginBy?_eq_some.mpr logsIn]
    cases same
    exact shown
  · exact absurd logsIn (nobody credential)
  · exact absurd logsIn (nobody credential)

/-- The command for logging in asks for the password of the username that it is given. -/
theorem logsIn_of_runs (runs : terminal.Runs line .login [credential.username])
    (known : terminal.config.credential? credential.username = some credential) :
    (terminal.submit line).1.LogsIn credential.password credential := by
  have asked : terminal.outcome? line =
      some (.ok (.ask (Account.passwordPrompt credential.username))) := runs.outcome?
  have awaits := awaits_of_ask asked
  exact ⟨_, awaits.pending, rfl, by rw [awaits.config]; exact known, rfl⟩

/-- A line whose first word is the name of the command for logging in runs it on the other words. -/
theorem runs_login_of_words (standard : terminal.IsStandard) (idle : terminal.pending = none)
    (words : Words.ofLine line = "login" :: arguments) : terminal.Runs line .login arguments := by
  apply runs_of_name idle words
  · rfl
  · decide
  · rw [standard.table]
    rfl

theorem runs_login (standard : terminal.IsStandard) (idle : terminal.pending = none)
    (nonempty : username ≠ "") :
    terminal.Runs ("login " ++ Words.inQuotes username) .login [username] := by
  have words : Words.ofLine ("login" ++ " " ++ Words.inQuotes username) = ["login", username] :=
    Words.ofLine_inQuotes (by rfl) (by decide) nonempty
  exact runs_login_of_words standard idle words

/-- Nobody is asked for the password of an empty username. -/
theorem ne_empty_of_asked (standard : terminal.IsStandard) (idle : terminal.pending = none)
    (named : terminal.config.user ≠ "") (pending : (terminal.submit line).1.pending = some prompt)
    (dialog : prompt.dialog = .loginPassword username) : username ≠ "" := by
  obtain ⟨outcome, asked, found, asks, rfl⟩ := exists_asked pending
  rcases exists_runs standard idle found with ⟨lines, rfl⟩ | ⟨which, arguments, runs, yields⟩
  · cases asks
  · cases yields with
    | tells _ lines | goes reached | logsOut loggedIn | leavesShare connected
    | leavesPortal connected => cases asks
    | asksEmployee free | asksUsername bare free =>
      cases asks
      cases dialog
    | asksPassword =>
      cases asks
      cases dialog
      obtain ⟨-, name, words, -⟩ := runs
      cases arguments with
      | nil => exact named
      | cons first rest =>
        have typed : first ∈ Words.ofLine line := by simp [words]
        exact Words.ne_empty_of_mem_ofLine typed

/-- In an idle state without a login, a credential that is found can log in unless its username is
empty. -/
theorem admitsLogin_iff (standard : terminal.IsStandard) (idle : terminal.pending = none)
    (nobody : terminal.state.session.login = (none, none)) (named : terminal.config.user ≠ "")
    (known : terminal.config.credential? credential.username = some credential) :
    terminal.AdmitsLogin credential ↔ credential.username ≠ "" := by
  constructor
  · rintro ⟨line, login⟩
    change ((terminal.submit line).1.submit credential.password).1.state.session.login = _ at login
    -- No question was pending for the first line to answer, so it is the password that logs in.
    have still : (terminal.submit line).1.state.session.login = (none, none) := by
      rcases login_submit standard line with ⟨other, ⟨prompt, pending, -⟩, -⟩ | ⟨-, -, shown⟩ |
        ⟨-, -, shown⟩
      · rw [idle] at pending
        cases pending
      · exact shown
      · exact shown.trans nobody
    rcases login_submit (standard.submit line) credential.password with
      ⟨other, ⟨prompt, pending, dialog, -⟩, shown⟩ | ⟨-, -, shown⟩ | ⟨-, -, shown⟩
    · rw [login] at shown
      have same : credential.username = other.username := by simpa using congrArg Prod.fst shown
      rw [same]
      exact ne_empty_of_asked standard idle named pending dialog
    · rw [login] at shown
      cases shown
    · rw [login, still] at shown
      cases shown
  · intro nonempty
    have logsIn := logsIn_of_runs (runs_login standard idle nonempty) known
    exact ⟨_, logsIn.login_eq (standard.submit _)⟩

/-! ### The terminal that a configuration starts -/

theorem start_of_accepted (accepted : config.validate = .ok config) :
    start config = .ok (onTree config World.atStart .builtins) := by
  rw [start, accepted, World.ofNode_home]
  rfl

/-- At the start the portal's executable is in its place. -/
theorem nodeAt_portal_atStart (config : Config) : ∃ content hidden,
    (onTree config World.atStart .builtins).view.nodeAt "./bin/portal.sh" =
      .ok (.executable "portal" content hidden) := by
  have same : (onTree config World.atStart .builtins).view.nodeAt "./bin/portal.sh" =
      (onTree {} World.atStart .builtins).view.nodeAt "./bin/portal.sh" := rfl
  rw [same]
  exact View.nodeAt_executable (by rfl)

/-- Every configuration that is accepted starts a terminal. Its secrets connect the share if the
configured id has no blank characters around it, and the portal if the username and the token have
none. Every credential can log in, by some line and its password, unless its username is empty. -/
theorem accepted_config_is_playable (config : Config) (accepted : config.validate = .ok config) :
    ∃ terminal, start config = .ok terminal ∧
      (Text.trim config.share.employeeId = config.share.employeeId → terminal.AdmitsShare) ∧
      (Text.trim config.portal.username = config.portal.username →
        Text.trim config.portal.token = config.portal.token → terminal.AdmitsPortal) ∧
      ∀ credential ∈ config.login.credentials,
        terminal.AdmitsLogin credential ↔ credential.username ≠ "" := by
  obtain ⟨-, valid⟩ := Config.validate_eq_ok.mp accepted
  have standard := isStandard_onTree config World.atStart
  refine ⟨_, start_of_accepted accepted, ?_, ?_, ?_⟩
  · intro trimmed
    exact (admitsShare_iff standard rfl rfl).mpr trimmed
  · intro username token
    obtain ⟨content, hidden, leads⟩ := nodeAt_portal_atStart config
    exact (admitsPortal_iff standard rfl rfl leads).mpr ⟨username, token⟩
  · intro credential known
    exact admitsLogin_iff standard rfl rfl (Config.user_ne_empty valid)
      (Config.credential?_of_mem valid known)

/-- A configuration with a username of two words, one of them in quotes. -/
def quotedName : Config :=
  { login := { credentials := [{ username := "the \"chef\"", password := " mise en place " }] } }

theorem quotedName_is_playable :
    quotedName.validate = .ok quotedName ∧
      ∃ terminal, start quotedName = .ok terminal ∧ terminal.AdmitsShare ∧
        terminal.AdmitsPortal ∧
        ∀ credential ∈ quotedName.login.credentials, terminal.AdmitsLogin credential := by
  have accepted : quotedName.validate = .ok quotedName :=
    Config.validate_eq_ok.mpr ⟨rfl, by rfl⟩
  obtain ⟨terminal, started, share, portal, login⟩ :=
    accepted_config_is_playable quotedName accepted
  refine ⟨accepted, terminal, started, share ?_, portal ?_ ?_, ?_⟩
  · rfl
  · rfl
  · rfl
  · intro credential known
    have named : ∀ credential ∈ quotedName.login.credentials, credential.username ≠ "" := by
      decide
    exact (login credential known).mpr (named credential known)

/-- A configuration with blank characters around the id and the token, and an empty username. -/
def careless : Config :=
  { login := { credentials := [{ username := "", password := "nightjar" }] }
    share := { employeeId := " MC-4471" }
    portal := { token := "884213 " } }

/-- An accepted configuration may hold secrets that are of no use. -/
theorem careless_is_unplayable :
    careless.validate = .ok careless ∧
      ∃ terminal, start careless = .ok terminal ∧ ¬ terminal.AdmitsShare ∧
        ¬ terminal.AdmitsPortal ∧
        ∀ credential ∈ careless.login.credentials, ¬ terminal.AdmitsLogin credential := by
  have accepted : careless.validate = .ok careless :=
    Config.validate_eq_ok.mpr ⟨rfl, by rfl⟩
  obtain ⟨-, valid⟩ := Config.validate_eq_ok.mp accepted
  have standard := isStandard_onTree careless World.atStart
  refine ⟨accepted, _, start_of_accepted accepted, ?_, ?_, ?_⟩
  · rw [admitsShare_iff standard rfl rfl]
    decide
  · obtain ⟨content, hidden, leads⟩ := nodeAt_portal_atStart careless
    rw [admitsPortal_iff standard rfl rfl leads]
    decide
  · intro credential known
    have unnamed : ∀ credential ∈ careless.login.credentials, credential.username = "" := by
      decide
    rw [admitsLogin_iff standard rfl rfl (Config.user_ne_empty valid)
      (Config.credential?_of_mem valid known)]
    exact not_not.mpr (unnamed credential known)

end StoryShell.Terminal
