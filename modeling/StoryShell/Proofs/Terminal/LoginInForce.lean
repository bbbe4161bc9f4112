/-
# The login in force

Whoever is logged in has given the right password: the username and the level of
a session are those of one credential, and the run holds the answer that logged
in with it. Since that answer nothing has ended the login, neither a logout nor
another login. The audit reads the level only, so what it reviews it reviews for
such a login.
-/

import Mathlib.Data.List.Induction
import StoryShell.Proofs.Terminal.Frames
import StoryShell.Proofs.World.Parts

namespace StoryShell

/-! ### Who is logged in -/

/-- Who is logged in, and at which level. -/
def Session.login (session : Session) : Option String × Option AccessLevel :=
  (session.username, session.level)

/-- Whether a change leaves it as it is who is logged in. -/
def Change.keepsLogin : Change → Bool
  | logIn _ _ | logOut => false
  | setCwd _ | countFailure | setFlag _ _ | clearFlag _ | mount _ _ _ | unmount _ _ => true

theorem Session.login_apply {change : Change} (keeps : change.keepsLogin = true)
    (session : Session) : (session.apply change).login = session.login := by
  cases change with
  | logIn username level | logOut => cases keeps
  | setCwd path | countFailure | setFlag name value | clearFlag name | mount parent name node
  | unmount parent name => rfl

theorem leaveAlone_login {changes : List Change}
    (keeps : ∀ change ∈ changes, change.keepsLogin = true) :
    LeaveAlone Session.login changes :=
  fun change member => Session.login_apply (keeps change member)

theorem Network.keepsLogin_connection (name : String) (files : Node)
    (flags : List (String × FlagValue)) :
    ∀ change ∈ connection name files flags, change.keepsLogin = true := by
  intro change member
  rcases mem_connection member with rfl | ⟨flag, value, rfl⟩
  · rfl
  · rfl

theorem Network.keepsLogin_disconnection (name : String) (flags : List String) (view : View) :
    ∀ change ∈ (disconnection name flags view).changes, change.keepsLogin = true := by
  intro change member
  rcases mem_disconnection member with rfl | ⟨flag, rfl⟩ | rfl
  · rfl
  · rfl
  · rfl

/-- No request but a login and a logout touches who is logged in. -/
theorem Request.cases_login {view : View} {login : Option Credential} {changes : List Change}
    (request : Request view login changes) :
    (∃ credential, login = some credential ∧
        ∃ mounts, changes = .logIn credential.username credential.level :: mounts ∧
          (∀ change ∈ mounts, change.keepsLogin = true) ∧
          ∃ next, view.state.applyAll changes = .ok next) ∨
      (login = none ∧ changes = [.logOut]) ∨
        (login = none ∧ ∀ change ∈ changes, change.keepsLogin = true) := by
  cases request with
  | logsIn known =>
    rename_i credential
    refine .inl ⟨credential, rfl, _, rfl, ?_, _, State.applyAll_logIn credential⟩
    intro change hchange
    obtain ⟨part, -, rfl⟩ := Option.map_eq_some_iff.mp (Option.mem_toList.mp hchange)
    rfl
  | logsOut loggedIn => exact .inr (.inl ⟨rfl, rfl⟩)
  | nothing => exact .inr (.inr ⟨rfl, by simp⟩)
  | goes found => exact .inr (.inr ⟨rfl, by simp [Change.keepsLogin]⟩)
  | failsLogin => exact .inr (.inr ⟨rfl, by simp [Change.keepsLogin]⟩)
  | connectsShare => exact .inr (.inr ⟨rfl, Network.keepsLogin_connection _ _ _⟩)
  | connectsPortal => exact .inr (.inr ⟨rfl, Network.keepsLogin_connection _ _ _⟩)
  | leavesShare connected => exact .inr (.inr ⟨rfl, Network.keepsLogin_disconnection _ _ view⟩)
  | leavesPortal connected => exact .inr (.inr ⟨rfl, Network.keepsLogin_disconnection _ _ view⟩)

namespace Terminal

variable {terminal : Terminal} {line : String} {credential : Credential}

/-! ### Logins and logouts in a run -/

/-- A line logs in with a credential: the question for the password of the credential's username is
pending, the configuration has the credential for that username, and the line is its password, not
a character more or less. -/
def LogsIn (terminal : Terminal) (line : String) (credential : Credential) : Prop :=
  ∃ prompt, terminal.pending = some prompt ∧
    prompt.dialog = .loginPassword credential.username ∧
    terminal.config.credential? credential.username = some credential ∧
    line = credential.password

/-- A line logs out: it runs the command for that, and the command succeeds. -/
def LogsOut (terminal : Terminal) (line : String) : Prop :=
  (∃ arguments, terminal.Runs line .logout arguments) ∧
    ∃ outcome, terminal.outcome? line = some (.ok outcome)

theorem loginBy?_eq_some :
    terminal.loginBy? line = some credential ↔ terminal.LogsIn line credential := by
  rw [loginBy?, Option.bind_eq_some_iff]
  constructor
  · rintro ⟨prompt, pending, login⟩
    cases dialog : prompt.dialog with
    | loginPassword username =>
      rw [dialog] at login
      obtain ⟨known, right⟩ := Account.accepted?_eq_some.mp login
      have named := Config.username_of_credential? known
      subst named
      exact ⟨prompt, pending, dialog, known, right.symm⟩
    | shareEmployee | shareCode employeeId | portalUsername | portalPassword username
    | portalToken username password | scripted next =>
      rw [dialog] at login
      cases login
  · rintro ⟨prompt, pending, dialog, known, right⟩
    refine ⟨prompt, pending, ?_⟩
    rw [dialog]
    exact Account.accepted?_eq_some.mpr ⟨known, right.symm⟩

/-- Only the command for logging out asks for it. -/
theorem exists_runs_logout (h : terminal.IsStandard) {outcome : Outcome}
    (found : terminal.outcome? line = some (.ok outcome)) (out : .logOut ∈ outcome.changes) :
    ∃ arguments, terminal.Runs line .logout arguments := by
  have keeping : (∀ change ∈ outcome.changes, change.keepsLogin = true) → False := by
    intro keeps
    cases keeps .logOut out
  cases pending : terminal.pending with
  | some prompt =>
    have answered := (h.pending prompt pending).isSome
    obtain ⟨origin, question, masked, dialog⟩ := prompt
    rw [outcome?, pending, Option.some.injEq] at found
    cases Dialog.answer_yields answered found with
    | refuses wrong => exact absurd out (by simp [Account.refuse])
    | welcomes right =>
      rcases List.mem_cons.mp out with same | mounts
      · cases same
      · obtain ⟨part, -, same⟩ := Option.map_eq_some_iff.mp (Option.mem_toList.mp mounts)
        cases same
    | asks leads continues standard => cases out
    | connectsShare right => exact (keeping (Network.keepsLogin_connection _ _ _)).elim
    | connectsPortal right => exact (keeping (Network.keepsLogin_connection _ _ _)).elim
  | none =>
    rcases exists_runs h pending found with ⟨lines, rfl⟩ | ⟨which, arguments, runs, yields⟩
    · cases out
    · cases yields with
      | logsOut loggedIn => exact ⟨arguments, runs⟩
      | tells speaks lines => cases out
      | asksPassword | asksEmployee free | asksUsername bare free => cases out
      | goes reached => exact absurd out (by simp)
      | leavesShare connected => exact (keeping (Network.keepsLogin_disconnection _ _ _)).elim
      | leavesPortal connected => exact (keeping (Network.keepsLogin_disconnection _ _ _)).elim

theorem changes_of_logsOut {outcome : Outcome} (out : terminal.LogsOut line)
    (found : terminal.outcome? line = some (.ok outcome)) : outcome.changes = [.logOut] := by
  obtain ⟨⟨arguments, runs⟩, -⟩ := out
  rw [runs.outcome?, Option.some.injEq] at found
  obtain ⟨username, -, rfl⟩ := Account.logout_ok found
  rfl

/-- What a line does to the login: it logs in, it logs out, or it does neither and leaves the login
as it is. -/
theorem login_submit (h : terminal.IsStandard) (line : String) :
    (∃ credential, terminal.LogsIn line credential ∧
        (terminal.submit line).1.state.session.login =
          (some credential.username, some credential.level)) ∨
      (terminal.LogsOut line ∧ (∀ credential, ¬ terminal.LogsIn line credential) ∧
        (terminal.submit line).1.state.session.login = (none, none)) ∨
      (¬ terminal.LogsOut line ∧ (∀ credential, ¬ terminal.LogsIn line credential) ∧
        (terminal.submit line).1.state.session.login = terminal.state.session.login) := by
  have nobody : terminal.loginBy? line = none →
      ∀ credential, ¬ terminal.LogsIn line credential := by
    intro silent credential logsIn
    rw [loginBy?_eq_some.mpr logsIn] at silent
    cases silent
  by_cases settled : ∃ outcome, terminal.outcome? line = some (.ok outcome)
  · obtain ⟨outcome, found⟩ := settled
    have request := (outcome?_isStandard h found).requests
    rcases request.cases_login with ⟨credential, login, mounts, changes, keeps, next, made⟩ |
      ⟨silent, out⟩ | ⟨silent, keeps⟩
    · refine .inl ⟨credential, loginBy?_eq_some.mp login, ?_⟩
      rw [submit_of_done found made]
      show next.session.login = _
      rw [State.session_applyAll made, changes, List.foldl_cons, (leaveAlone_login keeps).foldl]
      rfl
    · have runs : ∃ arguments, terminal.Runs line .logout arguments :=
        exists_runs_logout h found (by rw [out]; exact List.mem_singleton_self _)
      refine .inr (.inl ⟨⟨runs, outcome, found⟩, nobody silent, ?_⟩)
      have made : terminal.state.applyAll outcome.changes =
          .ok { terminal.state with session := terminal.state.session.apply .logOut } := by
        rw [out]
        rfl
      rw [submit_of_done found made]
      rfl
    · refine .inr (.inr ⟨?_, nobody silent, part_submit ?_⟩)
      · intro out
        rw [changes_of_logsOut out found] at keeps
        cases keeps .logOut (List.mem_singleton_self _)
      · intro other same
        rw [found] at same
        cases same
        exact leaveAlone_login keeps
  · have silent : ∀ outcome, terminal.outcome? line ≠ some (.ok outcome) := by
      intro outcome found
      exact settled ⟨outcome, found⟩
    refine .inr (.inr ⟨?_, nobody (loginBy?_eq_none silent), ?_⟩)
    · intro out
      exact settled out.2
    · rw [submit_eq_record silent]
      rfl

/-! ### The login that a run leaves in force -/

/-- The login with a credential is in force after a run: some line of the run logs in with it, and
no later line logs out or logs in. -/
def LoginInForce (config : Config) (initial : Tree) (lines : List String)
    (credential : Credential) : Prop :=
  ∃ before answer after, lines = before ++ answer :: after ∧
    (reached config initial before).LogsIn answer credential ∧
    ∀ middle later rest, after = middle ++ later :: rest →
      ¬ (reached config initial (before ++ answer :: middle)).LogsOut later ∧
        ∀ other, ¬ (reached config initial (before ++ answer :: middle)).LogsIn later other

variable {config : Config} {initial : Tree} {lines : List String}

/-- After one more line, the login in force is the one that the line makes, or the one from before
if the line ends none. -/
theorem loginInForce_append :
    LoginInForce config initial (lines ++ [line]) credential ↔
      (reached config initial lines).LogsIn line credential ∨
        LoginInForce config initial lines credential ∧
          ¬ (reached config initial lines).LogsOut line ∧
          ∀ other, ¬ (reached config initial lines).LogsIn line other := by
  constructor
  · rintro ⟨before, answer, after, cut, logsIn, undisturbed⟩
    -- The new line is the answer itself or the last of the lines that come after the answer.
    rcases List.eq_nil_or_concat after with rfl | ⟨middle, last, rfl⟩
    · obtain ⟨rfl, same⟩ := List.append_inj' cut rfl
      cases same
      exact .inl logsIn
    · rw [List.concat_eq_append] at cut undisturbed
      rw [← List.cons_append, ← List.append_assoc] at cut
      obtain ⟨rfl, same⟩ := List.append_inj' cut rfl
      cases same
      refine .inr ⟨⟨before, answer, middle, rfl, logsIn, ?_⟩, undisturbed middle line [] rfl⟩
      intro first later rest split
      exact undisturbed first later (rest ++ [line]) (by rw [split]; simp)
  · rintro (logsIn | ⟨⟨before, answer, after, rfl, logsIn, undisturbed⟩, kept⟩)
    · refine ⟨lines, line, [], rfl, logsIn, ?_⟩
      intro middle later rest split
      simp at split
    · refine ⟨before, answer, after ++ [line], by simp, logsIn, ?_⟩
      intro middle later rest split
      rcases List.eq_nil_or_concat rest with rfl | ⟨others, last, rfl⟩
      · obtain ⟨rfl, same⟩ := List.append_inj' split rfl
        cases same
        exact kept
      · rw [List.concat_eq_append, ← List.cons_append, ← List.append_assoc] at split
        obtain ⟨cut, -⟩ := List.append_inj' split rfl
        exact undisturbed middle later others cut

/-- The session shows the login in force: one credential, or none. -/
theorem exists_login (config : Config) (initial : Tree) (lines : List String) :
    ∃ current : Option Credential,
      (∀ credential, LoginInForce config initial lines credential ↔ current = some credential) ∧
      (reached config initial lines).state.session.login =
        (current.map (·.username), current.map (·.level)) := by
  -- A login is judged by what comes after it, so the run grows at its end.
  induction lines using List.reverseRecOn with
  | nil =>
    refine ⟨none, ?_, rfl⟩
    intro credential
    constructor
    · rintro ⟨before, answer, after, cut, -⟩
      simp at cut
    · rintro ⟨⟩
  | append_singleton lines line ih =>
    obtain ⟨current, inForce, login⟩ := ih
    have now : reached config initial (lines ++ [line]) =
        ((reached config initial lines).submit line).1 := reached_append config initial lines [line]
    rw [now]
    rcases login_submit (isStandard_reached config initial lines) line with
      ⟨credential, logsIn, shown⟩ | ⟨out, nobody, shown⟩ | ⟨stays, nobody, shown⟩
    · refine ⟨some credential, ?_, shown⟩
      intro other
      rw [loginInForce_append]
      constructor
      · rintro (otherIn | ⟨-, -, nobody⟩)
        · rw [← loginBy?_eq_some.mpr otherIn, loginBy?_eq_some.mpr logsIn]
        · exact absurd logsIn (nobody credential)
      · rintro ⟨⟩
        exact .inl logsIn
    · refine ⟨none, ?_, shown⟩
      intro other
      rw [loginInForce_append]
      constructor
      · rintro (otherIn | ⟨-, stays, -⟩)
        · exact absurd otherIn (nobody other)
        · exact absurd out stays
      · rintro ⟨⟩
    · refine ⟨current, ?_, shown.trans login⟩
      intro other
      rw [loginInForce_append, inForce]
      constructor
      · rintro (otherIn | ⟨same, -⟩)
        · exact absurd otherIn (nobody other)
        · exact same
      · intro same
        exact .inr ⟨same, stays, nobody⟩

/-! ### The audit -/

/-- The audit prints something for administrators only. -/
theorem mayAudit_of_printed {arguments : List String} {printed : OutputLine}
    (runs : terminal.Runs line .audit arguments) (prints : printed ∈ (terminal.submit line).2)
    (system : printed.kind = .system) : Account.mayAudit terminal.state.session = true := by
  by_cases allowed : Account.mayAudit terminal.state.session = true
  · exact allowed
  · have refused : terminal.outcome? line =
        some (.error (.permissionDenied Account.accessLog)) := by
      rw [runs.outcome?]
      exact congrArg some (if_neg allowed)
    have echoed : (terminal.echo line).kind = .commandEcho := by
      rw [echo, runs.1]
    rw [submit_of_failed refused] at prints
    rcases List.mem_cons.mp prints with rfl | prints
    · rw [echoed] at system
      cases system
    · rw [List.mem_singleton.mp prints] at system
      cases system

/-- In every state that a run reaches, the session names a user and a level or neither. It names
exactly the username and the level of the credential whose login is in force, so some line of the
run was the right password for that very username and no login or logout has come since. What the
audit prints, it prints while a login of at least administrative level is in force. -/
theorem session_shows_login_in_force (config : Config) (initial : Tree) (lines : List String) :
    let now := reached config initial lines
    (now.state.session.username.isSome = now.state.session.level.isSome) ∧
      (∀ username level,
        now.state.session.username = some username ∧ now.state.session.level = some level ↔
          ∃ credential, LoginInForce config initial lines credential ∧
            credential.username = username ∧ credential.level = level) ∧
      ∀ line arguments printed, now.Runs line .audit arguments →
        printed ∈ (now.submit line).2 → printed.kind = .system →
          ∃ credential, LoginInForce config initial lines credential ∧
            AccessLevel.admin ≤ credential.level := by
  intro now
  obtain ⟨current, inForce, login⟩ := exists_login config initial lines
  have username : now.state.session.username = current.map (·.username) :=
    congrArg Prod.fst login
  have level : now.state.session.level = current.map (·.level) := congrArg Prod.snd login
  rw [username, level]
  refine ⟨by rw [Option.isSome_map, Option.isSome_map], ?_, ?_⟩
  · intro name rank
    simp only [inForce]
    cases current with
    | none => simp
    | some credential => simp
  · intro line arguments printed runs prints system
    have allowed := mayAudit_of_printed runs prints system
    rw [Account.mayAudit, level, Option.any_map, Option.any_eq_true] at allowed
    obtain ⟨credential, same, admin⟩ := allowed
    exact ⟨credential, (inForce credential).mpr same, of_decide_eq_true admin⟩

/-- An administrator's login, and the way to the audit. -/
def auditVisit : List String :=
  ["login admin", "letmein", "cd admin"]

/-- The audit reviews the log for that login. -/
theorem audit_reviews_for_administrator :
    let now := reached {} World.atStart auditVisit
    now.Runs "./audit.sh" .audit [] ∧
      .system "3 entries reviewed, 1 flagged" ∈ (now.submit "./audit.sh").2 ∧
      ∃ credential, LoginInForce {} World.atStart auditVisit credential ∧
        AccessLevel.admin ≤ credential.level := by
  intro now
  obtain ⟨-, -, audits⟩ := session_shows_login_in_force {} World.atStart auditVisit
  obtain ⟨content, hidden, leads⟩ : ∃ content hidden,
      now.view.nodeAt "./audit.sh" = .ok (.executable "audit" content hidden) :=
    View.nodeAt_executable (by decide +kernel)
  have runs : now.Runs "./audit.sh" .audit [] := by
    apply runs_of_executable _ _ _ leads
    · rw [show now.table = .builtins from (isStandard_reached {} World.atStart auditVisit).table]
      rfl
    · exact Option.isNone_iff_eq_none.mp (by decide +kernel)
    · decide +kernel
    · decide +kernel
  have prints : .system "3 entries reviewed, 1 flagged" ∈ (now.submit "./audit.sh").2 := by
    decide +kernel
  exact ⟨runs, prints, audits _ _ _ runs prints rfl⟩

end Terminal

end StoryShell
