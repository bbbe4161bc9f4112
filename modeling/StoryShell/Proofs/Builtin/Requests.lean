/-
# What the terminal's own commands may ask for

Commands change nothing themselves; they ask for changes and for questions. The
terminal's own commands, programs and conversations ask for very few kinds of
changes, and `Request` lists them together with what holds when each is asked
for. `Prompt.IsStandard` does the same for questions. Both are proved once, by
going through every command and every answer, and whatever is said of runs of
such a terminal follows from them.
-/

import StoryShell.Proofs.Config
import StoryShell.Proofs.Path.Canonical
import StoryShell.Proofs.Terminal.Pipeline

namespace StoryShell

/-! ### The kinds of requests -/

/-- The credential that an answer logs in with, if it is the right password. -/
def Dialog.loginBy? (config : Config) (line : String) : Dialog → Option Credential
  | loginPassword username => Account.accepted? config username line
  | _ => none

/-- The credential that a line logs in with, if it is the right answer to a question for a
password. -/
def Terminal.loginBy? (terminal : Terminal) (line : String) : Option Credential :=
  terminal.pending.bind fun prompt => prompt.dialog.loginBy? terminal.config line

/-- The part of the world that a login with a credential makes visible. -/
def Credential.revealed? (credential : Credential) : Option (String × Node) :=
  credential.reveal.bind World.reveal?

/-- The changes that the terminal's own commands ask for, given what they see and whether a login
succeeds with them. -/
inductive Request (view : View) : Option Credential → List Change → Prop
  | nothing : Request view none []
  | goes {target : String} {children : Children} {hidden : Bool}
      (found : view.tree.find (view.resolve target) = .ok (.directory children hidden)) :
      Request view none [.setCwd (view.resolve target)]
  | logsIn {credential : Credential}
      (known : view.config.credential? credential.username = some credential) :
      Request view (some credential)
        (.logIn credential.username credential.level ::
          (credential.revealed?.map fun part => Change.mount Path.root part.1 part.2).toList)
  | failsLogin : Request view none [.countFailure]
  | logsOut {username : String} (loggedIn : view.session.username = some username) :
      Request view none [.logOut]
  | connectsShare :
      Request view none
        (Network.connection World.shareName World.share [(Network.shareFlag, .bool true)])
  | connectsPortal :
      Request view none
        (Network.connection World.portalName World.portalFiles
          [(Network.portalFlag, .bool true),
            (Network.accessFlag, .text view.config.portal.access)])
  | leavesShare (connected : view.session.isSet Network.shareFlag = true) :
      Request view none (Network.disconnection World.shareName [Network.shareFlag] view).changes
  | leavesPortal (connected : view.session.isSet Network.portalFlag = true) :
      Request view none
        (Network.disconnection World.portalName [Network.portalFlag, Network.accessFlag]
          view).changes

/-- The question of each step of the terminal's own conversations, and whether its answer is a
password. -/
def Dialog.question? : Dialog → Option (String × Bool)
  | loginPassword username => some ("password for " ++ username ++ ": ", true)
  | shareEmployee => some ("employee id: ", false)
  | shareCode _ => some ("access code: ", true)
  | portalUsername => some ("username: ", false)
  | portalPassword _ => some ("password: ", true)
  | portalToken _ _ => some ("token: ", false)
  | scripted _ => none

/-- A prompt of one of the terminal's own conversations: its question and its mask are those of the
step it continues. -/
def Prompt.IsStandard (prompt : Prompt) : Prop :=
  prompt.dialog.question? = some (prompt.question, prompt.masked)

/-- An outcome of the terminal's own commands. -/
structure Outcome.IsStandard (outcome : Outcome) (view : View) (login : Option Credential) :
    Prop where
  requests : Request view login outcome.changes
  asks : ∀ prompt ∈ outcome.prompt, prompt.IsStandard

theorem Prompt.IsStandard.withOrigin {prompt : Prompt} (h : prompt.IsStandard) (origin : String) :
    (prompt.withOrigin origin).IsStandard :=
  h

theorem Prompt.IsStandard.isSome {prompt : Prompt} (h : prompt.IsStandard) :
    prompt.dialog.question?.isSome = true := by
  rw [h]
  rfl

variable {view : View} {outcome : Outcome} {arguments : List String}

theorem Outcome.isStandard_say (lines : List String) :
    (Outcome.say lines).IsStandard view none :=
  ⟨.nothing, by simp [Outcome.say]⟩

theorem Outcome.isStandard_ask {prompt : Prompt} (h : prompt.IsStandard) :
    (Outcome.ask prompt).IsStandard view none :=
  ⟨.nothing, by simpa [Outcome.ask] using h⟩

/-! ### Reading a successful command

A command that succeeds has passed each of its steps. -/

theorem exists_of_bind_ok {α β : Type _} {first : Except Failure α} {next : α → Except Failure β}
    {result : β} (h : first >>= next = .ok result) :
    ∃ value, first = .ok value ∧ next value = .ok result := by
  cases first with
  | error failure => cases h
  | ok value => exact ⟨value, rfl, h⟩

theorem View.nodeAt_ok {path : String} {node : Node} (h : view.nodeAt path = .ok node) :
    view.tree.find (view.resolve path) = .ok node := by
  rw [View.nodeAt] at h
  cases found : view.tree.find (view.resolve path) with
  | error miss => rw [found] at h; cases h
  | ok reached => rw [found] at h; cases h; rfl

namespace Files

theorem list_ok (h : list arguments view = .ok outcome) : ∃ lines, outcome = .say lines := by
  rw [list] at h
  cases unknown : Arguments.unknownOption? allOptions arguments with
  | some option => rw [unknown] at h; cases h
  | none =>
    rw [unknown] at h
    obtain ⟨node, -, h⟩ := exists_of_bind_ok h
    cases held : node.children? with
    | none => simp [held] at h
    | some children =>
      simp only [held, Except.ok.injEq] at h
      exact ⟨_, h.symm⟩

theorem enter_ok (h : enter arguments view = .ok outcome) :
    ∃ target children hidden,
      view.tree.find (view.resolve target) = .ok (.directory children hidden) ∧
        outcome = { changes := [.setCwd (view.resolve target)] } := by
  cases arguments with
  | nil =>
    cases h
    have home : view.resolve Path.root = Path.root := Path.resolve_root view.session.cwd
    exact ⟨Path.root, view.tree.children, view.tree.hidden, by rw [home]; rfl, by rw [home]⟩
  | cons target rest =>
    obtain ⟨node, found, h⟩ := exists_of_bind_ok h
    cases node with
    | directory children hidden =>
      cases h
      exact ⟨target, children, hidden, View.nodeAt_ok found, rfl⟩
    | file content hidden => cases h
    | executable entry content hidden => cases h

theorem print_ok (h : print arguments view = .ok outcome) : ∃ lines, outcome = .say lines := by
  cases arguments with
  | nil => cases h
  | cons first rest =>
    obtain ⟨texts, -, h⟩ := exists_of_bind_ok h
    cases h
    exact ⟨texts.flatten, rfl⟩

end Files

namespace Search

theorem find_ok (h : find arguments view = .ok outcome) : ∃ lines, outcome = .say lines := by
  cases arguments with
  | nil => cases h
  | cons pattern rest =>
    rw [find] at h
    cases found : reports pattern (view.tree.descendants false) with
    | nil => rw [found] at h; cases h; exact ⟨_, rfl⟩
    | cons first more => rw [found] at h; cases h; exact ⟨_, rfl⟩

theorem grep_ok (h : grep arguments view = .ok outcome) : ∃ lines, outcome = .say lines := by
  rw [grep] at h
  cases unknown : Arguments.unknownOption? ["-n"] arguments with
  | some option => rw [unknown] at h; cases h
  | none =>
    rw [unknown] at h
    cases operands : Arguments.operands arguments with
    | nil => rw [operands] at h; cases h
    | cons pattern others =>
      cases others with
      | nil => rw [operands] at h; cases h
      | cons path rest =>
        rw [operands] at h
        obtain ⟨node, -, h⟩ := exists_of_bind_ok h
        cases content : node.content? with
        | none => simp [content] at h
        | some text =>
          simp only [content, pure, Except.pure, Except.ok.injEq] at h
          exact ⟨_, h.symm⟩

end Search

namespace Account

theorem audit_ok (h : audit view = .ok outcome) : ∃ lines, outcome = .say lines := by
  rw [audit] at h
  by_cases allowed : mayAudit view.session = true
  · rw [if_pos allowed] at h
    obtain ⟨node, -, h⟩ := exists_of_bind_ok h
    cases h
    exact ⟨_, rfl⟩
  · rw [if_neg allowed] at h
    cases h

theorem logout_ok (h : logout view = .ok outcome) :
    ∃ username, view.session.username = some username ∧
      outcome = { output := [.system ("goodbye, " ++ username)], changes := [.logOut] } := by
  rw [logout] at h
  cases loggedIn : view.session.username with
  | none => rw [loggedIn] at h; cases h
  | some username =>
    rw [loggedIn] at h
    cases h
    exact ⟨username, rfl, rfl⟩

/-- A password that is accepted is the one of the first credential of the username. -/
theorem accepted?_eq_some {config : Config} {username password : String} {credential : Credential} :
    accepted? config username password = some credential ↔
      config.credential? username = some credential ∧ credential.password = password := by
  rw [accepted?, Option.filter_eq_some_iff, decide_eq_true_iff]

end Account

/-! ### Going through every command and every answer -/

namespace Builtin

/-- Whether a command can come to nothing but lines to print. Of the others only the portal's program
can too. -/
def speaks : Builtin → Bool
  | ls | pwd | cat | echo | whoami | history | find | grep | audit | portal => true
  | cd | login | logout | connectShare | disconnectShare => false

/-- What a built-in command can come to, given its arguments and what it sees. -/
inductive Yields (arguments : List String) (view : View) : Builtin → Outcome → Prop
  | tells {which : Builtin} (speaks : which.speaks = true) (lines : List String) :
      Yields arguments view which (.say lines)
  | goes {target : String} {children : Children} {hidden : Bool}
      (found : view.tree.find (view.resolve target) = .ok (.directory children hidden)) :
      Yields arguments view cd { changes := [.setCwd (view.resolve target)] }
  | asksPassword : Yields arguments view login (Account.login arguments view)
  | logsOut {username : String} (loggedIn : view.session.username = some username) :
      Yields arguments view logout
        { output := [.system ("goodbye, " ++ username)], changes := [.logOut] }
  | asksEmployee (free : view.session.isSet Network.shareFlag = false) :
      Yields arguments view connectShare
        (.ask ⟨"megacorp-connect", "employee id: ", false, .shareEmployee⟩)
  | leavesShare (connected : view.session.isSet Network.shareFlag = true) :
      Yields arguments view disconnectShare
        (Network.disconnection World.shareName [Network.shareFlag] view)
  | asksUsername (bare : arguments = []) (free : view.session.isSet Network.portalFlag = false) :
      Yields arguments view portal (.ask ⟨"portal", "username: ", false, .portalUsername⟩)
  | leavesPortal (connected : view.session.isSet Network.portalFlag = true) :
      Yields arguments view portal
        (Network.disconnection World.portalName [Network.portalFlag, Network.accessFlag] view)

theorem portal_yields (h : Network.portal arguments view = .ok outcome) :
    Yields arguments view portal outcome := by
  rw [Network.portal.eq_def] at h
  dsimp only at h
  split at h
  · cases connected : view.session.isSet Network.portalFlag with
    | true => rw [if_pos connected] at h; cases h
    | false =>
      rw [connected] at h
      cases h
      exact .asksUsername rfl connected
  · rw [← Except.ok.inj h]
    exact .tells rfl (Text.lines World.portalBanner)
  · cases h
    exact .tells rfl _
  · by_cases connected : view.session.isSet Network.portalFlag = true
    · rw [if_pos connected] at h
      cases h
      exact .leavesPortal connected
    · rw [if_neg connected] at h; cases h
  · cases h

/-- A command that succeeds comes to one of the outcomes that it can come to. -/
theorem run_yields {which : Builtin} (h : which.run arguments view = .ok outcome) :
    Yields arguments view which outcome := by
  have tells : which.speaks = true → (∃ lines, outcome = .say lines) →
      Yields arguments view which outcome := by
    rintro speaks ⟨lines, rfl⟩
    exact .tells speaks lines
  cases which with
  | ls => exact tells rfl (Files.list_ok h)
  | cd =>
    obtain ⟨target, children, hidden, found, rfl⟩ := Files.enter_ok h
    exact .goes found
  | pwd => cases h; exact .tells rfl _
  | cat => exact tells rfl (Files.print_ok h)
  | echo => cases h; exact .tells rfl _
  | whoami => cases h; exact .tells rfl _
  | history => cases h; exact .tells rfl _
  | find => exact tells rfl (Search.find_ok h)
  | grep => exact tells rfl (Search.grep_ok h)
  | login => cases h; exact .asksPassword
  | logout =>
    obtain ⟨username, loggedIn, rfl⟩ := Account.logout_ok h
    exact .logsOut loggedIn
  | connectShare =>
    change Network.connectShare view = .ok outcome at h
    rw [Network.connectShare] at h
    cases connected : view.session.isSet Network.shareFlag with
    | true => rw [if_pos connected] at h; cases h
    | false =>
      rw [connected] at h
      cases h
      exact .asksEmployee connected
  | disconnectShare =>
    change Network.disconnectShare view = .ok outcome at h
    rw [Network.disconnectShare] at h
    by_cases connected : view.session.isSet Network.shareFlag = true
    · rw [if_pos connected] at h
      cases h
      exact .leavesShare connected
    · rw [if_neg connected] at h; cases h
  | audit => exact tells rfl (Account.audit_ok h)
  | portal => exact portal_yields h

theorem Yields.isStandard {which : Builtin} (h : Yields arguments view which outcome) :
    outcome.IsStandard view none := by
  cases h with
  | tells speaks lines => exact Outcome.isStandard_say lines
  | goes found => exact ⟨.goes found, by simp⟩
  | asksPassword => exact Outcome.isStandard_ask rfl
  | logsOut loggedIn => exact ⟨.logsOut loggedIn, by simp⟩
  | asksEmployee free => exact Outcome.isStandard_ask rfl
  | leavesShare connected => exact ⟨.leavesShare connected, by simp [Network.disconnection]⟩
  | asksUsername bare free => exact Outcome.isStandard_ask rfl
  | leavesPortal connected => exact ⟨.leavesPortal connected, by simp [Network.disconnection]⟩

end Builtin

/-! ### Answers -/

namespace Dialog

/-- The step of the terminal's own conversations that an answer leads on to. An employee id and a
username are kept without the blank characters around them, the portal's password as it is. -/
def next? (line : String) : Dialog → Option Dialog
  | shareEmployee => some (.shareCode (Text.trim line))
  | portalUsername => some (.portalPassword (Text.trim line))
  | portalPassword username => some (.portalToken username line)
  | loginPassword _ | shareCode _ | portalToken _ _ | scripted _ => none

/-- What an answer to a step of the terminal's own conversations can come to. -/
inductive Yields (line : String) (view : View) : Dialog → Outcome → Prop
  | refuses {username : String}
      (wrong : Account.accepted? view.config username line = none) :
      Yields line view (loginPassword username) (Account.refuse username view)
  | welcomes {username : String} {credential : Credential}
      (right : Account.accepted? view.config username line = some credential) :
      Yields line view (loginPassword username) (Account.welcome username credential)
  | asks {dialog step : Dialog} {prompt : Prompt} (leads : dialog.next? line = some step)
      (continues : prompt.dialog = step) (standard : prompt.IsStandard) :
      Yields line view dialog (.ask prompt)
  | connectsShare {employeeId : String} {output : Batch}
      (right : employeeId = view.config.share.employeeId ∧ line = view.config.share.accessCode) :
      Yields line view (shareCode employeeId)
        { output
          changes :=
            Network.connection World.shareName World.share [(Network.shareFlag, .bool true)] }
  | connectsPortal {username password : String} {output : Batch}
      (right : username = view.config.portal.username ∧
        password = view.config.portal.password ∧ Text.trim line = view.config.portal.token) :
      Yields line view (portalToken username password)
        { output
          changes :=
            Network.connection World.portalName World.portalFiles
              [(Network.portalFlag, .bool true),
                (Network.accessFlag, .text view.config.portal.access)] }

variable {dialog : Dialog} {line : String}

/-- An answer that succeeds comes to one of the outcomes that it can come to. -/
theorem answer_yields (standard : dialog.question?.isSome = true)
    (h : dialog.answer line view = .ok outcome) : Yields line view dialog outcome := by
  cases dialog with
  | loginPassword username =>
    cases h
    rw [Account.checkPassword]
    cases accepted : Account.accepted? view.config username line with
    | none => exact .refuses accepted
    | some credential => exact .welcomes accepted
  | shareEmployee => cases h; exact .asks rfl rfl rfl
  | shareCode employeeId =>
    change Network.checkShare employeeId line view = .ok outcome at h
    rw [Network.checkShare] at h
    split at h
    · rename_i right
      cases h
      exact .connectsShare right
    · cases h
  | portalUsername => cases h; exact .asks rfl rfl rfl
  | portalPassword username => cases h; exact .asks rfl rfl rfl
  | portalToken username password =>
    change Network.checkPortal username password line view = .ok outcome at h
    rw [Network.checkPortal] at h
    split at h
    · rename_i right
      cases h
      exact .connectsPortal right
    · cases h
  | scripted next => cases standard

theorem Yields.isStandard (h : Yields line view dialog outcome) :
    outcome.IsStandard view (dialog.loginBy? view.config line) := by
  cases h with
  | refuses wrong =>
    rw [loginBy?, wrong]
    exact ⟨.failsLogin, by simp [Account.refuse]⟩
  | welcomes right =>
    obtain ⟨known, -⟩ := Account.accepted?_eq_some.mp right
    rw [loginBy?, right]
    have named := Config.username_of_credential? known
    subst named
    exact ⟨.logsIn known, by simp [Account.welcome]⟩
  | asks leads continues standard =>
    have silent : dialog.loginBy? view.config line = none := by
      cases dialog <;> first | rfl | cases leads
    rw [silent]
    exact Outcome.isStandard_ask standard
  | connectsShare right => exact ⟨.connectsShare, by simp⟩
  | connectsPortal right => exact ⟨.connectsPortal, by simp⟩

theorem answer_isStandard (standard : dialog.question?.isSome = true)
    (h : dialog.answer line view = .ok outcome) :
    outcome.IsStandard view (dialog.loginBy? view.config line) :=
  (answer_yields standard h).isStandard

end Dialog

end StoryShell
