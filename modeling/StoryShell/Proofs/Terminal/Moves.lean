/-
# What one line does to the session and the tree

`Request` says what the built-in commands ask for; `Move` says what becomes of
the session and the tree when it is done. As long as the share and the portal
have their files in the home directory while they are connected, every request
can be carried out, so a line on a standard terminal always makes one of these
moves.
-/

import StoryShell.Proofs.Terminal.Standard
import StoryShell.Proofs.Tree.Home

namespace StoryShell

namespace Session

/-- The session with a flag set. -/
def withFlag (session : Session) (flag : String) (value : FlagValue) : Session :=
  { session with flags := NameMap.put session.flags flag value }

/-- The session without a flag. -/
def withoutFlag (session : Session) (flag : String) : Session :=
  { session with flags := NameMap.remove session.flags flag }

/-- The session after the child `name` of the home directory has gone: at home if it was inside. -/
def leaving (session : Session) (name : String) : Session :=
  if Path.isWithin session.cwd (Path.join Path.root name) then { session with cwd := Path.root }
  else session

end Session

/-- What a line of a standard terminal can do to the session and the tree, given the configuration
and whether a login succeeds with it. -/
inductive Move (config : Config) (state : State) : Option Credential → State → Prop
  | stays : Move config state none state
  | goes {target : String} {children : Children} {hidden : Bool}
      (found : state.tree.find (Path.resolve target state.session.cwd) =
        .ok (.directory children hidden)) :
      Move config state none
        { state with
          session := { state.session with cwd := Path.resolve target state.session.cwd } }
  | logsIn {credential : Credential}
      (known : config.credential? credential.username = some credential) :
      Move config state (some credential)
        { session := state.session.apply (.logIn credential.username credential.level)
          tree := state.tree.revealing credential.revealed? }
  | failsLogin : Move config state none { state with session := state.session.apply .countFailure }
  | logsOut {username : String} (loggedIn : state.session.username = some username) :
      Move config state none { state with session := state.session.apply .logOut }
  | connectsShare :
      Move config state none
        { session := state.session.withFlag Network.shareFlag (.bool true)
          tree := state.tree.putChild World.shareName World.share }
  | connectsPortal :
      Move config state none
        { session := (state.session.withFlag Network.portalFlag (.bool true)).withFlag
            Network.accessFlag (.text config.portal.access)
          tree := state.tree.putChild World.portalName World.portalFiles }
  | leavesShare (connected : state.session.isSet Network.shareFlag = true) :
      Move config state none
        { session := (state.session.withoutFlag Network.shareFlag).leaving World.shareName
          tree := state.tree.dropChild World.shareName }
  | leavesPortal (connected : state.session.isSet Network.portalFlag = true) :
      Move config state none
        { session := ((state.session.withoutFlag Network.portalFlag).withoutFlag
            Network.accessFlag).leaving World.portalName
          tree := state.tree.dropChild World.portalName }

/-- What is connected has its files in the home directory. -/
structure State.Furnished (state : State) : Prop where
  share : state.session.isSet Network.shareFlag = true →
    ∃ node, NameMap.find? state.tree.children World.shareName = some node
  portal : state.session.isSet Network.portalFlag = true →
    ∃ node, NameMap.find? state.tree.children World.portalName = some node

namespace State

variable {state : State}

theorem typable_revealed {part : String × Node} {name : String}
    (h : World.reveal? name = some part) : Path.isEntryName part.1 = true := by
  rw [World.reveal?] at h
  by_cases journal : name = "journal"
  · rw [if_pos journal] at h
    cases h
    rfl
  · rw [if_neg journal] at h
    by_cases admin : name = "admin"
    · rw [if_pos admin] at h
      cases h
      rfl
    · rw [if_neg admin] at h
      cases h

theorem applyAll_logIn (credential : Credential) :
    state.applyAll
        (.logIn credential.username credential.level ::
          (credential.revealed?.map fun part => Change.mount Path.root part.1 part.2).toList) =
      .ok
        { session := state.session.apply (.logIn credential.username credential.level)
          tree := state.tree.revealing credential.revealed? } := by
  rw [applyAll_cons_of_tree rfl]
  cases revealed : credential.revealed? with
  | none => rfl
  | some part =>
    obtain ⟨name, -, shown⟩ := Option.bind_eq_some_iff.mp revealed
    rw [Option.map_some, Option.toList_some, applyAll_mount (typable_revealed shown)]
    rfl

theorem applyAll_setFlags (flags : List (String × FlagValue)) (changes : List Change) :
    state.applyAll ((flags.map fun (flag, value) => Change.setFlag flag value) ++ changes) =
      State.applyAll
        { state with
          session := flags.foldl (fun session flag => session.withFlag flag.1 flag.2)
            state.session }
        changes := by
  induction flags generalizing state with
  | nil => rfl
  | cons flag rest ih =>
    rw [List.map_cons, List.cons_append, applyAll_cons_of_tree rfl, ih]
    rfl

theorem applyAll_clearFlags (flags : List String) (changes : List Change) :
    state.applyAll (flags.map Change.clearFlag ++ changes) =
      State.applyAll { state with session := flags.foldl Session.withoutFlag state.session }
        changes := by
  induction flags generalizing state with
  | nil => rfl
  | cons flag rest ih =>
    rw [List.map_cons, List.cons_append, applyAll_cons_of_tree rfl, ih]
    rfl

theorem cwd_withoutFlags (session : Session) (flags : List String) :
    (flags.foldl Session.withoutFlag session).cwd = session.cwd := by
  induction flags generalizing session with
  | nil => rfl
  | cons flag rest ih => exact ih (session.withoutFlag flag)

/-- A connection is always made. -/
theorem applyAll_connection {name : String} (typable : Path.isEntryName name = true) (files : Node)
    (flags : List (String × FlagValue)) :
    state.applyAll (Network.connection name files flags) =
      .ok
        { session := flags.foldl (fun session flag => session.withFlag flag.1 flag.2)
            state.session
          tree := state.tree.putChild name files } := by
  rw [Network.connection, applyAll_mount typable, ← List.append_nil (flags.map _),
    applyAll_setFlags, applyAll_nil]

/-- A disconnection is made if the files are there. -/
theorem applyAll_disconnection (view : View) {name : String} {node : Node}
    (held : NameMap.find? view.state.tree.children name = some node) (flags : List String) :
    view.state.applyAll (Network.disconnection name flags view).changes =
      .ok
        { session := (flags.foldl Session.withoutFlag view.state.session).leaving name
          tree := view.state.tree.dropChild name } := by
  rw [Network.disconnection]
  simp only [List.cons_append]
  rw [applyAll_unmount held, applyAll_clearFlags, Session.leaving, cwd_withoutFlags]
  by_cases inside : Path.isWithin view.state.session.cwd (Path.join Path.root name) = true
  · rw [if_pos inside, View.session, if_pos inside]
    rfl
  · rw [if_neg inside, View.session, if_neg inside]
    rfl

end State

/-- Every request of a built-in command can be carried out, and makes a known move. -/
theorem Request.applyAll {view : View} {login : Option Credential} {changes : List Change}
    (request : Request view login changes) (furnished : view.state.Furnished) :
    ∃ next, view.state.applyAll changes = .ok next ∧ Move view.config view.state login next := by
  cases request with
  | nothing => exact ⟨view.state, rfl, .stays⟩
  | goes found => exact ⟨_, rfl, .goes found⟩
  | logsIn known => exact ⟨_, State.applyAll_logIn _, .logsIn known⟩
  | failsLogin => exact ⟨_, rfl, .failsLogin⟩
  | logsOut loggedIn => exact ⟨_, rfl, .logsOut loggedIn⟩
  | connectsShare => exact ⟨_, State.applyAll_connection rfl _ _, .connectsShare⟩
  | connectsPortal => exact ⟨_, State.applyAll_connection rfl _ _, .connectsPortal⟩
  | leavesShare connected =>
    obtain ⟨node, held⟩ := furnished.share connected
    exact ⟨_, State.applyAll_disconnection view held _, .leavesShare connected⟩
  | leavesPortal connected =>
    obtain ⟨node, held⟩ := furnished.portal connected
    exact ⟨_, State.applyAll_disconnection view held _, .leavesPortal connected⟩

namespace Terminal

variable {terminal : Terminal} {line : String}

/-- The changes of an outcome are never refused. -/
theorem applyAll_outcome? (standard : terminal.IsStandard) (furnished : terminal.state.Furnished)
    {outcome : Outcome} (found : terminal.outcome? line = some (.ok outcome)) :
    ∃ next, terminal.state.applyAll outcome.changes = .ok next ∧
      Move terminal.config terminal.state (terminal.loginBy? line) next :=
  (outcome?_isStandard standard found).requests.applyAll furnished

/-- Every line makes one of the known moves. -/
theorem submit_moves (standard : terminal.IsStandard) (furnished : terminal.state.Furnished)
    (line : String) :
    Move terminal.config terminal.state (terminal.loginBy? line)
      (terminal.submit line).1.state := by
  by_cases settled : ∃ outcome, terminal.outcome? line = some (.ok outcome)
  · obtain ⟨outcome, found⟩ := settled
    obtain ⟨next, made, move⟩ := applyAll_outcome? standard furnished found
    rw [submit_of_done found made]
    exact move
  · have silent : ∀ outcome, terminal.outcome? line ≠ some (.ok outcome) := by
      intro outcome found
      exact settled ⟨outcome, found⟩
    rw [submit_eq_record silent, loginBy?_eq_none silent]
    exact .stays

end Terminal

end StoryShell
