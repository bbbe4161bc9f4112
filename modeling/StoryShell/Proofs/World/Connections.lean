/-
# The home directory follows connections and logins

Over a whole run the tree is what it was at the start with some parts of the
world added in the home directory: the share and the portal exactly while they
are connected, and what logins reveal from the first such login on. The flags say
which of the two services are connected and nothing else. No change is ever
refused, so disconnecting takes back exactly what connecting brought.

The initial tree may be any tree whose home directory is a map, in name order,
without the names of the parts.
-/

import StoryShell.Proofs.Terminal.Moves
import StoryShell.Proofs.World.Parts

namespace StoryShell

open World (Part)

/-- The flags of a session in which exactly some services are connected. -/
def Network.flags (config : Config) (shown : Part → Bool) : NameMap FlagValue :=
  (if shown .share then [(shareFlag, .bool true)] else []) ++
    if shown .portal then [(accessFlag, .text config.portal.access), (portalFlag, .bool true)]
    else []

/-- The state shows some parts of the world, over an initial tree and after some logins. -/
structure State.Shows (config : Config) (initial : Tree) (shown : Part → Bool)
    (logins : List Credential) (state : State) : Prop where
  tree : state.tree.Shows initial shown
  flags : state.session.flags = Network.flags config shown
  journal : shown .journal = logins.any (Part.isRevealedBy · .journal)
  admin : shown .admin = logins.any (Part.isRevealedBy · .admin)

variable {config : Config} {initial : Tree} {shown : Part → Bool} {logins : List Credential}
  {state : State}

namespace State.Shows

theorem isSet_share (h : state.Shows config initial shown logins) :
    state.session.isSet Network.shareFlag = shown .share := by
  rw [Session.isSet, h.flags, Network.flags]
  cases shown .share <;> cases shown .portal <;> rfl

theorem isSet_portal (h : state.Shows config initial shown logins) :
    state.session.isSet Network.portalFlag = shown .portal := by
  rw [Session.isSet, h.flags, Network.flags]
  cases shown .share <;> cases shown .portal <;> rfl

theorem eq_shown (h : state.Shows config initial shown logins) :
    shown = Part.shown state.session logins := by
  funext part
  cases part with
  | share => exact h.isSet_share.symm
  | portal => exact h.isSet_portal.symm
  | journal => exact h.journal
  | admin => exact h.admin

/-! ### Every move keeps the description -/

theorem start (config : Config) (initial : Tree) :
    ({ tree := initial } : State).Shows config initial (fun _ => false) [] where
  tree := initial.shows_initial
  flags := rfl
  journal := rfl
  admin := rfl

/-- What is connected is there, so nothing that is asked for is refused. -/
theorem furnished (h : state.Shows config initial shown logins) : state.Furnished where
  share := by
    intro connected
    rw [h.isSet_share] at connected
    have found := h.tree.find?_part .share
    rw [if_pos connected] at found
    exact ⟨_, found⟩
  portal := by
    intro connected
    rw [h.isSet_portal] at connected
    have found := h.tree.find?_part .portal
    rw [if_pos connected] at found
    exact ⟨_, found⟩

/-- A session that keeps its flags over the same tree shows the same. -/
theorem of_flags (h : state.Shows config initial shown logins) {session : Session}
    (same : session.flags = state.session.flags) :
    ({ state with session } : State).Shows config initial shown logins :=
  { h with flags := same.trans h.flags }

theorem connectsShare (h : state.Shows config initial shown logins) :
    State.Shows config initial (Function.update shown .share true) logins
      { session := state.session.withFlag Network.shareFlag (.bool true)
        tree := state.tree.putChild World.shareName World.share } where
  tree := h.tree.put .share
  flags := by
    rw [Session.withFlag, h.flags, Network.flags, Network.flags]
    cases shown .share <;> cases portal : shown .portal <;> simp [portal] <;> rfl
  journal := h.journal
  admin := h.admin

theorem connectsPortal (h : state.Shows config initial shown logins) :
    State.Shows config initial (Function.update shown .portal true) logins
      { session := (state.session.withFlag Network.portalFlag (.bool true)).withFlag
          Network.accessFlag (.text config.portal.access)
        tree := state.tree.putChild World.portalName World.portalFiles } where
  tree := h.tree.put .portal
  flags := by
    rw [Session.withFlag, Session.withFlag, h.flags, Network.flags, Network.flags]
    cases share : shown .share <;> cases shown .portal <;> simp [share] <;> rfl
  journal := h.journal
  admin := h.admin

theorem flags_leaving (session : Session) (name : String) :
    (session.leaving name).flags = session.flags := by
  rw [Session.leaving]
  split <;> rfl

theorem leavesShare (free : initial.LacksParts) (h : state.Shows config initial shown logins) :
    State.Shows config initial (Function.update shown .share false) logins
      { session := (state.session.withoutFlag Network.shareFlag).leaving World.shareName
        tree := state.tree.dropChild World.shareName } where
  tree := h.tree.drop (free .share)
  flags := by
    rw [flags_leaving, Session.withoutFlag, h.flags, Network.flags, Network.flags]
    cases shown .share <;> cases portal : shown .portal <;> simp [portal] <;> rfl
  journal := h.journal
  admin := h.admin

theorem leavesPortal (free : initial.LacksParts) (h : state.Shows config initial shown logins) :
    State.Shows config initial (Function.update shown .portal false) logins
      { session := ((state.session.withoutFlag Network.portalFlag).withoutFlag
          Network.accessFlag).leaving World.portalName
        tree := state.tree.dropChild World.portalName } where
  tree := h.tree.drop (free .portal)
  flags := by
    rw [flags_leaving, Session.withoutFlag, Session.withoutFlag, h.flags, Network.flags,
      Network.flags]
    cases share : shown .share <;> cases shown .portal <;> simp [share] <;> rfl
  journal := h.journal
  admin := h.admin

theorem logsIn (h : state.Shows config initial shown logins) (credential : Credential) :
    State.Shows config initial (fun part => shown part || part.isRevealedBy credential)
      (logins ++ [credential])
      { session := state.session.apply (.logIn credential.username credential.level)
        tree := state.tree.revealing credential.revealed? } where
  tree := h.tree.reveal credential
  flags := by
    have kept : Network.flags config (fun part => shown part || part.isRevealedBy credential) =
        Network.flags config shown := by
      simp only [Network.flags, Part.isRevealedBy, Bool.or_false]
    rw [kept]
    exact h.flags
  journal := by rw [List.any_append, h.journal]; simp
  admin := by rw [List.any_append, h.admin]; simp

theorem silently (h : state.Shows config initial shown logins) :
    state.Shows config initial shown (logins ++ (none : Option Credential).toList) := by
  rw [Option.toList_none, List.append_nil]
  exact h

/-- Every move leads to a state that shows what belongs to it. -/
theorem move (free : initial.LacksParts) (h : state.Shows config initial shown logins)
    {login : Option Credential} {next : State} (moves : Move config state login next) :
    ∃ shown, next.Shows config initial shown (logins ++ login.toList) := by
  cases moves with
  | logsIn known => exact ⟨_, h.logsIn _⟩
  | stays => exact ⟨_, h.silently⟩
  | goes found => exact ⟨_, silently (h.of_flags rfl)⟩
  | failsLogin => exact ⟨_, silently (h.of_flags rfl)⟩
  | logsOut loggedIn => exact ⟨_, silently (h.of_flags rfl)⟩
  | connectsShare => exact ⟨_, h.connectsShare.silently⟩
  | connectsPortal => exact ⟨_, h.connectsPortal.silently⟩
  | leavesShare connected => exact ⟨_, (h.leavesShare free).silently⟩
  | leavesPortal connected => exact ⟨_, (h.leavesPortal free).silently⟩

end State.Shows

/-! ### Whole runs -/

namespace Terminal

/-- What a run from a new terminal over an initial tree keeps: it stays a standard terminal under
its configuration, and its state shows the parts that belong to it. -/
structure Tells (config : Config) (initial : Tree) (logins : List Credential)
    (terminal : Terminal) : Prop where
  standard : terminal.IsStandard
  configured : terminal.config = config
  shows : ∃ shown, terminal.state.Shows config initial shown logins

variable {terminal : Terminal}

theorem Tells.furnished (h : terminal.Tells config initial logins) : terminal.state.Furnished := by
  obtain ⟨shown, shows⟩ := h.shows
  exact shows.furnished

/-- The move that a line of such a run makes. -/
theorem Tells.moves (h : terminal.Tells config initial logins) (line : String) :
    Move config terminal.state (terminal.loginBy? line) (terminal.submit line).1.state := by
  have moves := submit_moves h.standard h.furnished line
  rwa [h.configured] at moves

theorem Tells.submit (free : initial.LacksParts) (h : terminal.Tells config initial logins)
    (line : String) :
    (terminal.submit line).1.Tells config initial
      (logins ++ (terminal.loginBy? line).toList) where
  standard := h.standard.submit line
  configured := (config_submit terminal line).trans h.configured
  shows := by
    obtain ⟨shown, shows⟩ := h.shows
    exact shows.move free (h.moves line)

theorem tells_onTree (config : Config) (initial : Tree) :
    (onTree config initial .builtins).Tells config initial [] :=
  ⟨isStandard_onTree config initial, rfl, _, State.Shows.start config initial⟩

/-- Every run from a new terminal tells its story. -/
theorem tells_reached (free : initial.LacksParts) (lines : List String) :
    (reached config initial lines).Tells config initial
      ((onTree config initial .builtins).logins lines) := by
  apply run_keeps _ (tells_onTree config initial)
  intro past terminal line h
  exact h.submit free line

/-- A disconnection takes away the files that are there. -/
theorem submit_disconnection {line name : String} {flags : List String} {node : Node}
    (found : terminal.outcome? line =
      some (.ok (Network.disconnection name flags (terminal.record line).view)))
    (held : NameMap.find? terminal.state.tree.children name = some node) :
    (terminal.submit line).2 = [terminal.echo line, .system ("disconnected from " ++ name)] ∧
      (terminal.submit line).1.state =
        { session := (flags.foldl Session.withoutFlag terminal.state.session).leaving name
          tree := terminal.state.tree.dropChild name } := by
  have made := State.applyAll_disconnection (terminal.record line).view held flags
  rw [submit_of_done found made]
  exact ⟨rfl, rfl⟩

theorem outcome?_disconnectShare {line : String} {arguments : List String}
    (runs : terminal.Runs line .disconnectShare arguments)
    (connected : terminal.state.session.isSet Network.shareFlag = true) :
    terminal.outcome? line =
      some (.ok (Network.disconnection World.shareName [Network.shareFlag]
        (terminal.record line).view)) := by
  rw [runs.outcome?]
  show some (Network.disconnectShare _) = _
  rw [Network.disconnectShare]
  exact congrArg some (if_pos connected)

theorem outcome?_disconnectPortal {line : String} {arguments : List String}
    (runs : terminal.Runs line .portal ("--disconnect" :: arguments))
    (connected : terminal.state.session.isSet Network.portalFlag = true) :
    terminal.outcome? line =
      some (.ok (Network.disconnection World.portalName [Network.portalFlag, Network.accessFlag]
        (terminal.record line).view)) := by
  rw [runs.outcome?]
  show some (Network.portal ("--disconnect" :: arguments) _) = _
  rw [Network.portal]
  exact congrArg some (if_pos connected)

/-- In every state that a run reaches, the tree is the initial one with exactly the parts that the
session and the logins of the run account for; the flags are exactly those of the connected
services; no outcome of any line has its changes refused; and disconnecting what is connected
succeeds and leaves the tree as if it had never been connected. -/
theorem home_follows_connections (config : Config) (initial : Tree)
    (ordered : NameMap.Ordered initial.children) (free : initial.LacksParts)
    (lines : List String) :
    let now := reached config initial lines
    let shown := Part.shown now.state.session ((onTree config initial .builtins).logins lines)
    now.state.tree = initial.withParts shown ∧
      now.state.session.flags = Network.flags config shown ∧
      (∀ line outcome, now.outcome? line = some (.ok outcome) →
        ∃ state, now.state.applyAll outcome.changes = .ok state) ∧
      (∀ line arguments, now.Runs line .disconnectShare arguments → shown .share = true →
        (now.submit line).2 = [now.echo line, .system "disconnected from megacorp"] ∧
          (now.submit line).1.state.tree =
            initial.withParts (Function.update shown .share false)) ∧
      (∀ line arguments, now.Runs line .portal ("--disconnect" :: arguments) →
        shown .portal = true →
        (now.submit line).2 = [now.echo line, .system "disconnected from portal"] ∧
          (now.submit line).1.state.tree =
            initial.withParts (Function.update shown .portal false)) := by
  intro now shown
  have tells : now.Tells config initial ((onTree config initial .builtins).logins lines) :=
    tells_reached free lines
  obtain ⟨reachedShown, shows⟩ := tells.shows
  have same : reachedShown = shown := shows.eq_shown
  subst same
  refine ⟨shows.tree.eq_withParts ordered, shows.flags, ?_, ?_, ?_⟩
  · intro line outcome found
    obtain ⟨state, made, -⟩ := applyAll_outcome? tells.standard tells.furnished found
    exact ⟨state, made⟩
  · intro line arguments runs connected
    obtain ⟨node, held⟩ := tells.furnished.share connected
    obtain ⟨batch, state⟩ :=
      submit_disconnection (outcome?_disconnectShare runs connected) held
    refine ⟨batch, ?_⟩
    rw [state]
    exact (shows.leavesShare free).tree.eq_withParts ordered
  · intro line arguments runs connected
    obtain ⟨node, held⟩ := tells.furnished.portal connected
    obtain ⟨batch, state⟩ :=
      submit_disconnection (outcome?_disconnectPortal runs connected) held
    refine ⟨batch, ?_⟩
    rw [state]
    exact (shows.leavesPortal free).tree.eq_withParts ordered

/-- A login and a connection in the story's world. -/
def loginAndConnection : List String :=
  ["login", "nightjar", "megacorp-connect", "MC-4471", "orchid"]

/-- What the home directory holds after both, and what disconnecting leaves of them. -/
theorem home_follows_login_and_connection :
    NameMap.Ordered World.atStart.children ∧ World.atStart.LacksParts ∧
      (reached {} World.atStart loginAndConnection).state.tree =
        World.atStart.withParts (· ∈ [.share, .journal]) ∧
      ((reached {} World.atStart loginAndConnection).submit "megacorp-disconnect").1.state.tree =
        World.atStart.withParts (· ∈ [.journal]) := by
  obtain ⟨tree, -, -, leaves, -⟩ := home_follows_connections {} World.atStart
    World.ordered_atStart World.lacksParts_atStart loginAndConnection
  have shown : Part.shown (reached {} World.atStart loginAndConnection).state.session
      ((onTree {} World.atStart .builtins).logins loginAndConnection) =
        fun part => decide (part ∈ [.share, .journal]) := by
    funext part
    cases part <;> decide +kernel
  have table : (reached {} World.atStart loginAndConnection).table = .builtins :=
    (tells_reached World.lacksParts_atStart _).standard.table
  have runs : (reached {} World.atStart loginAndConnection).Runs "megacorp-disconnect"
      .disconnectShare [] := by
    refine ⟨?_, "megacorp-disconnect", ?_, ?_⟩
    · exact Option.isNone_iff_eq_none.mp (by decide +kernel)
    · decide +kernel
    · rw [if_neg (by decide +kernel), table]
      exact ⟨by decide +kernel, rfl⟩
  rw [shown] at tree leaves
  obtain ⟨-, left⟩ := leaves _ _ runs rfl
  refine ⟨World.ordered_atStart, World.lacksParts_atStart, tree, ?_⟩
  rw [left]
  apply congrArg World.atStart.withParts
  funext part
  cases part <;> rfl

end Terminal

end StoryShell
