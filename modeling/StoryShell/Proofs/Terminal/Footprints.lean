/-
# What each command may touch

A command that succeeds asks for changes of certain kinds only, and which kinds is told
by the command and at most its first argument. Most commands ask for no change. The
commands that begin a conversation ask for none either, and neither does any answer
but the last. So each part of the session, and the tree, changes on a few occasions only:
a terminal where a part has changed has just met one of them.
-/

import StoryShell.Proofs.Changes.Streams
import StoryShell.Proofs.Terminal.Echoing
import StoryShell.Proofs.Terminal.FailedLogins
import StoryShell.Proofs.Terminal.LoginInForce

namespace StoryShell

/-! ### The footprints of commands and answers -/

namespace Outcome

/-- An outcome changes nothing and asks nothing. -/
def OnlyPrints (outcome : Outcome) : Prop :=
  outcome.changes = [] ∧ outcome.prompt = none

/-- An outcome changes nothing and asks the first question of a conversation. -/
def Opens (outcome : Outcome) : Prop :=
  outcome.changes = [] ∧ ∃ prompt, outcome.prompt = some prompt ∧ prompt.dialog.opens = true

theorem onlyPrints_of_say {outcome : Outcome} (told : ∃ lines, outcome = .say lines) :
    outcome.OnlyPrints := by
  obtain ⟨lines, rfl⟩ := told
  exact ⟨rfl, rfl⟩

end Outcome

/-- What a built-in command that succeeds asks for, given its arguments and what it sees. -/
def Builtin.Footprint (arguments : List String) (view : View) (outcome : Outcome) :
    Builtin → Prop
  | ls | pwd | cat | echo | whoami | history | find | grep | audit => outcome.OnlyPrints
  | cd =>
    ∃ path, outcome.changes = [.setCwd path] ∧ outcome.prompt = none ∧
      (∃ children hidden, view.tree.lookup path = .ok (.directory children hidden)) ∧
      (Path.IsCanonical view.session.cwd → Path.IsCanonical path)
  | logout => outcome.changes = [.logOut] ∧ outcome.prompt = none
  | login | connectShare => outcome.Opens
  | disconnectShare =>
    view.session.isSet Network.shareFlag = true ∧
      outcome = Network.disconnection World.shareName [Network.shareFlag] view
  | portal =>
    if arguments = [] then outcome.Opens
    else if arguments.head? = some "--disconnect" then
      view.session.isSet Network.portalFlag = true ∧
        outcome = Network.disconnection World.portalName
          [Network.portalFlag, Network.accessFlag] view
    else outcome.OnlyPrints

variable {arguments : List String} {view : View} {outcome : Outcome}

theorem Builtin.footprint_portal (h : Network.portal arguments view = .ok outcome) :
    portal.Footprint arguments view outcome := by
  rw [Network.portal.eq_def] at h
  rw [Footprint]
  dsimp only at h
  split at h
  · by_cases connected : view.session.isSet Network.portalFlag = true
    · rw [if_pos connected] at h
      cases h
    · rw [if_neg connected] at h
      cases h
      rw [if_pos rfl]
      exact ⟨rfl, _, rfl, rfl⟩
  · rw [if_neg (List.cons_ne_nil _ _), if_neg (by simp), ← Except.ok.inj h]
    exact ⟨rfl, rfl⟩
  · rw [if_neg (List.cons_ne_nil _ _), if_neg (by simp), ← Except.ok.inj h]
    exact ⟨rfl, rfl⟩
  · by_cases connected : view.session.isSet Network.portalFlag = true
    · rw [if_pos connected] at h
      cases h
      rw [if_neg (List.cons_ne_nil _ _), if_pos List.head?_cons]
      exact ⟨connected, rfl⟩
    · rw [if_neg connected] at h
      cases h
  · cases h

/-- A command that succeeds stays within its footprint. -/
theorem Builtin.footprint_of_ok {which : Builtin} (h : which.run arguments view = .ok outcome) :
    which.Footprint arguments view outcome := by
  cases which with
  | ls => exact Outcome.onlyPrints_of_say (Files.list_ok h)
  | cat => exact Outcome.onlyPrints_of_say (Files.print_ok h)
  | find => exact Outcome.onlyPrints_of_say (Search.find_ok h)
  | grep => exact Outcome.onlyPrints_of_say (Search.grep_ok h)
  | audit => exact Outcome.onlyPrints_of_say (Account.audit_ok h)
  | pwd | echo | whoami | history => cases h; exact ⟨rfl, rfl⟩
  | cd =>
    obtain ⟨target, children, hidden, found, rfl⟩ := Files.enter_ok h
    refine ⟨view.resolve target, rfl, rfl, ⟨children, hidden, Tree.lookup_eq_ok.mpr found⟩, ?_⟩
    intro canonical
    exact Path.isCanonical_resolve canonical target
  | login => cases h; exact ⟨rfl, _, rfl, rfl⟩
  | logout =>
    obtain ⟨username, -, rfl⟩ := Account.logout_ok h
    exact ⟨rfl, rfl⟩
  | connectShare =>
    cases run_yields h with
    | asksEmployee free => exact ⟨rfl, _, rfl, rfl⟩
    | tells speaks lines => cases speaks
  | disconnectShare =>
    cases run_yields h with
    | leavesShare connected => exact ⟨connected, rfl⟩
    | tells speaks lines => cases speaks
  | portal => exact footprint_portal h

/-- The portal's program changes something only if it is run to disconnect. -/
theorem Builtin.Footprint.of_portal (footprint : portal.Footprint arguments view outcome) :
    outcome.changes = [] ∨
      ∃ rest, arguments = "--disconnect" :: rest ∧
        view.session.isSet Network.portalFlag = true ∧
        outcome = Network.disconnection World.portalName
          [Network.portalFlag, Network.accessFlag] view := by
  rw [Builtin.Footprint] at footprint
  cases arguments with
  | nil =>
    rw [if_pos rfl] at footprint
    exact .inl footprint.1
  | cons option rest =>
    rw [if_neg (List.cons_ne_nil option rest)] at footprint
    by_cases leaves : (option :: rest).head? = some "--disconnect"
    · rw [if_pos leaves] at footprint
      rw [List.head?_cons, Option.some.injEq] at leaves
      exact .inr ⟨rest, by rw [leaves], footprint⟩
    · rw [if_neg leaves] at footprint
      exact .inl footprint.1

/-- A command that asks a question changes nothing. -/
theorem Builtin.Footprint.changes_of_asks {which : Builtin}
    (footprint : which.Footprint arguments view outcome) (asks : outcome.prompt ≠ none) :
    outcome.changes = [] := by
  cases which with
  | ls | pwd | cat | echo | whoami | history | find | grep | audit | login | connectShare =>
    exact footprint.1
  | cd =>
    obtain ⟨path, -, silent, -⟩ := footprint
    exact absurd silent asks
  | logout => exact absurd footprint.2 asks
  | disconnectShare =>
    obtain ⟨-, rfl⟩ := footprint
    exact absurd rfl asks
  | portal =>
    rcases footprint.of_portal with nothing | ⟨rest, -, -, rfl⟩
    · exact nothing
    · exact absurd rfl asks

/-- An answer that leads on only asks the next question; the last answer asks nothing. -/
theorem Dialog.answer_footprint {dialog : Dialog} (standard : dialog.question?.isSome = true)
    (line : String) (view : View) :
    match dialog.next? line with
    | some step => ∃ prompt, dialog.answer line view = .ok (.ask prompt) ∧ prompt.dialog = step
    | none => ∀ outcome, dialog.answer line view = .ok outcome → outcome.prompt = none := by
  cases leads : dialog.next? line with
  | none => exact fun outcome => prompt_of_last standard leads
  | some step =>
    obtain ⟨prompt, asks, -⟩ := answer_of_next? leads view
    refine ⟨prompt, asks, ?_⟩
    cases answer_yields standard asks with
    | asks other continues =>
      rw [leads, Option.some.injEq] at other
      exact continues.trans other.symm

/-- A disconnection leads home only from inside the files that go away. -/
theorem Network.isWithin_of_leads_home {name path : String} {flags : List String}
    (member : .setCwd path ∈ (disconnection name flags view).changes) :
    Path.isWithin view.session.cwd (Path.join Path.root name) = true := by
  by_contra outside
  rw [disconnection, if_neg outside] at member
  simp at member

namespace Terminal

variable {terminal : Terminal} {line : String} {α : Type _} {part : Session → α}

/-! ### Occasions -/

/-- A line connects a service: it is the last answer to the service's questions, and with the
answers before it it is what the configuration accepts. -/
inductive Connects (terminal : Terminal) (line : String) : Prop
  | share {prompt : Prompt} {employeeId : String} (pending : terminal.pending = some prompt)
      (asked : prompt.dialog = .shareCode employeeId)
      (right : employeeId = terminal.config.share.employeeId ∧
        line = terminal.config.share.accessCode)
  | portal {prompt : Prompt} {username password : String}
      (pending : terminal.pending = some prompt)
      (asked : prompt.dialog = .portalToken username password)
      (right : username = terminal.config.portal.username ∧
        password = terminal.config.portal.password ∧
        Text.trim line = terminal.config.portal.token)

/-- A line disconnects a service that is connected, named as its files in the home directory. -/
inductive Disconnects (terminal : Terminal) (line : String) : String → Prop
  | share {arguments : List String} (runs : terminal.Runs line .disconnectShare arguments)
      (connected : terminal.state.session.isSet Network.shareFlag = true) :
      Disconnects terminal line World.shareName
  | portal {rest : List String} (runs : terminal.Runs line .portal ("--disconnect" :: rest))
      (connected : terminal.state.session.isSet Network.portalFlag = true) :
      Disconnects terminal line World.portalName

/-- The occasions on which a line may ask for a change. -/
def Occasion (terminal : Terminal) (line : String) : Change → Prop
  | .setCwd _ =>
    (∃ arguments, terminal.Runs line .cd arguments) ∨
      ∃ service, terminal.Disconnects line service ∧
        Path.isWithin terminal.state.session.cwd (Path.join Path.root service) = true
  | .logIn _ _ => ∃ credential, terminal.LogsIn line credential
  | .logOut => terminal.LogsOut line
  | .countFailure => ∃ username, terminal.passwordOf? = some username
  | .setFlag _ _ => terminal.Connects line
  | .clearFlag _ => ∃ service, terminal.Disconnects line service
  | .mount _ _ _ => (∃ credential, terminal.LogsIn line credential) ∨ terminal.Connects line
  | .unmount _ _ => ∃ service, terminal.Disconnects line service

theorem Connects.occasion {change : Change} {name : String} {files : Node}
    {flags : List (String × FlagValue)} (connects : terminal.Connects line)
    (member : change ∈ Network.connection name files flags) : terminal.Occasion line change := by
  rcases Network.mem_connection member with rfl | ⟨flag, value, rfl⟩
  · exact .inr connects
  · exact connects

theorem Disconnects.occasion {change : Change} {service : String} {flags : List String}
    (disconnects : terminal.Disconnects line service)
    (member : change ∈
      (Network.disconnection service flags (terminal.record line).view).changes) :
    terminal.Occasion line change := by
  rcases Network.mem_disconnection member with rfl | ⟨flag, rfl⟩ | rfl
  · exact ⟨service, disconnects⟩
  · exact ⟨service, disconnects⟩
  · exact .inr ⟨service, disconnects, Network.isWithin_of_leads_home member⟩

/-- An answer asks for changes only on their occasions. -/
theorem occasion_of_answer (h : terminal.IsStandard) {prompt : Prompt}
    (pending : terminal.pending = some prompt) {outcome : Outcome}
    (found : terminal.outcome? line = some (.ok outcome)) {change : Change}
    (member : change ∈ outcome.changes) : terminal.Occasion line change := by
  have answered := (h.pending prompt pending).isSome
  obtain ⟨origin, question, masked, dialog⟩ := prompt
  rw [outcome?, pending, Option.some.injEq] at found
  cases Dialog.answer_yields answered found with
  | @refuses username wrong =>
    obtain rfl := List.mem_singleton.mp member
    exact ⟨username, passwordOf?_eq_some.mpr ⟨_, pending, rfl⟩⟩
  | @welcomes username credential right =>
    have logsIn : terminal.LogsIn line credential := by
      obtain ⟨known, same⟩ := Account.accepted?_eq_some.mp right
      obtain rfl := Config.username_of_credential? known
      exact ⟨_, pending, rfl, known, same.symm⟩
    rcases List.mem_cons.mp member with rfl | mounts
    · exact ⟨credential, logsIn⟩
    · obtain ⟨files, -, rfl⟩ := Option.map_eq_some_iff.mp (Option.mem_toList.mp mounts)
      exact .inl ⟨credential, logsIn⟩
  | asks leads continues standard => cases member
  | connectsShare right => exact (Connects.share pending rfl right).occasion member
  | connectsPortal right => exact (Connects.portal pending rfl right).occasion member

/-- A line that runs a command stays within the command's footprint. -/
theorem Runs.footprint {which : Builtin} {arguments : List String}
    (runs : terminal.Runs line which arguments) {outcome : Outcome}
    (found : terminal.outcome? line = some (.ok outcome)) :
    which.Footprint arguments (terminal.record line).view outcome := by
  rw [runs.outcome?, Option.some.injEq] at found
  exact Builtin.footprint_of_ok found

/-- A command asks for changes only on their occasions. -/
theorem occasion_of_command {which : Builtin} {arguments : List String}
    (runs : terminal.Runs line which arguments) {outcome : Outcome}
    (found : terminal.outcome? line = some (.ok outcome)) {change : Change}
    (member : change ∈ outcome.changes) : terminal.Occasion line change := by
  have footprint := runs.footprint found
  cases which with
  | ls | pwd | cat | echo | whoami | history | find | grep | audit | login | connectShare =>
    rw [footprint.1] at member
    cases member
  | cd =>
    obtain ⟨path, changes, -⟩ := footprint
    rw [changes] at member
    obtain rfl := List.mem_singleton.mp member
    exact .inl ⟨arguments, runs⟩
  | logout =>
    rw [footprint.1] at member
    obtain rfl := List.mem_singleton.mp member
    exact ⟨⟨arguments, runs⟩, outcome, found⟩
  | disconnectShare =>
    obtain ⟨connected, rfl⟩ := footprint
    exact (Disconnects.share runs connected).occasion member
  | portal =>
    rcases footprint.of_portal with nothing | ⟨rest, rfl, connected, rfl⟩
    · rw [nothing] at member
      cases member
    · exact (Disconnects.portal runs connected).occasion member

/-- Every change that a line asks for is asked for on its occasion. -/
theorem occasion_of_mem (h : terminal.IsStandard) {outcome : Outcome}
    (found : terminal.outcome? line = some (.ok outcome)) {change : Change}
    (member : change ∈ outcome.changes) : terminal.Occasion line change := by
  cases pending : terminal.pending with
  | some prompt => exact occasion_of_answer h pending found member
  | none =>
    rcases exists_runs h pending found with ⟨lines, rfl⟩ | ⟨which, arguments, runs, -⟩
    · cases member
    · exact occasion_of_command runs found member

/-! ### What has changed had an occasion -/

/-- A part of the session differs after a line only on the occasion of a change that touches it. -/
theorem exists_occasion (h : terminal.IsStandard)
    (differs : part (terminal.submit line).1.state.session ≠ part terminal.state.session) :
    ∃ change, terminal.Occasion line change ∧
      ∃ session : Session, part (session.apply change) ≠ part session := by
  by_contra untouched
  refine differs (part_submit fun outcome found change member session => ?_)
  by_contra touches
  exact untouched ⟨change, occasion_of_mem h found member, session, touches⟩

/-- The tree differs after a line only on the occasion of a change of the tree. -/
theorem exists_occasion_of_tree (h : terminal.IsStandard)
    (differs : (terminal.submit line).1.state.tree ≠ terminal.state.tree) :
    ∃ change, terminal.Occasion line change ∧ change.isOfTree = true := by
  by_contra untouched
  apply differs
  by_cases settled : ∃ outcome, terminal.outcome? line = some (.ok outcome)
  · obtain ⟨outcome, found⟩ := settled
    have none : treeStream outcome.changes = [] := by
      refine List.filter_eq_nil_iff.mpr fun change member ofTree => ?_
      exact untouched ⟨change, occasion_of_mem h found member, ofTree⟩
    have made := State.applyAll_eq_streams terminal.state outcome.changes
    rw [none] at made
    rw [submit_of_done found made]
  · have silent : ∀ outcome, terminal.outcome? line ≠ some (.ok outcome) := by
      intro outcome found
      exact settled ⟨outcome, found⟩
    rw [submit_eq_record silent]
    rfl

/-- An outcome that asks a question changes nothing. -/
theorem changes_of_asks (h : terminal.IsStandard) {outcome : Outcome}
    (found : terminal.outcome? line = some (.ok outcome)) (asks : outcome.prompt ≠ none) :
    outcome.changes = [] := by
  cases pending : terminal.pending with
  | some prompt =>
    have standard := (h.pending prompt pending).isSome
    have footprint := Dialog.answer_footprint standard line (terminal.record line).view
    rw [outcome?_of_pending pending, Option.some.injEq, Prompt.answer] at found
    cases leads : prompt.dialog.next? line with
    | some step =>
      rw [leads] at footprint
      obtain ⟨next, answered, -⟩ := footprint
      rw [answered] at found
      cases found
      rfl
    | none =>
      rw [leads] at footprint
      exact absurd (footprint outcome found) asks
  | none =>
    rcases exists_runs h pending found with ⟨lines, rfl⟩ | ⟨which, arguments, runs, -⟩
    · rfl
    · exact (runs.footprint found).changes_of_asks asks

/-- A line that leads to a question changes nothing. -/
theorem state_of_asks (h : terminal.IsStandard)
    (asks : (terminal.submit line).1.pending ≠ none) :
    (terminal.submit line).1.state = terminal.state := by
  obtain ⟨prompt, asked⟩ := Option.ne_none_iff_exists'.mp asks
  obtain ⟨outcome, first, found, prompted, -⟩ := exists_asked asked
  have nothing : outcome.changes = [] := changes_of_asks h found (by simp [prompted])
  have made : terminal.state.applyAll outcome.changes = .ok terminal.state := by
    rw [nothing]
    rfl
  rw [submit_of_done found made]

/-- Each command stays within its footprint, whatever its arguments and whatever it sees, and so does
the help over every table. An answer that leads on to another question changes nothing. So however
a terminal with the built-in commands was used, a line changes the tree only if it logs in, connects
a service or disconnects one, the current directory only if it goes to one or disconnects a service
from inside its files, who is logged in only if it logs in or out, the count of failed attempts only
if it answers the question for a login password, and the flags only if it connects or disconnects a
service. A line that leads to a question changes none of them. -/
theorem footprints_bound_changes :
    (∀ (which : Builtin) (arguments : List String) (view : View) (outcome : Outcome),
      which.run arguments view = .ok outcome → which.Footprint arguments view outcome) ∧
    (∀ (table : CommandTable) (arguments : List String) (outcome : Outcome),
      table.help arguments = .ok outcome → outcome.OnlyPrints) ∧
    (∀ (dialog : Dialog) (line : String) (view : View), dialog.question?.isSome = true →
      match dialog.next? line with
      | some step => ∃ prompt, dialog.answer line view = .ok (.ask prompt) ∧ prompt.dialog = step
      | none => ∀ outcome, dialog.answer line view = .ok outcome → outcome.prompt = none) ∧
    ∀ (config : Config) (initial : Tree) (actions : List Action) (line : String),
      let now := (onTree config initial .builtins).perform actions
      let next := (now.submit line).1
      (next.state.tree ≠ now.state.tree →
        (∃ credential, now.LogsIn line credential) ∨ now.Connects line ∨
          ∃ service, now.Disconnects line service) ∧
      (next.state.session.cwd ≠ now.state.session.cwd →
        (∃ arguments, now.Runs line .cd arguments) ∨
          ∃ service, now.Disconnects line service ∧
            Path.isWithin now.state.session.cwd (Path.join Path.root service) = true) ∧
      (next.state.session.login ≠ now.state.session.login →
        (∃ credential, now.LogsIn line credential) ∨ now.LogsOut line) ∧
      (next.state.session.attempts ≠ now.state.session.attempts →
        ∃ username, now.passwordOf? = some username) ∧
      (next.state.session.flags ≠ now.state.session.flags →
        now.Connects line ∨ ∃ service, now.Disconnects line service) ∧
      (next.pending ≠ none → next.state = now.state) := by
  refine ⟨?_, ?_, ?_, ?_⟩
  · intro which arguments view outcome
    exact Builtin.footprint_of_ok
  · intro table arguments outcome helps
    exact Outcome.onlyPrints_of_say (CommandTable.help_ok helps)
  · intro dialog line view standard
    exact Dialog.answer_footprint standard line view
  intro config initial actions line now next
  have standard : now.IsStandard := (isStandard_onTree config initial).perform actions
  refine ⟨?_, ?_, ?_, ?_, ?_, state_of_asks standard⟩
  · intro differs
    obtain ⟨change, occasion, ofTree⟩ := exists_occasion_of_tree standard differs
    cases change with
    | mount parent name node => exact occasion.imp_right .inl
    | unmount parent name => exact .inr (.inr occasion)
    | setCwd path | logIn username level | logOut | countFailure | setFlag name value
    | clearFlag name => cases ofTree
  · intro differs
    obtain ⟨change, occasion, session, touches⟩ := exists_occasion standard differs
    cases change with
    | setCwd path => exact occasion
    | logIn username level | logOut | countFailure | setFlag name value | clearFlag name
    | mount parent name node | unmount parent name => exact absurd rfl touches
  · intro differs
    obtain ⟨change, occasion, session, touches⟩ := exists_occasion standard differs
    cases change with
    | logIn username level => exact .inl occasion
    | logOut => exact .inr occasion
    | setCwd path | countFailure | setFlag name value | clearFlag name
    | mount parent name node | unmount parent name => exact absurd rfl touches
  · intro differs
    obtain ⟨change, occasion, session, touches⟩ := exists_occasion standard differs
    cases change with
    | logIn username level =>
      obtain ⟨credential, prompt, pending, asked, -⟩ := occasion
      exact ⟨credential.username, passwordOf?_eq_some.mpr ⟨prompt, pending, asked⟩⟩
    | countFailure => exact occasion
    | setCwd path | logOut | setFlag name value | clearFlag name
    | mount parent name node | unmount parent name => exact absurd rfl touches
  · intro differs
    obtain ⟨change, occasion, session, touches⟩ := exists_occasion standard differs
    cases change with
    | setFlag name value => exact .inl occasion
    | clearFlag name => exact .inr occasion
    | setCwd path | logIn username level | logOut | countFailure
    | mount parent name node | unmount parent name => exact absurd rfl touches

/-- The share is not connected yet. Then the flags change on the right access code, and only because
it is the right one. -/
theorem footprints_bound_changes_of_share :
    let new := onTree {} World.atStart .builtins
    let now := new.perform [.submit "megacorp-connect", .recallBack, .submit " MC-4471 "]
    Builtin.cd.Footprint [] new.view { changes := [.setCwd Path.root] } ∧
    (Outcome.say new.table.overview).OnlyPrints ∧
    now.state = new.state ∧
    (now.submit "orchid").1.state.session.flags ≠ now.state.session.flags ∧
    now.Connects "orchid" := by
  intro new now
  obtain ⟨commands, helps, -, lines⟩ := footprints_bound_changes
  obtain ⟨-, -, -, -, -, opens⟩ := lines {} World.atStart [] "megacorp-connect"
  obtain ⟨-, -, -, -, -, asks⟩ :=
    lines {} World.atStart [.submit "megacorp-connect", .recallBack] " MC-4471 "
  obtain ⟨-, -, -, -, flags, -⟩ := lines {} World.atStart
    [.submit "megacorp-connect", .recallBack, .submit " MC-4471 "] "orchid"
  have differs : (now.submit "orchid").1.state.session.flags ≠ now.state.session.flags := by
    decide
  have home : Builtin.cd.run [] new.view = .ok { changes := [.setCwd Path.root] } := rfl
  have told : new.table.help [] = .ok (.say new.table.overview) := rfl
  refine ⟨commands _ _ _ _ home, helps _ _ _ told, ?_, differs, ?_⟩
  · exact (asks (by decide)).trans (opens (by decide))
  · rcases flags differs with connects | ⟨service, disconnects⟩
    · exact connects
    · have idle : now.pending = none := by
        cases disconnects with
        | share runs connected | portal runs connected => exact runs.1
      have awaits : now.isAwaiting = true := by rfl
      rw [isAwaiting, idle] at awaits
      cases awaits

end Terminal

end StoryShell
