/-
# Connecting the services

The share and the portal are connected by the right answers and by no others.
Which answers are right is said over all of them at once: ids, usernames and
tokens count without the blank characters around them, codes and passwords as
they are typed. The answers are judged at the end of the conversation, so wrong
ones leave the session and the tree as they were before it began.
-/

import StoryShell.Proofs.Terminal.Conversations
import StoryShell.Proofs.Terminal.Moves

namespace StoryShell

/-! ### The right answers -/

/-- An employee id and an access code are the ones that connect the share. -/
def ShareConfig.Accepts (share : ShareConfig) (employeeId code : String) : Prop :=
  Text.trim employeeId = share.employeeId ∧ code = share.accessCode

/-- A username, a password and a token are the ones that connect the portal. -/
def PortalConfig.Accepts (portal : PortalConfig) (username password token : String) : Prop :=
  Text.trim username = portal.username ∧ password = portal.password ∧
    Text.trim token = portal.token

instance (share : ShareConfig) (employeeId code : String) :
    Decidable (share.Accepts employeeId code) :=
  inferInstanceAs (Decidable (_ ∧ _))

instance (portal : PortalConfig) (username password token : String) :
    Decidable (portal.Accepts username password token) :=
  inferInstanceAs (Decidable (_ ∧ _ ∧ _))

/-- The configured secrets of the share are right as they are if the id is trimmed. -/
theorem ShareConfig.accepts_self (share : ShareConfig) :
    share.Accepts share.employeeId share.accessCode ↔
      Text.trim share.employeeId = share.employeeId :=
  and_iff_left rfl

theorem PortalConfig.accepts_self (portal : PortalConfig) :
    portal.Accepts portal.username portal.password portal.token ↔
      Text.trim portal.username = portal.username ∧ Text.trim portal.token = portal.token :=
  and_congr_right' (and_iff_right rfl)

/-- The last answer about the share connects it if the answers are right. -/
theorem Dialog.answer_shareCode (employeeId code : String) (view : View) :
    ∃ output,
      (shareCode (Text.trim employeeId)).answer code view =
        if view.config.share.Accepts employeeId code then
          .ok
            { output
              changes :=
                Network.connection World.shareName World.share [(Network.shareFlag, .bool true)] }
        else .error (.authenticationFailed (Text.trim employeeId)) := by
  rw [answer, Network.checkShare]
  by_cases right : view.config.share.Accepts employeeId code
  · exact ⟨_, (if_pos right).trans (if_pos right).symm⟩
  · exact ⟨[], (if_neg right).trans (if_neg right).symm⟩

/-- The last answer about the portal connects it if the answers are right. -/
theorem Dialog.answer_portalToken (username password token : String) (view : View) :
    ∃ output,
      (portalToken (Text.trim username) password).answer token view =
        if view.config.portal.Accepts username password token then
          .ok
            { output
              changes :=
                Network.connection World.portalName World.portalFiles
                  [(Network.portalFlag, .bool true),
                    (Network.accessFlag, .text view.config.portal.access)] }
        else .error (.authenticationFailed (Text.trim username)) := by
  rw [answer, Network.checkPortal]
  by_cases right : view.config.portal.Accepts username password token
  · exact ⟨_, (if_pos right).trans (if_pos right).symm⟩
  · exact ⟨[], (if_neg right).trans (if_neg right).symm⟩

theorem Session.isSet_withFlag (session : Session) (flag other : String) (value : FlagValue) :
    (session.withFlag flag value).isSet other =
      if flag = other then value.isSet else session.isSet other := by
  rw [isSet, withFlag]
  by_cases same : flag = other
  · subst same
    rw [NameMap.find?_put_self, if_pos rfl]
    rfl
  · rw [NameMap.find?_put_of_ne same, if_neg same]
    rfl

theorem Failure.report_authenticationFailed (origin who : String) :
    (authenticationFailed who).report origin = origin ++ ": authentication failed for " ++ who := by
  have joined : ": authentication failed for " = ": " ++ "authentication failed for " := by
    rfl
  change origin ++ ": " ++ ("authentication failed for " ++ who) = _
  rw [joined]
  simp only [String.append_assoc]

namespace Terminal

variable {terminal before now : Terminal} {prompt later : Prompt} {line opening : String}
  {arguments : List String}

/-! ### The course of a conversation -/

/-- A conversation has come to a question and left no trace so far. -/
structure Awaits (before now : Terminal) (prompt : Prompt) : Prop where
  state : now.state = before.state
  config : now.config = before.config
  pending : now.pending = some prompt

theorem awaits_of_ask (found : terminal.outcome? line = some (.ok (.ask prompt))) :
    terminal.Awaits (terminal.submit line).1 (prompt.withOrigin (terminal.originOf line)) := by
  have made : terminal.state.applyAll (Outcome.ask prompt).changes = .ok terminal.state := rfl
  rw [submit_of_done found made]
  exact ⟨rfl, rfl, rfl⟩

namespace Awaits

theorem next (h : before.Awaits now prompt) {step : Dialog}
    (leads : prompt.dialog.next? line = some step) (asks : step.prompt? prompt.origin = some later) :
    before.Awaits (now.submit line).1 later := by
  rw [submit_of_next? h.pending leads]
  exact ⟨h.state, h.config, asks⟩

variable {who : String}

/-- The last answer is wrong: nothing has happened, and there is a report. -/
theorem refused (h : before.Awaits now prompt)
    (wrong : prompt.dialog.answer line (now.record line).view =
      .error (.authenticationFailed who)) :
    (now.submit line).1.state = before.state ∧
      (now.submit line).2 =
        [⟨.inputEcho, prompt.echo line⟩,
          .error (prompt.origin ++ ": authentication failed for " ++ who)] := by
  have echoed : now.echo line = ⟨.inputEcho, prompt.echo line⟩ := by
    rw [echo, h.pending]
  have reported : now.reportOf line (.authenticationFailed who) =
      prompt.origin ++ ": authentication failed for " ++ who := by
    rw [reportOf, missesProgram, h.pending, originOf_of_pending h.pending,
      ← Failure.report_authenticationFailed]
    rfl
  have found : now.outcome? line = some (.error (.authenticationFailed who)) := by
    rw [outcome?_of_pending h.pending, Prompt.answer, wrong]
  rw [submit_of_failed found, echoed, reported]
  exact ⟨h.state, rfl⟩

variable {output : Batch} {name : String} {files : Node} {flags : List (String × FlagValue)}

/-- The last answer is right: the connection is made. -/
theorem connected (h : before.Awaits now prompt) (typable : Path.isEntryName name = true)
    (right : prompt.dialog.answer line (now.record line).view =
      .ok { output, changes := Network.connection name files flags }) :
    (now.submit line).1.state.session =
      flags.foldl (fun session flag => session.withFlag flag.1 flag.2) before.state.session := by
  have found : now.outcome? line =
      some (.ok { output, changes := Network.connection name files flags }) := by
    rw [outcome?_of_pending h.pending, Prompt.answer, right]
  rw [submit_of_done found (State.applyAll_connection typable files flags), ← h.state]

end Awaits

/-! ### The conversations of the two services -/

/-- Some lines set a flag exactly if they are right. If they are not, the session and the tree are
as they were, and the last batch is an echo and a report. -/
structure SetsIff (terminal : Terminal) (lines : List String) (flag : String) (right : Prop)
    (echo report : String) : Prop where
  set : (terminal.run lines).1.state.session.isSet flag = true ↔ right
  refused : ¬ right →
    (terminal.run lines).1.state = terminal.state ∧
      (terminal.run lines).2.getLast? = some [⟨.inputEcho, echo⟩, .error report]

/-- A conversation that has come to its last question sets a flag exactly if its answers are right,
when being right makes a connection that sets the flag. -/
theorem Awaits.setsIff {lines : List String} (last : before.Awaits (before.run lines).1 prompt)
    {flag : String} (unset : before.state.session.isSet flag = false) {right : Prop}
    [Decidable right] {who : String} (name : String) (typable : Path.isEntryName name = true)
    (files : Node) (flags : List (String × FlagValue))
    (sets : ∀ session : Session,
      (flags.foldl (fun session flag => session.withFlag flag.1 flag.2) session).isSet flag = true)
    (judged : ∃ output,
      prompt.dialog.answer line ((before.run lines).1.record line).view =
        if right then .ok { output, changes := Network.connection name files flags }
        else .error (.authenticationFailed who)) :
    before.SetsIff (lines ++ [line]) flag right (prompt.echo line)
      (prompt.origin ++ ": authentication failed for " ++ who) := by
  obtain ⟨output, judged⟩ := judged
  have after : before.run (lines ++ [line]) =
      (((before.run lines).1.submit line).1,
        (before.run lines).2 ++ [((before.run lines).1.submit line).2]) :=
    run_append lines [line]
  by_cases accepted : right
  · rw [if_pos accepted] at judged
    refine ⟨iff_of_true ?_ accepted, fun wrong => absurd accepted wrong⟩
    rw [after, last.connected typable judged]
    exact sets _
  · rw [if_neg accepted] at judged
    obtain ⟨same, reported⟩ := last.refused judged
    refine ⟨iff_of_false ?_ accepted, fun _ => ⟨?_, ?_⟩⟩
    · rw [after, same, unset]
      decide
    · rw [after, same]
    · rw [after, reported, List.getLast?_concat]

/-- What begins to connect the share connects it with the right two answers only. -/
theorem Runs.connectShare (runs : terminal.Runs opening .connectShare arguments)
    (free : terminal.state.session.isSet Network.shareFlag = false) (employeeId code : String) :
    terminal.SetsIff [opening, employeeId, code] Network.shareFlag
      (terminal.config.share.Accepts employeeId code)
      ("access code: " ++ Text.masked code)
      (terminal.originOf opening ++ ": authentication failed for " ++ Text.trim employeeId) := by
  have asked : terminal.outcome? opening =
      some (.ok (.ask ⟨"megacorp-connect", "employee id: ", false, .shareEmployee⟩)) := by
    have unset : (terminal.record opening).view.session.isSet Network.shareFlag = false := free
    rw [runs.outcome?]
    change some (Network.connectShare _) = _
    rw [Network.connectShare, unset]
    rfl
  have last : terminal.Awaits (terminal.run [opening, employeeId]).1
      ⟨terminal.originOf opening, "access code: ", true, .shareCode (Text.trim employeeId)⟩ :=
    (awaits_of_ask asked).next rfl rfl
  have sets (session : Session) :
      (session.withFlag Network.shareFlag (.bool true)).isSet Network.shareFlag = true :=
    (session.isSet_withFlag _ _ _).trans (if_pos rfl)
  apply last.setsIff free World.shareName rfl World.share [(Network.shareFlag, .bool true)] sets
  rw [← last.config]
  exact Dialog.answer_shareCode employeeId code _

/-- What begins to connect the portal connects it with the right three answers only. -/
theorem Runs.connectPortal (runs : terminal.Runs opening .portal [])
    (free : terminal.state.session.isSet Network.portalFlag = false)
    (username password token : String) :
    terminal.SetsIff [opening, username, password, token] Network.portalFlag
      (terminal.config.portal.Accepts username password token)
      ("token: " ++ token)
      (terminal.originOf opening ++ ": authentication failed for " ++ Text.trim username) := by
  have asked : terminal.outcome? opening =
      some (.ok (.ask ⟨"portal", "username: ", false, .portalUsername⟩)) := by
    have unset : (terminal.record opening).view.session.isSet Network.portalFlag = false := free
    rw [runs.outcome?]
    change some (Network.portal [] _) = _
    rw [Network.portal, unset]
    rfl
  have last : terminal.Awaits (terminal.run [opening, username, password]).1
      ⟨terminal.originOf opening, "token: ", false,
        .portalToken (Text.trim username) password⟩ :=
    ((awaits_of_ask asked).next rfl rfl).next rfl rfl
  have sets (session : Session) :
      ((session.withFlag Network.portalFlag (.bool true)).withFlag Network.accessFlag
        (.text terminal.config.portal.access)).isSet Network.portalFlag = true := by
    have other : Network.accessFlag ≠ Network.portalFlag := by decide
    rw [Session.isSet_withFlag, if_neg other, Session.isSet_withFlag, if_pos rfl]
    rfl
  apply last.setsIff free World.portalName rfl World.portalFiles
    [(Network.portalFlag, .bool true),
      (Network.accessFlag, .text terminal.config.portal.access)] sets
  rw [← last.config]
  exact Dialog.answer_portalToken username password token _

/-! ### Every idle state that a run reaches -/

theorem originOf_of_words {name : String} (idle : terminal.pending = none)
    (words : Words.ofLine line = name :: arguments) : terminal.originOf line = name := by
  rw [originOf, idle, words]
  rfl

theorem ofLine_connectShare : Words.ofLine "megacorp-connect" = ["megacorp-connect"] := by
  rfl

/-- The command that connects the share is the built-in one. -/
theorem runs_connectShare (standard : terminal.IsStandard) (idle : terminal.pending = none) :
    terminal.Runs "megacorp-connect" .connectShare [] := by
  apply runs_of_name idle ofLine_connectShare
  · rfl
  · decide
  · rw [standard.table]
    rfl

/-- A path to the portal's executable runs the portal's program. -/
theorem runs_portal (standard : terminal.IsStandard) (idle : terminal.pending = none)
    {token content : String} {hidden : Bool} (words : Words.ofLine line = token :: arguments)
    (path : isPathToken token = true)
    (leads : terminal.view.nodeAt token = .ok (.executable "portal" content hidden)) :
    terminal.Runs line .portal arguments := by
  apply runs_of_executable idle words path leads
  rw [standard.table]
  rfl

/-- In every idle state that a run reaches, the command that connects the share sets its flag after
exactly the right id and code, and an executable that is bound to the portal does after exactly the
right username, password and token, as long as the flag is not set yet. After any other answers the
session and the tree are as they were, and the last batch is an echo and a report that names the id
or the username, under the token that began the conversation. -/
theorem right_answers_connect (config : Config) (initial : Tree) (lines : List String) :
    let now := reached config initial lines
    now.pending = none →
      (now.state.session.isSet Network.shareFlag = false → ∀ employeeId code,
        now.SetsIff ["megacorp-connect", employeeId, code] Network.shareFlag
          (config.share.Accepts employeeId code)
          ("access code: " ++ Text.masked code)
          ("megacorp-connect: authentication failed for " ++ Text.trim employeeId)) ∧
      (now.state.session.isSet Network.portalFlag = false →
        ∀ line token content hidden, Words.ofLine line = [token] → isPathToken token = true →
          now.view.nodeAt token = .ok (.executable "portal" content hidden) →
            ∀ username password answer,
              now.SetsIff [line, username, password, answer] Network.portalFlag
                (config.portal.Accepts username password answer)
                ("token: " ++ answer)
                (token ++ ": authentication failed for " ++ Text.trim username)) := by
  intro now idle
  have standard : now.IsStandard := isStandard_reached config initial lines
  have same : now.config = config := config_reached config initial lines
  constructor
  · intro free employeeId code
    have connects := (runs_connectShare standard idle).connectShare free employeeId code
    rwa [originOf_of_words idle ofLine_connectShare, same] at connects
  · intro free line token content hidden words path leads username password answer
    have connects :=
      (runs_portal standard idle words path leads).connectPortal free username password answer
    rwa [originOf_of_words idle words, same] at connects

/-- Blank characters around a username and a token do no harm, but a code must be exact. -/
theorem portal_connects_despite_blanks :
    let now := reached {} World.atStart ["cd bin"]
    now.pending = none ∧
      (now.run ["./portal.sh", " alex.m", "s3cur3", "884213 "]).1.state.session.isSet
        Network.portalFlag = true ∧
      (now.run ["megacorp-connect", "MC-4471", "orchid "]).1.state = now.state := by
  intro now
  have idle : now.pending = none := Option.isNone_iff_eq_none.mp (by rfl)
  obtain ⟨share, portal⟩ := right_answers_connect {} World.atStart ["cd bin"] idle
  obtain ⟨content, hidden, leads⟩ : ∃ content hidden,
      now.view.nodeAt "./portal.sh" = .ok (.executable "portal" content hidden) :=
    View.nodeAt_executable (by decide)
  have words : Words.ofLine "./portal.sh" = ["./portal.sh"] := by rfl
  have path : isPathToken "./portal.sh" = true := by rfl
  have connects : now.SetsIff ["./portal.sh", " alex.m", "s3cur3", "884213 "] _ _ _ _ :=
    portal (by rfl) _ _ content hidden words path leads _ _ _
  have refuses : now.SetsIff ["megacorp-connect", "MC-4471", "orchid "] _ _ _ _ :=
    share (by rfl) _ _
  have right : PortalConfig.Accepts {} " alex.m" "s3cur3" "884213 " := by decide
  have wrong : ¬ ShareConfig.Accepts {} "MC-4471" "orchid " := by decide
  exact ⟨idle, connects.set.mpr right, (refuses.refused wrong).1⟩

end Terminal

end StoryShell
