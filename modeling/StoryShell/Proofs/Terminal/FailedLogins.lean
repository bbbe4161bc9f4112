/-
# Failed logins are counted and never lock

Nothing but an answer to the question for a login password moves the count of failed
attempts: the right password sets it to zero, any other answer adds one until the
limit is reached. So the count is read off the verdicts on these answers, however
many other lines stand between them. Whether the hint is printed depends on the
count that the answer leads to, and nothing else does: the right password logs in
from every idle state.
-/

import Mathlib.Data.List.DropRight
import StoryShell.Proofs.Terminal.Playable

namespace StoryShell

/-! ### Verdicts on passwords -/

/-- The username that a step of a conversation asks the login password of. -/
def Dialog.passwordOf? : Dialog → Option String
  | loginPassword username => some username
  | shareEmployee | shareCode _ | portalUsername | portalPassword _ | portalToken _ _
  | scripted _ => none

theorem Account.checkPassword_wrong {view : View} {username line : String}
    (wrong : accepted? view.config username line = none) :
    checkPassword username line view = refuse username view := by
  rw [checkPassword, wrong]

theorem Account.checkPassword_right {view : View} {username line : String}
    {credential : Credential} (right : accepted? view.config username line = some credential) :
    checkPassword username line view = welcome username credential := by
  rw [checkPassword, right]

/-- The number of rejections after the last acceptance in a list of verdicts, or in all of it if
nothing was accepted. -/
def rejectedSince (verdicts : List Bool) : Nat :=
  (verdicts.rtakeWhile (· = false)).length

theorem rejectedSince_accepted (verdicts : List Bool) : rejectedSince (verdicts ++ [true]) = 0 := by
  rw [rejectedSince, List.rtakeWhile_concat_neg _ _ _ (by decide), List.length_nil]

theorem rejectedSince_rejected (verdicts : List Bool) :
    rejectedSince (verdicts ++ [false]) = rejectedSince verdicts + 1 := by
  rw [rejectedSince, List.rtakeWhile_concat_pos _ _ _ (by decide), List.length_append,
    List.length_singleton, rejectedSince]

namespace Terminal

/-- The username that the next line is taken as the login password of. -/
def passwordOf? (terminal : Terminal) : Option String :=
  terminal.pending.bind (·.dialog.passwordOf?)

/-- Whether a line is the right password, if it answers the question for a login password. -/
def verdict? (terminal : Terminal) (line : String) : Option Bool :=
  terminal.passwordOf?.map fun username =>
    (terminal.config.credential? username).any (·.password = line)

/-- The verdicts on the answers to questions for login passwords in a run, in order. -/
def verdicts (terminal : Terminal) : List String → List Bool
  | [] => []
  | line :: lines => (terminal.verdict? line).toList ++ (terminal.submit line).1.verdicts lines

variable {terminal : Terminal} {line username : String} {credential : Credential}
  {config : Config} {initial : Tree} {lines : List String}

theorem verdicts_append (lines others : List String) :
    terminal.verdicts (lines ++ others) =
      terminal.verdicts lines ++ (terminal.run lines).1.verdicts others := by
  induction lines generalizing terminal with
  | nil => rfl
  | cons line rest ih =>
    rw [List.cons_append, verdicts, verdicts, ih, List.append_assoc]
    rfl

theorem passwordOf?_eq_some : terminal.passwordOf? = some username ↔
    ∃ prompt, terminal.pending = some prompt ∧ prompt.dialog = .loginPassword username := by
  rw [passwordOf?, Option.bind_eq_some_iff]
  refine exists_congr fun prompt => and_congr_right fun _ => ?_
  cases prompt.dialog <;> simp [Dialog.passwordOf?]

/-- A line is the right password exactly if a credential is accepted with it. -/
theorem verdict?_of_asked (asked : terminal.passwordOf? = some username) (line : String) :
    terminal.verdict? line =
      some (Account.accepted? terminal.config username line).isSome := by
  rw [verdict?, asked, Option.map_some, Account.accepted?]
  cases terminal.config.credential? username with
  | none => rfl
  | some credential => by_cases right : credential.password = line <;> simp [right]

/-! ### What becomes of an answer -/

theorem outcome?_of_asked (asked : terminal.passwordOf? = some username) (line : String) :
    terminal.outcome? line = some (.ok (Account.checkPassword username line terminal.view)) := by
  obtain ⟨prompt, pending, dialog⟩ := passwordOf?_eq_some.mp asked
  rw [outcome?_of_pending pending, Prompt.answer, dialog]
  rfl

/-- A wrong password is counted and reported, and leaves everything else as it is. -/
theorem submit_of_rejected (asked : terminal.passwordOf? = some username)
    (rejected : terminal.verdict? line = some false) :
    terminal.submit line =
      ({ terminal.record line with
          state :=
            { terminal.state with session := terminal.state.session.apply .countFailure } },
        terminal.echo line :: (Account.refuse username terminal.view).output) := by
  rw [verdict?_of_asked asked, Option.some.injEq, Option.isSome_eq_false_iff,
    Option.isNone_iff_eq_none] at rejected
  have found := outcome?_of_asked asked line
  rw [Account.checkPassword_wrong rejected] at found
  rw [submit_of_done found rfl]
  rfl

/-- The right password logs in. What the credential reveals can always be mounted. -/
theorem submit_of_accepted (asked : terminal.passwordOf? = some username)
    (accepted : Account.accepted? terminal.config username line = some credential) :
    (terminal.submit line).1.state.session =
      terminal.state.session.apply (.logIn username credential.level) := by
  have found := outcome?_of_asked asked line
  rw [Account.checkPassword_right accepted] at found
  obtain rfl := Config.username_of_credential? (Account.accepted?_eq_some.mp accepted).1
  rw [submit_of_done found (State.applyAll_logIn credential)]

/-! ### The count of failed attempts -/

/-- Away from the question for a login password, a line leaves the count as it is. -/
theorem attempts_submit_of_not_asked (h : terminal.IsStandard)
    (unasked : terminal.passwordOf? = none) :
    (terminal.submit line).1.state.session.attempts = terminal.state.session.attempts := by
  have alone : ∀ outcome, terminal.outcome? line = some (.ok outcome) →
      LeaveAlone Session.attempts outcome.changes := by
    intro outcome found
    cases pending : terminal.pending with
    | some prompt =>
      have answered := (h.pending prompt pending).isSome
      obtain ⟨origin, question, masked, dialog⟩ := prompt
      rw [outcome?, pending, Option.some.injEq] at found
      rw [passwordOf?, pending, Option.bind_some] at unasked
      cases Dialog.answer_yields answered found with
      | refuses wrong | welcomes right => cases unasked
      | asks leads continues standard => exact leaveAlone_nil
      | connectsShare right | connectsPortal right =>
        exact Network.leaveAlone_connection fun _ _ _ => rfl
    | none =>
      rcases exists_runs h pending found with ⟨lines, rfl⟩ | ⟨which, arguments, runs, yields⟩
      · exact leaveAlone_nil
      · cases yields with
        | tells speaks lines | asksPassword | asksEmployee free | asksUsername bare free =>
          exact leaveAlone_nil
        | goes reached => exact leaveAlone_singleton.mpr fun _ => rfl
        | logsOut loggedIn => exact leaveAlone_singleton.mpr fun _ => rfl
        | leavesShare connected | leavesPortal connected =>
          exact Network.leaveAlone_disconnection (fun _ _ => rfl) fun _ => rfl
  exact part_submit alone

/-- What a line does to the count: the right password sets it to zero, a wrong one adds one until
the limit is reached, and no other line touches it. -/
theorem attempts_submit (h : terminal.IsStandard) (line : String) :
    (terminal.submit line).1.state.session.attempts =
      match terminal.verdict? line with
      | none => terminal.state.session.attempts
      | some true => 0
      | some false => Session.oneMore terminal.state.session.attempts := by
  cases asked : terminal.passwordOf? with
  | none =>
    rw [attempts_submit_of_not_asked h asked, verdict?, asked]
    rfl
  | some username =>
    cases verdict : terminal.verdict? line with
    | none =>
      rw [verdict?_of_asked asked] at verdict
      cases verdict
    | some right =>
      cases right with
      | false =>
        rw [submit_of_rejected asked verdict]
        rfl
      | true =>
        rw [verdict?_of_asked asked, Option.some.injEq, Option.isSome_iff_exists] at verdict
        obtain ⟨credential, accepted⟩ := verdict
        rw [submit_of_accepted asked accepted]
        rfl

/-- After a run the count is the number of rejections since the last acceptance, up to the limit. -/
theorem attempts_reached (config : Config) (initial : Tree) (lines : List String) :
    (reached config initial lines).state.session.attempts =
      min (rejectedSince ((onTree config initial .builtins).verdicts lines))
        Session.attemptLimit := by
  -- The last acceptance is found from the end of the run, so the run grows there.
  induction lines using List.reverseRecOn with
  | nil => rfl
  | append_singleton lines line ih =>
    have now : reached config initial (lines ++ [line]) =
        ((reached config initial lines).submit line).1 := reached_append config initial lines [line]
    have past : (onTree config initial .builtins).verdicts (lines ++ [line]) =
        (onTree config initial .builtins).verdicts lines ++
          ((reached config initial lines).verdict? line).toList := by
      rw [verdicts_append, verdicts, verdicts, List.append_nil]
      rfl
    rw [now, past, attempts_submit (isStandard_reached config initial lines)]
    cases (reached config initial lines).verdict? line with
    | none => simpa using ih
    | some right =>
      cases right with
      | true => rw [Option.toList_some, rejectedSince_accepted, Nat.zero_min]
      | false =>
        rw [Option.toList_some, rejectedSince_rejected]
        show Session.oneMore (reached config initial lines).state.session.attempts = _
        rw [Session.oneMore, ih]
        omega

/-- Failed logins are counted and never lock. After every run the count is the number of wrong
answers to questions for a login password since the last right one, up to 2³² - 1. Each wrong answer
changes the count and nothing else, and prints one error and then, if the count has come to where
the hint is shown, the hint. And whenever no question is pending, whoever is logged in and whatever
the count, asking to log in under a username that has a credential and then giving its password logs
in under it and sets the count to zero. -/
theorem failed_logins_never_lock (config : Config) (initial : Tree) (lines : List String) :
    let now := reached config initial lines
    (now.state.session.attempts =
      min (rejectedSince ((onTree config initial .builtins).verdicts lines)) (UInt32.size - 1)) ∧
    (∀ line username, now.passwordOf? = some username → now.verdict? line = some false →
      let next := (now.submit line).1
      next.state =
        { now.state with
          session := { now.state.session with attempts := next.state.session.attempts } } ∧
      (now.submit line).2 =
        now.echo line :: .error ("login: " ++ ("authentication failed for " ++ username)) ::
          if config.login.hintAfter ≤ next.state.session.attempts then
            [.system config.login.hint]
          else []) ∧
    ∀ line arguments credential, now.pending = none →
      Words.ofLine line = "login" :: arguments →
      config.credential? (arguments.head?.getD config.user) = some credential →
      let after := (now.run [line, credential.password]).1
      after.state.session.username = some (arguments.head?.getD config.user) ∧
        after.state.session.level = some credential.level ∧
        after.state.session.attempts = 0 := by
  intro now
  have same : now.config = config := config_reached config initial lines
  refine ⟨attempts_reached config initial lines, ?_, ?_⟩
  · intro line username asked rejected next
    have submitted := submit_of_rejected asked rejected
    have counted : next.state.session.attempts =
        Session.oneMore now.state.session.attempts := by
      simp only [next, submitted]
      rfl
    rw [counted, ← same]
    simp only [next, submitted]
    exact ⟨rfl, rfl⟩
  · intro line arguments credential idle words known after
    have standard := isStandard_reached config initial lines
    have runs := runs_login_of_words standard idle words
    rw [← same] at known ⊢
    have found : now.outcome? line = some (.ok (.ask (Account.passwordPrompt
        (arguments.head?.getD now.config.user)))) := runs.outcome?
    have awaits := awaits_of_ask found
    have asked : (now.submit line).1.passwordOf? =
        some (arguments.head?.getD now.config.user) :=
      passwordOf?_eq_some.mpr ⟨_, awaits.pending, rfl⟩
    have accepted : Account.accepted? (now.submit line).1.config
        (arguments.head?.getD now.config.user) credential.password = some credential := by
      rw [awaits.config]
      exact Account.accepted?_eq_some.mpr ⟨known, rfl⟩
    have loggedIn := submit_of_accepted asked accepted
    have last : after.state.session = _ := loggedIn
    rw [last]
    exact ⟨rfl, rfl, rfl⟩

/-- Two wrong guesses with other lines between them. -/
def guesses : List String :=
  ["login", "sparrow", "pwd", "login admin", "magpie", "login"]

/-- The third wrong guess is answered with the hint, and does not keep an administrator out. -/
theorem failed_logins_never_lock_after_guesses :
    let now := reached {} World.atStart guesses
    let later := reached {} World.atStart (guesses ++ ["heron"])
    now.state.session.attempts = 2 ∧
      now.passwordOf? = some "alex" ∧ now.verdict? "heron" = some false ∧
      (now.submit "heron").2.getLast? =
        some (.system "hint: the bird on the sticky note under the keyboard") ∧
      later.state.session.attempts = 3 ∧ later.pending.isNone ∧
      (later.run ["login admin", "letmein"]).1.state.session.username = some "admin" ∧
      (later.run ["login admin", "letmein"]).1.state.session.attempts = 0 := by
  intro now later
  obtain ⟨counted, refused, -⟩ := failed_logins_never_lock {} World.atStart guesses
  obtain ⟨countedLater, -, unlocked⟩ :=
    failed_logins_never_lock {} World.atStart (guesses ++ ["heron"])
  have asked : now.passwordOf? = some "alex" := by rfl
  have rejected : now.verdict? "heron" = some false := by rfl
  obtain ⟨-, printed⟩ := refused "heron" "alex" asked rejected
  have idle : later.pending = none := by rfl
  have known : ({} : Config).credential? "admin" = some
      { username := "admin", password := "letmein", level := .admin, reveal := some "admin" } := by
    rfl
  obtain ⟨username, -, attempts⟩ := unlocked "login admin" ["admin"] _ idle rfl known
  refine ⟨counted.trans (by rfl), asked, rejected, ?_, countedLater.trans (by rfl),
    Option.isNone_iff_eq_none.mpr idle, username, attempts⟩
  rw [printed]
  rfl

end Terminal

end StoryShell
