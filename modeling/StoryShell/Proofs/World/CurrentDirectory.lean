/-
# The current directory exists

The session stands in a directory of the tree after every run: its current
directory is a canonical path, and that path leads to a directory. The session
checks this only when it changes directory, so the tree must never take a
directory away from under it. Only a disconnection takes one away, and then
whoever was inside stands at home; a connection or a login puts a part where at
most the same part was.
-/

import StoryShell.Proofs.World.Connections

namespace StoryShell

open World (Part)

/-- The session stands in the directory that some proper names lead to. -/
def State.Stands (state : State) : Prop :=
  ∃ names, (∀ name ∈ names, Path.IsProper name) ∧
    state.session.cwd = Path.render names ∧ state.tree.Leads names

variable {config : Config} {initial : Tree} {state : State} {session : Session}

theorem World.Part.isSegment_name (part : Part) : Path.IsSegment part.name := by
  rw [Path.IsSegment]
  cases part <;> decide

namespace State.Stands

theorem canonical (h : state.Stands) : Path.IsCanonical state.session.cwd := by
  obtain ⟨names, proper, here, -⟩ := h
  exact ⟨names, proper, here⟩

theorem lookup (h : state.Stands) :
    ∃ children hidden, state.tree.lookup state.session.cwd = .ok (.directory children hidden) := by
  obtain ⟨names, proper, here, children, hidden, found⟩ := h
  refine ⟨children, hidden, ?_⟩
  rw [here, Tree.lookup, Tree.find_render (Path.segments_of_proper proper), found]
  rfl

/-! ### What keeps the session standing -/

/-- Everyone can stand at home. -/
theorem home (atRoot : state.session.cwd = Path.root) : state.Stands :=
  ⟨[], by simp, atRoot, Tree.leads_root⟩

/-- Only the current directory of the session counts. -/
theorem of_cwd (h : state.Stands) (same : session.cwd = state.session.cwd) :
    ({ state with session } : State).Stands := by
  obtain ⟨names, proper, here, leads⟩ := h
  exact ⟨names, proper, same.trans here, leads⟩

/-- What a typed path leads to is a place to stand in. -/
theorem goes (h : state.Stands) {target : String} {children : Children} {hidden : Bool}
    (found : state.tree.find (Path.resolve target state.session.cwd) =
      .ok (.directory children hidden)) :
    ({ state with
      session := { state.session with cwd := Path.resolve target state.session.cwd } } :
        State).Stands := by
  obtain ⟨names, proper, there⟩ := Path.isCanonical_resolve h.canonical target
  rw [there, Tree.find_render (Path.segments_of_proper proper)] at found
  exact ⟨names, proper, there, children, hidden, found⟩

theorem putPart (h : state.Stands) {part : Part}
    (only : ∀ node, NameMap.find? state.tree.children part.name = some node → node = part.files)
    (same : session.cwd = state.session.cwd) :
    ({ session, tree := state.tree.putChild part.name part.files } : State).Stands := by
  obtain ⟨names, proper, here, leads⟩ := h
  exact ⟨names, proper, same.trans here, leads.putChild only⟩

/-- Whoever is inside the part that is taken out stands at home afterwards. -/
theorem dropPart (h : state.Stands) (part : Part) (same : session.cwd = state.session.cwd) :
    ({ session := session.leaving part.name, tree := state.tree.dropChild part.name } :
      State).Stands := by
  obtain ⟨names, proper, here, leads⟩ := h
  by_cases inside : Path.isWithin session.cwd (Path.join Path.root part.name) = true
  · apply home
    rw [Session.leaving, if_pos inside]
  · have stays : session.leaving part.name = session := by
      rw [Session.leaving, if_neg inside]
    have outside : ¬ [part.name] <+: names := by
      intro within
      have ancestor : ∀ name ∈ [part.name], Path.IsSegment name := by
        intro name hname
        rw [List.mem_singleton.mp hname]
        exact part.isSegment_name
      apply inside
      rw [same, here, Path.join_root]
      exact (Path.isWithin_render (Path.segments_of_proper proper) ancestor).mpr within
    refine ⟨names, proper, ?_, leads.dropChild outside⟩
    rw [stays]
    exact same.trans here

/-- Every move leaves the session standing. -/
theorem move (free : initial.LacksParts) {shown : Part → Bool} {logins : List Credential}
    (shows : state.Shows config initial shown logins) (h : state.Stands)
    {login : Option Credential} {next : State} (moves : Move config state login next) :
    next.Stands := by
  have only : ∀ (part : Part) (node : Node),
      NameMap.find? state.tree.children part.name = some node → node = part.files := by
    intro part node held
    exact shows.tree.eq_files free held
  cases moves with
  | stays => exact h
  | goes found => exact h.goes found
  | failsLogin => exact of_cwd h rfl
  | logsOut loggedIn => exact of_cwd h rfl
  | logsIn known =>
    rename_i credential
    rcases credential.revealed?_cases with ⟨nothing, -⟩ | ⟨part, appears, -⟩
    · rw [nothing]
      exact of_cwd h rfl
    · rw [appears]
      exact putPart h (only part) rfl
  | connectsShare => exact putPart h (only .share) rfl
  | connectsPortal => exact putPart h (only .portal) rfl
  | leavesShare connected => exact dropPart h .share rfl
  | leavesPortal connected => exact dropPart h .portal rfl

end State.Stands

namespace Terminal

/-- Every line of a run that tells its story leaves the session standing. -/
theorem Tells.stands_submit (free : initial.LacksParts) {terminal : Terminal}
    {logins : List Credential} (tells : terminal.Tells config initial logins)
    (stands : terminal.state.Stands) (line : String) :
    (terminal.submit line).1.state.Stands := by
  obtain ⟨shown, shows⟩ := tells.shows
  exact stands.move free shows (tells.moves line)

theorem stands_reached (free : initial.LacksParts) (lines : List String) :
    (reached config initial lines).state.Stands := by
  have start : (onTree config initial .builtins).state.Stands := State.Stands.home rfl
  have keeps : ∀ past (terminal : Terminal) line,
      terminal.Tells config initial past ∧ terminal.state.Stands →
        (terminal.submit line).1.Tells config initial
            (past ++ (terminal.loginBy? line).toList) ∧
          (terminal.submit line).1.state.Stands := by
    rintro past terminal line ⟨tells, stands⟩
    exact ⟨tells.submit free line, tells.stands_submit free stands line⟩
  exact (run_keeps keeps ⟨tells_onTree config initial, start⟩ lines).2

/-- After every run the current directory is a canonical path that leads to a directory. -/
theorem cwd_is_directory (config : Config) (initial : Tree) (free : initial.LacksParts)
    (lines : List String) :
    Path.IsCanonical (reached config initial lines).state.session.cwd ∧
      ∃ children hidden,
        (reached config initial lines).state.tree.lookup
            (reached config initial lines).state.session.cwd =
          .ok (.directory children hidden) := by
  have stands : (reached config initial lines).state.Stands := stands_reached free lines
  exact ⟨stands.canonical, stands.lookup⟩

/-- A visit to the books on the share. -/
def shareVisit : List String :=
  ["megacorp-connect", "MC-4471", "orchid", "cd megacorp//./finance/"]

/-- On that visit, and after the share has been disconnected from inside. -/
theorem cwd_is_directory_in_share :
    World.atStart.LacksParts ∧
      (reached {} World.atStart shareVisit).state.session.cwd = "~/megacorp/finance" ∧
      (∃ children hidden,
        (reached {} World.atStart shareVisit).state.tree.lookup "~/megacorp/finance" =
          .ok (.directory children hidden)) ∧
      (reached {} World.atStart (shareVisit ++ ["megacorp-disconnect"])).state.session.cwd = "~" ∧
      (reached {} World.atStart (shareVisit ++ ["megacorp-disconnect"])).state.tree.holds
        "~/megacorp" = false := by
  have here : (reached {} World.atStart shareVisit).state.session.cwd = "~/megacorp/finance" := by
    decide +kernel
  obtain ⟨-, leads⟩ := cwd_is_directory {} World.atStart World.lacksParts_atStart shareVisit
  rw [here] at leads
  refine ⟨World.lacksParts_atStart, here, leads, ?_⟩
  decide +kernel

end Terminal

end StoryShell
