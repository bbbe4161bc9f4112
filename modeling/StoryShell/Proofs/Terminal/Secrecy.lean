/-
# Wrong passwords leave no trace

Two runs of a standard terminal in which only wrong passwords differ, and those
not in length, cannot be told apart: neither by anything they print nor by
anything a surface can ask the terminal for between two lines. The two terminals
are not equal. The history keeps each password as typed, and the portal's
conversation carries its password past the question for the token. What relates
the terminals is that their histories are shown alike and their conversations go
on alike, and every line keeps it so.
-/

import StoryShell.Proofs.Builtin.Blindness
import StoryShell.Proofs.Terminal.Standard
import StoryShell.Proofs.World.Parts

namespace StoryShell.Terminal

/-! ### What is shown and what is typed -/

/-- Everything that can be asked of a terminal between two lines. -/
structure Face where
  session : Session
  tree : Tree
  promptText : String
  awaiting : Bool
  masked : Bool
  history : List String

/-- What a terminal shows. -/
def face (terminal : Terminal) : Face where
  session := terminal.state.session
  tree := terminal.state.tree
  promptText := terminal.promptText
  awaiting := terminal.isAwaiting
  masked := terminal.isMasked
  history := terminal.history.shown

/-- Two lines that the user may exchange unseen: they are the same, or both are wrong answers of
one length to a question for a password. -/
def Blurs (terminal : Terminal) (line other : String) : Prop :=
  line = other ∨
    terminal.isMasked = true ∧ line.length = other.length ∧
      ∀ prompt ∈ terminal.pending, ∀ secret ∈ prompt.dialog.secret? terminal.config,
        line ≠ secret ∧ other ≠ secret

/-- Two terminals that differ at most in secret lines of their histories and in a wrong password
that their conversations carry. -/
structure Alike (first second : Terminal) : Prop where
  table : second.table = first.table
  config : second.config = first.config
  state : second.state = first.state
  shown : second.history.shown = first.history.shown
  pending : Option.Rel (Prompt.Alike first.config) first.pending second.pending

variable {first second : Terminal} {line other : String}

namespace Blurs

theorem length_eq (blurred : first.Blurs line other) : line.length = other.length := by
  rcases blurred with rfl | ⟨-, same, -⟩
  · rfl
  · exact same

theorem eq_of_unmasked (blurred : first.Blurs line other) (unmasked : first.isMasked = false) :
    line = other := by
  rcases blurred with same | ⟨masked, -⟩
  · exact same
  · rw [unmasked] at masked
    cases masked

/-- Lines that may be exchanged are shown alike. -/
theorem shown_eq (blurred : first.Blurs line other) :
    (if first.isMasked then Text.masked other else other) =
      if first.isMasked then Text.masked line else line := by
  cases masked : first.isMasked with
  | true => exact Text.masked_congr blurred.length_eq.symm
  | false => rw [blurred.eq_of_unmasked masked]

end Blurs

namespace Alike

theorem refl (terminal : Terminal) : terminal.Alike terminal where
  table := rfl
  config := rfl
  state := rfl
  shown := rfl
  pending := by
    cases terminal.pending with
    | none => exact .none
    | some prompt => exact .some (.refl prompt)

theorem isMasked_eq (h : first.Alike second) : second.isMasked = first.isMasked := by
  rw [isMasked, isMasked]
  rcases Prompt.Alike.cases h.pending with ⟨none, secondNone⟩ |
    ⟨prompt, asked, some, secondSome, alike⟩
  · rw [none, secondNone]
  · rw [some, secondSome, Option.any_some, Option.any_some, alike.masked]

theorem face_eq (h : first.Alike second) : second.face = first.face := by
  rw [face, face, h.state, h.isMasked_eq, h.shown, promptText, promptText, h.state, isAwaiting,
    isAwaiting]
  rcases Prompt.Alike.cases h.pending with ⟨none, secondNone⟩ |
    ⟨prompt, asked, some, secondSome, alike⟩
  · rw [none, secondNone]
  · rw [some, secondSome]
    simp only [alike.question, Option.isSome_some]

/-! ### One line -/

theorem echo_eq (h : first.Alike second) (blurred : first.Blurs line other) :
    second.echo other = first.echo line := by
  have shown := blurred.shown_eq
  rcases Prompt.Alike.cases h.pending with ⟨none, secondNone⟩ |
    ⟨prompt, asked, some, secondSome, alike⟩
  · rw [isMasked, none, Option.any_none] at shown
    have same : other = line := shown
    rw [echo, echo, none, secondNone, h.state, same]
  · rw [isMasked, some, Option.any_some] at shown
    rw [echo, echo, some, secondSome]
    simp only [Prompt.echo, alike.question, alike.masked, shown]

/-- Recording both lines makes the histories longer alike. -/
theorem record (h : first.Alike second) (blurred : first.Blurs line other) :
    (first.record line).Alike (second.record other) where
  table := h.table
  config := h.config
  state := h.state
  shown := by
    rw [Terminal.record, Terminal.record, History.shown_record, History.shown_record, h.shown,
      h.isMasked_eq, blurred.shown_eq]
  pending := .none

/-- Alike terminals settle alike results alike. -/
theorem settle (h : first.Alike second) {result otherResult : Except Failure Outcome}
    (results : ResultsAlike first.config result otherResult) (origin : String) :
    (first.settle origin result).1.Alike (second.settle origin otherResult).1 ∧
      (second.settle origin otherResult).2 = (first.settle origin result).2 := by
  cases results with
  | error failure => exact ⟨h, rfl⟩
  | ok alike =>
    rename_i outcome otherOutcome
    have changes : second.state.applyAll otherOutcome.changes =
        first.state.applyAll outcome.changes := by
      rw [h.state, alike.changes]
    cases made : first.state.applyAll outcome.changes with
    | error failure =>
      rw [made] at changes
      rw [settle_refused made, settle_refused changes]
      exact ⟨h, rfl⟩
    | ok state =>
      rw [made] at changes
      rw [settle_done made, settle_done changes]
      have pending := Prompt.Alike.map_withOrigin alike.prompt origin
      exact ⟨⟨h.table, h.config, rfl, h.shown, pending⟩, alike.output⟩

/-- What a command reads of two alike terminals differs in secret lines only. -/
theorem view_eq (h : first.Alike second) :
    second.view = { first.view with history := second.history } := by
  rw [view, view, h.state, h.config]

/-- Alike terminals carry out words alike. -/
theorem carryOut (h : first.Alike second) (words : List String) :
    (first.carryOut words).1.Alike (second.carryOut words).1 ∧
      (second.carryOut words).2 = (first.carryOut words).2 := by
  have shown : second.history.shown = first.view.history.shown := h.shown
  cases words with
  | nil => exact ⟨h, rfl⟩
  | cons name arguments =>
    rw [Terminal.carryOut, Terminal.carryOut]
    by_cases path : isPathToken name = true
    · rw [if_pos path, if_pos path]
      have programs : second.table.programAt name second.view =
          first.table.programAt name first.view := by
        rw [h.table, h.view_eq]
        rfl
      rw [programs]
      cases first.table.programAt name first.view with
      | error failure => exact ⟨h, rfl⟩
      | ok program =>
        have results : program.run arguments second.view = program.run arguments first.view := by
          rw [h.view_eq]
          exact Command.run_congr shown program arguments
        simp only [results]
        exact h.settle (.refl _) name
    · rw [if_neg path, if_neg path]
      have results : second.table.dispatch name arguments second.view =
          first.table.dispatch name arguments first.view := by
        rw [h.table, h.view_eq]
        exact CommandTable.dispatch_congr shown first.table name arguments
      rw [results]
      exact h.settle (.refl _) name

/-- Answers that may be exchanged have alike results. -/
theorem answer (h : first.Alike second) (standard : first.IsStandard)
    (blurred : first.Blurs line other) {prompt asked : Prompt}
    (pending : first.pending = some prompt) (alike : prompt.Alike first.config asked) :
    ResultsAlike first.config (prompt.answer line (first.record line).view)
      (asked.answer other (second.record other).view) := by
  have view := (h.record blurred).view_eq
  have reads : asked.answer other (second.record other).view =
      asked.dialog.answer other (first.record line).view := by
    rw [view]
    exact asked.dialog.answer_congr other
  rw [reads]
  rcases blurred with same | ⟨masked, -, wrong⟩
  · rw [← same]
    exact alike.dialog.answer (first.record line).view line
  · have asks := standard.pending prompt pending
    rw [isMasked, pending, Option.any_some] at masked
    rw [Prompt.IsStandard, masked] at asks
    rw [alike.dialog.eq_of_masked asks]
    apply Dialog.answer_wrong (first.record line).view asks
    · intro secret hsecret
      exact (wrong prompt pending secret hsecret).1
    · intro secret hsecret
      exact (wrong prompt pending secret hsecret).2

/-- A line and one that it may be exchanged for lead to alike terminals and print the same. -/
theorem submit (h : first.Alike second) (standard : first.IsStandard)
    (blurred : first.Blurs line other) :
    (first.submit line).1.Alike (second.submit other).1 ∧
      (second.submit other).2 = (first.submit line).2 := by
  have ready := h.record blurred
  have echo := h.echo_eq blurred
  rcases Prompt.Alike.cases h.pending with ⟨none, secondNone⟩ |
    ⟨prompt, asked, some, secondSome, alike⟩
  · have same : line = other := by
      apply blurred.eq_of_unmasked
      rw [isMasked, none, Option.any_none]
    obtain ⟨next, printed⟩ := ready.carryOut (Words.ofLine line)
    subst same
    simp only [Terminal.submit, none, secondNone, echo, printed]
    exact ⟨next, trivial⟩
  · obtain ⟨next, printed⟩ :=
      ready.settle (h.answer standard blurred some alike) prompt.origin
    simp only [Terminal.submit, some, secondSome, echo, alike.origin, printed]
    exact ⟨next, trivial⟩

/-! ### Whole runs -/

/-- What one line keeps, a run keeps, if each pair of lines may be exchanged where the first run
stands by then. -/
theorem run (h : first.Alike second) (standard : first.IsStandard) {lines others : List String}
    (same : lines.length = others.length)
    (blurred : ∀ k line other, lines[k]? = some line → others[k]? = some other →
      (first.run (lines.take k)).1.Blurs line other) :
    (first.run lines).1.Alike (second.run others).1 ∧
      (second.run others).2 = (first.run lines).2 := by
  induction lines generalizing first second others with
  | nil =>
    rw [List.length_nil, eq_comm, List.length_eq_zero_iff] at same
    subst same
    exact ⟨h, rfl⟩
  | cons line rest ih =>
    cases others with
    | nil => cases same
    | cons other otherRest =>
      obtain ⟨next, printed⟩ := h.submit standard (blurred 0 line other rfl rfl)
      have later := ih next (standard.submit line) (Nat.succ.inj same)
        fun k later otherLater hline hother => blurred (k + 1) later otherLater hline hother
      rw [run_cons, run_cons, printed]
      exact ⟨later.1, congrArg ((first.submit line).2 :: ·) later.2⟩

end Alike

/-- Wrong passwords leave no trace: two runs whose lines agree except for wrong answers of equal
length to questions for a password print the same batches, and after every line the terminals show
the same. -/
theorem run_blind_to_wrong_passwords (config : Config) (initial : Tree) {lines others : List String}
    (same : lines.length = others.length)
    (blurred : ∀ k line other, lines[k]? = some line → others[k]? = some other →
      (reached config initial (lines.take k)).Blurs line other) :
    ((onTree config initial .builtins).run others).2 =
        ((onTree config initial .builtins).run lines).2 ∧
      ∀ k, (reached config initial (others.take k)).face =
        (reached config initial (lines.take k)).face := by
  have standard := isStandard_onTree config initial
  constructor
  · exact ((Alike.refl _).run standard same blurred).2
  · intro k
    have sameTake : (lines.take k).length = (others.take k).length := by
      rw [List.length_take, List.length_take, same]
    have alike := (Alike.refl (onTree config initial .builtins)).run standard sameTake <| by
      intro j line other hline hother
      rw [List.getElem?_take] at hline hother
      by_cases before : j < k
      · rw [if_pos before] at hline hother
        rw [List.take_take, Nat.min_eq_left (Nat.le_of_lt before)]
        exact blurred j line other hline hother
      · rw [if_neg before] at hline
        cases hline
    exact alike.1.face_eq

/-- A visit to the portal with a given password, and a look at the history after it. -/
def portalVisit (password : String) : List String :=
  ["./bin/portal.sh", "alex.m", password, "884213", "history"]

/-- Two visits to the portal of the story's world print the same and are kept differently. -/
theorem portal_blind_to_wrong_password :
    (∀ k line other, (portalVisit "secure")[k]? = some line →
        (portalVisit "S3CUR3")[k]? = some other →
          (reached {} World.atStart ((portalVisit "secure").take k)).Blurs line other) ∧
      ((onTree {} World.atStart .builtins).run (portalVisit "S3CUR3")).2 =
        ((onTree {} World.atStart .builtins).run (portalVisit "secure")).2 ∧
      (reached {} World.atStart (portalVisit "S3CUR3")).history.lines ≠
        (reached {} World.atStart (portalVisit "secure")).history.lines := by
  have password :
      (reached {} World.atStart ["./bin/portal.sh", "alex.m"]).Blurs "secure" "S3CUR3" := by
    rw [Blurs]
    decide +kernel
  have blurred : ∀ k line other, (portalVisit "secure")[k]? = some line →
      (portalVisit "S3CUR3")[k]? = some other →
        (reached {} World.atStart ((portalVisit "secure").take k)).Blurs line other := by
    intro k line other hline hother
    match k with
    | 0 | 1 | 3 | 4 =>
      have equal : some line = some other := hline.symm.trans hother
      exact .inl (Option.some.inj equal)
    | 2 =>
      cases hline
      cases hother
      exact password
    | k + 5 => cases hline
  have same : (portalVisit "secure").length = (portalVisit "S3CUR3").length := rfl
  obtain ⟨printed, -⟩ := run_blind_to_wrong_passwords {} World.atStart same blurred
  refine ⟨blurred, printed, ?_⟩
  decide +kernel

end StoryShell.Terminal
