/-
# Recall walks the history and never leaves it

Recall only moves a cursor, and whatever is recorded and recalled in whatever order,
the cursor stands on a submitted line or nowhere. From the end of the history, steps
back go to older lines one by one and stay on the oldest; steps forward return the
way that was gone and then end recall. In an empty history there is nothing to stand
on, so recall shows the empty line.
-/

import Mathlib.Logic.Function.Iterate
import StoryShell.History

namespace StoryShell.History

/-- What is done with a history. -/
inductive Use
  | record (line : String) (secret : Bool)
  | back
  | forward

/-- The history after one use. -/
def use (history : History) : Use → History
  | .record line secret => history.record line secret
  | .back => history.back
  | .forward => history.forward

/-- The history after some uses of an empty one, in order. -/
def ofUses (uses : List Use) : History :=
  uses.foldl use {}

/-- The cursor, if there is one, stands on one of the lines. -/
def IsInside (history : History) : Prop :=
  ∀ i, history.cursor = some i → i < history.entries.length

variable {history : History} {entries : List HistoryEntry} {i : Nat}

/-! ### Single steps -/

theorem back_empty (cursor : Option Nat) : back ⟨[], cursor⟩ = ⟨[], cursor⟩ :=
  rfl

theorem back_none (filled : entries ≠ []) : back ⟨entries, none⟩ = ⟨entries, some 0⟩ :=
  if_neg filled

theorem back_some (filled : entries ≠ []) (i : Nat) :
    back ⟨entries, some i⟩ = ⟨entries, some (min (i + 1) (entries.length - 1))⟩ :=
  if_neg filled

theorem exists_back_eq (history : History) : ∃ cursor, history.back = { history with cursor } := by
  rw [back]
  by_cases empty : history.entries = []
  · rw [if_pos empty]
    exact ⟨history.cursor, rfl⟩
  · rw [if_neg empty]
    cases history.cursor with
    | none => exact ⟨_, rfl⟩
    | some position => exact ⟨_, rfl⟩

theorem exists_forward_eq (history : History) :
    ∃ cursor, history.forward = { history with cursor } := by
  rw [forward]
  cases history.cursor with
  | none => exact ⟨_, rfl⟩
  | some position =>
    cases position with
    | zero => exact ⟨_, rfl⟩
    | succ position => exact ⟨_, rfl⟩

/-- Stepping back keeps the lines and which of them are secret. -/
theorem entries_back (history : History) : history.back.entries = history.entries := by
  obtain ⟨cursor, moved⟩ := history.exists_back_eq
  rw [moved]

/-- Stepping forward keeps the lines and which of them are secret. -/
theorem entries_forward (history : History) : history.forward.entries = history.entries := by
  obtain ⟨cursor, moved⟩ := history.exists_forward_eq
  rw [moved]

/-- The line under the cursor is counted from the end of the history. -/
theorem recalled_some (inside : i < entries.length) :
    recalled ⟨entries, some i⟩ = (entries[entries.length - 1 - i]).line := by
  have found : entries.reverse[i]? = some entries[entries.length - 1 - i] := by
    rw [List.getElem?_reverse inside, List.getElem?_eq_getElem]
  simp only [recalled, found, Option.map_some, Option.getD_some]

/-! ### The cursor stays inside -/

theorem IsInside.back (inside : history.IsInside) : history.back.IsInside := by
  obtain ⟨entries, cursor⟩ := history
  by_cases empty : entries = []
  · subst empty
    rwa [back_empty]
  · have filled : 0 < entries.length := List.length_pos_iff.mpr empty
    cases cursor with
    | none =>
      rw [back_none empty]
      rintro i ⟨⟩
      exact filled
    | some position =>
      rw [back_some empty]
      rintro i ⟨⟩
      exact Nat.lt_of_le_of_lt (Nat.min_le_right ..) (Nat.sub_one_lt_of_lt filled)

theorem IsInside.forward (inside : history.IsInside) : history.forward.IsInside := by
  obtain ⟨entries, cursor⟩ := history
  cases cursor with
  | none => exact inside
  | some position =>
    cases position with
    | zero => rintro i ⟨⟩
    | succ position =>
      rintro i ⟨⟩
      exact Nat.lt_of_succ_lt (inside _ rfl)

theorem IsInside.use (inside : history.IsInside) (which : Use) : (history.use which).IsInside := by
  cases which with
  | record line secret => rintro i ⟨⟩
  | back => exact inside.back
  | forward => exact inside.forward

theorem isInside_ofUses (uses : List Use) : (ofUses uses).IsInside := by
  have kept : ∀ history : History, history.IsInside → (uses.foldl use history).IsInside := by
    induction uses with
    | nil => exact fun history inside => inside
    | cons which rest ih => exact fun history inside => ih _ (inside.use which)
  exact kept {} (by rintro i ⟨⟩)

/-- In an empty history the cursor stands nowhere. -/
theorem IsInside.eq_empty (inside : history.IsInside) (empty : history.entries = []) :
    history = {} := by
  obtain ⟨entries, cursor⟩ := history
  subst empty
  cases cursor with
  | none => rfl
  | some i => exact absurd (inside i rfl) (Nat.not_lt_zero i)

/-! ### Walking -/

/-- Steps back from nowhere go to the newest line and on to older ones, up to the oldest. -/
theorem iterate_back (filled : entries ≠ []) (j : Nat) :
    back^[j + 1] ⟨entries, none⟩ = ⟨entries, some (min j (entries.length - 1))⟩ := by
  induction j with
  | zero => exact (back_none filled).trans (by rw [Nat.zero_min])
  | succ j ih =>
    rw [Function.iterate_succ_apply', ih, back_some filled]
    congr 2
    omega

theorem iterate_forward_none (entries : List HistoryEntry) (k : Nat) :
    forward^[k] ⟨entries, none⟩ = ⟨entries, none⟩ :=
  Function.iterate_fixed rfl k

/-- Steps forward go through the newer lines and then nowhere. -/
theorem iterate_forward_some (entries : List HistoryEntry) (i k : Nat) :
    forward^[k] ⟨entries, some i⟩ = ⟨entries, if k ≤ i then some (i - k) else none⟩ := by
  induction k generalizing i with
  | zero => rfl
  | succ k ih =>
    rw [Function.iterate_succ_apply]
    cases i with
    | zero => exact iterate_forward_none entries k
    | succ i =>
      have step : forward ⟨entries, some (i + 1)⟩ = ⟨entries, some i⟩ := rfl
      rw [step, ih]
      simp only [Nat.add_le_add_iff_right, Nat.add_sub_add_right]

/-- Steps back and then forward from nowhere show the lines in the order in which they were
recorded. -/
theorem recalled_walk (filled : entries ≠ []) (j k : Nat)
    (inside : entries.length - min (j + 1) entries.length + k < entries.length) :
    (forward^[k] (back^[j + 1] ⟨entries, none⟩)).recalled =
      (entries[entries.length - min (j + 1) entries.length + k]).line := by
  have positive : 0 < entries.length := List.length_pos_iff.mpr filled
  have newer : k ≤ min j (entries.length - 1) := by omega
  rw [iterate_back filled, iterate_forward_some, if_pos newer, recalled_some (by omega)]
  congr 2
  omega

/-- Steps forward past the newest line end recall. -/
theorem walk_past_newest (filled : entries ≠ []) (j k : Nat)
    (outside : entries.length ≤ entries.length - min (j + 1) entries.length + k) :
    forward^[k] (back^[j + 1] ⟨entries, none⟩) = ⟨entries, none⟩ := by
  have positive : 0 < entries.length := List.length_pos_iff.mpr filled
  have past : ¬ k ≤ min j (entries.length - 1) := by omega
  rw [iterate_back filled, iterate_forward_some, if_neg past]

/-- Whatever was recorded and recalled, the cursor stands nowhere, which shows the empty line, or on
a line of the history, which it shows. While there is no line it stays nowhere. After recording,
the `j`-th step back shows the `j`-th newest line, or the oldest if there are fewer; the `k`-th step
forward from there shows the `k`-th line after that one, and past the newest the empty line, with
the cursor nowhere. No step changes the lines, nor which of them are secret. -/
theorem recall_walks_history (uses : List Use) :
    let history := ofUses uses
    (∀ i, history.cursor = some i →
      ∃ inside : i < history.entries.length,
        history.recalled = (history.entries[history.entries.length - 1 - i]).line) ∧
    (history.cursor = none → history.recalled = "") ∧
    (history.entries = [] → ∀ step ∈ [back, forward],
      (step history).recalled = "" ∧ (step history).cursor = none) ∧
    (∀ line secret,
      let recorded := history.record line secret
      let n := recorded.entries.length
      0 < n ∧ ∀ j ≥ 1,
        (∃ inside : n - min j n < n,
          (back^[j] recorded).recalled = (recorded.entries[n - min j n]).line) ∧
        ∀ k,
          (∀ inside : n - min j n + k < n,
            (forward^[k] (back^[j] recorded)).recalled =
              (recorded.entries[n - min j n + k]).line) ∧
          (n ≤ n - min j n + k →
            (forward^[k] (back^[j] recorded)).recalled = "" ∧
              (forward^[k] (back^[j] recorded)).cursor = none)) ∧
    history.back.entries = history.entries ∧ history.forward.entries = history.entries := by
  intro history
  have inside : history.IsInside := isInside_ofUses uses
  refine ⟨?_, ?_, ?_, ?_, entries_back history, entries_forward history⟩
  · intro i here
    have line := recalled_some (inside i here)
    rw [← here] at line
    exact ⟨inside i here, line⟩
  · intro nowhere
    rw [recalled, nowhere]
  · intro empty step hstep
    rw [inside.eq_empty empty]
    simp only [List.mem_cons, List.not_mem_nil, or_false] at hstep
    rcases hstep with rfl | rfl
    · exact ⟨rfl, rfl⟩
    · exact ⟨rfl, rfl⟩
  · intro line secret recorded n
    have filled : recorded.entries ≠ [] := by simp [recorded, record]
    have positive : 0 < n := List.length_pos_iff.mpr filled
    refine ⟨positive, ?_⟩
    intro j hj
    obtain ⟨j, rfl⟩ := Nat.exists_eq_add_of_le' hj
    refine ⟨⟨by omega, recalled_walk filled j 0 (by omega)⟩, ?_⟩
    intro k
    refine ⟨recalled_walk filled j k, ?_⟩
    intro outside
    have ended := walk_past_newest filled j k outside
    exact ⟨congrArg recalled ended, congrArg cursor ended⟩

/-- Two lines, one of them a password, with a look back in between. -/
def fumble : List Use :=
  [.record "login ada" false, .back, .forward, .forward, .record "heron" true, .back]

/-- Recall stands on the password. After another line, five steps back lead to the first line and
no further, one step forward to the password again and three to the empty line. -/
theorem recall_walks_history_when_fumbling :
    let history := ofUses fumble
    let recorded := history.record "pwd" false
    history.recalled = "heron" ∧
      (back^[5] recorded).recalled = "login ada" ∧
      (forward^[1] (back^[5] recorded)).recalled = "heron" ∧
      (forward^[3] (back^[5] recorded)).recalled = "" ∧
      (forward^[3] (back^[5] recorded)).cursor = none := by
  intro history recorded
  obtain ⟨stands, -, -, walks, -, -⟩ := recall_walks_history fumble
  obtain ⟨_, atPassword⟩ := stands 0 rfl
  obtain ⟨-, walk⟩ := walks "pwd" false
  obtain ⟨⟨_, oldest⟩, returns⟩ := walk 5 (by decide)
  exact ⟨atPassword, oldest, (returns 1).1 (by decide), (returns 3).2 (by decide)⟩

end StoryShell.History
