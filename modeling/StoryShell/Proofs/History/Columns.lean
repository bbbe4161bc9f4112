/-
# A history in two columns

The submitted lines and the marks of the secret ones can be kept in two lists, a line
and its mark at the same place. Each use of a history adds to both lists or to neither,
so a mark never belongs to another line. Whatever was done, the two lists put together
are the entries of the history, and what is shown, marked and recalled can be read off
the two lists by themselves.
-/

import StoryShell.Proofs.Recall

namespace StoryShell.History

/-- The lines and their marks in two lists, and the position of recall. -/
structure Columns where
  lines : List String := []
  /-- Whether the line at the same place answered a password question. -/
  secrets : List Bool := []
  cursor : Option Nat := none

/-- The two columns of a history. -/
def columns (history : History) : Columns :=
  ⟨history.lines, history.entries.map (·.secret), history.cursor⟩

namespace Columns

/-- There is a mark for each line. -/
def InStep (columns : Columns) : Prop :=
  columns.secrets.length = columns.lines.length

/-- The history whose entries are the lines with their marks. -/
def history (columns : Columns) : History :=
  ⟨(columns.lines.zip columns.secrets).map fun pair => ⟨pair.1, pair.2⟩, columns.cursor⟩

/-- The columns with one more line and its mark. -/
def record (columns : Columns) (line : String) (secret : Bool) : Columns :=
  ⟨columns.lines ++ [line], columns.secrets ++ [secret], none⟩

def back (columns : Columns) : Columns :=
  if columns.lines = [] then columns
  else
    match columns.cursor with
    | none => { columns with cursor := some 0 }
    | some i => { columns with cursor := some (min (i + 1) (columns.lines.length - 1)) }

def forward (columns : Columns) : Columns :=
  match columns.cursor with
  | none => { columns with cursor := none }
  | some 0 => { columns with cursor := none }
  | some (i + 1) => { columns with cursor := some i }

/-- The columns after one use. -/
def use (columns : Columns) : Use → Columns
  | .record line secret => columns.record line secret
  | .back => columns.back
  | .forward => columns.forward

/-- The columns after some uses of empty ones, in order. -/
def ofUses (uses : List Use) : Columns :=
  uses.foldl use {}

/-- The lines as they may be shown, each by its mark. -/
def shown (columns : Columns) : List String :=
  (columns.lines.zip columns.secrets).map fun pair =>
    if pair.2 then Text.masked pair.1 else pair.1

/-- The mark at a place; false past the end. -/
def isSecret (columns : Columns) (index : Nat) : Bool :=
  (columns.secrets[index]?).getD false

/-- The line under the cursor, counted from the end, or the empty line. -/
def recalled (columns : Columns) : String :=
  match columns.cursor with
  | none => ""
  | some i => (columns.lines[columns.lines.length - 1 - i]?).getD ""

end Columns

variable {history : History}

/-! ### The columns and the entries -/

theorem inStep_columns (history : History) : history.columns.InStep := by
  rw [Columns.InStep, columns, lines, List.length_map, List.length_map]

/-- A history is its two columns put together. -/
theorem history_columns (history : History) : history.columns.history = history := by
  rw [Columns.history, columns, lines, List.zip_map', List.map_map]
  exact congrArg (History.mk · history.cursor) (List.map_id history.entries)

/-- Columns in step are the columns of a history. -/
theorem Columns.InStep.columns_history {columns : Columns} (inStep : columns.InStep) :
    columns.history.columns = columns := by
  have first : (columns.lines.zip columns.secrets).map Prod.fst = columns.lines :=
    List.map_fst_zip (Nat.le_of_eq inStep.symm)
  have second : (columns.lines.zip columns.secrets).map Prod.snd = columns.secrets :=
    List.map_snd_zip (Nat.le_of_eq inStep)
  simp only [History.columns, Columns.history, History.lines, List.map_map, Function.comp_def]
  rw [first, second]

/-! ### Using them -/

theorem columns_record (history : History) (line : String) (secret : Bool) :
    (history.record line secret).columns = history.columns.record line secret := by
  simp only [columns, record, lines, Columns.record, List.map_append, List.map_cons, List.map_nil]

theorem columns_back (history : History) : history.back.columns = history.columns.back := by
  obtain ⟨entries, cursor⟩ := history
  cases entries with
  | nil => rfl
  | cons first rest =>
    cases cursor with
    | none => rfl
    | some i => simp [back, Columns.back, columns, lines]

theorem columns_forward (history : History) :
    history.forward.columns = history.columns.forward := by
  obtain ⟨entries, _ | _ | i⟩ := history <;> rfl

/-- A use of a history adds to both columns or to neither, and moves the cursor alike. -/
theorem columns_use (history : History) (which : Use) :
    (history.use which).columns = history.columns.use which := by
  cases which with
  | record line secret => exact history.columns_record line secret
  | back => exact history.columns_back
  | forward => exact history.columns_forward

theorem columns_ofUses (uses : List Use) : (ofUses uses).columns = Columns.ofUses uses :=
  (List.foldl_hom columns fun history which => (history.columns_use which).symm).symm

/-! ### Reading them -/

theorem shown_columns (history : History) : history.columns.shown = history.shown := by
  rw [Columns.shown, columns, lines, List.zip_map', List.map_map]
  rfl

theorem isSecret_columns (history : History) (index : Nat) :
    history.columns.isSecret index = history.isSecret index := by
  rw [Columns.isSecret, columns, isSecret, List.getElem?_map]
  cases history.entries[index]? <;> rfl

/-- Counting a line from the end of its column finds the line under the cursor. -/
theorem IsInside.recalled_columns (inside : history.IsInside) :
    history.columns.recalled = history.recalled := by
  obtain ⟨entries, cursor⟩ := history
  cases cursor with
  | none => rfl
  | some i =>
    have within : i < entries.length := inside i rfl
    have before : entries.length - 1 - i < entries.length := by omega
    rw [recalled_some within]
    simp only [Columns.recalled, columns, lines, List.length_map, List.getElem?_map,
      List.getElem?_eq_getElem before, Option.map_some, Option.getD_some]

/-- Whatever is done with a history, its lines and their marks can be kept in two columns. The
columns stay in step, put together they are the history, and they tell all that the history
tells. -/
theorem columns_tell_history (uses : List Use) :
    let columns := Columns.ofUses uses
    let history := ofUses uses
    columns.InStep ∧ columns.history = history ∧ columns.lines = history.lines ∧
      columns.shown = history.shown ∧
      (∀ index, columns.isSecret index = history.isSecret index) ∧
      columns.cursor = history.cursor ∧ columns.recalled = history.recalled := by
  intro columns history
  have same : history.columns = columns := columns_ofUses uses
  rw [← same]
  exact ⟨history.inStep_columns, history.history_columns, rfl, history.shown_columns,
    history.isSecret_columns, rfl, (isInside_ofUses uses).recalled_columns⟩

end StoryShell.History
