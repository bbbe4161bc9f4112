/-
# The lines submitted so far

A history keeps every submitted line verbatim, oldest first, and remembers which
ones answered a password question, so that it can be shown without giving a
password away. A cursor serves recall: stepping back goes to older lines and
stays on the oldest, stepping forward goes to newer ones and then leaves recall.
-/

import StoryShell.Text.Pieces

namespace StoryShell

/-- A submitted line. -/
structure HistoryEntry where
  line : String
  /-- Whether the line answered a password question. -/
  secret : Bool
  deriving DecidableEq, Repr

/-- The line as it may be shown: a secret one has a `*` for each character. -/
def HistoryEntry.shown (entry : HistoryEntry) : String :=
  if entry.secret then Text.masked entry.line else entry.line

/-- The submitted lines, oldest first, and the position of recall: `none` when no line is being
recalled, `some i` when the line shown has `i` newer ones. -/
structure History where
  entries : List HistoryEntry := []
  cursor : Option Nat := none
  deriving DecidableEq, Repr

namespace History

/-- The history with one more line. Recall ends. -/
def record (history : History) (line : String) (secret : Bool) : History :=
  ⟨history.entries ++ [⟨line, secret⟩], none⟩

/-- The submitted lines, oldest first. -/
def lines (history : History) : List String :=
  history.entries.map (·.line)

/-- The submitted lines as they may be shown. -/
def shown (history : History) : List String :=
  history.entries.map HistoryEntry.shown

/-- Whether the line with a given number of older ones was secret; false past the end. -/
def isSecret (history : History) (index : Nat) : Bool :=
  (history.entries[index]?).any (·.secret)

/-- The line under the cursor, or the empty line when no line is being recalled. -/
def recalled (history : History) : String :=
  match history.cursor with
  | none => ""
  | some i => ((history.entries.reverse[i]?).map (·.line)).getD ""

/-- Recall steps to the next older line and stays on the oldest. -/
def back (history : History) : History :=
  if history.entries = [] then history
  else
    match history.cursor with
    | none => { history with cursor := some 0 }
    | some i => { history with cursor := some (min (i + 1) (history.entries.length - 1)) }

/-- Recall steps to the next newer line, and ends after the newest. -/
def forward (history : History) : History :=
  match history.cursor with
  | some (i + 1) => { history with cursor := some i }
  | some 0 => { history with cursor := none }
  | none => { history with cursor := none }

end History

end StoryShell
