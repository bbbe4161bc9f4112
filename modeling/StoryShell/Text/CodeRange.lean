/-
# Ranges of code points

Classes of characters are given as lists of closed ranges of code points, the
form in which the Unicode character database publishes its properties. A table
is cut into rows so that no single list literal grows long.
-/

namespace StoryShell.Text

/-- A closed range of code points, first and last. -/
abbrev CodeRange := Nat × Nat

/-- Whether a character's code point lies in the range. -/
def CodeRange.holds (range : CodeRange) (c : Char) : Bool :=
  range.1 ≤ c.toNat && c.toNat ≤ range.2

/-- Whether a character lies in some range of the table. -/
def inTable (table : List (List CodeRange)) (c : Char) : Bool :=
  table.any fun row => row.any fun range => CodeRange.holds range c

end StoryShell.Text
