/-
# Cutting and comparing text

Small operations on text that the rest of the library states its rules with:
cutting at a separator, testing how a text starts, looking for one text inside
another, lower-casing ASCII letters and padding to a width. Each is defined on
the list of characters, where the laws of lists apply.
-/

namespace StoryShell.Text

/-- The pieces of a text between the occurrences of a separator. There is always
one more piece than there are separators, so a piece may be empty. -/
def pieces (separator : Char) (s : String) : List String :=
  (s.toList.splitOn separator).map String.ofList

/-- The pieces of a text between separators that are not empty. -/
def fullPieces (separator : Char) (s : String) : List String :=
  (pieces separator s).filter (· ≠ "")

/-- Pieces put together again, with a separator between any two neighbours. -/
def glue (separator : Char) (parts : List String) : String :=
  String.ofList ([separator].intercalate (parts.map String.toList))

/-- The lines of a text, cut at every line feed. -/
def lines (s : String) : List String :=
  pieces '\n' s

/-- Whether `start` begins `s`. -/
def startsWith (s start : String) : Bool :=
  start.toList.isPrefixOf s.toList

/-- A text without the carriage return at its end, if it ends in one. -/
def dropReturn (s : String) : String :=
  if s.toList.getLast? = some '\r' then String.ofList s.toList.dropLast else s

/-- Lines with the carriage return taken off where a line feed followed it: off every line but the
last. -/
def dropReturns : List String → List String
  | [] => []
  | [last] => [last]
  | line :: rest => dropReturn line :: dropReturns rest

/-- A text without the occurrences of a character at its end. -/
def trimEnd (c : Char) (s : String) : String :=
  String.ofList (s.toList.reverse.dropWhile (· == c)).reverse

/-- Whether the characters `part` occur in a row inside a list of characters. -/
def occursIn (part : List Char) : List Char → Bool
  | [] => part.isEmpty
  | c :: rest => part.isPrefixOf (c :: rest) || occursIn part rest

/-- Whether `part` occurs inside `s`. -/
def contains (s part : String) : Bool :=
  occursIn part.toList s.toList

/-- A text with its ASCII letters in lower case and every other character kept. -/
def asciiLower (s : String) : String :=
  String.ofList (s.toList.map Char.toLower)

/-- A text followed by as many spaces as it is shorter than `width` characters. -/
def padRight (width : Nat) (s : String) : String :=
  String.ofList (s.toList ++ List.replicate (width - s.toList.length) ' ')

/-- A text preceded by as many spaces as it is shorter than `width` characters. -/
def padLeft (width : Nat) (s : String) : String :=
  String.ofList (List.replicate (width - s.toList.length) ' ' ++ s.toList)

/-- One `*` for every character of a text. -/
def masked (s : String) : String :=
  String.ofList (s.toList.map fun _ => '*')

/-- A text occurs inside another exactly when the other is cut around it. -/
theorem occursIn_iff {part s : List Char} :
    occursIn part s = true ↔ ∃ before after, s = before ++ part ++ after := by
  induction s with
  | nil =>
    constructor
    · intro h
      exact ⟨[], [], by simp [List.isEmpty_iff.mp h]⟩
    · rintro ⟨before, after, h⟩
      simp only [List.nil_eq, List.append_eq_nil_iff] at h
      simp [occursIn, h.1.2]
  | cons c rest ih =>
    rw [occursIn, Bool.or_eq_true, ih, List.isPrefixOf_iff_prefix]
    constructor
    · rintro (⟨after, h⟩ | ⟨before, after, h⟩)
      · exact ⟨[], after, by simp [h]⟩
      · exact ⟨c :: before, after, by simp [h]⟩
    · rintro ⟨before, after, h⟩
      cases before with
      | nil => exact .inl ⟨after, by simpa using h.symm⟩
      | cons d before =>
        simp only [List.cons_append, List.cons.injEq] at h
        exact .inr ⟨before, after, h.2⟩

theorem masked_eq_replicate (s : String) :
    masked s = String.ofList (List.replicate s.length '*') := by
  rw [masked, List.map_const', String.length_toList]

end StoryShell.Text
