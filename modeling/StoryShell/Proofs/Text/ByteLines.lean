/-
# What it means to read the lines of a byte stream

The lines of a stream are told here by how the bytes are laid out: lines one after another,
each in UTF-8 and with a line feed behind it, then nothing, or a last line without a line
feed, or a line that is not UTF-8. Every stream is laid out in one of these ways, and
cutting and decoding it finds the lines that are there.
-/

import StoryShell.Text.ByteLines

namespace StoryShell.Text

/-- The texts of lines up to the first one that is not UTF-8, and whether there is such a line. -/
def decodeLines : List RawLine → List String × Bool
  | [] => ([], false)
  | line :: rest =>
    match line.text? with
    | none => ([], true)
    | some text =>
      let (texts, broken) := decodeLines rest
      (text :: texts, broken)

/-- The bytes of a text in UTF-8. -/
def utf8 (s : String) : List UInt8 :=
  s.toUTF8.data.toList

/-- A byte stream consists of lines, and either ends after them or goes on with a line that is not
UTF-8, and so is broken. -/
inductive Reads : List UInt8 → List String → Bool → Prop
  | nothing : Reads [] [] false
  /-- A carriage return directly before the line feed does not belong to the line. -/
  | line {text : String} {rest : List UInt8} {lines : List String} {broken : Bool}
      (single : 10 ∉ utf8 text) (later : Reads rest lines broken) :
      Reads (utf8 text ++ 10 :: rest) (dropReturn text :: lines) broken
  /-- A last line without a line feed is a line as it stands. -/
  | last {text : String} (full : text ≠ "") (single : 10 ∉ utf8 text) :
      Reads (utf8 text) [text] false
  | broken {garbled rest : List UInt8} (single : 10 ∉ garbled)
      (unreadable : ∀ text, utf8 text ≠ garbled) (ends : rest = [] ∨ rest.head? = some 10) :
      Reads (garbled ++ rest) [] true

@[simp]
theorem utf8_eq_nil {s : String} : utf8 s = [] ↔ s = "" := by
  rw [utf8, String.toUTF8_eq_toByteArray]
  constructor
  · intro h
    apply String.toByteArray_inj.mp
    exact ByteArray.ext (Array.toList_inj.mp h)
  · rintro rfl
    rfl

/-- Decoding finds the text that has the bytes, if there is one. -/
theorem fromUTF8?_eq_some_iff {chunk : List UInt8} {text : String} :
    String.fromUTF8? ⟨chunk.toArray⟩ = some text ↔ utf8 text = chunk := by
  rw [String.fromUTF8?, utf8]
  constructor
  · intro h
    split at h
    · cases h
      rfl
    · cases h
  · rintro rfl
    exact dif_pos text.isValidUTF8

theorem RawLine.text?_of_utf8 {chunk : List UInt8} {text : String} (spelled : utf8 text = chunk)
    (ended : Bool) :
    RawLine.text? ⟨chunk, ended⟩ = some (if ended then dropReturn text else text) := by
  rw [RawLine.text?, fromUTF8?_eq_some_iff.mpr spelled, Option.map_some]

theorem RawLine.text?_of_garbled {chunk : List UInt8} (unreadable : ∀ text, utf8 text ≠ chunk)
    (ended : Bool) : RawLine.text? ⟨chunk, ended⟩ = none := by
  rw [RawLine.text?, Option.map_eq_none_iff, Option.eq_none_iff_forall_ne_some]
  intro text found
  exact unreadable text (fromUTF8?_eq_some_iff.mp found)

/-! ### Cutting at line feeds -/

theorem rawLines_nil : rawLines [] = [] := rfl

theorem rawLines_append {chunk : List UInt8} (single : 10 ∉ chunk) (rest : List UInt8) :
    rawLines (chunk ++ 10 :: rest) = ⟨chunk, true⟩ :: rawLines rest := by
  rw [rawLines, List.splitOn_append_cons_self_of_not_mem single]
  cases parts : rest.splitOn 10 with
  | nil => exact absurd parts (List.splitOn_ne_nil 10 rest)
  | cons first others =>
    rw [rawLines, parts, rawLinesOf]
    exact List.cons_ne_nil first others

theorem rawLines_last {chunk : List UInt8} (full : chunk ≠ []) (single : 10 ∉ chunk) :
    rawLines chunk = [⟨chunk, false⟩] := by
  rw [rawLines, List.splitOn_eq_singleton single, rawLinesOf, if_neg full]

/-- Cutting and decoding finds the lines of a stream. -/
theorem Reads.decodeLines_eq {input : List UInt8} {lines : List String} {broken : Bool}
    (h : Reads input lines broken) : decodeLines (rawLines input) = (lines, broken) := by
  induction h with
  | nothing => rw [rawLines_nil, decodeLines]
  | line single later ih =>
    rw [rawLines_append single, decodeLines, RawLine.text?_of_utf8 rfl, ih]
    rfl
  | last full single =>
    rw [rawLines_last (mt utf8_eq_nil.mp full) single, decodeLines, RawLine.text?_of_utf8 rfl]
    rfl
  | @broken garbled rest single unreadable ends =>
    rcases ends with rfl | fed
    · have full : garbled ≠ [] := (unreadable "" ·.symm)
      rw [List.append_nil, rawLines_last full single, decodeLines,
        RawLine.text?_of_garbled unreadable]
    · obtain ⟨more, rfl⟩ := List.head?_eq_some_iff.mp fed
      rw [rawLines_append single, decodeLines, RawLine.text?_of_garbled unreadable]

/-- Whatever a stream is, it can be read. -/
theorem exists_reads (input : List UInt8) : ∃ lines broken, Reads input lines broken := by
  by_cases fed : 10 ∈ input
  · obtain ⟨chunk, rest, rfl, single⟩ := List.eq_append_cons_of_mem fed
    by_cases readable : ∃ text, utf8 text = chunk
    · obtain ⟨text, rfl⟩ := readable
      obtain ⟨lines, broken, later⟩ := exists_reads rest
      exact ⟨dropReturn text :: lines, broken, .line single later⟩
    · exact ⟨[], true, .broken single (not_exists.mp readable) (.inr rfl)⟩
  · by_cases readable : ∃ text, utf8 text = input
    · obtain ⟨text, rfl⟩ := readable
      by_cases full : text = ""
      · rw [utf8_eq_nil.mpr full]
        exact ⟨[], false, .nothing⟩
      · exact ⟨[text], false, .last full fed⟩
    · have broken : Reads (input ++ []) [] true :=
        .broken fed (not_exists.mp readable) (.inl rfl)
      rw [List.append_nil] at broken
      exact ⟨[], true, broken⟩
termination_by input.length

/-- So it can be read in one way only, the one that cutting and decoding finds. -/
theorem reads_iff {input : List UInt8} {lines : List String} {broken : Bool} :
    Reads input lines broken ↔ decodeLines (rawLines input) = (lines, broken) := by
  constructor
  · exact Reads.decodeLines_eq
  · intro decoded
    obtain ⟨found, ended, reads⟩ := exists_reads input
    rw [reads.decodeLines_eq, Prod.mk.injEq] at decoded
    rwa [← decoded.1, ← decoded.2]

instance (input : List UInt8) (lines : List String) (broken : Bool) :
    Decidable (Reads input lines broken) :=
  decidable_of_iff _ reads_iff.symm

end StoryShell.Text
