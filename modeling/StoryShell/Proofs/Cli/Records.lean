/-
# Records can be read back

What another program makes of a record is told by a reader of JSON: inside a string a
backslash begins one of the escapes of JSON, the closing quote is the first quote that is
not escaped, and controls may not stand for themselves. Reading the record of an output
line yields the line, whatever characters its text has, and no record holds a line feed. So
records on lines of their own say what the output lines say and where each of them ends.
-/

import Mathlib.Data.List.Infix
import StoryShell.Cli.Record

namespace StoryShell

/-- The kind with a name. -/
def OutputKind.ofLabel? (label : String) : Option OutputKind :=
  [OutputKind.system, .error, .commandEcho, .inputEcho].find? (·.label = label)

@[simp]
theorem OutputKind.ofLabel?_label (kind : OutputKind) : ofLabel? kind.label = some kind := by
  cases kind <;> rfl

namespace Cli

/-! ### Reading -/

/-- The value of a hexadecimal digit, in lower or upper case. -/
def hexValue? (c : Char) : Option Nat :=
  if '0' ≤ c ∧ c ≤ '9' then some (c.toNat - '0'.toNat)
  else if 'a' ≤ c ∧ c ≤ 'f' then some (c.toNat - 'a'.toNat + 10)
  else if 'A' ≤ c ∧ c ≤ 'F' then some (c.toNat - 'A'.toNat + 10)
  else none

/-- The character with a number of four hexadecimal digits. A number that is only half of a
character is refused. -/
def numbered? (a b c d : Char) : Option Char := do
  let high := (← hexValue? a) * 16 + (← hexValue? b)
  let low := (← hexValue? c) * 16 + (← hexValue? d)
  let value := high * 256 + low
  if value.isValidChar then some (Char.ofNat value) else none

/-- The character that stands after a backslash for another one. -/
def unescape? : Char → Option Char
  | '"' => some '"'
  | '\\' => some '\\'
  | '/' => some '/'
  | 'b' => some '\x08'
  | 'f' => some '\x0c'
  | 'n' => some '\n'
  | 'r' => some '\r'
  | 't' => some '\t'
  | _ => none

/-- Read a JSON string after its opening quote: what it says, and what comes after the closing
quote. -/
def readString : List Char → Option (List Char × List Char)
  | [] => none
  | '"' :: rest => some ([], rest)
  | '\\' :: 'u' :: a :: b :: c :: d :: rest => do
    let first ← numbered? a b c d
    let (text, rest) ← readString rest
    return (first :: text, rest)
  | '\\' :: escaped :: rest => do
    let first ← unescape? escaped
    let (text, rest) ← readString rest
    return (first :: text, rest)
  | c :: rest =>
    if 0x20 ≤ c.toNat then do
      let (text, rest) ← readString rest
      return (c :: text, rest)
    else none

/-- Read the record of an output line. -/
def ofRecord? (text : String) : Option OutputLine := do
  let rest ← text.toList.dropPrefix? "\x7b\"kind\":\"".toList
  let (label, rest) ← readString rest
  let rest ← rest.dropPrefix? ",\"text\":\"".toList
  let (text, rest) ← readString rest
  let kind ← OutputKind.ofLabel? (String.ofList label)
  if rest = ['\x7d'] then some ⟨kind, String.ofList text⟩ else none

/-! ### Reading what was written -/

theorem hexValue?_digitChar : ∀ digit < 16, hexValue? (Nat.digitChar digit) = some digit := by
  decide

theorem hexValue?_hexDigit (value : Nat) : hexValue? (hexDigit value) = some (value % 16) :=
  hexValue?_digitChar _ (Nat.mod_lt _ (by decide))

/-- A control is numbered by two digits. -/
theorem numbered?_hexDigit {c : Char} (control : c.toNat < 0x20) :
    numbered? '0' '0' (hexDigit (c.toNat / 16)) (hexDigit c.toNat) = some c := by
  have zero : hexValue? '0' = some 0 := rfl
  have value : (0 * 16 + 0) * 256 + (c.toNat / 16 % 16 * 16 + c.toNat % 16) = c.toNat := by
    omega
  have valid : c.toNat.isValidChar := c.valid
  simp only [numbered?, zero, hexValue?_hexDigit, Option.bind_eq_bind, Option.bind_some, value]
  rw [if_pos valid, Char.ofNat_toNat]

theorem readString_escape {escaped c : Char} (known : unescape? escaped = some c)
    (rest : List Char) :
    readString ('\\' :: escaped :: rest) =
      (readString rest).map fun (text, after) => (c :: text, after) := by
  have short : escaped ≠ 'u' := by
    rintro rfl
    cases known
  rw [readString, known]
  · cases readString rest <;> rfl
  · intro _ _ _ _ _ same
    exact absurd same short

theorem readString_numbered {a b d e c : Char} (known : numbered? a b d e = some c)
    (rest : List Char) :
    readString ('\\' :: 'u' :: a :: b :: d :: e :: rest) =
      (readString rest).map fun (text, after) => (c :: text, after) := by
  rw [readString, known]
  cases readString rest <;> rfl

theorem readString_plain {c : Char} (quote : c ≠ '"') (backslash : c ≠ '\\')
    (printable : 0x20 ≤ c.toNat) (rest : List Char) :
    readString (c :: rest) =
      (readString rest).map fun (text, after) => (c :: text, after) := by
  rw [readString, if_pos printable]
  · cases readString rest <;> rfl
  · exact quote
  · intro _ _ _ _ _ same
    exact absurd same backslash
  · intro _ _ same
    exact absurd same backslash

/-- A character is written as an escape, as its number, or as it stands. -/
theorem jsonChar_cases (c : Char) :
    (∃ escaped, unescape? escaped = some c ∧ jsonChar c = ['\\', escaped]) ∨
      (c.toNat < 0x20 ∧
        jsonChar c = ['\\', 'u', '0', '0', hexDigit (c.toNat / 16), hexDigit c.toNat]) ∨
      (c ≠ '"' ∧ c ≠ '\\' ∧ 0x20 ≤ c.toNat ∧ jsonChar c = [c]) := by
  unfold jsonChar
  split
  · exact .inl ⟨'"', rfl, rfl⟩
  · exact .inl ⟨'\\', rfl, rfl⟩
  · exact .inl ⟨'b', rfl, rfl⟩
  · exact .inl ⟨'f', rfl, rfl⟩
  · exact .inl ⟨'n', rfl, rfl⟩
  · exact .inl ⟨'r', rfl, rfl⟩
  · exact .inl ⟨'t', rfl, rfl⟩
  · next quote backslash _ _ _ _ _ =>
    by_cases control : c.toNat < 0x20
    · exact .inr (.inl ⟨control, if_pos control⟩)
    · exact .inr (.inr ⟨quote, backslash, Nat.le_of_not_lt control, if_neg control⟩)

/-- Reading undoes the writing of one character. -/
theorem readString_jsonChar (c : Char) (rest : List Char) :
    readString (jsonChar c ++ rest) =
      (readString rest).map fun (text, after) => (c :: text, after) := by
  rcases jsonChar_cases c with ⟨escaped, known, written⟩ | ⟨control, written⟩ |
      ⟨quote, backslash, printable, written⟩
  · rw [written]
    exact readString_escape known rest
  · rw [written]
    exact readString_numbered (numbered?_hexDigit control) rest
  · rw [written]
    exact readString_plain quote backslash printable rest

/-- Reading a string as far as its closing quote yields the text. -/
theorem readString_flatMap (text after : List Char) :
    readString (text.flatMap jsonChar ++ '"' :: after) = some (text, after) := by
  induction text with
  | nil => rw [List.flatMap_nil, List.nil_append, readString]
  | cons c text ih =>
    rw [List.flatMap_cons, List.append_assoc, readString_jsonChar, ih, Option.map_some]

/-- Reading the record of an output line yields the line. -/
theorem ofRecord?_record (line : OutputLine) : ofRecord? (record line) = some line := by
  have laidOut : (record line).toList =
      "\x7b\"kind\":\"".toList ++ (line.kind.label.toList.flatMap jsonChar ++ '"' ::
        (",\"text\":\"".toList ++ (line.text.toList.flatMap jsonChar ++ '"' :: ['\x7d']))) := by
    simp [record, jsonString]
  rw [ofRecord?, laidOut]
  simp only [List.dropPrefix?_append_of_beq, BEq.rfl, Option.bind_eq_bind, Option.bind_some,
    readString_flatMap, String.ofList_toList, OutputKind.ofLabel?_label, if_true]

/-! ### Staying on one line -/

theorem digitChar_ne_newline : ∀ digit < 16, Nat.digitChar digit ≠ '\n' := by
  decide

theorem hexDigit_ne_newline (value : Nat) : '\n' ≠ hexDigit value :=
  (digitChar_ne_newline _ (Nat.mod_lt _ (by decide))).symm

theorem newline_notMem_jsonChar (c : Char) : '\n' ∉ jsonChar c := by
  rcases jsonChar_cases c with ⟨escaped, known, written⟩ | ⟨-, written⟩ | ⟨-, -, printable, written⟩
  · have letter : '\n' ≠ escaped := by
      rintro rfl
      cases known
    simp [written, letter]
  · simp [written, hexDigit_ne_newline]
  · have other : '\n' ≠ c := by
      rintro rfl
      exact absurd printable (by decide)
    simp [written, other]

/-- No record holds a line feed. -/
theorem newline_notMem_record (line : OutputLine) : '\n' ∉ (record line).toList := by
  simp [record, jsonString, newline_notMem_jsonChar]

end Cli

end StoryShell
