/-
# Lower case and parts of a text

Lower-casing goes character by character, and only a capital sigma looks around: it
takes its final form where it ends a word. So a part of a text is lower-cased as it is
alone unless a sigma of it ends a word in one of the two and not in the other. Where no
sigma does, a search that ignores case finds the part in the text. No sigma looks over a
line feed, so the lines of a text are lower-cased one by one, and what is on one line is
found in the text exactly if it is found on one of its lines.
-/

import StoryShell.Proofs.Text.Pieces
import StoryShell.Text.Blank
import StoryShell.Text.Lowercase

namespace StoryShell.Text

variable {before near far part after : List Char} {pattern text : String}

/-- Whether a capital sigma between two parts of a text ends a word. -/
def endsWord (before after : List Char) : Bool :=
  meetsCased before.reverse && !meetsCased after

/-- A pattern occurs in a text in a place where each capital sigma of it ends a word of the text
exactly if it ends a word of the pattern. -/
def StandsIn (pattern text : String) : Prop :=
  ∃ before after : List Char, text.toList = before ++ pattern.toList ++ after ∧
    ∀ front back, pattern.toList = front ++ 'Σ' :: back →
      endsWord (before ++ front) (back ++ after) = endsWord front back

/-- A pattern without a capital sigma stands wherever it occurs. -/
theorem standsIn_of_contains (plain : 'Σ' ∉ pattern.toList)
    (occurs : contains text pattern = true) : StandsIn pattern text := by
  obtain ⟨before, after, cut⟩ := occursIn_iff.mp occurs
  refine ⟨before, after, cut, fun front back same => ?_⟩
  rw [same] at plain
  simp at plain

/-! ### Lower-casing a part -/

/-- The rest of a text is lower-cased with what stands before it in view. -/
theorem exists_lowerAfter_append (before near rest : List Char) :
    ∃ head, lowerAfter near (before ++ rest) =
      head ++ lowerAfter (before.reverse ++ near) rest := by
  induction before generalizing near with
  | nil => exact ⟨[], rfl⟩
  | cons c before ih =>
    obtain ⟨head, lowered⟩ := ih (c :: near)
    rw [List.cons_append, lowerAfter, lowered, List.reverse_cons, List.append_assoc]
    exact ⟨_ ++ head, by rw [List.append_assoc]; rfl⟩

/-- A part of a text comes out as it does alone if each sigma of it ends a word in both or in
neither. Of the characters before a sigma, `near` belong to the part and `far` do not. -/
theorem exists_lowerAfter_part (keeps : ∀ front back, part = front ++ 'Σ' :: back →
      (meetsCased (front.reverse ++ near ++ far) && !meetsCased (back ++ after)) =
        (meetsCased (front.reverse ++ near) && !meetsCased back)) :
    ∃ tail, lowerAfter (near ++ far) (part ++ after) = lowerAfter near part ++ tail := by
  induction part generalizing near with
  | nil => exact ⟨_, rfl⟩
  | cons c part ih =>
    have later : ∃ tail, lowerAfter (c :: near ++ far) (part ++ after) =
        lowerAfter (c :: near) part ++ tail := by
      apply ih
      intro front back same
      have kept := keeps (c :: front) back (by rw [same]; rfl)
      simpa using kept
    obtain ⟨tail, lowered⟩ := later
    refine ⟨tail, ?_⟩
    rw [List.cons_append, lowerAfter, lowerAfter, List.append_assoc, ← lowered]
    by_cases sigma : c = 'Σ'
    · have kept := keeps [] part (by rw [sigma]; rfl)
      simp only [List.reverse_nil, List.nil_append] at kept
      rw [if_pos sigma, if_pos sigma, kept]
      rfl
    · rw [if_neg sigma, if_neg sigma]
      rfl

/-- What stands in a text is found there by a search that ignores case. -/
theorem containsIgnoringCase_of_standsIn (stands : StandsIn pattern text) :
    containsIgnoringCase text pattern = true := by
  obtain ⟨before, after, cut, keeps⟩ := stands
  obtain ⟨head, lowered⟩ := exists_lowerAfter_append before [] (pattern.toList ++ after)
  have inside : ∃ tail, lowerAfter ([] ++ before.reverse) (pattern.toList ++ after) =
      lowerAfter [] pattern.toList ++ tail := by
    apply exists_lowerAfter_part
    intro front back same
    have kept := keeps front back same
    rw [endsWord, endsWord, List.reverse_append] at kept
    simpa using kept
  obtain ⟨tail, found⟩ := inside
  refine occursIn_iff.mpr ⟨head, tail, ?_⟩
  rw [List.nil_append] at found
  rw [lowercase, lowercase, String.toList_ofList, String.toList_ofList, cut, List.append_assoc,
    lowered, List.append_nil, found, List.append_assoc]

/-! ### ASCII letters -/

/-- An ASCII letter in lower case is a small letter, and other characters stay. -/
theorem toLower_eq_or_small (c : Char) :
    c.toLower = c ∨ 'a'.toNat ≤ c.toLower.toNat ∧ c.toLower.toNat ≤ 'z'.toNat := by
  by_cases capital : c.val ≥ 'A'.val ∧ c.val ≤ 'Z'.val
  · right
    have moved : c.toLower.val = c.val + ('a'.val - 'A'.val) := congrArg Char.val (dif_pos capital)
    have first : 'A'.val.toNat = 65 ∧ 'Z'.val.toNat = 90 ∧ ('a'.val - 'A'.val).toNat = 32 := by
      decide
    have small : 'a'.toNat = 97 ∧ 'z'.toNat = 122 := by decide
    simp only [ge_iff_le, UInt32.le_iff_toNat_le] at capital
    simp only [Char.toNat, moved, UInt32.toNat_add] at small ⊢
    omega
  · exact .inl (dif_neg capital)

theorem toLower_toLower (c : Char) : c.toLower.toLower = c.toLower := by
  rcases toLower_eq_or_small c with same | ⟨small, -⟩
  · rw [same, same]
  · have capital : ¬ (c.toLower.val ≥ 'A'.val ∧ c.toLower.val ≤ 'Z'.val) := by
      rintro ⟨-, last⟩
      have lower : c.toLower.toNat ≤ 'Z'.toNat := UInt32.le_iff_toNat_le.mp last
      exact absurd (Nat.le_trans small lower) (by decide)
    generalize c.toLower = d at capital ⊢
    exact dif_neg capital

theorem asciiLower_asciiLower (s : String) : asciiLower (asciiLower s) = asciiLower s := by
  have letters : Char.toLower ∘ Char.toLower = Char.toLower := funext toLower_toLower
  rw [asciiLower, asciiLower, String.toList_ofList, List.map_map, letters]

theorem isBlank_toLower {c : Char} (unblank : isBlank c = false) : isBlank c.toLower = false := by
  rcases toLower_eq_or_small c with same | ⟨first, last⟩
  · rwa [same]
  · have letters : 'a'.toNat = 97 ∧ 'z'.toNat = 122 := by decide
    simp [isBlank, blankRanges, CodeRange.holds]
    omega

theorem any_isBlank_asciiLower {s : String} (unbroken : s.toList.any isBlank = false) :
    (asciiLower s).toList.any isBlank = false := by
  rw [List.any_eq_false] at unbroken
  rw [asciiLower, String.toList_ofList, List.any_map, List.any_eq_false]
  intro c member
  have unblank := Bool.eq_false_iff.mpr (unbroken c member)
  exact Bool.eq_false_iff.mp (isBlank_toLower unblank)

/-! ### Lower-casing line by line -/

/-- A line feed stands at the end of every word, and no look-around passes it. -/
theorem meetsCased_append_newline (front rest : List Char) :
    meetsCased (front ++ '\n' :: rest) = meetsCased front := by
  have stops : isCaseIgnorable '\n' = false ∧ isCased '\n' = false := by decide +kernel
  induction front with
  | nil => simp [meetsCased, stops]
  | cons c front ih => rw [List.cons_append, meetsCased, meetsCased, ih]

/-- What stands before a line feed does not matter after it. -/
theorem lowerAfter_newline (near far rest : List Char) :
    lowerAfter (near ++ '\n' :: far) rest = lowerAfter near rest := by
  induction rest generalizing near with
  | nil => rfl
  | cons c rest ih =>
    rw [lowerAfter, lowerAfter, meetsCased_append_newline, ← List.cons_append, ih]

theorem lowerAfter_append_newline (before front rest : List Char) :
    lowerAfter before (front ++ '\n' :: rest) =
      lowerAfter before front ++ '\n' :: lowerAfter [] rest := by
  induction front generalizing before with
  | nil =>
    have kept : lowerChar '\n' = ['\n'] := by decide
    calc lowerAfter before ('\n' :: rest)
      _ = lowerChar '\n' ++ lowerAfter ([] ++ '\n' :: before) rest := rfl
      _ = '\n' :: lowerAfter [] rest := by
        rw [kept, lowerAfter_newline, List.singleton_append]
  | cons c front ih =>
    rw [List.cons_append, lowerAfter, lowerAfter, meetsCased_append_newline, ih,
      List.append_assoc]

theorem lowercase_glue (parts : List String) :
    lowercase (glue '\n' parts) = glue '\n' (parts.map lowercase) := by
  induction parts with
  | nil => rfl
  | cons first rest ih =>
    cases rest with
    | nil => rw [List.map_singleton, glue_singleton, glue_singleton]
    | cons second rest =>
      apply String.toList_injective
      rw [List.map_cons, List.map_cons, toList_glue_cons_cons, ← List.map_cons, ← ih, lowercase,
        String.toList_ofList, toList_glue_cons_cons, lowerAfter_append_newline, lowercase,
        lowercase, String.toList_ofList, String.toList_ofList]

theorem ofNat_ne_newline {code : Nat} (large : 10 < code) : Char.ofNat code ≠ '\n' := by
  by_cases valid : code.isValidChar
  · have character : Char.ofNat code = Char.ofNatAux code valid := dif_pos valid
    intro same
    have value : code = 10 := congrArg Char.toNat (character.symm.trans same)
    omega
  · have none : Char.ofNat code = '\x00' := dif_neg valid
    rw [none]
    decide

/-- The small letters of the runs come after the control characters. -/
theorem small_ne_newline {run : CapitalRun} {c : Char} (found : capitalRun? c = some run) :
    run.small c ≠ '\n' := by
  have later : ∀ row ∈ capitalRuns, ∀ run ∈ row, 10 < run.first + run.offset := by decide +kernel
  obtain ⟨row, listed, first⟩ := List.exists_of_findSome?_eq_some found
  have after := later row listed run (List.mem_of_find?_eq_some first)
  have bound : run.first ≤ c.toNat := by
    obtain ⟨holds, -⟩ := List.find?_eq_some_iff_append.mp first
    simp only [CapitalRun.holds, Bool.and_eq_true, decide_eq_true_eq] at holds
    exact holds.1.1
  have large : 10 < Int.toNat (c.toNat + run.offset) := by omega
  exact ofNat_ne_newline large

/-- No character but the line feed becomes one. -/
theorem newline_notMem_lowerChar {c : Char} (other : c ≠ '\n') : '\n' ∉ lowerChar c := by
  rw [lowerChar]
  split
  · rw [List.mem_singleton]
    rcases toLower_eq_or_small c with same | ⟨small, -⟩
    · rw [same]
      exact other.symm
    · intro same
      rw [← same] at small
      exact absurd small (by decide)
  · split
    · decide
    · split
      · rename_i run found
        rw [List.mem_singleton]
        exact (small_ne_newline found).symm
      · rw [List.mem_singleton]
        exact other.symm

theorem newline_notMem_lowerAfter {text : List Char} (absent : '\n' ∉ text) (before : List Char) :
    '\n' ∉ lowerAfter before text := by
  induction text generalizing before with
  | nil => exact List.not_mem_nil
  | cons c text ih =>
    rw [List.mem_cons, not_or] at absent
    have first : '\n' ∉ lowerChar c := newline_notMem_lowerChar (Ne.symm absent.1)
    rw [lowerAfter, List.mem_append, not_or]
    refine ⟨?_, ih absent.2 _⟩
    split
    · split <;> decide
    · exact first

/-- What is on one line is found in a text exactly if it is found on one of its lines. -/
theorem containsIgnoringCase_eq_any_lines (oneLine : '\n' ∉ pattern.toList) (text : String) :
    containsIgnoringCase text pattern = (lines text).any (containsIgnoringCase · pattern) := by
  have absent : '\n' ∉ (lowercase pattern).toList := by
    rw [lowercase, String.toList_ofList]
    exact newline_notMem_lowerAfter oneLine []
  have lowered : lowercase text = glue '\n' ((lines text).map lowercase) := by
    rw [← lowercase_glue, lines, glue_pieces]
  have some : (lines text).map lowercase ≠ [] := by
    rw [ne_eq, List.map_eq_nil_iff]
    exact pieces_ne_nil text
  rw [containsIgnoringCase, lowered, contains_glue some absent, List.any_map]
  rfl

end StoryShell.Text
