/-
# Cutting undoes gluing

A text cut at a separator and glued together again is the text, and pieces that
do not hold the separator, glued together and cut again, are the pieces. So a
text and its pieces say the same, and what is known of one list of pieces carries
over to the text that is printed for it. In particular, a part without the separator
occurs in a text exactly if it occurs in a piece of it.
-/

import StoryShell.Text.Pieces

namespace StoryShell.Text

variable {separator : Char}

@[simp]
theorem toList_glue (parts : List String) :
    (glue separator parts).toList = [separator].intercalate (parts.map String.toList) := by
  rw [glue, String.toList_ofList]

theorem toList_glue_cons_cons (first second : String) (rest : List String) :
    (glue separator (first :: second :: rest)).toList =
      first.toList ++ separator :: (glue separator (second :: rest)).toList := by
  simp [List.intercalate_cons_cons]

/-- No part of a cut list holds what the list was cut at. -/
theorem not_mem_of_mem_splitOn {text part : List Char} (h : part ∈ text.splitOn separator) :
    separator ∉ part := by
  induction text generalizing part with
  | nil =>
    rw [List.splitOn_eq_splitOnP, List.splitOnP_nil, List.mem_singleton] at h
    rw [h]
    exact List.not_mem_nil
  | cons c rest ih =>
    rw [List.splitOn_cons_eq_if_modifyHead] at h
    by_cases cut : (c == separator) = true
    · rw [if_pos cut, List.mem_cons] at h
      rcases h with rfl | h
      · exact List.not_mem_nil
      · exact ih h
    · rw [if_neg cut] at h
      cases parts : rest.splitOn separator with
      | nil => exact absurd parts (List.splitOn_ne_nil separator rest)
      | cons first others =>
        rw [parts, List.modifyHead_cons, List.mem_cons] at h
        rw [parts] at ih
        rcases h with rfl | h
        · have absent : separator ∉ first := ih List.mem_cons_self
          rw [List.mem_cons, not_or]
          exact ⟨fun same => cut (by simp [same]), absent⟩
        · exact ih (List.mem_cons_of_mem _ h)

theorem not_mem_of_mem_pieces {s piece : String} (h : piece ∈ pieces separator s) :
    separator ∉ piece.toList := by
  obtain ⟨chars, hchars, rfl⟩ := List.mem_map.mp h
  rw [String.toList_ofList]
  exact not_mem_of_mem_splitOn hchars

/-- Gluing the pieces of a text yields the text. -/
theorem glue_pieces (s : String) : glue separator (pieces separator s) = s := by
  have cut : (pieces separator s).map String.toList = s.toList.splitOn separator := by
    simp [pieces, Function.comp_def]
  rw [glue, cut, List.intercalate_splitOn, String.ofList_toList]

/-- Cutting what was glued yields the parts, if none of them holds the separator. -/
theorem pieces_glue {parts : List String} (nonempty : parts ≠ [])
    (apart : ∀ part ∈ parts, separator ∉ part.toList) :
    pieces separator (glue separator parts) = parts := by
  have chars : ∀ part ∈ parts.map String.toList, separator ∉ part := by
    intro part hpart
    obtain ⟨text, htext, rfl⟩ := List.mem_map.mp hpart
    exact apart text htext
  have cut := List.splitOn_intercalate separator chars (by simpa using nonempty)
  rw [pieces, toList_glue, cut, List.map_map]
  simp [Function.comp_def]

theorem pieces_ne_nil (s : String) : pieces separator s ≠ [] := by
  rw [pieces, ne_eq, List.map_eq_nil_iff]
  exact List.splitOn_ne_nil separator s.toList

/-- There is one more piece than there are separators. -/
theorem length_pieces (s : String) :
    (pieces separator s).length = s.toList.count separator + 1 := by
  have counts : ∀ text : List Char,
      (text.splitOn separator).length = text.count separator + 1 := by
    intro text
    induction text with
    | nil => rfl
    | cons c rest ih =>
      rw [List.splitOn_cons_eq_if_modifyHead, List.count_cons]
      by_cases cut : (c == separator) = true
      · rw [if_pos cut, if_pos cut, List.length_cons, ih]
      · rw [if_neg cut, if_neg cut, List.length_modifyHead, ih]
  rw [pieces, List.length_map, counts]

/-- A separator between two texts cuts between their pieces. -/
theorem pieces_append_separator (before after : String) :
    pieces separator (before ++ String.singleton separator ++ after) =
      pieces separator before ++ pieces separator after := by
  have chars : (before ++ String.singleton separator ++ after).toList =
      before.toList ++ separator :: after.toList := by
    simp
  rw [pieces, chars, List.splitOn_append_cons_self, List.map_append]
  rfl

theorem glue_singleton (part : String) : glue separator [part] = part := by
  simp [glue]

theorem glue_append {front back : List String} (hfront : front ≠ []) (hback : back ≠ []) :
    glue separator (front ++ back) =
      glue separator front ++ String.singleton separator ++ glue separator back := by
  apply String.toList_injective
  induction front with
  | nil => exact absurd rfl hfront
  | cons part rest ih =>
    cases rest with
    | nil =>
      cases back with
      | nil => exact absurd rfl hback
      | cons next more => simp [List.intercalate_cons_cons]
    | cons next more =>
      have later := ih (by simp)
      simp only [toList_glue, String.toList_append, List.cons_append, List.map_cons,
        List.intercalate_cons_cons, List.append_assoc] at later ⊢
      rw [later]

theorem fullPieces_glue {parts : List String} (nonempty : parts ≠ [])
    (apart : ∀ part ∈ parts, separator ∉ part.toList) (full : ∀ part ∈ parts, part ≠ "") :
    fullPieces separator (glue separator parts) = parts := by
  rw [fullPieces, pieces_glue nonempty apart, List.filter_eq_self]
  intro part hpart
  exact decide_eq_true (full part hpart)

/-- A text that ends in something without the character keeps its end. -/
theorem trimEnd_append {c : Char} {last : String} (full : last ≠ "") (absent : c ∉ last.toList)
    (before : String) : trimEnd c (before ++ last) = before ++ last := by
  have kept : (before ++ last).toList.reverse.dropWhile (· == c) =
      (before ++ last).toList.reverse := by
    cases backward : last.toList.reverse with
    | nil => exact absurd (String.toList_eq_nil_iff.mp (List.reverse_eq_nil_iff.mp backward)) full
    | cons final more =>
      have member : final ∈ last.toList := by
        rw [← List.mem_reverse, backward]
        exact List.mem_cons_self
      have different : (final == c) = false := beq_false_of_ne fun same => absent (same ▸ member)
      rw [String.toList_append, List.reverse_append, backward, List.cons_append,
        List.dropWhile_cons, different]
      rfl
  rw [trimEnd, kept, List.reverse_reverse, String.ofList_toList]

/-- A text starts with another exactly when the other is followed by something in it. -/
theorem startsWith_iff {s start : String} :
    startsWith s start = true ↔ ∃ rest, s = start ++ rest := by
  rw [startsWith, List.isPrefixOf_iff_prefix]
  constructor
  · rintro ⟨rest, h⟩
    refine ⟨String.ofList rest, String.toList_injective ?_⟩
    rw [String.toList_append, String.toList_ofList, h]
  · rintro ⟨rest, rfl⟩
    exact ⟨rest.toList, (String.toList_append ..).symm⟩

theorem startsWith_self (name : String) : startsWith name name = true :=
  startsWith_iff.mpr ⟨"", String.append_empty.symm⟩

theorem startsWith_trans {start longer longest : String} (second : startsWith longest longer = true)
    (first : startsWith longer start = true) : startsWith longest start = true := by
  obtain ⟨more, rfl⟩ := startsWith_iff.mp first
  obtain ⟨rest, rfl⟩ := startsWith_iff.mp second
  exact startsWith_iff.mpr ⟨more ++ rest, String.append_assoc ..⟩

/-! ### Looking inside the pieces -/

section Occurrences

variable {part front rest : List Char}

/-- What starts a text does not reach over a separator that it does not hold. -/
theorem isPrefixOf_append_cons (absent : separator ∉ part) :
    part.isPrefixOf (front ++ separator :: rest) = part.isPrefixOf front := by
  induction part generalizing front with
  | nil => rfl
  | cons c part ih =>
    rw [List.mem_cons, not_or] at absent
    cases front with
    | nil =>
      rw [List.nil_append, List.isPrefixOf_cons_cons, beq_false_of_ne (Ne.symm absent.1),
        Bool.false_and]
      rfl
    | cons d front =>
      rw [List.cons_append, List.isPrefixOf_cons_cons, List.isPrefixOf_cons_cons, ih absent.2]

/-- Nor does what occurs in it: it stands before the separator or after it. -/
theorem occursIn_append_cons (absent : separator ∉ part) :
    occursIn part (front ++ separator :: rest) = (occursIn part front || occursIn part rest) := by
  induction front with
  | nil =>
    have starts : part.isPrefixOf (separator :: rest) = part.isEmpty := by
      rw [← List.nil_append (separator :: rest), isPrefixOf_append_cons absent]
      cases part <;> rfl
    rw [List.nil_append, occursIn, occursIn, starts]
  | cons c front ih =>
    rw [List.cons_append, occursIn, occursIn, ih, ← List.cons_append,
      isPrefixOf_append_cons absent, Bool.or_assoc]

end Occurrences

theorem contains_glue {parts : List String} {part : String} (nonempty : parts ≠ [])
    (absent : separator ∉ part.toList) :
    contains (glue separator parts) part = parts.any (contains · part) := by
  induction parts with
  | nil => exact absurd rfl nonempty
  | cons first rest ih =>
    cases rest with
    | nil => rw [glue_singleton, List.any_cons, List.any_nil, Bool.or_false]
    | cons second rest =>
      rw [contains, toList_glue_cons_cons, occursIn_append_cons absent, List.any_cons,
        ← ih (List.cons_ne_nil second rest), contains, contains]

end StoryShell.Text
