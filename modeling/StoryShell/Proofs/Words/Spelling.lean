/-
# Every spelling of a line

A word may be spelled in many ways: a character by itself where it is bare, any
character after a backslash, any stretch in quotes, and these mixed at will inside
one word. `IsSpelling` says which lines spell a list of words. Reading a line that
spells some words yields them, whichever spelling was chosen, and every list of
words that are not empty has a spelling.
-/

import StoryShell.Proofs.Words

namespace StoryShell.Words

/-- What stands between two quotes spells a text. A backslash makes the next character stand for
itself; a character that is no quote and no backslash does so anyway. -/
inductive SpellsQuoted : List Char → List Char → Prop
  | nil : SpellsQuoted [] []
  | plain {c : Char} {written text : List Char} (quotes : c ≠ '"') (escapes : c ≠ '\\')
      (later : SpellsQuoted written text) : SpellsQuoted (c :: written) (c :: text)
  | escape (c : Char) {written text : List Char}
      (later : SpellsQuoted written text) : SpellsQuoted ('\\' :: c :: written) (c :: text)

/-- Pieces in a row spell a word: bare characters, characters after a backslash, and quoted
stretches, which may be empty. -/
inductive Spells : List Char → List Char → Prop
  | nil : Spells [] []
  | bare {c : Char} {written word : List Char} (stands : isBare c = true)
      (later : Spells written word) : Spells (c :: written) (c :: word)
  | escape (c : Char) {written word : List Char}
      (later : Spells written word) : Spells ('\\' :: c :: written) (c :: word)
  | quotes {quoted text written word : List Char} (run : SpellsQuoted quoted text)
      (later : Spells written word) : Spells ('"' :: quoted ++ '"' :: written) (text ++ word)

/-- Spelled words in a row, each with the gap after it. Only the last gap may be empty. -/
inductive SpellsWords : List Char → List (List Char) → Prop
  | nil : SpellsWords [] []
  | cons {written word gap body : List Char} {words : List (List Char)}
      (spelled : Spells written word) (blank : gap.all Text.isBlank = true)
      (apart : words ≠ [] → gap ≠ []) (later : SpellsWords body words) :
      SpellsWords (written ++ gap ++ body) (word :: words)

/-- A line spells some words, in order, with blank characters between any two of them and perhaps
at both ends. -/
def IsSpelling (line : String) (words : List String) : Prop :=
  ∃ lead body, lead.all Text.isBlank = true ∧ line.toList = lead ++ body ∧
    SpellsWords body (words.map String.toList)

variable {quoted text written word read rest : List Char}

/-! ### Reading what is spelled -/

theorem scan_spellsQuoted (run : SpellsQuoted quoted text) :
    scan true read (quoted ++ rest) = scan true (read ++ text) rest := by
  induction run generalizing read with
  | nil => rw [List.nil_append, List.append_nil]
  | plain quotes escapes later ih =>
    rw [List.cons_append, scan_quoted quotes escapes, ih, List.append_assoc,
      List.singleton_append]
  | escape c later ih =>
    rw [List.cons_append, List.cons_append, scan_escape, ih, List.append_assoc,
      List.singleton_append]

/-- A spelled word is read as the word, and leaves no quote open. -/
theorem scan_spells (spelled : Spells written word) :
    scan false read (written ++ rest) = scan false (read ++ word) rest := by
  induction spelled generalizing read with
  | nil => rw [List.nil_append, List.append_nil]
  | bare stands later ih =>
    rw [List.cons_append, scan_bare stands, ih, List.append_assoc, List.singleton_append]
  | escape c later ih =>
    rw [List.cons_append, List.cons_append, scan_escape, ih, List.append_assoc,
      List.singleton_append]
  | quotes run later ih =>
    rw [List.append_assoc, List.cons_append, List.cons_append, scan_quote, Bool.not_false,
      scan_spellsQuoted run, scan_quote, Bool.not_true, ih, List.append_assoc]

theorem scan_gap {gap : List Char} (blank : gap.all Text.isBlank = true) :
    scan false [] (gap ++ rest) = scan false [] rest := by
  induction gap with
  | nil => rw [List.nil_append]
  | cons c gap ih =>
    rw [List.all_cons, Bool.and_eq_true] at blank
    rw [List.cons_append, scan_blank blank.1, ih blank.2]
    rfl

theorem scan_spellsWords {body : List Char} {words : List (List Char)}
    (spelled : SpellsWords body words) (nonempty : ∀ word ∈ words, word ≠ []) :
    scan false [] body = words := by
  induction spelled with
  | nil => rfl
  | @cons written word gap body words spelled blank apart later ih =>
    have first : finished word = [word] :=
      finished_of_ne_nil (nonempty word List.mem_cons_self)
    have others : scan false [] body = words := by
      apply ih
      intro other hother
      exact nonempty other (List.mem_cons_of_mem _ hother)
    rw [List.append_assoc, scan_spells spelled, List.nil_append]
    cases gap with
    | nil =>
      -- Without a gap this was the last word, and the line ends here.
      have last : words = [] := Decidable.byContradiction fun more => apart more rfl
      subst last
      cases later
      rw [List.nil_append, scan_nil, first]
    | cons c gap =>
      rw [List.all_cons, Bool.and_eq_true] at blank
      rw [List.cons_append, scan_blank blank.1, scan_gap blank.2, first, others,
        List.singleton_append]

/-! ### Every list of words has a spelling -/

theorem spellsQuoted_escaped (text : List Char) : SpellsQuoted (text.flatMap escaped) text := by
  induction text with
  | nil => exact .nil
  | cons c text ih =>
    rw [List.flatMap_cons, escaped]
    split
    · exact .escape c ih
    · rename_i special
      obtain ⟨quotes, escapes⟩ := not_or.mp special
      exact .plain quotes escapes ih

theorem spells_inQuotes (word : String) : Spells (inQuotes word).toList word.toList := by
  have pieces := Spells.quotes (spellsQuoted_escaped word.toList) .nil
  rw [List.append_nil] at pieces
  rw [inQuotes, String.toList_ofList]
  exact pieces

theorem exists_isSpelling (words : List String) : ∃ line, IsSpelling line words := by
  have written : ∃ body, SpellsWords body (words.map String.toList) := by
    induction words with
    | nil => exact ⟨[], .nil⟩
    | cons word words ih =>
      obtain ⟨body, later⟩ := ih
      exact ⟨_, .cons (spells_inQuotes word) (show [' '].all Text.isBlank = true by decide)
        (fun _ => List.cons_ne_nil _ _) later⟩
  obtain ⟨body, spelled⟩ := written
  exact ⟨String.ofList body, [], body, rfl, String.toList_ofList, spelled⟩

/-- Words that are not empty can be spelled on a line, and every line that spells them is read as
exactly these words. -/
theorem ofLine_of_isSpelling (words : List String) (nonempty : ∀ word ∈ words, word ≠ "") :
    (∃ line, IsSpelling line words) ∧ ∀ line, IsSpelling line words → ofLine line = words := by
  refine ⟨exists_isSpelling words, ?_⟩
  rintro line ⟨lead, body, blank, cut, spelled⟩
  have full : ∀ chars ∈ words.map String.toList, chars ≠ [] := by
    intro chars hchars
    obtain ⟨word, hword, rfl⟩ := List.mem_map.mp hchars
    exact fun empty => nonempty word hword (String.toList_eq_nil_iff.mp empty)
  calc ofLine line
    _ = (scan false [] (lead ++ body)).map String.ofList := by rw [ofLine, cut]
    _ = (words.map String.toList).map String.ofList := by
      rw [scan_gap blank, scan_spellsWords spelled full]
    _ = words := by simp

/-- A line with all pieces in one word: bare characters, a quoted stretch with a quote in it, an
empty one, a blank and a line feed after backslashes. -/
def mixedSpelling : String :=
  " a\"b \\\"c\"\"\"\\ d\\\n\t\u2003\"\"\\\\ "

theorem ofLine_mixedSpelling :
    (∀ word ∈ ["ab \"c d\n", "\\"], word ≠ "") ∧
      IsSpelling mixedSpelling ["ab \"c d\n", "\\"] ∧
      ofLine mixedSpelling = ["ab \"c d\n", "\\"] := by
  have nonempty : ∀ word ∈ ["ab \"c d\n", "\\"], word ≠ "" := by decide
  have quoted : SpellsQuoted ['b', ' ', '\\', '"', 'c'] ['b', ' ', '"', 'c'] :=
    .plain (by decide) (by decide) (.plain (by decide) (by decide)
      (.escape '"' (.plain (by decide) (by decide) .nil)))
  have first : Spells
      ['a', '"', 'b', ' ', '\\', '"', 'c', '"', '"', '"', '\\', ' ', 'd', '\\', '\n']
      ['a', 'b', ' ', '"', 'c', ' ', 'd', '\n'] :=
    .bare (by decide) (.quotes quoted (.quotes .nil
      (.escape ' ' (.bare (by decide) (.escape '\n' .nil)))))
  have second : Spells ['"', '"', '\\', '\\'] ['\\'] := .quotes .nil (.escape '\\' .nil)
  have words : SpellsWords _ [_, _] :=
    .cons first (show ['\t', '\u2003'].all Text.isBlank = true by decide) (by simp)
      (.cons second (show [' '].all Text.isBlank = true by decide) (by simp) .nil)
  have spelling : IsSpelling mixedSpelling ["ab \"c d\n", "\\"] :=
    ⟨[' '], _, by decide, by decide, words⟩
  exact ⟨nonempty, spelling, (ofLine_of_isSpelling _ nonempty).2 _ spelling⟩

end StoryShell.Words
