/-
# Writing words down

Every word that is not empty can be written on a line: in quotes, with a
backslash before each quote and each backslash of its own. Reading such a line
yields the word again, whatever characters it has. An empty word cannot be
written, for no line has one. Outside quotes a blank character cuts the line: what
stands before it and what comes after it are read apart. On a line without quotes
and backslashes that is every blank character.
-/

import StoryShell.Words

namespace StoryShell.Words

/-! ### Reading one character -/

/-- Whether a character stands for itself outside quotes. -/
def isBare (c : Char) : Bool :=
  c ≠ '"' && c ≠ '\\' && !Text.isBlank c

variable {quoted : Bool} {word rest : List Char} {c : Char}

theorem scan_of_ne (escapes : c ≠ '\\') :
    scan quoted word (c :: rest) =
      if c = '"' then scan (!quoted) word rest
      else if Text.isBlank c && !quoted then finished word ++ scan quoted [] rest
      else scan quoted (word ++ [c]) rest := by
  rw [scan]
  · intro next others same
    exact absurd same escapes
  · intro same
    exact absurd same escapes

theorem scan_escape : scan quoted word ('\\' :: c :: rest) = scan quoted (word ++ [c]) rest := by
  rw [scan]

theorem scan_quote : scan quoted word ('"' :: rest) = scan (!quoted) word rest := by
  rw [scan_of_ne (by decide), if_pos rfl]

/-- Outside quotes a blank character ends the word at hand. -/
theorem scan_blank (blank : Text.isBlank c = true) :
    scan false word (c :: rest) = finished word ++ scan false [] rest := by
  have escapes : c ≠ '\\' := by
    rintro rfl
    exact absurd blank (by decide)
  have quotes : c ≠ '"' := by
    rintro rfl
    exact absurd blank (by decide)
  rw [scan_of_ne escapes, if_neg quotes, blank]
  rfl

/-- Inside quotes every character but a quote and a backslash stands for itself. -/
theorem scan_quoted (quotes : c ≠ '"') (escapes : c ≠ '\\') :
    scan true word (c :: rest) = scan true (word ++ [c]) rest := by
  rw [scan_of_ne escapes, if_neg quotes, Bool.not_true, Bool.and_false]
  rfl

theorem scan_bare (bare : isBare c = true) :
    scan false word (c :: rest) = scan false (word ++ [c]) rest := by
  simp only [isBare, Bool.and_eq_true, decide_eq_true_eq, Bool.not_eq_true'] at bare
  obtain ⟨⟨quotes, escapes⟩, blank⟩ := bare
  rw [scan_of_ne escapes, if_neg quotes, blank]
  rfl

theorem scan_nil : scan quoted word [] = finished word := by
  rw [scan]

theorem finished_of_ne_nil (h : word ≠ []) : finished word = [word] :=
  if_neg h

/-! ### Reading a word -/

theorem scan_bare_run {run : List Char} (bare : run.all isBare = true) :
    scan false word (run ++ rest) = scan false (word ++ run) rest := by
  induction run generalizing word with
  | nil => rw [List.nil_append, List.append_nil]
  | cons c run ih =>
    rw [List.all_cons, Bool.and_eq_true] at bare
    rw [List.cons_append, scan_bare bare.1, ih bare.2, List.append_assoc, List.singleton_append]

/-- Whether a character is neither a quote nor a backslash. -/
def isPlain (c : Char) : Bool :=
  c ≠ '"' && c ≠ '\\'

theorem isBare_iff : isBare c = true ↔ isPlain c = true ∧ Text.isBlank c = false := by
  rw [isBare, ← Bool.not_eq_true', ← Bool.and_eq_true]
  rfl

theorem all_isBare {run : List Char} (plain : run.all isPlain = true)
    (clean : ∀ c ∈ run, Text.isBlank c = false) : run.all isBare = true := by
  rw [List.all_eq_true] at plain ⊢
  intro c member
  exact isBare_iff.mpr ⟨plain c member, clean c member⟩

/-! ### Cutting a line -/

/-- What is known between two characters of a line: whether a quote is open, and whether a backslash
has been read and the character it takes has not. -/
structure Reading where
  quoted : Bool := false
  escaped : Bool := false
  deriving DecidableEq

namespace Reading

/-- After one more character. -/
def next (reading : Reading) (c : Char) : Reading :=
  if reading.escaped then { reading with escaped := false }
  else if c = '\\' then { reading with escaped := true }
  else if c = '"' then { reading with quoted := !reading.quoted }
  else reading

/-- After some more characters, from left to right. -/
def after (reading : Reading) (line : List Char) : Reading :=
  line.foldl next reading

theorem after_cons (reading : Reading) (c : Char) (line : List Char) :
    reading.after (c :: line) = (reading.next c).after line :=
  List.foldl_cons ..

theorem next_of_ne (quotes : c ≠ '"') (escapes : c ≠ '\\') :
    next ⟨quoted, false⟩ c = ⟨quoted, false⟩ := by
  rw [next, if_neg Bool.false_ne_true, if_neg escapes, if_neg quotes]

theorem after_of_isPlain {line : List Char} (plain : line.all isPlain = true) :
    after {} line = {} := by
  induction line with
  | nil => rfl
  | cons c line ih =>
    rw [List.all_cons, Bool.and_eq_true] at plain
    obtain ⟨marks, later⟩ := plain
    simp only [isPlain, Bool.and_eq_true, decide_eq_true_eq] at marks
    rw [after_cons, next_of_ne marks.1 marks.2, ih later]

end Reading

/-- A character that neither takes the next one nor ends the line as a backslash is no backslash. -/
theorem ne_backslash (takes : ∀ next others, c = '\\' → rest = next :: others → False)
    (dangles : c = '\\' → rest = [] → False) : c ≠ '\\' := by
  intro same
  cases rest with
  | nil => exact dangles same rfl
  | cons next others => exact takes next others same rfl

/-- Where no quote is open and no backslash waits, a blank character cuts the line in two. -/
theorem scan_append_blank {front : List Char} {separator : Char}
    (closed : Reading.after ⟨quoted, false⟩ front = {}) (blank : Text.isBlank separator = true) :
    scan quoted word (front ++ separator :: rest) =
      scan quoted word front ++ scan false [] rest := by
  fun_induction scan quoted word front with
  | case1 quoted word =>
    obtain rfl : quoted = false := congrArg Reading.quoted closed
    exact scan_blank blank
  | case2 quoted word c front ih =>
    rw [List.cons_append, List.cons_append, scan_escape]
    exact ih closed
  | case3 quoted word =>
    -- The backslash would take the blank character.
    exact absurd (congrArg Reading.escaped closed) (by simp [Reading.after, Reading.next])
  | case4 quoted word front takes dangles ih =>
    rw [List.cons_append, scan_quote]
    exact ih closed
  | case5 quoted word c front takes dangles quotes cuts ih =>
    have escapes := ne_backslash takes dangles
    rw [Reading.after_cons, Reading.next_of_ne quotes escapes] at closed
    rw [List.cons_append, scan_of_ne escapes, if_neg quotes, if_pos cuts, ih closed,
      List.append_assoc]
  | case6 quoted word c front takes dangles quotes cuts ih =>
    have escapes := ne_backslash takes dangles
    rw [Reading.after_cons, Reading.next_of_ne quotes escapes] at closed
    rw [List.cons_append, scan_of_ne escapes, if_neg quotes, if_neg cuts, ih closed]

/-- Where nothing is quoted, a word is read if something but blank characters is there. -/
theorem scan_ne_nil {line : List Char} (plain : line.all isPlain = true)
    (full : word ≠ [] ∨ line.all Text.isBlank = false) : scan false word line ≠ [] := by
  induction line generalizing word with
  | nil =>
    rcases full with full | full
    · rw [scan_nil, finished_of_ne_nil full]
      exact List.cons_ne_nil word []
    · cases full
  | cons first line ih =>
    rw [List.all_cons, Bool.and_eq_true] at plain
    cases cuts : Text.isBlank first with
    | true =>
      rw [List.all_cons, cuts, Bool.true_and] at full
      rw [scan_blank cuts]
      rcases full with full | full
      · rw [finished_of_ne_nil full]
        exact List.cons_ne_nil word _
      · exact List.append_ne_nil_of_right_ne_nil _ (ih plain.2 (.inr full))
    | false =>
      rw [scan_bare (isBare_iff.mpr ⟨plain.1, cuts⟩)]
      apply ih plain.2
      exact .inl (List.append_ne_nil_of_right_ne_nil word (List.cons_ne_nil first []))

theorem ofLine_ne_nil {line : List Char} (plain : line.all isPlain = true)
    (full : line.all Text.isBlank = false) : ofLine (String.ofList line) ≠ [] := by
  rw [ofLine, String.toList_ofList, ne_eq, List.map_eq_nil_iff]
  exact scan_ne_nil plain (.inr full)

/-- What stands before a blank character and what comes after it are read apart. -/
theorem ofLine_append_of_blank {front line : List Char} (plain : front.all isPlain = true)
    (blank : Text.isBlank c = true) :
    ofLine (String.ofList (front ++ c :: line)) =
      ofLine (String.ofList front) ++ ofLine (String.ofList line) := by
  simp only [ofLine, String.toList_ofList,
    scan_append_blank (Reading.after_of_isPlain plain) blank, List.map_append]

theorem ofLine_of_bare {run : List Char} (bare : run.all isBare = true) :
    ofLine (String.ofList run) = if run = [] then [] else [String.ofList run] := by
  have read : scan false [] run = finished run := by
    rw [← List.append_nil run, scan_bare_run bare, scan_nil, List.nil_append, List.append_nil]
  rw [ofLine, String.toList_ofList, read, finished]
  split <;> rfl

/-- A character as it is written inside quotes. -/
def escaped (c : Char) : List Char :=
  if c = '"' ∨ c = '\\' then ['\\', c] else [c]

/-- A word as it is written in quotes. -/
def inQuotes (word : String) : String :=
  String.ofList ('"' :: (word.toList.flatMap escaped ++ ['"']))

theorem scan_escaped : scan true word (escaped c ++ rest) = scan true (word ++ [c]) rest := by
  by_cases special : c = '"' ∨ c = '\\'
  · rw [escaped, if_pos special]
    exact scan_escape
  · rw [escaped, if_neg special]
    obtain ⟨quotes, escapes⟩ := not_or.mp special
    exact scan_quoted quotes escapes

theorem scan_escaped_run (run : List Char) :
    scan true word (run.flatMap escaped ++ rest) = scan true (word ++ run) rest := by
  induction run generalizing word with
  | nil => rw [List.flatMap_nil, List.nil_append, List.append_nil]
  | cons c run ih =>
    rw [List.flatMap_cons, List.append_assoc, scan_escaped, ih, List.append_assoc,
      List.singleton_append]

/-- What is written in quotes belongs to the word at hand, quotes apart. -/
theorem scan_inQuotes (run : String) :
    scan false word ((inQuotes run).toList ++ rest) = scan false (word ++ run.toList) rest := by
  rw [inQuotes, String.toList_ofList, List.cons_append, scan_quote, List.append_assoc,
    Bool.not_false, scan_escaped_run, List.singleton_append, scan_quote, Bool.not_true]

/-- A bare name and a word in quotes are read as the name and the word. -/
theorem ofLine_inQuotes {name argument : String} (bare : name.toList.all isBare = true)
    (named : name ≠ "") (given : argument ≠ "") :
    ofLine (name ++ " " ++ inQuotes argument) = [name, argument] := by
  have first : name.toList ≠ [] := fun empty => named (String.toList_eq_nil_iff.mp empty)
  have second : argument.toList ≠ [] := fun empty => given (String.toList_eq_nil_iff.mp empty)
  have cut : scan false [] (name ++ " " ++ inQuotes argument).toList =
      [name.toList, argument.toList] := by
    calc scan false [] (name ++ " " ++ inQuotes argument).toList
      _ = scan false [] (name.toList ++ ' ' :: ((inQuotes argument).toList ++ [])) := by
        simp [String.toList_append]
      _ = finished name.toList ++ scan false [] ((inQuotes argument).toList ++ []) := by
        rw [scan_bare_run bare, List.nil_append, scan_blank (by decide)]
      _ = finished name.toList ++ finished argument.toList := by
        rw [scan_inQuotes, List.nil_append, scan_nil]
      _ = [name.toList, argument.toList] := by
        rw [finished_of_ne_nil first, finished_of_ne_nil second, List.singleton_append]
  rw [ofLine, cut]
  simp

/-! ### No word is empty -/

theorem ne_nil_of_mem_finished {found : List Char} (h : found ∈ finished word) : found ≠ [] := by
  rw [finished] at h
  split at h
  · cases h
  · rename_i nonempty
    rwa [List.mem_singleton.mp h]

theorem ne_nil_of_mem_scan {line found : List Char} (h : found ∈ scan quoted word line) :
    found ≠ [] := by
  fun_induction scan quoted word line with
  | case1 quoted word | case3 quoted word => exact ne_nil_of_mem_finished h
  | case2 quoted word c rest ih => exact ih h
  | case4 quoted word rest _ _ ih => exact ih h
  | case5 quoted word c rest _ _ quotes cuts ih =>
    rcases List.mem_append.mp h with read | later
    · exact ne_nil_of_mem_finished read
    · exact ih later
  | case6 quoted word c rest _ _ quotes cuts ih => exact ih h

theorem ne_empty_of_mem_ofLine {line found : String} (h : found ∈ ofLine line) : found ≠ "" := by
  obtain ⟨chars, read, rfl⟩ := List.mem_map.mp h
  have nonempty := ne_nil_of_mem_scan read
  rwa [ne_eq, String.ofList_eq_empty_iff]

end StoryShell.Words
