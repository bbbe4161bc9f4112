/-
# What becomes of the characters of a line

A line may be cut at every blank character that stands outside quotes and behind no
backslash: the words on both sides are those of the two parts read apart, whatever
comes after the cut. Nothing else is lost on the way from a line to its words. The
quotes and backslashes that direct the reading and the blank characters that separate
words are dropped, one by one; every other character comes out once and in order.
-/

import StoryShell.Proofs.Words

namespace StoryShell.Words

/-- After a line no quote is open and no backslash waits for a character. -/
def IsClosed (line : String) : Prop :=
  Reading.after {} line.toList = {}

namespace Reading

/-- Whether a character read here is in no word. A character that a backslash takes always is in
one; otherwise quotes and backslashes are not, nor are blank characters outside quotes. -/
def drops (reading : Reading) (c : Char) : Bool :=
  !reading.escaped && (c = '"' || c = '\\' || !reading.quoted && Text.isBlank c)

/-- The characters of a line that are in words, each judged by the reading of what stands before
it. -/
def kept (start : Reading) (line : List Char) : List Char :=
  ((line.zip (line.scanl next start)).filter fun read => !read.2.drops read.1).map Prod.fst

theorem kept_nil (start : Reading) : start.kept [] = [] :=
  rfl

theorem kept_cons (start : Reading) (c : Char) (line : List Char) :
    start.kept (c :: line) =
      if start.drops c then (start.next c).kept line else c :: (start.next c).kept line := by
  rw [kept, List.scanl_cons, List.zip_cons_cons, List.filter_cons]
  by_cases drop : start.drops c = true
  · rw [drop]
    rfl
  · rw [Bool.not_eq_true] at drop
    rw [drop]
    rfl

end Reading

variable {quoted : Bool} {word rest : List Char} {c : Char}

open Reading

theorem kept_escape :
    kept ⟨quoted, false⟩ ('\\' :: c :: rest) = c :: kept ⟨quoted, false⟩ rest := by
  rw [kept_cons, kept_cons]
  rfl

theorem kept_quote : kept ⟨quoted, false⟩ ('"' :: rest) = kept ⟨!quoted, false⟩ rest := by
  rw [kept_cons]
  rfl

/-- A character that is no mark is dropped exactly if it separates words. -/
theorem kept_of_ne (quotes : c ≠ '"') (escapes : c ≠ '\\') :
    kept ⟨quoted, false⟩ (c :: rest) =
      if Text.isBlank c && !quoted then kept ⟨quoted, false⟩ rest
      else c :: kept ⟨quoted, false⟩ rest := by
  have drop : drops ⟨quoted, false⟩ c = (Text.isBlank c && !quoted) := by
    simp [drops, quotes, escapes, Bool.and_comm]
  rw [kept_cons, drop, next_of_ne quotes escapes]

theorem flatten_finished (word : List Char) : (finished word).flatten = word := by
  rw [finished]
  split
  · rename_i empty
    rw [empty, List.flatten_nil]
  · rw [List.flatten_singleton]

/-- The words of the rest of a line hold what has been read of the word at hand and then what the
rest keeps. -/
theorem flatten_scan (quoted : Bool) (word line : List Char) :
    (scan quoted word line).flatten = word ++ kept ⟨quoted, false⟩ line := by
  fun_induction scan quoted word line with
  | case1 quoted word => rw [flatten_finished, kept_nil, List.append_nil]
  | case2 quoted word c line ih =>
    rw [ih, kept_escape, List.append_assoc, List.singleton_append]
  | case3 quoted word =>
    rw [flatten_finished, kept_cons, kept_nil]
    exact (List.append_nil word).symm
  | case4 quoted word line takes dangles ih => rw [ih, kept_quote]
  | case5 quoted word c line takes dangles quotes cuts ih =>
    rw [List.flatten_append, flatten_finished, ih, List.nil_append,
      kept_of_ne quotes (ne_backslash takes dangles), if_pos cuts]
  | case6 quoted word c line takes dangles quotes cuts ih =>
    rw [ih, kept_of_ne quotes (ne_backslash takes dangles), if_neg cuts, List.append_assoc,
      List.singleton_append]

/-- A line that is closed before a blank character has the words of what stands before it and then
those of what comes after, be that closed or not. No word is empty. All words of a line together are
the line without its unescaped quotes, its unescaped backslashes and its blank characters that are
neither escaped nor quoted. -/
theorem ofLine_keeps_all_but_marks :
    (∀ (front rest : String) (separator : Char), IsClosed front →
      Text.isBlank separator = true →
        ofLine (front ++ String.singleton separator ++ rest) = ofLine front ++ ofLine rest) ∧
      (∀ line : String, ∀ word ∈ ofLine line, word ≠ "") ∧
      ∀ line : String, ((ofLine line).map String.toList).flatten = kept {} line.toList := by
  refine ⟨?_, fun line word => ne_empty_of_mem_ofLine, ?_⟩
  · intro front rest separator closed blank
    have chars : (front ++ String.singleton separator ++ rest).toList =
        front.toList ++ separator :: rest.toList := by
      simp
    rw [ofLine, chars, scan_append_blank closed blank, List.map_append]
    rfl
  · intro line
    have words : (ofLine line).map String.toList = scan false [] line.toList := by
      simp [ofLine, Function.comp_def]
    rw [words, flatten_scan]
    rfl

/-- A line with a blank in quotes and one behind a backslash is cut only at the tab after them, and
the quote that is opened later and the last backslash do not matter. -/
theorem ofLine_keeps_all_but_marks_at_tab :
    IsClosed "a\\ b\" c\"" ∧
      ofLine "a\\ b\" c\"\td \"e \\" = ["a b c", "d", "e "] ∧
      kept {} "a\\ b\" c\"\td \"e \\".toList = "a b cde ".toList := by
  obtain ⟨cuts, -, keeps⟩ := ofLine_keeps_all_but_marks
  have closed : IsClosed "a\\ b\" c\"" := by
    rw [IsClosed]
    decide
  have read : ofLine "a\\ b\" c\"\td \"e \\" = ["a b c", "d", "e "] :=
    (cuts "a\\ b\" c\"" "d \"e \\" '\t' closed (by decide)).trans (by decide +kernel)
  refine ⟨closed, read, ?_⟩
  rw [← keeps, read]
  decide

end StoryShell.Words
