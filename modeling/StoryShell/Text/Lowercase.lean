/-
# Lower case

Searches compare texts in lower case, over the whole of Unicode. Every character
is mapped by itself, with two exceptions that the standard makes: a capital I
with a dot becomes an `i` and a combining dot, and a capital sigma takes its
final form at the end of a word. The end of a word is read off the nearest
characters on both sides that are not case-ignorable.
-/

import StoryShell.Text.Lowercase.Table
import StoryShell.Text.Pieces

namespace StoryShell.Text

/-- Whether a character is one of the capital letters of a run. -/
def CapitalRun.holds (run : CapitalRun) (c : Char) : Bool :=
  run.first ≤ c.toNat && c.toNat ≤ run.last && (c.toNat - run.first) % run.stride == 0

/-- The small letter of a character of a run. -/
def CapitalRun.small (run : CapitalRun) (c : Char) : Char :=
  Char.ofNat (Int.toNat (c.toNat + run.offset))

/-- The run that a capital letter belongs to. -/
def capitalRun? (c : Char) : Option CapitalRun :=
  capitalRuns.findSome? fun row => row.find? (CapitalRun.holds · c)

/-- A character in lower case, away from its neighbours. -/
def lowerChar (c : Char) : List Char :=
  if c.toNat < 0x80 then [c.toLower]
  else if c = '\u0130' then ['i', '\u0307']
  else match capitalRun? c with
    | some run => [run.small c]
    | none => [c]

/-- Whether a character is a letter with case. -/
def isCased (c : Char) : Bool :=
  inTable casedRanges c

/-- Whether a character is passed over when the end of a word is looked for. -/
def isCaseIgnorable (c : Char) : Bool :=
  inTable caseIgnorableRanges c

/-- Whether a letter with case comes first, case-ignorable characters passed over. -/
def meetsCased : List Char → Bool
  | [] => false
  | c :: rest => if isCaseIgnorable c then meetsCased rest else isCased c

/-- The rest of a text in lower case, given the characters before it, nearest first. -/
def lowerAfter (before : List Char) : List Char → List Char
  | [] => []
  | c :: rest =>
    let small :=
      if c = 'Σ' then if meetsCased before && !meetsCased rest then ['ς'] else ['σ']
      else lowerChar c
    small ++ lowerAfter (c :: before) rest

/-- A text in lower case. -/
def lowercase (s : String) : String :=
  String.ofList (lowerAfter [] s.toList)

/-- Whether `part` occurs inside `s` when both are written in lower case. -/
def containsIgnoringCase (s part : String) : Bool :=
  contains (lowercase s) (lowercase part)

end StoryShell.Text
