/-
# The words of a line

A command line is cut into words at blank characters. A double quote starts and
ends a stretch in which blanks do not cut; a backslash takes the next character
as it is, in a quoted stretch too. Quotes and backslashes themselves are dropped.
Cutting never fails: a quote that is not closed reaches to the end of the line,
and a backslash at the end stands for nothing. No word is empty.
-/

import StoryShell.Text.Blank

namespace StoryShell.Words

/-- A word that has been read, unless nothing was. -/
def finished (word : List Char) : List (List Char) :=
  if word = [] then [] else [word]

/-- The words of the rest of a line, given whether a quote is open and what has been read of the
word at hand. -/
def scan (quoted : Bool) (word : List Char) : List Char → List (List Char)
  | [] => finished word
  | '\\' :: c :: rest => scan quoted (word ++ [c]) rest
  | ['\\'] => finished word
  | c :: rest =>
    if c = '"' then scan (!quoted) word rest
    else if Text.isBlank c && !quoted then finished word ++ scan quoted [] rest
    else scan quoted (word ++ [c]) rest

/-- The words of a line. -/
def ofLine (line : String) : List String :=
  (scan false [] line.toList).map String.ofList

end StoryShell.Words
