/-
# Blank characters

A character is blank when it has the Unicode property `White_Space`. The class
decides where a line is cut into words, what is trimmed from the plain answers
of a dialog, and which user names a configuration may hold.
-/

import StoryShell.Text.CodeRange

namespace StoryShell.Text

/-- The code points with the property `White_Space`. -/
def blankRanges : List CodeRange :=
  [(0x09, 0x0D), (0x20, 0x20), (0x85, 0x85), (0xA0, 0xA0), (0x1680, 0x1680), (0x2000, 0x200A),
   (0x2028, 0x2029), (0x202F, 0x202F), (0x205F, 0x205F), (0x3000, 0x3000)]

/-- Whether a character is blank. -/
def isBlank (c : Char) : Bool :=
  blankRanges.any (CodeRange.holds · c)

/-- A text without the blank characters at its start. -/
def trimStart (s : List Char) : List Char :=
  s.dropWhile isBlank

/-- A text without the blank characters at either end. -/
def trimChars (s : List Char) : List Char :=
  (trimStart (trimStart s).reverse).reverse

/-- A text without the blank characters at either end. -/
def trim (s : String) : String :=
  String.ofList (trimChars s.toList)

/-- Whether a text holds nothing but blank characters. -/
def allBlank (s : String) : Bool :=
  s.toList.all isBlank

end StoryShell.Text
