/-
# Quoted text

A text is quoted for a reader who has to see exactly what it holds: between
double quotes, with the quote, the backslash and every character that would not
show itself written as an escape. Control characters that have a short escape
use it; every other one gives its code point in hexadecimal.
-/

import StoryShell.Text.Quoted.Table

namespace StoryShell.Text

/-- Whether a character shows itself when it is printed alone. -/
def isVisible (c : Char) : Bool :=
  !inTable attachingRanges c && !inTable ignorableRanges c && !inTable unprintableRanges c

/-- A number in lower-case hexadecimal digits. -/
def hexDigits (n : Nat) : List Char :=
  Nat.toDigits 16 n

/-- A character as it stands inside a quoted text. -/
def quotedChar (c : Char) : List Char :=
  match c with
  | '\x00' => ['\\', '0']
  | '\t' => ['\\', 't']
  | '\n' => ['\\', 'n']
  | '\r' => ['\\', 'r']
  | '"' => ['\\', '"']
  | '\\' => ['\\', '\\']
  | _ =>
    if isVisible c then [c]
    else ['\\', 'u', '\x7b'] ++ hexDigits c.toNat ++ ['\x7d']

/-- A text between double quotes, with escapes for what would not show itself. -/
def quoted (s : String) : String :=
  String.ofList (['"'] ++ s.toList.flatMap quotedChar ++ ['"'])

end StoryShell.Text
