/-
# Records of output lines

For other programs an output line is written as a JSON object on one line, first
its kind and then its text. Inside the strings, quotes, backslashes and controls
are escaped and every other character stands for itself.
-/

import StoryShell.Output

namespace StoryShell.Cli

/-- A digit of a hexadecimal number, in lower case. -/
def hexDigit (value : Nat) : Char :=
  Nat.digitChar (value % 16)

/-- A character as it stands inside a JSON string. -/
def jsonChar (c : Char) : List Char :=
  match c with
  | '"' => ['\\', '"']
  | '\\' => ['\\', '\\']
  | '\x08' => ['\\', 'b']
  | '\x0c' => ['\\', 'f']
  | '\n' => ['\\', 'n']
  | '\r' => ['\\', 'r']
  | '\t' => ['\\', 't']
  | _ =>
    if c.toNat < 0x20 then ['\\', 'u', '0', '0', hexDigit (c.toNat / 16), hexDigit c.toNat]
    else [c]

/-- A text as a JSON string. -/
def jsonString (text : String) : String :=
  String.ofList (['"'] ++ text.toList.flatMap jsonChar ++ ['"'])

/-- The record of an output line. -/
def record (line : OutputLine) : String :=
  "\x7b\"kind\":" ++ jsonString line.kind.label ++ ",\"text\":" ++ jsonString line.text ++ "\x7d"

end StoryShell.Cli
