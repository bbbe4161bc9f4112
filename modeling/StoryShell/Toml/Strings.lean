/-
# Strings of a settings file

TOML writes a string in four ways: between double quotes, where a backslash
starts an escape, or between apostrophes, where nothing does; and either on one
line, or between triple marks over several. Each reader is handed the text after
the opening mark and yields the string and the text after the closing mark.
-/

import StoryShell.Toml.Chars

namespace StoryShell.Toml

/-- The character whose code point some hexadecimal digits give. Surrogates are no characters. -/
def codePoint? (digits : List Char) : Option Char := do
  let values ← digits.mapM (digitValue? 16)
  let code := values.foldl (fun total value => total * 16 + value) 0
  if code.isValidChar then some (Char.ofNat code) else none

/-- The character that a one-letter escape stands for. -/
def shortEscape? : Char → Option Char
  | 'b' => some '\x08'
  | 't' => some '\t'
  | 'n' => some '\n'
  | 'f' => some '\x0c'
  | 'r' => some '\r'
  | '"' => some '"'
  | '\\' => some '\\'
  | _ => none

/-- An escape, after its backslash. -/
def escape : Reader Char
  | 'u' :: a :: b :: c :: d :: rest =>
    (codePoint? [a, b, c, d]).map (·, rest)
  | 'U' :: a :: b :: c :: d :: e :: f :: g :: h :: rest =>
    (codePoint? [a, b, c, d, e, f, g, h]).map (·, rest)
  | c :: rest => (shortEscape? c).map (·, rest)
  | [] => none

/-- Put a character in front of what a reader found. -/
def push (c : Char) (found : Option (List Char × List Char)) : Option (List Char × List Char) :=
  found.map fun (text, rest) => (c :: text, rest)

/-- A string on one line, up to its double quote. -/
def basicBody : Nat → Reader (List Char)
  | 0, _ => none
  | _ + 1, [] => none
  | fuel + 1, c :: rest =>
    if c == '"' then some ([], rest)
    else if c == '\\' then do
      let (escaped, rest) ← escape rest
      push escaped (basicBody fuel rest)
    else if isPlain c then push c (basicBody fuel rest)
    else none

/-- A string on one line, up to its apostrophe. -/
def literalBody : Reader (List Char)
  | [] => none
  | c :: rest =>
    if c == '\x27' then some ([], rest)
    else if isPlain c then push c (literalBody rest)
    else none

/-- The end of a string over several lines, at a run of its mark: three of them close it, and up
to two more before those belong to it. -/
def closing? (mark : Char) (text : List Char) : Option (List Char × List Char) :=
  let run := (text.takeWhile (· == mark)).length
  if 3 ≤ run then
    let inner := min (run - 3) 2
    some (List.replicate inner mark, text.drop (inner + 3))
  else none

/-- Whether nothing but spaces stands before the next line end. -/
def endsLine (text : List Char) : Bool :=
  (lineEnd? (text.dropWhile isSpace)).isSome

/-- The text after its leading spaces and line ends. -/
def skipSpaceLines : List Char → List Char
  | [] => []
  | '\r' :: '\n' :: rest => skipSpaceLines rest
  | c :: rest => if c == '\n' || isSpace c then skipSpaceLines rest else c :: rest

/-- A string over several lines, up to its triple double quote. Every line end counts as a line
feed, and a backslash at the end of a line takes away the space up to the next text. -/
def basicLines : Nat → Reader (List Char)
  | 0, _ => none
  | fuel + 1, text =>
    match closing? '"' text with
    | some found => some found
    | none =>
      match lineEnd? text with
      | some rest => push '\n' (basicLines fuel rest)
      | none =>
        match text with
        | [] => none
        | c :: rest =>
          if c == '\\' then
            if endsLine rest then basicLines fuel (skipSpaceLines rest)
            else do
              let (escaped, rest) ← escape rest
              push escaped (basicLines fuel rest)
          else if isPlain c then push c (basicLines fuel rest)
          else none

/-- A string over several lines, up to its triple apostrophe. -/
def literalLines : Nat → Reader (List Char)
  | 0, _ => none
  | fuel + 1, text =>
    match closing? '\x27' text with
    | some found => some found
    | none =>
      match lineEnd? text with
      | some rest => push '\n' (literalLines fuel rest)
      | none =>
        match text with
        | [] => none
        | c :: rest => if isPlain c then push c (literalLines fuel rest) else none

/-- A text without the line end it may start with. -/
def dropLineEnd (text : List Char) : List Char :=
  (lineEnd? text).getD text

/-- A string on one line, as a key may be written. -/
def lineString : Reader String
  | '"' :: rest => (basicBody (rest.length + 1) rest).map fun (text, rest) =>
    (String.ofList text, rest)
  | '\x27' :: rest => (literalBody rest).map fun (text, rest) => (String.ofList text, rest)
  | _ => none

/-- A string in any of the four ways. A line end right after an opening triple mark is dropped. -/
def string : Reader String
  | '"' :: '"' :: '"' :: rest =>
    (basicLines (rest.length + 1) (dropLineEnd rest)).map fun (text, rest) =>
      (String.ofList text, rest)
  | '\x27' :: '\x27' :: '\x27' :: rest =>
    (literalLines (rest.length + 1) (dropLineEnd rest)).map fun (text, rest) =>
      (String.ofList text, rest)
  | text => lineString text

end StoryShell.Toml
