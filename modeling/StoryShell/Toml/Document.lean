/-
# Settings files

A settings file is TOML: lines that give values to keys, under headings that name
tables. Reading one either yields the table of its settings or refuses it as a
whole. Values may be nested up to a depth, which also bounds dotted keys.
-/

import StoryShell.Toml.Scalars
import StoryShell.Toml.Strings
import StoryShell.Toml.Tables

namespace StoryShell.Toml

/-- The first depth of nesting that is refused. -/
def depthLimit : Nat := 80

/-- The text after its leading spaces. -/
def skipSpaces (text : List Char) : List Char :=
  text.dropWhile isSpace

/-- The text after a comment, which reaches up to a line end. -/
def skipComment (text : List Char) : List Char :=
  text.dropWhile isPlain

/-- The text after the rest of a line that holds nothing but spaces and a comment. -/
def endLine (text : List Char) : Option (List Char) :=
  let rest := match skipSpaces text with
    | '#' :: comment => skipComment comment
    | other => other
  if rest.isEmpty then some [] else lineEnd? rest

/-- The text after spaces, line ends and comments. -/
def skipTrivia (inComment : Bool) : List Char → List Char
  | [] => []
  | '\n' :: rest => skipTrivia false rest
  | '\r' :: '\n' :: rest => skipTrivia false rest
  | c :: rest =>
    if inComment && isPlain c || isSpace c then skipTrivia inComment rest
    else if !inComment && c == '#' then skipTrivia true rest
    else c :: rest

/-- One name of a key. -/
def keyName : Reader String := fun text =>
  match text with
  | '"' :: _ => lineString text
  | '\x27' :: _ => lineString text
  | _ =>
    let name := text.takeWhile isKeyChar
    if name.isEmpty then none else some (String.ofList name, text.drop name.length)

/-- The names of a key, with dots between them and spaces around each. -/
def keyNames : Nat → Reader (List String)
  | 0, _ => none
  | fuel + 1, text => do
    let (name, rest) ← keyName (skipSpaces text)
    match skipSpaces rest with
    | '.' :: rest =>
      let (names, rest) ← keyNames fuel rest
      return (name :: names, rest)
    | rest => return ([name], rest)

/-- A key, which may have fewer names than the depth limit. -/
def key : Reader (List String) := fun text =>
  (keyNames (text.length + 1) text).filter fun found => found.1.length < depthLimit

mutual

/-- A value. Lists and tables nest as deep as `depth` still allows. -/
def value (depth : Nat) : Nat → Reader Setting
  | 0, _ => none
  | fuel + 1, text =>
    match text with
    | '"' :: _ => (string text).map fun (s, rest) => (.text s, rest)
    | '\x27' :: _ => (string text).map fun (s, rest) => (.text s, rest)
    | '[' :: rest =>
      match depth with
      | 0 => none
      | depth + 1 => (items depth fuel rest).map fun (found, rest) => (.list found, rest)
    | '\x7b' :: rest =>
      match depth with
      | 0 => none
      | depth + 1 =>
        match skipSpaces rest with
        | '\x7d' :: rest => some (.table [], rest)
        | rest =>
          (pairs depth fuel [] rest).map fun (found, rest) =>
            (.table (Item.toSettings found), rest)
    | _ => scalar text

/-- The items of a list up to its closing bracket. A comma may follow the last one. -/
def items (depth : Nat) : Nat → Reader (List Setting)
  | 0, _ => none
  | fuel + 1, text =>
    match skipTrivia false text with
    | ']' :: rest => some ([], rest)
    | start => do
      let (item, rest) ← value depth fuel start
      match skipTrivia false rest with
      | ']' :: rest => return ([item], rest)
      | ',' :: rest =>
        let (more, rest) ← items depth fuel rest
        return (item :: more, rest)
      | _ => none

/-- The pairs of a table on one line up to its closing brace. -/
def pairs (depth : Nat) : Nat → Entries → Reader Entries
  | 0, _, _ => none
  | fuel + 1, entries, text => do
    let (name, rest) ← key text
    match rest with
    | '=' :: rest =>
      let (found, rest) ← value depth fuel (skipSpaces rest)
      let entries ← entries.define name found
      match skipSpaces rest with
      | '\x7d' :: rest => return (entries, rest)
      | ',' :: rest => pairs depth fuel entries rest
      | _ => none
    | _ => none

end

/-- Read the lines of a file, given the heading they stand under and what has been read. -/
def readLines : Nat → List String → Entries → List Char → Option Entries
  | 0, _, _, _ => none
  | fuel + 1, heading, entries, text =>
    match skipSpaces text with
    | [] => some entries
    | '\n' :: rest => readLines fuel heading entries rest
    | '\r' :: '\n' :: rest => readLines fuel heading entries rest
    | '#' :: comment => do
      let rest ← endLine (skipComment comment)
      readLines fuel heading entries rest
    | '[' :: '[' :: rest => do
      let (heading, rest) ← key rest
      match rest with
      | ']' :: ']' :: rest =>
        let entries ← entries.enter true heading
        let rest ← endLine rest
        readLines fuel heading entries rest
      | _ => none
    | '[' :: rest => do
      let (heading, rest) ← key rest
      match rest with
      | ']' :: rest =>
        let entries ← entries.enter false heading
        let rest ← endLine rest
        readLines fuel heading entries rest
      | _ => none
    | start => do
      let (name, rest) ← key start
      match rest with
      | '=' :: rest =>
        let (found, rest) ← value (depthLimit - 1) (2 * rest.length + 2) (skipSpaces rest)
        let entries ← entries.defineUnder heading name found
        let rest ← endLine rest
        readLines fuel heading entries rest
      | _ => none

/-- The settings of a file, or `none` when the text is no TOML. A byte order mark at the start is
passed over. -/
def read (text : String) : Option Setting :=
  let characters := match text.toList with
    | '\ufeff' :: rest => rest
    | all => all
  (readLines (characters.length + 1) [] [] characters).map fun entries =>
    .table (Item.toSettings entries)

end StoryShell.Toml
