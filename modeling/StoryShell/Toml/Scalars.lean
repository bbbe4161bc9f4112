/-
# Numbers, dates and switches of a settings file

A value of a settings file that is no string, list or table is a bare word. A
word is a switch, an integer, a fraction or a date; anything else is refused.
Digits may be grouped by underscores, each between two digits.
-/

import StoryShell.Config.Setting
import StoryShell.Toml.Chars

namespace StoryShell.Toml

/-! ### Numbers -/

/-- The values of digits that may be grouped by underscores; there has to be one at least. -/
def digits? (base : Nat) (word : List Char) : Option (List Nat) :=
  if (word.splitOn '_').all (· ≠ []) then
    (word.filter (· != '_')).mapM (digitValue? base)
  else none

/-- The number that digits write. -/
def ofDigits (base : Nat) (digits : List Nat) : Nat :=
  digits.foldl (fun total digit => total * base + digit) 0

/-- A sign, positive if there is none, and the rest of a word. -/
def signed : List Char → Bool × List Char
  | '+' :: rest => (false, rest)
  | '-' :: rest => (true, rest)
  | word => (false, word)

/-- The digits of a decimal number, which starts with a zero only if it is zero. -/
def decimalDigits? (word : List Char) : Option (List Nat) :=
  if word.head? = some '0' ∧ word ≠ ['0'] then none else digits? 10 word

/-- An integer of any size. -/
def wholeNumber? : List Char → Option Int
  | '0' :: 'x' :: word => (digits? 16 word).map fun digits => ofDigits 16 digits
  | '0' :: 'o' :: word => (digits? 8 word).map fun digits => ofDigits 8 digits
  | '0' :: 'b' :: word => (digits? 2 word).map fun digits => ofDigits 2 digits
  | word =>
    let (negative, word) := signed word
    (decimalDigits? word).map fun digits =>
      if negative then -(ofDigits 10 digits : Int) else ofDigits 10 digits

/-- An integer, which has to fit into 64 bits with a sign. -/
def integer? (word : List Char) : Option Int :=
  (wholeNumber? word).filter fun value =>
    Int64.minValue.toInt ≤ value ∧ value ≤ Int64.maxValue.toInt

/-- Whether the number with these digits before a power of ten rounds to a double that is not
infinite. -/
def isFinite (digits : List Nat) (exponent : Int) : Bool :=
  let significant := digits.dropWhile (· == 0)
  let magnitude := significant.length + exponent
  if significant.isEmpty || magnitude < 300 then true
  else if magnitude > 320 then false
  else
    let value := ofDigits 10 significant
    let bound := Nat.pow 2 1024 - Nat.pow 2 970
    if exponent < 0 then value < bound * Nat.pow 10 exponent.natAbs
    else value * Nat.pow 10 exponent.natAbs < bound

/-- The exponent of a fraction, after its letter. -/
def exponent? (word : List Char) : Option Int :=
  let (negative, word) := signed word
  (digits? 10 word).map fun digits =>
    if negative then -(ofDigits 10 digits : Int) else ofDigits 10 digits

/-- Whether a word is a number with a fractional part or an exponent, one of the infinities, or
not a number. A positive number too large for a double is refused. -/
def isFraction (word : List Char) : Bool :=
  let (negative, unsigned) := signed word
  if unsigned = "inf".toList ∨ unsigned = "nan".toList then true
  else
    let mantissa := unsigned.takeWhile fun c => c != 'e' && c != 'E'
    let power := (unsigned.drop mantissa.length).tail
    let whole := mantissa.takeWhile (· != '.')
    let part := (mantissa.drop whole.length).tail
    let hasPower := mantissa.length < unsigned.length
    let hasPart := whole.length < mantissa.length
    let number? := do
      let digits ← decimalDigits? whole
      let partDigits ← if hasPart then digits? 10 part else some []
      let exponent ← if hasPower then exponent? power else some 0
      some (digits ++ partDigits, exponent - partDigits.length)
    match number? with
    | some (digits, exponent) => (hasPart || hasPower) && (negative || isFinite digits exponent)
    | none => false

/-! ### Dates -/

/-- The number that decimal digits write, and nothing but digits. -/
def plainNumber? (word : List Char) : Option Nat :=
  if word.all Char.isDigit then (digits? 10 word).map (ofDigits 10) else none

/-- The number of days of a month. -/
def daysIn (year month : Nat) : Nat :=
  if month = 2 then
    if year % 4 = 0 ∧ (year % 100 ≠ 0 ∨ year % 400 = 0) then 29 else 28
  else if month = 4 ∨ month = 6 ∨ month = 9 ∨ month = 11 then 30
  else 31

/-- Whether a word is a calendar day. -/
def isDay (word : List Char) : Bool :=
  match word.splitOn '-' with
  | [year, month, day] =>
    match plainNumber? year, plainNumber? month, plainNumber? day with
    | some y, some m, some d =>
      year.length = 4 ∧ month.length = 2 ∧ day.length = 2 ∧ 1 ≤ m ∧ m ≤ 12 ∧ 1 ≤ d ∧ d ≤ daysIn y m
    | _, _, _ => false
  | _ => false

/-- Whether a word is a two-digit number of at most `greatest`. -/
def isTwoDigit (greatest : Nat) (word : List Char) : Bool :=
  word.length = 2 && (plainNumber? word).any (· ≤ greatest)

/-- Whether a word is the seconds of a time, with or without a fraction. -/
def isSeconds (word : List Char) : Bool :=
  match word.splitOn '.' with
  | [seconds] => isTwoDigit 60 seconds
  | [seconds, part] => isTwoDigit 60 seconds && (plainNumber? part).isSome
  | _ => false

/-- Whether a word is a time of day. A second may be a leap second. -/
def isTime (word : List Char) : Bool :=
  match word.splitOn ':' with
  | [hour, minute, seconds] => isTwoDigit 23 hour && isTwoDigit 59 minute && isSeconds seconds
  | _ => false

/-- Whether a word is an offset in hours and minutes. -/
def isOffset (word : List Char) : Bool :=
  match word.splitOn ':' with
  | [hour, minute] => isTwoDigit 23 hour && isTwoDigit 59 minute
  | _ => false

/-- Whether a word is a time of day with or without a zone. -/
def isZonedTime (word : List Char) : Bool :=
  let time := word.takeWhile fun c => c.isDigit || c == ':' || c == '.'
  match word.drop time.length with
  | [] => isTime time
  | ['Z'] => isTime time
  | ['z'] => isTime time
  | '+' :: offset => isTime time && isOffset offset
  | '-' :: offset => isTime time && isOffset offset
  | _ => false

/-- Whether a word is a day, a time of day, or both with a letter between them. -/
def isDate (word : List Char) : Bool :=
  let day := word.take 10
  match word.drop 10 with
  | [] => isDay day || isTime word
  | c :: time => isTime word || ((c == 'T' || c == 't') && isDay day && isZonedTime time)

/-- The value of a bare word. -/
def scalar? (word : List Char) : Option Setting :=
  if word = "true".toList then some (.switch true)
  else if word = "false".toList then some (.switch false)
  else
    match integer? word with
    | some value => some (.integer value)
    | none =>
      if isFraction word then some .fraction
      else if isDate word then some .date
      else none

/-- A bare word at the start of a text, and its value. A day may be followed by a space and a time
of day, which then belongs to it. -/
def scalar : Reader Setting := fun text => do
  let word := text.takeWhile isWordChar
  let rest := text.drop word.length
  let value ← scalar? word
  match rest with
  | ' ' :: more =>
    let time := more.takeWhile isWordChar
    if isDay word && isZonedTime time then return (.date, more.drop time.length)
    else return (value, rest)
  | _ => return (value, rest)

end StoryShell.Toml
