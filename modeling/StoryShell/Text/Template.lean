/-
# Templates

A template is a text with gaps, each written as an opening and a closing brace.
Filling a template puts one and the same text into every gap.
-/

namespace StoryShell.Text

/-- The characters of a template with every gap filled, gaps being read from left to right. -/
def fillChars (given : List Char) : List Char → List Char
  | '\x7b' :: '\x7d' :: rest => given ++ fillChars given rest
  | c :: rest => c :: fillChars given rest
  | [] => []

/-- A template with every gap filled by `given`. -/
def fill (given template : String) : String :=
  String.ofList (fillChars given.toList template.toList)

end StoryShell.Text
