/-
# Settings as data

A configuration file is a table of settings: texts, numbers, switches, dates,
lists and further tables. This is the form between the text of a file and the
configuration it describes.
-/

namespace StoryShell

/-- A value of a settings file. Of fractions and dates only the kind is kept, since no setting of
the terminal has either. -/
inductive Setting
  | null
  | switch (value : Bool)
  | integer (value : Int)
  | fraction
  | date
  | text (value : String)
  | list (items : List Setting)
  | table (entries : List (String × Setting))

instance : Inhabited Setting := ⟨.null⟩

end StoryShell
