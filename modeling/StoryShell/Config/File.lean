/-
# Configuration files

The program's configuration files are TOML documents, and the settings in them are
read by their names.
-/

import StoryShell.Config.Format
import StoryShell.Config.Reading
import StoryShell.Toml.Document

namespace StoryShell.Config

/-- Configuration files are written in TOML. -/
instance : Format where
  read? text := (Toml.read text).bind (Setting.config? .toml)

/-- The accepted configuration that a TOML document describes. -/
def ofToml (text : String) : Except Fault Config :=
  ofText text

end StoryShell.Config
