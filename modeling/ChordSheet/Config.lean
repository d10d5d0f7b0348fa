import ChordSheet.Note
import ChordSheet.Text.Lines

/-!
# Configuration

What the user has set: the key to which sheets go when none is given, and what is put between
the name of a sheet and the key in the name of its transposition. Settings are kept as text, one
assignment `name=value` a line; blank lines, lines that start with `#`, lines without `=` and
other names are passed over, and a later assignment wins.
-/

set_option autoImplicit false

namespace ChordSheet

/-- The settings. -/
structure Config where
  /-- The key to which a sheet is transposed when none is given. -/
  defaultKey : Option Key
  /-- What stands between the name of a sheet and the key. -/
  outputSuffix : String
  deriving DecidableEq, Repr

namespace Config

/-- The settings of a user who has set nothing. -/
def standard : Config := ⟨none, "_transposed_"⟩

/-- The name and the value that a line assigns, both without blank margins. -/
def assignment? (line : List Char) : Option (List Char × List Char) :=
  match Text.trim line with
  | '#' :: _ => none
  | s => (Text.cutFirst? (· == '=') s).map fun (name, value) => (Text.trim name, Text.trim value)

/-- Takes over an assignment. A value that is no key leaves no default key, and an empty suffix
is not taken. -/
def assign (c : Config) (name value : List Char) : Config :=
  if name = "default_key".toList then
    { c with defaultKey := (Key.parse (String.ofList value)).toOption }
  else if name = "output_suffix".toList then
    if value = [] then c else { c with outputSuffix := String.ofList value }
  else c

/-- Takes over what a line assigns, if it does. -/
def readLine (c : Config) (line : List Char) : Config :=
  match assignment? line with
  | some (name, value) => c.assign name value
  | none => c

/-- Reads settings. -/
def parse (content : String) : Config := (Text.lines content.toList).foldl readLine standard

/-- The lines that hold settings. -/
def settingLines (c : Config) : List String :=
  "# Chordshift configuration" ::
    ((c.defaultKey.map fun k => "default_key=" ++ k.name).toList ++
      ["output_suffix=" ++ c.outputSuffix])

/-- Writes settings. -/
def render (c : Config) : String := Text.contentOf c.settingLines

end Config

end ChordSheet
