import ChordSheet.Config
import ChordSheet.FileSystem
import ChordSheet.Path

/-!
# Settings in a file

Settings are kept in one file, as the text that `Config.render` writes. A file that is missing or
cannot be read stands for the standard settings, so that a user who has set nothing needs none.

* `Config.save` : the directory of the file is made if it is missing.
-/

set_option autoImplicit false

namespace ChordSheet

namespace Config

variable {m : Type → Type} [Monad m] [FileSystem m]

/-- Reads settings from a file. -/
def load (p : Path) : m (Except FileError Config) := do
  return (← FileSystem.readText p).map parse

/-- Reads settings from a file; a file that cannot be read stands for the standard settings. -/
def loadOrStandard (p : Path) : m Config := do
  return (← load p).toOption.getD standard

/-- Writes settings to a file, in a directory that is made if it is missing. -/
def save (c : Config) (p : Path) : m (Except FileError Unit) := do
  match Path.parent? p.toList with
  | none => FileSystem.writeText p c.render
  | some parent =>
    match ← FileSystem.makeDirectories (String.ofList parent) with
    | .error e => pure (.error e)
    | .ok () => FileSystem.writeText p c.render

end Config

end ChordSheet
