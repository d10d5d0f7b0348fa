import ChordSheet.Path

/-!
# File systems

What the library asks of the place where sheets and settings are kept. The operations are
parameters of the code that uses them, so that one definition serves the files of a computer and
a disk in memory.

* `FileError.message` : the wording of each way in which an operation fails.
-/

set_option autoImplicit false

namespace ChordSheet

/-- Why an operation on a file fails. -/
inductive FileError where
  /-- There is no such file, or a directory on the way is missing. -/
  | notFound
  /-- What should be made is there already. -/
  | alreadyExists
  /-- Something on the way is a file. -/
  | notDirectory
  /-- What should be a file is a directory. -/
  | isDirectory
  /-- The name holds the character zero. -/
  | zeroInName
  /-- The path, or a name in it, is too long. -/
  | nameTooLong
  /-- The content is no text in UTF-8. -/
  | notText
  /-- Any other failure, with the wording of the system that reports it. -/
  | other (text : String)
  deriving DecidableEq, Repr, Inhabited

namespace FileError

/-- The wording shown to the user. -/
def message : FileError → String
  | notFound => "No such file or directory (os error 2)"
  | alreadyExists => "File exists (os error 17)"
  | notDirectory => "Not a directory (os error 20)"
  | isDirectory => "Is a directory (os error 21)"
  | nameTooLong => "File name too long (os error 36)"
  | zeroInName => "file name contained an unexpected NUL byte"
  | notText => "stream did not contain valid UTF-8"
  | other text => text

end FileError

/-- A place where files are kept. -/
class FileSystem (m : Type → Type) where
  /-- The content of a file. -/
  read : Path → m (Except FileError ByteArray)
  /-- Makes a file hold exactly this content. -/
  write : Path → ByteArray → m (Except FileError Unit)
  /-- Makes a directory and all that are missing above it. -/
  makeDirectories : Path → m (Except FileError Unit)
  /-- The one absolute path of what a path leads to, if it leads to something. -/
  canonical? : Path → m (Option Path)

namespace FileSystem

variable {m : Type → Type} [Monad m] [FileSystem m]

/-- The content of a file as text. -/
def readText (p : Path) : m (Except FileError String) := do
  match ← read p with
  | .error e => pure (.error e)
  | .ok bytes =>
    match String.fromUTF8? bytes with
    | some text => pure (.ok text)
    | none => pure (.error .notText)

/-- Makes a file hold this text. -/
def writeText (p : Path) (text : String) : m (Except FileError Unit) :=
  write p text.toUTF8

/-- The canonical path of what a path leads to, or the path as it is. -/
def canonical (p : Path) : m Path := do
  return (← canonical? p).getD p

end FileSystem

end ChordSheet
