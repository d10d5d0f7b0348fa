import ChordSheet.FileSystem
import ChordSheet.Message
import ChordSheet.Sheet
import ChordSheet.Text.Lines

/-!
# Sheets in files

A sheet is read from a file, transposed, and written to a file of its own beside the first. The
file is written last, after everything else has succeeded, so a failure leaves all files as they
were.

* `Failure.message` : the wording of a failure, what was tried before why it failed.
-/

set_option autoImplicit false

namespace ChordSheet

/-- Why a file could not be transposed. -/
inductive Failure where
  /-- The file could not be read. -/
  | read (path : Path) (error : FileError)
  /-- Its lines could not be transposed. -/
  | transpose (path : Path) (error : TranspositionError)
  /-- The transposition could not be written. -/
  | write (path : Path) (error : FileError)
  deriving DecidableEq, Repr

namespace Failure

/-- What was tried. -/
def headline : Failure → String
  | read p _ => "Failed to read " ++ p
  | transpose p _ => "Cannot transpose " ++ p
  | write p _ => "Failed to write " ++ p

/-- Why it failed. -/
def cause : Failure → String
  | read _ e => e.message
  | transpose _ e => e.message
  | write _ e => e.message

/-- The failure on one line. -/
def message (f : Failure) : String := f.headline ++ ": " ++ f.cause

end Failure

/-- A file that was transposed. -/
structure Outcome where
  /-- Where the transposition was written. -/
  output : Path
  /-- The source key of the file. -/
  source : Key
  /-- The key to which it was transposed. -/
  target : Key
  /-- What was done. -/
  report : Report
  deriving DecidableEq, Repr

namespace Outcome

/-- One line that says what was done and where it went. -/
def summary (o : Outcome) : Message :=
  .colored .brightGreen "✓" ++ .plain " " ++ .colored .cyan o.source.name ++ .plain " → " ++
    .colored .cyan o.target.name ++
    .plain (": " ++ o.report.chords.repr ++ " chords on " ++ o.report.chordLines.repr ++
      " lines, saved to ") ++
    .colored .brightGreen o.output

end Outcome

namespace SheetFile

variable {m : Type → Type} [Monad m] [FileSystem m]

/-- The lines of a file. -/
def readLines (p : Path) : m (Except FileError (List String)) := do
  return (← FileSystem.readText p).map Text.linesOf

/-- Makes a file hold these lines, each ended by a line feed. -/
def writeLines (p : Path) (lines : List String) : m (Except FileError Unit) :=
  FileSystem.writeText p (Text.contentOf lines)

/-- Transposes a file to a key and writes the result beside it. -/
def transpose (input : Path) (suffix : String) (target : Key) : m (Except Failure Outcome) := do
  match ← readLines input with
  | .error e => pure (.error (.read input e))
  | .ok lines =>
    match Rendition.ofLines lines target with
    | .error e => pure (.error (.transpose input e))
    | .ok rendition =>
      let output := Path.output input suffix target
      match ← writeLines output rendition.lines with
      | .error e => pure (.error (.write output e))
      | .ok () => pure (.ok ⟨output, rendition.source, target, rendition.report⟩)

end SheetFile

end ChordSheet
