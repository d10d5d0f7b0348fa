import ChordSheet.FileSystem
import ChordSheet.Text.Quoted

/-!
# Being told of changes

A notifier has to be made ready before it is used. It can be asked to tell when something changes,
and asked to stop. It refuses with a cause, and with the absolute path that it was asked about if it
was asked about one. What it can follow is its own affair: a computer may refuse a thing that is
there, because it may not be read or because too much is followed already.

* `WatchError.message` : the wording of a refusal.
-/

set_option autoImplicit false

namespace ChordSheet

/-- Why a notifier refuses. -/
inductive WatchFault where
  /-- Nothing stands at the path. -/
  | noPath
  /-- The path is not watched. -/
  | noWatch
  /-- The path holds the character zero. -/
  | zeroInPath
  /-- The path cannot be followed. -/
  | file (error : FileError)
  deriving DecidableEq, Repr

/-- A refusal. -/
structure WatchError where
  /-- Its cause. -/
  fault : WatchFault
  /-- The absolute path that was asked about, if it was about one. -/
  path : Option Path
  deriving DecidableEq, Repr

namespace WatchFault

/-- The cause that a path has which cannot be followed. -/
def ofFileError : FileError → WatchFault
  | .notFound => noPath
  | .zeroInName => zeroInPath
  | e => file e

/-- The wording of a cause. -/
def message : WatchFault → String
  | noPath => "No path was found."
  | noWatch => "No watch was found."
  | zeroInPath => "data provided contains a nul byte"
  | file e => e.message

end WatchFault

namespace WatchError

/-- The wording of a refusal: the cause and the quoted path. -/
def message (e : WatchError) : String :=
  match e.path with
  | some p => e.fault.message ++ " about [" ++ String.ofList (Text.quote p.toList) ++ "]"
  | none => e.fault.message

end WatchError

/-- Something that tells of changes. -/
class Notifier (m : Type → Type) where
  /-- Makes the notifier ready, unless it is. -/
  start : m (Except WatchError Unit)
  /-- Asks to be told when the thing at a path changes. -/
  subscribe : Path → m (Except WatchError Unit)
  /-- Asks to be told no more. -/
  unsubscribe : Path → m (Except WatchError Unit)

end ChordSheet
