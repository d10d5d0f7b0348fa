import ChordSheet.Command.Execute
import ChordSheet.TypedLine
import ChordSheet.Watch.Table

/-!
# Sessions at the prompt

A session takes lines that the user types, changes of files that the notifier tells of, and the
end of the input. Each of them is answered by some messages. A sheet that is watched is
transposed at once and again whenever it changes, to the key with which it was watched last; a
change of any other file goes unanswered. It does not matter who changed the sheet: the session
answers changes that it made itself. The notifier is made ready when a sheet is to be watched, and
not before. A session that is over answers nothing.

* `step_of_ended` : nothing happens to a session that is over.
-/

set_option autoImplicit false

namespace ChordSheet

/-- What happens to a session. -/
inductive Event where
  /-- The user typed a line. -/
  | line (text : String)
  /-- The thing at a path changed. -/
  | changed (path : Path)
  /-- There is no more input. -/
  | endOfInput
  deriving DecidableEq, Repr

/-- A session at the prompt. -/
structure Session where
  /-- The settings and where they are kept. -/
  context : Context
  /-- The sheets that are watched. -/
  watches : WatchTable
  /-- Whether the user has left or the input has ended. -/
  ended : Bool
  deriving DecidableEq, Repr

namespace Session

open Message

/-- A session in which nothing has happened. -/
def new (context : Context) : Session := ⟨context, .empty, false⟩

/-- What a session says at its start. -/
def greeting : List Message :=
  [colored .brightYellow "🎸" ++ plain " " ++
     boldColored .brightCyan "Chordshift chord chart transposer",
   plain "Type commands like: " ++ colored .cyan "transpose song.txt D" ++ plain ", " ++
     colored .cyan "scale G",
   plain "Type '" ++ colored .brightGreen "help" ++ plain "' for more information, '" ++
     colored .brightRed "quit" ++ plain "' or " ++ colored .brightRed "Ctrl+C" ++
     plain " to exit.\n"]

/-- What stands in front of the line that the user types, on a terminal. -/
def prompt : Message := boldColored .brightMagenta "chordshift>" ++ plain " "

/-- What a session says at its end. -/
def farewell : Message := colored .brightCyan "Goodbye!" ++ plain " 🎸"

/-- The mark in front of what went wrong. -/
def complaint : Message := boldColored .brightRed "Error:" ++ plain " "

/-- What is said in answer to a response by itself. -/
def messages : Response → List Message
  | .shown lines => lines
  | .message m => [m]
  | .leave => [farewell]
  | .error e => [complaint ++ colored .red e.message]
  | .unknown =>
    [complaint ++ plain "Unknown command. Type '" ++ colored .brightGreen "help" ++
      plain "' for a list of commands."]
  | .watch _ _ => []
  | .unwatch _ => []

/-- Says that a sheet is watched from now on. -/
def watching (path : Path) (key : Key) : Message :=
  colored .brightCyan "👀" ++ plain " Watching " ++ colored .brightGreen path ++ plain " (→ " ++
    colored .cyan key.name ++ plain ") for changes..."

/-- Says that a watched sheet has a new key. -/
def rewatching (path : Path) (key previous : Key) : Message :=
  colored .brightCyan "👀" ++ plain " " ++ colored .brightGreen path ++
    plain " now transposes to " ++ colored .cyan key.name ++
    plain (" (was " ++ previous.name ++ ")")

/-- Says that a sheet is watched no longer. -/
def unwatched (path : Path) : Message :=
  colored .brightGreen "✓" ++ plain " Stopped watching " ++ colored .brightGreen path

/-- Says that a sheet was not watched. -/
def notWatched (path : Path) : Message := complaint ++ plain (path ++ " is not being watched")

/-- Says what the notifier refused to do with a sheet. -/
def refused (action : String) (path : Path) (e : WatchError) : Message :=
  colored .red "Error:" ++ plain (" Failed to " ++ action ++ " " ++ path ++ ": " ++ e.message)

/-- Says that there is no notifier. -/
def notReady (e : WatchError) : Message :=
  colored .red "Error:" ++ plain (" Failed to create watcher: " ++ e.message)

/-- Says that a watched sheet changed. -/
def fileChanged (path : Path) : Message :=
  colored .brightYellow "⚡" ++ plain (" File changed: " ++ path)

variable {m : Type → Type} [Monad m] [FileSystem m]

/-- Transposes a sheet; the answer is what to say about it. -/
def transpose (s : Session) (path : Path) (key : Key) : m (List Message) := do
  return messages (← Command.transposeFile s.context.config path key)

/-- Transposes a changed sheet again if it is watched. -/
def change (s : Session) (path : Path) : m (List Message) := do
  match ← s.watches.keyFor? path with
  | none => pure []
  | some key => return fileChanged path :: (← s.transpose path key)

variable [Notifier m]

/-- Watches a sheet with a notifier that is ready, and transposes it for the first time. -/
def follow (s : Session) (path : Path) (key : Key) : m (List Message × Session) := do
  let (result, watches) ← s.watches.watch path key
  let s := { s with watches := watches }
  match result with
  | .error e => pure ([refused "watch" path e], s)
  | .ok none => return (watching path key :: (← s.transpose path key), s)
  | .ok (some previous) => return (rewatching path key previous :: (← s.transpose path key), s)

/-- Watches a sheet and transposes it for the first time, if there is a notifier. -/
def watch (s : Session) (path : Path) (key : Key) : m (List Message × Session) := do
  match ← Notifier.start with
  | .error e => pure ([notReady e], s)
  | .ok () => s.follow path key

/-- Stops watching a sheet. -/
def unwatch (s : Session) (path : Path) : m (List Message × Session) := do
  let (result, watches) ← s.watches.unwatch path
  let s := { s with watches := watches }
  match result with
  | .error e => pure ([refused "unwatch" path e], s)
  | .ok none => pure ([notWatched path], s)
  | .ok (some _) => pure ([unwatched path], s)

/-- Does what a response asks for and says so. -/
def respond (s : Session) (response : Response) : m (List Message × Session) :=
  match response with
  | .watch path key => s.watch path key
  | .unwatch path => s.unwatch path
  | .leave => pure (messages .leave, { s with ended := true })
  | other => pure (messages other, s)

/-- Takes a line that the user typed, as its backspaces leave it; blank margins do not count,
and a blank line says nothing. -/
def line (s : Session) (text : String) : m (List Message × Session) :=
  match Text.trim (TypedLine.edited text.toList) with
  | [] => pure ([], s)
  | command => do
    let (response, context) ← Command.execute (String.ofList command) s.context
    { s with context := context }.respond response

/-- Takes one event. -/
def step (s : Session) (e : Event) : m (List Message × Session) :=
  if s.ended then pure ([], s)
  else
    match e with
    | .line text => s.line text
    | .changed path => do return (← s.change path, s)
    | .endOfInput => pure ([farewell], { s with ended := true })

theorem step_of_ended {s : Session} (h : s.ended = true) (e : Event) :
    (s.step e : m (List Message × Session)) = pure ([], s) := by
  simp [step, h]

end Session

end ChordSheet
