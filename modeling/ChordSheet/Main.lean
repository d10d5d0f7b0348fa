import ChordSheet.Program

/-!
# The executable

The files of the computer, its terminal and its clock. Everything that is decided is decided in
`Program` and `Session`; here lines are read, messages printed, and the watched sheets looked at
from time to time.
-/

set_option autoImplicit false

namespace ChordSheet.Main

/-- The cause that an error of the system stands for. -/
def fileError : IO.Error → FileError
  | .noFileOrDirectory _ _ _ => .notFound
  | .alreadyExists _ _ _ => .alreadyExists
  | .inappropriateType _ code details =>
    if code = 20 then .notDirectory
    else if code = 21 then .isDirectory
    else .other details
  | .invalidArgument _ code details => if code = 36 then .nameTooLong else .other details
  | e => .other (toString e)

/-- Carries out an action on the thing at a path and tells its result from its failure. -/
def attempt {α : Type} (p : Path) (action : IO α) : IO (Except FileError α) := do
  if p.toList.contains '\x00' then return .error .zeroInName
  try
    return .ok (← action)
  catch e =>
    return .error (fileError e)

instance : FileSystem IO where
  read p := attempt p (IO.FS.readBinFile p)
  write p content := attempt p (IO.FS.writeBinFile p content)
  makeDirectories p := attempt p (IO.FS.createDirAll p)
  canonical? p := do
    return (← attempt p (IO.FS.realPath p)).toOption.map (·.toString)

/-- The absolute path that a path means. -/
def absolute (p : Path) : IO Path := do
  let here ← IO.currentDir
  return String.ofList (Path.append here.toString.toList p.toList)

instance : Notifier IO where
  start := return .ok ()
  subscribe p := do
    match ← attempt p (IO.FS.realPath p) with
    | .ok _ => return .ok ()
    | .error e => return .error ⟨.ofFileError e, some (← absolute p)⟩
  unsubscribe _ := return .ok ()

/-- The path of the settings. -/
def configPath : IO Path := do
  let directory :=
    match ← IO.getEnv "XDG_CONFIG_HOME", ← IO.getEnv "HOME" with
    | some directory, home =>
      if directory.toList.head? = some '/' then directory
      else (home.map (· ++ "/.config")).getD "."
    | none, some home => home ++ "/.config"
    | none, none => "."
  return directory ++ "/chordshift/config.txt"

/-- Prints some messages. -/
def print (colors : Bool) (output : List Message) : IO Unit := do
  for message in output do
    IO.println (message.render colors)
  (← IO.getStdout).flush

/-- Reads lines from a terminal or a file and puts them at the end of the events. -/
partial def readEvents (input : IO.FS.Stream) (colors : Bool) (events : IO.Ref (List Event)) :
    IO Unit := do
  if ← input.isTty then
    IO.print (Session.prompt.render colors)
    (← IO.getStdout).flush
  let line ← input.getLine
  if line.isEmpty then events.modify (· ++ [.endOfInput])
  else
    events.modify (· ++ [.line line])
    readEvents input colors events

/-- The contents of the watched sheets when they were looked at last. -/
abbrev Seen := List (Path × Option ByteArray)

/-- Looks at the watched sheets; tells which have changed. -/
def look (seen : Seen) (watches : WatchTable) : IO (List Event × Seen) := do
  let mut changed := []
  let mut now := []
  for (path, _) in watches.entries do
    let content := (← attempt path (IO.FS.readBinFile path)).toOption
    now := (path, content) :: now
    match seen.lookup path with
    | some before => if before != content then changed := Event.changed path :: changed
    | none => pure ()
  return (changed, now)

/-- Runs a session until it is over. -/
partial def serve (colors : Bool) (events : IO.Ref (List Event)) (seen : Seen)
    (session : Session) : IO Unit := do
  if session.ended then return
  let typed ← events.modifyGet fun es => (es, [])
  let (changed, seen) ← look seen session.watches
  let mut session := session
  for event in changed ++ typed do
    let (output, next) ← session.step event
    print colors output
    session := next
  if changed.isEmpty && typed.isEmpty then IO.sleep 50
  serve colors events seen session

/-- Runs the program. -/
def run (arguments : List String) : IO UInt32 := do
  let plain := (← IO.getEnv "NO_COLOR").isSome
  let colors := (← (← IO.getStdout).isTty) && !plain
  match ← Program.start arguments (← configPath) with
  | .ended ending =>
    print colors ending.output
    IO.eprint (ending.diagnostics ((← (← IO.getStderr).isTty) && !plain))
    return ending.code.toUInt32
  | .session output session =>
    print colors output
    let events ← IO.mkRef []
    let _ ← IO.asTask (readEvents (← IO.getStdin) colors events) Task.Priority.dedicated
    serve colors events [] session
    return 0

end ChordSheet.Main

/-- The entry point. -/
def main (arguments : List String) : IO UInt32 := ChordSheet.Main.run arguments
