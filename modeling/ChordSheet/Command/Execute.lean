import ChordSheet.Command.Argument
import ChordSheet.Command.Help
import ChordSheet.Command.Registry
import ChordSheet.ConfigFile
import ChordSheet.Scale
import ChordSheet.SheetFile

/-!
# Commands

A line typed at the prompt calls a command by name. Its answer is a response; only `default`
changes the settings, and only `default` and `transpose` write files. Watching is left to whoever
asked: the response says what to watch.

* `Command.verbs` : the commands and what each of them does.
* `Command.execute` : the answer to one line.
-/

set_option autoImplicit false

namespace ChordSheet

/-- What a command does. -/
inductive Verb where
  | transpose | watch | unwatch | keys | scale | degree | default | help | leave
  deriving DecidableEq, Repr

/-- The answer to a line. -/
inductive Response where
  /-- These lines were shown, and nothing else is to be said. -/
  | shown (lines : List Message)
  /-- The command was carried out. -/
  | message (message : Message)
  /-- The user wants to leave. -/
  | leave
  /-- The line calls no command. -/
  | unknown
  /-- The command was not carried out. -/
  | error (error : CommandError)
  /-- The sheet is to be watched and transposed to the key. -/
  | watch (path : Path) (key : Key)
  /-- The sheet is to be watched no longer. -/
  | unwatch (path : Path)
  deriving DecidableEq, Repr

/-- What commands know: the settings and where they are kept. -/
structure Context where
  /-- The settings. -/
  config : Config
  /-- The path of the file that keeps them. -/
  configPath : Path
  deriving DecidableEq, Repr

namespace Command

/-- The names of the commands, in the order in which they are registered. -/
def verbs : List (String × Verb) :=
  [("transpose", .transpose), ("watch", .watch), ("unwatch", .unwatch), ("keys", .keys),
   ("scale", .scale), ("degree", .degree), ("default", .default), ("help", .help),
   ("quit", .leave), ("exit", .leave)]

/-- The registry of the commands. -/
def registry : Registry Verb := Registry.empty.registerAll verbs

/-- One row of the answer to `scale`. -/
def scaleRow (key : Key) (d : Degree) : Message :=
  .plain "\n  " ++
    .colored .brightBlack (String.ofList (Text.padRight 5 d.numeral.toList)) ++
    .plain " " ++ .colored .cyan (Key.chordName key d)

/-- The answer to `scale`. -/
def scale (argument : String) : Response :=
  if argument = "" then .error (.usage "scale <key>")
  else
    match Key.parse argument with
    | .error e => .error (.badKey e)
    | .ok key => .message (.plain (key.name ++ " major") ++ Degree.all.flatMap (scaleRow key))

/-- The answer to `degree`: the argument is a chord, a blank and a key. -/
def degree (argument : String) : Response :=
  match Text.cutFirst? Text.isBlank argument.toList with
  | none => .error (.usage "degree <chord> <key>")
  | some (first, rest) =>
    let chord := Text.trim first
    match Key.parse (String.ofList (Text.trim rest)) with
    | .error e => .error (.badKey e)
    | .ok key =>
      match Key.degreeOf? key chord with
      | some d =>
        .message (.colored .cyan (String.ofList chord) ++ .plain " is " ++
          .colored .brightGreen d.numeral ++ .plain (" in " ++ key.name))
      | none => .error (.notInKey (String.ofList chord) key)

/-- The answer to `default` without an argument. -/
def showDefault (c : Config) : Response :=
  match c.defaultKey with
  | some key => .message (.plain ("Default target key: " ++ key.name))
  | none => .message (.plain "No default target key set")

/-- The answer to `watch`. -/
def watch (c : Config) (argument : String) : Response :=
  match Argument.pathAndKey c "watch <file> [key]" argument with
  | .ok (path, key) => .watch path key
  | .error e => .error e

/-- The answer to `unwatch`: the whole argument is the path. -/
def unwatch (argument : String) : Response :=
  if argument = "" then .error (.usage "unwatch <file>") else .unwatch argument

/-- The answer to `keys`. -/
def keys : Response := .message (.plain (String.ofList (Text.trimEnd Key.table.toList)))

variable {m : Type → Type} [Monad m] [FileSystem m]

/-- Transposes a file and says so. -/
def transposeFile (c : Config) (path : Path) (key : Key) : m Response := do
  match ← SheetFile.transpose path c.outputSuffix key with
  | .ok outcome => pure (.message outcome.summary)
  | .error failure => pure (.error (.failed failure.message))

/-- The answer to `transpose`. -/
def transpose (c : Config) (argument : String) : m Response :=
  match Argument.pathAndKey c "transpose <file> [key]" argument with
  | .ok (path, key) => transposeFile c path key
  | .error e => pure (.error e)

/-- Makes a key the default key and saves the settings. The key stays even if they cannot be
saved. -/
def setDefault (context : Context) (key : Key) : m (Response × Context) := do
  let config := { context.config with defaultKey := some key }
  let response : Response :=
    match ← config.save context.configPath with
    | .ok () => .message (.colored .brightGreen ("Default target key set to " ++ key.name))
    | .error e => .error (.notSaved e.message)
  pure (response, { context with config := config })

/-- Carries out a command. -/
def run (verb : Verb) (argument : String) (context : Context) : m (Response × Context) :=
  match verb with
  | .transpose => do pure (← transpose context.config argument, context)
  | .watch => pure (watch context.config argument, context)
  | .unwatch => pure (unwatch argument, context)
  | .keys => pure (keys, context)
  | .scale => pure (scale argument, context)
  | .degree => pure (degree argument, context)
  | .default =>
    if argument = "" then pure (showDefault context.config, context)
    else
      match Key.parse argument with
      | .ok key => setDefault context key
      | .error e => pure (.error (.badKey e), context)
  | .help => pure (.shown Help.lines, context)
  | .leave => pure (.leave, context)

/-- Carries out the command that a line calls. -/
def execute (line : String) (context : Context) : m (Response × Context) :=
  match registry.dispatch? line with
  | some (verb, argument) => run verb argument context
  | none => pure (.unknown, context)

/-- Carries out the commands that some lines call, one after the other. -/
def executeAll (context : Context) : List String → m (List (Response × Context))
  | [] => pure []
  | line :: lines => do
    let (response, context) ← execute line context
    return (response, context) :: (← executeAll context lines)

end Command

end ChordSheet
