import ChordSheet.Message
import ChordSheet.Note
import ChordSheet.Path
import ChordSheet.Text.Pieces

/-!
# The command line

The program takes at most one file, a key after `-k` or `--key`, and the flag `-w` or `--watch`.
Flags of one letter may be joined, a key may be joined to its flag, and `--` makes everything
after it a file. A value is looked at only when the next flag, file or the end is reached, so
an unknown flag right behind a bad key is what is reported. Help and version are shown as soon as
they are asked for.

* `UsageError.message` : the wording of everything that can be wrong with a command line.
-/

set_option autoImplicit false

namespace ChordSheet

/-- What is asked of the program. -/
structure Invocation where
  /-- The sheet to transpose, if there is one. -/
  file : Option Path
  /-- The key to transpose it to, if it is given. -/
  key : Option Key
  /-- Whether the sheet is watched for changes. -/
  watch : Bool
  deriving DecidableEq, Repr

/-- What a command line asks for. -/
inductive Request where
  | help
  | version
  | run (invocation : Invocation)
  deriving DecidableEq, Repr

/-- Why a command line is refused. -/
inductive UsageError where
  /-- A flag is not known, or there is a file too many. -/
  | unexpected (argument : String)
  /-- The key is none. -/
  | badKey (value : String) (error : TranspositionError)
  /-- The value of an argument is missing. -/
  | noValue (argument : String)
  /-- A flag without value has one. -/
  | needlessValue (flag value : String)
  /-- A flag stands twice. -/
  | repeated (flag : String)
  /-- There is no file to watch. -/
  | noFile
  deriving DecidableEq, Repr

namespace UsageError

/-- The wording shown to the user. -/
def message : UsageError → Message
  | unexpected argument =>
    .plain "unexpected argument '" ++ .colored .yellow argument ++ .plain "' found"
  | badKey value e =>
    .plain "invalid value '" ++ .colored .yellow value ++ .plain "' for '" ++
      .bold "--key <KEY>" ++ .plain ("': " ++ e.message)
  | noValue argument =>
    .plain "a value is required for '" ++ .colored .yellow argument ++
      .plain "' but none was supplied"
  | needlessValue flag value =>
    .plain "unexpected value '" ++ .colored .yellow value ++ .plain "' for '" ++ .bold flag ++
      .plain "' found; no more were expected"
  | repeated flag =>
    .plain "the argument '" ++ .colored .yellow flag ++ .plain "' cannot be used multiple times"
  | noFile =>
    .plain "the following required arguments were not provided:\n  " ++ .colored .green "<FILE>"

/-- The report on a refused command line. -/
def report (e : UsageError) : Message :=
  .boldColored .red "error:" ++ .plain " " ++ e.message ++
    .plain "\n\nFor more information, try '" ++ .bold "--help" ++ .plain "'.\n"

end UsageError

namespace Usage

/-- A value that was read but not looked at yet. -/
inductive Pending where
  /-- The key, or none as long as its value is to come. -/
  | key (value : Option String)
  /-- The file. -/
  | file (value : String)
  deriving DecidableEq, Repr

/-- What was read of a command line so far. -/
structure Progress where
  /-- What was asked for so far. -/
  invocation : Invocation
  /-- Whether there was a file. -/
  hasFile : Bool
  /-- The value that is to be looked at next. -/
  pending : Option Pending
  deriving DecidableEq, Repr

/-- Why reading stops before the end. -/
inductive Halt where
  | help
  | version
  | refused (error : UsageError)
  deriving DecidableEq, Repr

/-- The flags. -/
inductive Flag where
  | key | watch | help | version
  deriving DecidableEq, Repr

namespace Flag

/-- The flag with a long name. -/
def ofName? (name : List Char) : Option Flag :=
  if name = "key".toList then some key
  else if name = "watch".toList then some watch
  else if name = "help".toList then some help
  else if name = "version".toList then some version
  else none

/-- The flag with a letter. -/
def ofLetter? : Char → Option Flag
  | 'k' => some key
  | 'w' => some watch
  | 'h' => some help
  | 'V' => some version
  | _ => none

/-- How a flag is shown in messages. -/
def shown : Flag → String
  | key => "--key <KEY>"
  | watch => "--watch"
  | help => "--help"
  | version => "--version"

end Flag

/-- The state before anything is read. -/
def initial : Progress := ⟨⟨none, none, false⟩, false, none⟩

/-- Takes over the value of the key. -/
def takeKey (s : Progress) (value : String) : Except Halt Progress :=
  if s.invocation.key.isSome then .error (.refused (.repeated Flag.key.shown))
  else
    match Key.parse value with
    | .ok k => .ok { s with invocation := { s.invocation with key := some k } }
    | .error e => .error (.refused (.badKey value e))

/-- Looks at the pending value. -/
def resolve (s : Progress) : Except Halt Progress :=
  match s.pending with
  | none => .ok s
  | some (.key none) => .error (.refused (.noValue Flag.key.shown))
  | some (.key (some value)) => takeKey { s with pending := none } value
  | some (.file value) =>
    if value = "" then .error (.refused (.noValue "[FILE]"))
    else
      .ok { s with pending := none, invocation := { s.invocation with file := some value } }

/-- Takes over a flag that has no value. -/
def takeFlag (s : Progress) (flag : Flag) : Except Halt Progress := do
  let s ← resolve s
  match flag with
  | .help => .error .help
  | .version => .error .version
  | .watch =>
    if s.invocation.watch then .error (.refused (.repeated flag.shown))
    else .ok { s with invocation := { s.invocation with watch := true } }
  | .key => .ok { s with pending := some (.key none) }

/-- Takes over a key that is joined to its flag. -/
def takeJoinedKey (s : Progress) (value : List Char) : Except Halt Progress := do
  takeKey (← resolve s) (String.ofList value)

/-- Reads an argument that starts with two dashes. -/
def readLong (s : Progress) (argument : List Char) : Except Halt Progress :=
  let (name, value) :=
    match Text.cutFirst? (· == '=') argument with
    | some (name, value) => (name, some value)
    | none => (argument, none)
  match Flag.ofName? name, value with
  | none, _ => .error (.refused (.unexpected ("--" ++ String.ofList name)))
  | some .key, some value => takeJoinedKey s value
  | some flag, some value =>
    .error (.refused (.needlessValue flag.shown (String.ofList value)))
  | some flag, none => takeFlag s flag

/-- Reads the letters of an argument that starts with one dash. -/
def readLetters (s : Progress) : List Char → Except Halt Progress
  | [] => .ok s
  | c :: cs =>
    match Flag.ofLetter? c with
    | none => .error (.refused (.unexpected ("-" ++ c.toString)))
    | some .key =>
      match cs with
      | [] => takeFlag s .key
      | '=' :: value => takeJoinedKey s value
      | value => takeJoinedKey s value
    | some flag => do readLetters (← takeFlag s flag) cs

/-- Reads a file. -/
def readFile (s : Progress) (argument : String) : Except Halt Progress :=
  if s.hasFile then .error (.refused (.unexpected argument))
  else do
    let s ← resolve s
    .ok { s with hasFile := true, pending := some (.file argument) }

/-- Reads an argument that is not `--`. -/
def readArgument (s : Progress) (argument : String) : Except Halt Progress :=
  match argument.toList with
  | '-' :: '-' :: name => readLong s name
  | '-' :: c :: letters => readLetters s (c :: letters)
  | _ =>
    if s.pending = some (.key none) then
      .ok { s with pending := some (.key (some argument)) }
    else readFile s argument

/-- Reads the arguments in order. -/
def readArguments (s : Progress) : List String → Except Halt Progress
  | [] => resolve s
  | argument :: rest => do
    if argument = "--" then resolve (← rest.foldlM readFile s)
    else readArguments (← readArgument s argument) rest

/-- Reads a command line. -/
def parse (arguments : List String) : Except UsageError Request :=
  match readArguments initial arguments with
  | .error .help => .ok .help
  | .error .version => .ok .version
  | .error (.refused e) => .error e
  | .ok s =>
    if s.invocation.watch && s.invocation.file.isNone then .error .noFile
    else .ok (.run s.invocation)

/-- The lines shown when help is asked for. -/
def help : List String :=
  ["Transpose chord charts between major keys",
   "",
   "Usage: chordshift [OPTIONS] [FILE]",
   "",
   "Arguments:",
   "  [FILE]  Chord chart to transpose. Starts the interactive prompt when omitted",
   "",
   "Options:",
   "  -k, --key <KEY>  Target key (C, D, E, F, G, A or B)",
   "  -w, --watch      Keep running and re-transpose the chart whenever it changes",
   "  -h, --help       Print help",
   "  -V, --version    Print version"]

/-- The line shown when the version is asked for. -/
def version : String := "chordshift 0.1.0"

end Usage

end ChordSheet
