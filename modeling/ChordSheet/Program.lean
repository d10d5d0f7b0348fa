import ChordSheet.Session
import ChordSheet.Usage

/-!
# The program

A command line without a file starts a session at the prompt. With a file it transposes the file
and is done, or watches the file and goes on with a session. The key is the one given or the
default key of the settings.

* `Ending.ofFailure` : how a transposition that failed is reported on the command line.
-/

set_option autoImplicit false

namespace ChordSheet

/-- How a run without a session ends. -/
inductive Ending where
  /-- What was asked for was done, and this is said. -/
  | success (output : List Message)
  /-- What was asked for could not be done, for the reason given. -/
  | failure (reason : String)
  /-- The command line was refused. -/
  | refused (error : UsageError)
  deriving DecidableEq, Repr

namespace Ending

/-- A run with a file that could not be transposed. -/
def ofFailure (f : Failure) : Ending :=
  failure (f.headline ++ "\n\nCaused by:\n    " ++ f.cause)

/-- The exit code. -/
def code : Ending → Nat
  | success _ => 0
  | failure _ => 1
  | refused _ => 2

/-- What is said. -/
def output : Ending → List Message
  | success output => output
  | _ => []

/-- What is said about what went wrong. A reason is given as it is; only reports on the command
line are in color. -/
def diagnostics (colors : Bool) : Ending → String
  | success _ => ""
  | failure reason => "Error: " ++ reason ++ "\n"
  | refused e => e.report.renderReport colors

end Ending

/-- What a command line leads to. -/
inductive Start where
  /-- The run is over. -/
  | ended (ending : Ending)
  /-- Something was said, and a session begins. -/
  | session (output : List Message) (session : Session)
  deriving DecidableEq, Repr

namespace Program

variable {m : Type → Type} [Monad m] [FileSystem m] [Notifier m]

/-- Transposes a file once. -/
def transposeOnce (config : Config) (file : Path) (key : Key) : m Start := do
  match ← SheetFile.transpose file config.outputSuffix key with
  | .ok outcome => pure (.ended (.success [outcome.summary]))
  | .error failure => pure (.ended (.ofFailure failure))

/-- Does what is asked for. -/
def run (invocation : Invocation) (configPath : Path) : m Start := do
  let config ← Config.loadOrStandard configPath
  let session := Session.new ⟨config, configPath⟩
  match invocation.file with
  | none => pure (.session Session.greeting session)
  | some file =>
    match invocation.key.or config.defaultKey with
    | none =>
      pure (.ended (.failure
        ("No target key given. Pass --key or set default_key in " ++ configPath)))
    | some key =>
      if invocation.watch then
        let (output, session) ← session.watch file key
        pure (.session (output ++ Session.greeting) session)
      else transposeOnce config file key

/-- Does what a command line asks for. -/
def start (arguments : List String) (configPath : Path) : m Start :=
  match Usage.parse arguments with
  | .error e => pure (.ended (.refused e))
  | .ok .help => pure (.ended (.success (Usage.help.map .plain)))
  | .ok .version => pure (.ended (.success [.plain Usage.version]))
  | .ok (.run invocation) => run invocation configPath

end Program

end ChordSheet
