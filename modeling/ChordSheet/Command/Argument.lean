import ChordSheet.Config
import ChordSheet.Path

/-!
# Arguments of commands

A command that transposes a file takes a path and a key. The last word is the key only if it is
a single character, so paths may hold blanks; without such a word the default key is meant.

* `CommandError.message` : the wording of everything that can be wrong with a command.
* `Argument.pathAndKey_form` : what an argument means does not depend on the command.
-/

set_option autoImplicit false

namespace ChordSheet

/-- Why a command has no answer. -/
inductive CommandError where
  /-- The argument is missing; the command is used in this form. -/
  | usage (form : String)
  /-- There is neither a key in the argument nor a default key. -/
  | noTarget
  /-- The key is none. -/
  | badKey (error : TranspositionError)
  /-- The chord is not among the seven of the key. -/
  | notInKey (chord : String) (key : Key)
  /-- A file could not be transposed, for the reason given. -/
  | failed (reason : String)
  /-- The settings could not be written, for the reason given. -/
  | notSaved (reason : String)
  deriving DecidableEq, Repr

namespace CommandError

/-- The wording shown to the user. -/
def message : CommandError → String
  | usage form => "Usage: " ++ form
  | noTarget => "No target key given and no default_key configured"
  | badKey e => e.message
  | notInKey chord key => chord ++ " is not a diatonic chord of " ++ key.name
  | failed reason => reason
  | notSaved reason => "Failed to save config: " ++ reason

end CommandError

namespace Config

/-- The key to transpose to: the one given, which has to be a key, or else the default key. -/
def targetKey (c : Config) : Option String → Except CommandError Key
  | some name => (Key.parse name).mapError .badKey
  | none =>
    match c.defaultKey with
    | some k => .ok k
    | none => .error .noTarget

end Config

namespace Argument

/-- The path and the single character at the end of an argument. -/
def splitKey (argument : List Char) : List Char × Option (List Char) :=
  match Text.cutLast? Text.isBlank argument with
  | some (path, [c]) => (Text.trimEnd path, some [c])
  | _ => (argument, none)

/-- The path and the key that an argument means. -/
def pathAndKey (c : Config) (form : String) (argument : String) :
    Except CommandError (Path × Key) :=
  if argument = "" then .error (.usage form)
  else do
    let (path, key) := splitKey argument.toList
    let target ← c.targetKey (key.map String.ofList)
    pure (String.ofList path, target)

/-- The form of a command shows in errors alone. -/
theorem pathAndKey_form {c : Config} {form argument : String} {r : Path × Key}
    (h : pathAndKey c form argument = .ok r) (form' : String) :
    pathAndKey c form' argument = .ok r := by
  unfold pathAndKey at h ⊢
  split at h
  · cases h
  · rename_i hne
    rw [if_neg hne]
    exact h

end Argument

end ChordSheet
