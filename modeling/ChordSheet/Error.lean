/-!
# What stops a transposition

A sheet is transposed as a whole or not at all. The causes that stop it are the constructors of
`TranspositionError`; their wording is `TranspositionError.message`.

* `atLine_atLine` : a chord keeps the line number it was given first.
-/

set_option autoImplicit false

namespace ChordSheet

/-- Why a key could not be read or a sheet not be transposed. -/
inductive TranspositionError where
  /-- The text names none of the seven keys. -/
  | unsupportedKey (text : String)
  /-- No line of the sheet names a key. -/
  | keyNotDetected
  /-- The chord is no chord of the key it is moved from. -/
  | invalidChord (chord : String)
  /-- The same, for a chord on a line of a sheet; lines count from one. -/
  | invalidChordAt (line : Nat) (chord : String)
  deriving DecidableEq, Repr, Inhabited

namespace TranspositionError

/-- The wording shown to the user. -/
def message : TranspositionError → String
  | unsupportedKey text => "Unsupported key: " ++ text ++ ". Use C, D, E, F, G, A, or B"
  | keyNotDetected => "No key specified in content"
  | invalidChord chord => "Invalid chord: " ++ chord
  | invalidChordAt line chord => "Invalid chord: " ++ chord ++ " (line " ++ line.repr ++ ")"

/-- Places a chord that has no line yet; every other error stays as it is. -/
def atLine (line : Nat) : TranspositionError → TranspositionError
  | invalidChord chord => invalidChordAt line chord
  | e => e

/-- The chord at fault, if a chord is. -/
def chord? : TranspositionError → Option String
  | invalidChord chord => some chord
  | invalidChordAt _ chord => some chord
  | _ => none

theorem atLine_atLine (m n : Nat) (e : TranspositionError) :
    (e.atLine m).atLine n = e.atLine m := by
  cases e <;> rfl

theorem chord?_atLine (n : Nat) (e : TranspositionError) : (e.atLine n).chord? = e.chord? := by
  cases e <;> rfl

end TranspositionError

end ChordSheet
