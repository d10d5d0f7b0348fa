import ChordSheet.Degree
import ChordSheet.Record.Value
import ChordSheet.Sheet

/-!
# Records of keys, degrees, reports and errors

Keys, degrees and kinds of lines are recorded by name. A report is an object of four counts, and
an error is an object of one field, named for the cause; what the error holds is its value.
Objects may hold further fields, except that an error names exactly one cause. A report and the
place of a chord may also be read from the values of their fields in order.

* `Codec.named?_eq_some_iff` : a constant is read from its name and from nothing else.
-/

set_option autoImplicit false

namespace ChordSheet.Record

/-- Types with a recorded form. -/
class Codec (α : Type) where
  /-- The recorded form of a value. -/
  encode : α → Value
  /-- The value with a recorded form. -/
  decode? : Value → Option α

namespace Codec

/-- The name of a degree. -/
def degreeName : Degree → String
  | .I => "I" | .II => "II" | .III => "III" | .IV => "IV" | .V => "V" | .VI => "VI"
  | .VII => "VII"

/-- The name of a kind of line. -/
def kindName : LineKind → String
  | .keyMarker => "KeyMarker"
  | .chords => "Chords"
  | .text => "Text"

/-- The kinds of lines. -/
def kinds : List LineKind := [.keyMarker, .chords, .text]

/-- The value among some constants whose name is recorded. -/
def named? {α : Type} (name : α → String) (constants : List α) (v : Value) : Option α := do
  let s ← constant? v
  constants.find? fun c => name c == s

instance : Codec Note where
  encode k := .text k.name
  decode? := named? Note.name Note.all

instance : Codec Degree where
  encode d := .text (degreeName d)
  decode? := named? degreeName Degree.all

instance : Codec LineKind where
  encode k := .text (kindName k)
  decode? := named? kindName kinds

/-- The recorded form of a report. -/
def encodeReport (r : Report) : Value :=
  .object [("lines", .integer r.lines), ("key_markers", .integer r.keyMarkers),
    ("chord_lines", .integer r.chordLines), ("chords", .integer r.chords)]

/-- The report with four recorded counts. -/
def reportOfCounts? (lines keyMarkers chordLines chords : Value) : Option Report := do
  pure ⟨← count? lines, ← count? keyMarkers, ← count? chordLines, ← count? chords⟩

/-- The report with a recorded form. -/
def decodeReport? : Value → Option Report
  | .object fields => do
    reportOfCounts? (← field? fields "lines") (← field? fields "key_markers")
      (← field? fields "chord_lines") (← field? fields "chords")
  | .array [lines, keyMarkers, chordLines, chords] =>
    reportOfCounts? lines keyMarkers chordLines chords
  | _ => none

instance : Codec Report where
  encode := encodeReport
  decode? := decodeReport?

/-- The recorded form of an error. -/
def encodeError : TranspositionError → Value
  | .unsupportedKey text => .object [("UnsupportedKey", .text text)]
  | .keyNotDetected => .text "KeyNotDetected"
  | .invalidChord chord => .object [("InvalidChord", .text chord)]
  | .invalidChordAt line chord =>
    .object [("InvalidChordAt", .object [("line", .integer line), ("chord", .text chord)])]

/-- The error for a chord and its place. -/
def placedChord? : Value → Option TranspositionError
  | .object fields => do
    pure (.invalidChordAt (← count? (← field? fields "line")) (← text? (← field? fields "chord")))
  | .array [line, chord] => do pure (.invalidChordAt (← count? line) (← text? chord))
  | _ => none

/-- The error with a recorded form. -/
def decodeError? : Value → Option TranspositionError
  | .text cause => if cause = "KeyNotDetected" then some .keyNotDetected else none
  | .object [(cause, v)] =>
    if cause = "UnsupportedKey" then (text? v).map .unsupportedKey
    else if cause = "InvalidChord" then (text? v).map .invalidChord
    else if cause = "InvalidChordAt" then placedChord? v
    else if cause = "KeyNotDetected" then
      match v with
      | .null => some .keyNotDetected
      | _ => none
    else none
  | _ => none

instance : Codec TranspositionError where
  encode := encodeError
  decode? := decodeError?

/-- If every constant is found by its name, it is read from its name and from nothing else. -/
theorem named?_eq_some_iff {α : Type} {name : α → String} {constants : List α}
    (hfind : ∀ a, constants.find? (fun c => name c == name a) = some a) {v : Value} {a : α} :
    named? name constants v = some a ↔ v = .text (name a) ∨ v = .object [(name a, .null)] := by
  rw [← constant?_eq_some_iff, named?, Option.bind_eq_bind, Option.bind_eq_some_iff]
  constructor
  · rintro ⟨s, hs, ha⟩
    have heq : name a = s := by simpa using List.find?_some ha
    rw [hs, heq]
  · intro hs
    exact ⟨name a, hs, hfind a⟩

end Codec

end ChordSheet.Record
