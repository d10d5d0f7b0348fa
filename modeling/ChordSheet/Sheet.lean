import ChordSheet.Line.Kind
import ChordSheet.Line.Moved

/-!
# Chord sheets

A sheet is a list of lines of which one names a key: the *source key* is the key of the first
line that names one. A sheet is transposed as a whole. Markers are replaced by a marker of the
target key, chord lines are moved, text is kept; the first line with a chord that is none of the
source key stops the sheet, and its number is part of the error. A *report* counts what was
done.

* `Sheet.ofLines_eq_ok_iff` : some lines are a sheet exactly if one of them names a key.
-/

set_option autoImplicit false

namespace ChordSheet

/-- What was done to a sheet. -/
structure Report where
  /-- The number of lines. -/
  lines : Nat
  /-- The number of markers among them. -/
  keyMarkers : Nat
  /-- The number of chord lines among them. -/
  chordLines : Nat
  /-- The number of symbols moved on the chord lines. -/
  chords : Nat
  deriving DecidableEq, Repr, Inhabited

namespace Report

/-- The report on no lines. -/
def empty : Report := ⟨0, 0, 0, 0⟩

/-- The report on one line, of a kind and with a number of symbols, and on the lines after
it. -/
def count (kind : LineKind) (chords : Nat) (rest : Report) : Report :=
  { lines := rest.lines + 1
    keyMarkers := rest.keyMarkers + if kind = .keyMarker then 1 else 0
    chordLines := rest.chordLines + if kind = .chords then 1 else 0
    chords := rest.chords + chords }

end Report

/-- The source key of some lines: that of the first line that names a key. -/
def sourceKey? (lines : List String) : Option Key :=
  lines.findSome? fun line => Line.detectKey? line.toList

/-- Some lines and their source key. -/
structure Sheet where
  /-- The lines, without line breaks of their own. -/
  lines : List String
  /-- The key in which the chords stand. -/
  source : Key
  /-- The source key is the key that the lines name. -/
  detected : sourceKey? lines = some source

namespace Sheet

/-- The sheet with the given lines. -/
def ofLines (lines : List String) : Except TranspositionError Sheet :=
  match h : sourceKey? lines with
  | some k => .ok ⟨lines, k, h⟩
  | none => .error .keyNotDetected

theorem ofLines_eq_ok_iff {lines : List String} {s : Sheet} :
    ofLines lines = .ok s ↔ s.lines = lines := by
  obtain ⟨ls, k, hk⟩ := s
  unfold ofLines
  constructor
  · intro h
    split at h
    · cases h; rfl
    · cases h
  · rintro rfl
    split
    · rename_i h
      simp only [hk, Option.some.injEq] at h
      subst h
      rfl
    · rename_i h
      simp [hk] at h

theorem ofLines_eq_error_iff {lines : List String} {e : TranspositionError} :
    ofLines lines = .error e ↔ sourceKey? lines = none ∧ e = .keyNotDetected := by
  unfold ofLines
  constructor
  · intro h
    split at h
    · cases h
    · rename_i hk
      cases h
      exact ⟨hk, rfl⟩
  · rintro ⟨hk, rfl⟩
    split
    · rename_i h
      simp [hk] at h
    · rfl

/-- Transposes one line of a sheet by its kind. -/
def transposeLine (t : Transposition) (line : String) :
    Except TranspositionError MovedLine :=
  match Line.kind line with
  | .keyMarker => .ok ⟨Line.keyMarker t.target, 0⟩
  | .chords => t.line line
  | .text => .ok ⟨line, 0⟩

/-- Transposes the lines of a sheet from the line with this number on. -/
def transposeLines (t : Transposition) (number : Nat) :
    List String → Except TranspositionError (List String × Report)
  | [] => .ok ([], .empty)
  | line :: rest => do
    let moved ← (transposeLine t line).mapError (·.atLine number)
    let (lines, report) ← transposeLines t (number + 1) rest
    pure (moved.text :: lines, report.count (Line.kind line) moved.chords)

/-- Transposes a sheet to a key; gives the new lines and the report. -/
def transpose (s : Sheet) (target : Key) : Except TranspositionError (List String × Report) :=
  transposeLines ⟨s.source, target⟩ 1 s.lines

end Sheet

/-- What comes of transposing some lines to a key. -/
structure Rendition where
  /-- The source key of the lines. -/
  source : Key
  /-- The transposed lines. -/
  lines : List String
  /-- What was done. -/
  report : Report
  deriving DecidableEq, Repr

namespace Rendition

/-- Reads some lines as a sheet and transposes it to a key. -/
def ofLines (lines : List String) (target : Key) : Except TranspositionError Rendition := do
  let sheet ← Sheet.ofLines lines
  let (moved, report) ← sheet.transpose target
  pure ⟨sheet.source, moved, report⟩

/-- The transposed lines alone. -/
def process (lines : List String) (target : Key) : Except TranspositionError (List String) :=
  (ofLines lines target).map Rendition.lines

/-- Transposes some lines to one key after the other, each time from the lines that came out
last. A name that is no key, or lines that cannot be transposed, leave the lines as they are. -/
def chain (lines : List String) : List String → List (Except TranspositionError Rendition)
  | [] => []
  | name :: names =>
    match Key.parse name >>= ofLines lines with
    | .ok r => .ok r :: chain r.lines names
    | .error e => .error e :: chain lines names

end Rendition

end ChordSheet
