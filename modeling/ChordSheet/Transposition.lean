import ChordSheet.Scale

/-!
# Transposing a chord symbol

A transposition leads from a source key to a target key. It moves a chord on a degree of the
source key to the chord on the same degree of the target key, and a slash symbol side by side.
Only chords of the source key move; for every other side the symbol fails, and the leftmost such
side is reported.

* `chord_render` : a chord of the source key moves to the chord of its degree.
* `chord_eq_ok_iff` : nothing else moves.
-/

set_option autoImplicit false

namespace ChordSheet

/-- From which key to which key. -/
structure Transposition where
  /-- The key in which the chords stand. -/
  source : Key
  /-- The key to which they are moved. -/
  target : Key
  deriving DecidableEq, Repr

namespace Transposition

/-- Whether source and target are the same key. The chords are looked up even then. -/
def isIdentity (t : Transposition) : Bool := t.source == t.target

/-- Moves one side of a symbol, which has to be a chord of the source key. -/
def chord (t : Transposition) (name : List Char) : Except TranspositionError (List Char) :=
  match Key.degreeOf? t.source name with
  | some d => .ok (Key.chord t.target d).render
  | none => .error (.invalidChord (String.ofList name))

/-- Moves every side of a symbol with any number of slashes, the leftmost side first. -/
def symbol (t : Transposition) (word : List Char) : Except TranspositionError (List Char) :=
  match _ : Text.cutFirst? (· == '/') word with
  | none => t.chord word
  | some (upper, bass) => do
    let movedUpper ← t.chord upper
    let movedBass ← t.symbol bass
    pure (movedUpper ++ '/' :: movedBass)
termination_by word.length
decreasing_by exact Text.length_lt_of_cutFirst? (by assumption)

theorem chord_render (t : Transposition) (d : Degree) :
    t.chord (Key.chord t.source d).render = .ok (Key.chord t.target d).render := by
  simp [chord, Key.degreeOf?_chord]

theorem chord_eq_ok_iff {t : Transposition} {name moved : List Char} :
    t.chord name = .ok moved ↔
      ∃ d, name = (Key.chord t.source d).render ∧ moved = (Key.chord t.target d).render := by
  unfold chord
  cases h : Key.degreeOf? t.source name with
  | none =>
    simp only [reduceCtorEq, false_iff, not_exists, not_and]
    intro d hd
    rw [hd, Key.degreeOf?_chord] at h
    cases h
  | some e =>
    simp only [Except.ok.injEq]
    constructor
    · rintro rfl
      exact ⟨e, Key.render_of_degreeOf? h, rfl⟩
    · rintro ⟨d, rfl, rfl⟩
      rw [Key.degreeOf?_chord] at h
      cases h
      rfl

end Transposition

end ChordSheet
