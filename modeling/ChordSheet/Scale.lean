import ChordSheet.Chord
import ChordSheet.Degree
import ChordSheet.Text.Measure

/-!
# The chords of a key

Each key has seven chords, one on every degree of its major scale. The table gives the spelled
scale of each key; the degree gives the quality of the triad. A chord is found in a key by its
written name alone, so `A#` is not found where the scale has `Bb`.

* `chordNames_eq` : the chords of every key.
* `degreeOf?_chord` : a chord of a key is found at its degree.
* `render_of_degreeOf?` : a name is found only if it is the name of the chord at that degree.
-/

set_option autoImplicit false

namespace ChordSheet

namespace Degree

/-- The quality of the triad on a degree. -/
def quality : Degree → Quality
  | I => .plain
  | II => .minor
  | III => .minor
  | IV => .plain
  | V => .plain
  | VI => .minor
  | VII => .dim

/-- The entry of a degree in a row of seven. -/
def entry {α : Type} (i ii iii iv v vi vii : α) : Degree → α
  | I => i
  | II => ii
  | III => iii
  | IV => iv
  | V => v
  | VI => vi
  | VII => vii

end Degree

namespace Key

open Note

/-- The major scale of a key, as it is spelled. -/
def root (k : Key) : Degree → Pitch :=
  match k with
  | C => Degree.entry C.natural D.natural E.natural F.natural G.natural A.natural B.natural
  | D => Degree.entry D.natural E.natural F.sharp G.natural A.natural B.natural C.sharp
  | E => Degree.entry E.natural F.sharp G.sharp A.natural B.natural C.sharp D.sharp
  | F => Degree.entry F.natural G.natural A.natural B.flat C.natural D.natural E.natural
  | G => Degree.entry G.natural A.natural B.natural C.natural D.natural E.natural F.sharp
  | A => Degree.entry A.natural B.natural C.sharp D.natural E.natural F.sharp G.sharp
  | B => Degree.entry B.natural C.sharp D.sharp E.natural F.sharp G.sharp A.sharp

/-- The triad on a degree of a key. -/
def chord (k : Key) (d : Degree) : Chord := ⟨root k d, d.quality, none⟩

/-- The name of the triad on a degree of a key. -/
def chordName (k : Key) (d : Degree) : String := String.ofList (chord k d).render

/-- The names of the seven chords of a key. -/
def chordNames (k : Key) : List String := Degree.all.map (chordName k)

/-- **The chords of the seven keys**, spelled out. -/
theorem chordNames_eq (k : Key) :
    chordNames k =
      match k with
      | C => ["C", "Dm", "Em", "F", "G", "Am", "Bdim"]
      | D => ["D", "Em", "F#m", "G", "A", "Bm", "C#dim"]
      | E => ["E", "F#m", "G#m", "A", "B", "C#m", "D#dim"]
      | F => ["F", "Gm", "Am", "Bb", "C", "Dm", "Edim"]
      | G => ["G", "Am", "Bm", "C", "D", "Em", "F#dim"]
      | A => ["A", "Bm", "C#m", "D", "E", "F#m", "G#dim"]
      | B => ["B", "C#m", "D#m", "E", "F#", "G#m", "A#dim"] := by
  cases k <;> decide

/-- The degree of a key on which the chord with this name stands. -/
def degreeOf? (k : Key) (name : List Char) : Option Degree :=
  Degree.all.find? fun d => (chord k d).render == name

theorem degreeOf?_chord (k : Key) (d : Degree) : degreeOf? k (chord k d).render = some d := by
  cases k <;> cases d <;> rfl

theorem render_of_degreeOf? {k : Key} {name : List Char} {d : Degree}
    (h : degreeOf? k name = some d) : name = (chord k d).render := by
  have := List.find?_some h
  exact (beq_iff_eq.mp this).symm

theorem degreeOf?_eq_some_iff {k : Key} {name : List Char} {d : Degree} :
    degreeOf? k name = some d ↔ name = (chord k d).render :=
  ⟨render_of_degreeOf?, fun h => h ▸ degreeOf?_chord k d⟩

/-- One row of the table of keys: the key, then its chords in columns six wide. -/
def tableRow (k : Key) : List Char :=
  k.letter :: ':' ::
    (Degree.all.flatMap fun d => ' ' :: Text.padRight 6 (chord k d).render) ++ ['\n']

/-- The chords of all keys, one key a line. -/
def table : String := String.ofList (Note.all.flatMap tableRow)

end Key

end ChordSheet
