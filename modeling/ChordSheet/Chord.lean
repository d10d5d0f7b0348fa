import ChordSheet.Note
import ChordSheet.Text.Pieces

/-!
# Chord symbols

A *chord* is a root, a quality and at most one digit: `Am`, `G#m7`, `Ebmaj9`. A *symbol* is a
chord, or a slash symbol of two chords such as `D/F#`. Chords and symbols are read from a word
and written back as text; a word with anything before, between or after the parts is none.

* `Chord.parse?_render` : a written chord reads back.
* `Chord.render_of_parse?` : a word that reads as a chord is that chord written, so the parts
  of a word are determined by the word.
-/

set_option autoImplicit false

namespace ChordSheet

/-- A sign that raises or lowers a natural note by a semitone. -/
inductive Accidental where
  | sharp | flat
  deriving DecidableEq, Repr

namespace Accidental

/-- The character of the sign. -/
def sign : Accidental → Char
  | sharp => '#'
  | flat => 'b'

end Accidental

/-- A spelled pitch: a natural note with at most one accidental. -/
structure Pitch where
  /-- The note that is raised, lowered or left alone. -/
  note : Note
  /-- Its accidental. -/
  accidental : Option Accidental
  deriving DecidableEq, Repr

namespace Note

/-- The note itself. -/
def natural (n : Note) : Pitch := ⟨n, none⟩

/-- The note raised by a semitone. -/
def sharp (n : Note) : Pitch := ⟨n, some .sharp⟩

/-- The note lowered by a semitone. -/
def flat (n : Note) : Pitch := ⟨n, some .flat⟩

end Note

/-- The quality of a chord, as its symbol spells it. -/
inductive Quality where
  /-- A major triad, spelled by nothing. -/
  | plain
  /-- A minor triad, spelled `m`. -/
  | minor
  /-- The spelling `maj`. -/
  | maj
  /-- A diminished triad, spelled `dim`. -/
  | dim
  deriving DecidableEq, Repr

namespace Quality

/-- What a symbol writes after the root. -/
def suffix : Quality → List Char
  | plain => []
  | minor => ['m']
  | maj => ['m', 'a', 'j']
  | dim => ['d', 'i', 'm']

end Quality

/-- A chord without a slash. -/
structure Chord where
  /-- The root. -/
  root : Pitch
  /-- The quality. -/
  quality : Quality
  /-- The digit at the end, such as the seven of a seventh chord. -/
  digit : Option (Fin 10)
  deriving DecidableEq, Repr

namespace Chord

/-- The character of a decimal digit. -/
def digitChar : Fin 10 → Char
  | 0 => '0' | 1 => '1' | 2 => '2' | 3 => '3' | 4 => '4'
  | 5 => '5' | 6 => '6' | 7 => '7' | 8 => '8' | 9 => '9'

/-- All decimal digits. -/
def digits : List (Fin 10) := [0, 1, 2, 3, 4, 5, 6, 7, 8, 9]

/-- The decimal digit with this character; digits of other scripts are none. -/
def digit? (c : Char) : Option (Fin 10) := digits.find? fun d => digitChar d == c

/-- Takes the accidental that a text starts with. -/
def takeAccidental : List Char → Option Accidental × List Char
  | '#' :: cs => (some .sharp, cs)
  | 'b' :: cs => (some .flat, cs)
  | cs => (none, cs)

/-- Takes the longest quality that a text starts with. -/
def takeQuality : List Char → Quality × List Char
  | 'm' :: 'a' :: 'j' :: cs => (.maj, cs)
  | 'm' :: cs => (.minor, cs)
  | 'd' :: 'i' :: 'm' :: cs => (.dim, cs)
  | cs => (.plain, cs)

/-- Reads what follows the quality: nothing, or one digit. -/
def parseDigit? : List Char → Option (Option (Fin 10))
  | [] => some none
  | [c] => (digit? c).map some
  | _ => none

/-- Reads a whole word as a chord. -/
def parse? : List Char → Option Chord
  | [] => none
  | c :: cs => do
    let note ← Note.ofLetter? c
    let (accidental, afterRoot) := takeAccidental cs
    let (quality, afterQuality) := takeQuality afterRoot
    let digit ← parseDigit? afterQuality
    pure ⟨⟨note, accidental⟩, quality, digit⟩

/-- Writes a chord. -/
def render (c : Chord) : List Char :=
  c.root.note.letter ::
    ((c.root.accidental.map Accidental.sign).toList ++ c.quality.suffix ++
      (c.digit.map digitChar).toList)

theorem digit?_digitChar (d : Fin 10) : digit? (digitChar d) = some d := by
  revert d; decide

theorem digitChar_of_digit? {c : Char} {d : Fin 10} (h : digit? c = some d) :
    digitChar d = c := by
  simpa using List.find?_some h

theorem parse?_render (c : Chord) : parse? c.render = some c := by
  obtain ⟨⟨note, accidental⟩, quality, digit⟩ := c
  cases digit with
  | none =>
    rcases accidental with _ | _ | _ <;> cases quality <;>
      simp [render, parse?, takeAccidental, takeQuality, parseDigit?, Accidental.sign,
        Quality.suffix, Note.ofLetter?_letter]
  | some d =>
    rcases accidental with _ | _ | _ <;> cases quality <;> cases note <;> revert d <;> decide

theorem append_takeAccidental (cs : List Char) :
    ((takeAccidental cs).1.map Accidental.sign).toList ++ (takeAccidental cs).2 = cs := by
  unfold takeAccidental
  split <;> rfl

theorem append_takeQuality (cs : List Char) :
    (takeQuality cs).1.suffix ++ (takeQuality cs).2 = cs := by
  unfold takeQuality
  split <;> rfl

theorem eq_of_parseDigit? {cs : List Char} {d : Option (Fin 10)} (h : parseDigit? cs = some d) :
    cs = (d.map digitChar).toList := by
  unfold parseDigit? at h
  split at h
  · cases h; rfl
  · obtain ⟨e, he, rfl⟩ := Option.map_eq_some_iff.mp h
    simp [digitChar_of_digit? he]
  · cases h

theorem render_of_parse? {s : List Char} {c : Chord} (h : parse? s = some c) : s = c.render := by
  cases s with
  | nil => cases h
  | cons x xs =>
    simp only [parse?, Option.bind_eq_bind, Option.bind_eq_some_iff, Option.pure_def,
      Option.some.injEq] at h
    obtain ⟨n, hn, d, hd, rfl⟩ := h
    simp only [render, Note.letter_of_ofLetter? hn]
    rw [← eq_of_parseDigit? hd, List.append_assoc, append_takeQuality, append_takeAccidental]

end Chord

/-- A chord symbol: a chord, or two chords with a slash between them. -/
structure Symbol where
  /-- The chord that is played. -/
  upper : Chord
  /-- The chord after the slash. -/
  bass : Option Chord
  deriving DecidableEq, Repr

namespace Symbol

/-- Reads a whole word as a symbol. -/
def parse? (s : List Char) : Option Symbol :=
  match Text.cutFirst? (· == '/') s with
  | none => (Chord.parse? s).map fun upper => ⟨upper, none⟩
  | some (a, b) => do
    let upper ← Chord.parse? a
    let bass ← Chord.parse? b
    pure ⟨upper, some bass⟩

/-- Writes a symbol. -/
def render (s : Symbol) : List Char :=
  match s.bass with
  | none => s.upper.render
  | some bass => s.upper.render ++ '/' :: bass.render

end Symbol

/-- Whether a word is a chord symbol. The word is taken as it is, blanks at its ends and line
breaks included. -/
def isSymbol (word : List Char) : Bool := (Symbol.parse? word).isSome

end ChordSheet
