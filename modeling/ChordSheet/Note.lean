import ChordSheet.Error
import ChordSheet.Text.Blank

/-!
# Notes and keys

The seven natural notes, and the seven major keys that are named by their tonic. Their order,
C D E F G A B, is the order in which keys are listed, compared and looked for in a line.

* `ofLetter?_letter`, `letter_of_ofLetter?`, `letter_inj` : a note and its letter determine each
  other.
* `Key.parse_letter` : a key reads back from its letter.
-/

set_option autoImplicit false

namespace ChordSheet

/-- A natural note. -/
inductive Note where
  | C | D | E | F | G | A | B
  deriving DecidableEq, Repr, Inhabited

namespace Note

/-- All notes in order. -/
def all : List Note := [C, D, E, F, G, A, B]

/-- The uppercase letter of a note. -/
def letter : Note → Char
  | C => 'C' | D => 'D' | E => 'E' | F => 'F' | G => 'G' | A => 'A' | B => 'B'

/-- The letter as a text. -/
def name (n : Note) : String := n.letter.toString

/-- The place of a note in the order, from zero. -/
def index : Note → Nat
  | C => 0 | D => 1 | E => 2 | F => 3 | G => 4 | A => 5 | B => 6

instance : Ord Note := ⟨fun a b => compare a.index b.index⟩

/-- The note with exactly this letter; a lowercase letter is none. -/
def ofLetter? (c : Char) : Option Note := all.find? fun n => n.letter == c

theorem mem_all (n : Note) : n ∈ all := by cases n <;> decide

theorem ofLetter?_letter (n : Note) : ofLetter? n.letter = some n := by cases n <;> rfl

theorem letter_inj {m n : Note} : m.letter = n.letter ↔ m = n := by
  cases m <;> cases n <;> decide

theorem letter_of_ofLetter? {c : Char} {n : Note} (h : ofLetter? c = some n) : n.letter = c := by
  simpa using List.find?_some h

end Note

/-- A major key, named by its tonic. -/
abbrev Key := Note

namespace Key

/-- Reads a key: one letter in either case, with blanks around it. Only the letters `a` to `g`
have `A` to `G` as their uppercase form, so the case map of ASCII decides. The error keeps the
text as it was given. -/
def parse (s : String) : Except TranspositionError Key :=
  match Text.trim s.toList with
  | [c] =>
    match Note.ofLetter? c.toUpper with
    | some k => .ok k
    | none => .error (.unsupportedKey s)
  | _ => .error (.unsupportedKey s)

theorem parse_letter (k : Key) : parse k.name = .ok k := by cases k <;> rfl

end Key

end ChordSheet
