import ChordSheet.Note
import ChordSheet.Text.Blank

/-!
# Kinds of lines

A line of a sheet is a key marker, a line of chords, or text. A line that mentions the word
*key* is a marker, whatever else stands on it. Of the others, a line counts as chords by a rule
of thumb that looks at single characters only; it takes some prose for chords and misses a lone
chord. Nothing else decides, neither the words of the line nor the lines around it.

* `detectKey?_eq_none_of_not_mentionsKey` : only a marker names a key.
-/

set_option autoImplicit false

namespace ChordSheet

/-- What a line of a sheet is. -/
inductive LineKind where
  /-- It mentions the word *key*. -/
  | keyMarker
  /-- It looks like a line of chords. -/
  | chords
  /-- Anything else. -/
  | text
  deriving DecidableEq, Repr, Inhabited

namespace Line

/-- The characters with lowercase form `k`: both letters and the Kelvin sign. -/
def isLetterK (c : Char) : Bool := c == 'k' || c == 'K' || c == '\u212A'

/-- The characters with lowercase form `e`. -/
def isLetterE (c : Char) : Bool := c == 'e' || c == 'E'

/-- The characters with lowercase form `y`. -/
def isLetterY (c : Char) : Bool := c == 'y' || c == 'Y'

/-- Whether the word *key*, in any mixture of cases, stands anywhere in a line. -/
def mentionsKey : List Char → Bool
  | a :: b :: c :: cs => (isLetterK a && isLetterE b && isLetterY c) || mentionsKey (b :: c :: cs)
  | _ => false

/-- The uppercase letters of the seven notes. -/
def isNoteLetter (c : Char) : Bool := 'A' ≤ c && c ≤ 'G'

/-- Whether a line looks like chords: it is not blank, and it holds a slash or a sharp sign, or
more than five blanks and an uppercase note letter. -/
def looksLikeChords (s : List Char) : Bool :=
  !Text.allBlank s &&
    (s.contains '/' || s.contains '#' ||
      (s.countP Text.isBlank > 5 && s.any isNoteLetter))

/-- The kind of a line; a marker wins over chords. -/
def kindOf (s : List Char) : LineKind :=
  if mentionsKey s then .keyMarker else if looksLikeChords s then .chords else .text

/-- The key named on a line: on a marker, the first of C, D, E, F, G, A, B that occurs anywhere
in the line as an uppercase letter. -/
def detectKey? (s : List Char) : Option Key :=
  if mentionsKey s then Note.all.find? fun k => s.contains k.letter else none

/-- The kind of a line given as a string. -/
def kind (line : String) : LineKind := kindOf line.toList

/-- The line that replaces every marker. -/
def keyMarker (k : Key) : String := k.name ++ " key"

theorem kindOf_eq_keyMarker_iff {s : List Char} :
    kindOf s = .keyMarker ↔ mentionsKey s = true := by
  unfold kindOf
  split
  · simp_all
  · split <;> simp_all

theorem detectKey?_eq_none_of_not_mentionsKey {s : List Char} (h : mentionsKey s = false) :
    detectKey? s = none := by
  simp [detectKey?, h]

end Line

end ChordSheet
