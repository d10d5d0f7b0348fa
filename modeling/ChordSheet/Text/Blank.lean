/-!
# Blank characters

Words, margins and empty lines are told apart by one class of characters, the *blanks*: the
code points with the Unicode property White_Space. The class is wider than the blanks of
ASCII (a no-break space separates two chords) and holds neither zero-width space nor byte
order mark.

* `isBlank_of_isWhitespace` : every ASCII space, tab and line break is a blank.
-/

set_option autoImplicit false

namespace ChordSheet.Text

/-- The code points with the Unicode property White_Space. -/
def isBlank (c : Char) : Bool :=
  let n := c.toNat
  (9 ≤ n && n ≤ 13) || n == 0x20 || n == 0x85 || n == 0xA0 || n == 0x1680 ||
    (0x2000 ≤ n && n ≤ 0x200A) || n == 0x2028 || n == 0x2029 || n == 0x202F ||
    n == 0x205F || n == 0x3000

theorem isBlank_of_isWhitespace {c : Char} (h : c.isWhitespace = true) : isBlank c = true := by
  simp only [Char.isWhitespace, Bool.or_eq_true, decide_eq_true_eq] at h
  rcases h with ((h | h) | h) | h <;> subst h <;> decide

/-- The text without the blanks it starts with. -/
def trimStart (s : List Char) : List Char := s.dropWhile isBlank

/-- The text without the blanks it ends in. -/
def trimEnd (s : List Char) : List Char := (s.reverse.dropWhile isBlank).reverse

/-- The text without blanks at either end. -/
def trim (s : List Char) : List Char := trimEnd (trimStart s)

/-- A text of blanks only, the empty text included. -/
def allBlank (s : List Char) : Bool := s.all isBlank

end ChordSheet.Text
